import Mathlib.Data.List.Basic
import SignOn.KeyFiles.FileTree

/-!
What writing a file does to the tree. Names lead where they did before as long as directories stay
directories, so after a file was written its path leads to it, and every path to another place leads
to what was there.
-/
namespace SignOn.KeyFiles

/-- Steps in a row succeed if each of them does. -/
theorem bind_eq_ok {ε α β : Type} {r : Except ε α} {step : α → Except ε β} {b : β} :
    r >>= step = .ok b ↔ ∃ a, r = .ok a ∧ step a = .ok b := by
  cases r <;> simp [bind, Except.bind]

/-- The place that names lead to, whatever stands on the way. -/
def placeAlong (here : List String) : List String → List String
  | [] => here
  | name :: rest =>
    if name = ".." then placeAlong here.dropLast rest else placeAlong (here ++ [name]) rest

/-- The place that a path written as text leads to. -/
def placeOf (path : String) : List String := placeAlong [] (Path.ofText path).names

namespace FileTree

variable {t t' : FileTree} {here names place ms : List String} {n : Node} {path other : String}
  {bytes content : List UInt8} {mode m : Nat}

/-! ### Nodes -/

theorem lookup_cons_of_ne {l : List (List String × Node)} (h : ms ≠ names) :
    ((names, n) :: l).lookup ms = l.lookup ms := by
  rw [List.lookup_cons, beq_eq_false_iff_ne.mpr h]

theorem lookup_replaced (l : List (List String × Node)) (names ms : List String) (n : Node) :
    (l.map fun m => if m.1 = names then (names, n) else m).lookup ms =
      if ms = names then (l.lookup names).map fun _ => n else l.lookup ms := by
  induction l with
  | nil => simp
  | cons first l ih =>
    obtain ⟨k, v⟩ := first
    rw [List.map_cons]
    by_cases hk : k = names
    · subst hk
      by_cases hms : ms = k
      · subst hms
        simp
      · simp only [if_true, lookup_cons_of_ne hms, ih, if_neg hms]
    · by_cases hms : ms = k
      · subst hms
        simp [hk]
      · simp only [if_neg hk, lookup_cons_of_ne hms, lookup_cons_of_ne (Ne.symm hk), ih]

theorem lookup_added {l : List (List String × Node)} (h : l.lookup names = none)
    (ms : List String) (n : Node) :
    (l ++ [(names, n)]).lookup ms = if ms = names then some n else l.lookup ms := by
  rw [List.lookup_append]
  by_cases hms : ms = names
  · subst hms
    simp [h]
  · rw [if_neg hms, lookup_cons_of_ne hms, List.lookup_nil, Option.or_none]

/-- The working directory is a directory. -/
theorem ne_nil_of_node? (h : t.node? names ≠ some .directory) : names ≠ [] := by
  rintro rfl
  exact h rfl

/-- A node that is put somewhere stands there, and everything else where it stood. -/
theorem node?_put (h : names ≠ []) (ms : List String) :
    (t.put names n).node? ms = if ms = names then some n else t.node? ms := by
  by_cases hms : ms = []
  · subst hms
    rw [if_neg (Ne.symm h)]
    rfl
  · have hempty : ms.isEmpty = false := by simpa using hms
    simp only [node?, hempty, Bool.false_eq_true, if_false, put]
    split
    next hsome =>
      rw [lookup_replaced]
      obtain ⟨v, hv⟩ := Option.isSome_iff_exists.mp hsome
      rw [hv, Option.map_some]
    next hnone =>
      exact lookup_added (Option.not_isSome_iff_eq_none.mp hnone) ms n

/-! ### Following names -/

/-- Directories stay directories. -/
def KeepsDirectories (t t' : FileTree) : Prop :=
  ∀ names, t.node? names = some .directory → t'.node? names = some .directory

theorem keepsDirectories_put (h : t.node? names ≠ some .directory) :
    KeepsDirectories t (t.put names n) := by
  intro ms hms
  rw [node?_put (ne_nil_of_node? h), if_neg (by rintro rfl; exact h hms), hms]

theorem follow_cons_eq_ok {name : String} {rest : List String}
    (h : t.follow here (name :: rest) = .ok place) :
    t.node? here = some .directory ∧
      ((name = ".." ∧ t.follow here.dropLast rest = .ok place) ∨
        (name ≠ ".." ∧ name.utf8ByteSize ≤ 255 ∧ t.follow (here ++ [name]) rest = .ok place)) := by
  rw [follow] at h
  split at h
  next => cases h
  next => cases h
  next hdirectory =>
    refine ⟨hdirectory, ?_⟩
    split at h
    next hup => exact .inl ⟨hup, h⟩
    next hdown =>
      split at h
      next => cases h
      next hshort => exact .inr ⟨hdown, by omega, h⟩

/-- Names lead where they always do, if anywhere. -/
theorem eq_placeAlong_of_follow (h : t.follow here names = .ok place) :
    place = placeAlong here names := by
  induction names generalizing here with
  | nil => exact (Except.ok.inj h).symm
  | cons name rest ih =>
    rw [placeAlong]
    rcases (follow_cons_eq_ok h).2 with ⟨hup, hrest⟩ | ⟨hdown, -, hrest⟩
    · rw [if_pos hup, ih hrest]
    · rw [if_neg hdown, ih hrest]

theorem KeepsDirectories.follow (keeps : KeepsDirectories t t')
    (h : t.follow here names = .ok place) : t'.follow here names = .ok place := by
  induction names generalizing here with
  | nil => exact h
  | cons name rest ih =>
    obtain ⟨hdirectory, hrest⟩ := follow_cons_eq_ok h
    rw [FileTree.follow, keeps here hdirectory]
    rcases hrest with ⟨hup, hrest⟩ | ⟨hdown, hshort, hrest⟩
    · simp only [if_pos hup, ih hrest]
    · simp only [if_neg hdown, if_neg (Nat.not_lt.mpr hshort), ih hrest]

/-! ### Finding -/

/-- A text that can be looked up as a path. -/
def IsPath (path : String) : Prop :=
  path.isEmpty = false ∧ path.toList.any (fun c => c.toNat = 0) = false ∧
    path.utf8ByteSize ≤ 4095

theorem isPath_of_find {found : List String × Option Node} (h : t.find path = .ok found) :
    IsPath path := by
  unfold find at h
  split at h
  next => cases h
  next hsome =>
    split at h
    next => cases h
    next hnull =>
      split at h
      next => cases h
      next hshort => exact ⟨by simpa using hsome, by simpa using hnull, Nat.not_lt.mp hshort⟩

theorem find_eq_ok {found : Option Node} : t.find path = .ok (place, found) ↔
    IsPath path ∧ t.follow [] (Path.ofText path).names = .ok place ∧ found = t.node? place ∧
      ((Path.ofText path).needsDirectory = true → ∀ b m, found ≠ some (.file b m)) := by
  by_cases hpath : IsPath path
  · obtain ⟨hsome, hnull, hshort⟩ := id hpath
    simp only [find, hsome, hnull, Nat.not_lt.mpr hshort, Bool.false_eq_true, if_false, hpath,
      true_and]
    cases t.follow [] (Path.ofText path).names with
    | error e => simp [bind, Except.bind]
    | ok place' =>
      simp only [bind, Except.bind, Except.ok.injEq]
      split
      next b m hnode =>
        cases (Path.ofText path).needsDirectory with
        | true =>
          simp only [if_true, reduceCtorEq, forall_const, false_iff, not_and]
          rintro rfl rfl none
          exact none b m hnode
        | false =>
          simp only [Bool.false_eq_true, if_false, false_implies, and_true, Except.ok.injEq,
            Prod.mk.injEq]
          constructor
          · rintro ⟨rfl, rfl⟩
            exact ⟨rfl, rfl⟩
          · rintro ⟨rfl, rfl⟩
            exact ⟨rfl, rfl⟩
      next hfile =>
        simp only [Except.ok.injEq, Prod.mk.injEq]
        constructor
        · rintro ⟨rfl, rfl⟩
          exact ⟨rfl, rfl, fun _ => hfile⟩
        · rintro ⟨rfl, rfl, -⟩
          exact ⟨rfl, rfl⟩
  · exact iff_of_false (fun h => hpath (isPath_of_find h)) fun h => hpath h.1

/-- What a path to no directory is found to lead to, in a tree with the same directories. -/
theorem KeepsDirectories.find (keeps : KeepsDirectories t t') {found : Option Node}
    (h : t.find path = .ok (place, found)) (hname : (Path.ofText path).needsDirectory = false) :
    t'.find path = .ok (place, t'.node? place) := by
  obtain ⟨hpath, hfollow, -, -⟩ := find_eq_ok.mp h
  exact find_eq_ok.mpr ⟨hpath, keeps.follow hfollow, rfl, by simp [hname]⟩

theorem eq_placeOf_of_find {found : Option Node} (h : t.find path = .ok (place, found)) :
    place = placeOf path := eq_placeAlong_of_follow (find_eq_ok.mp h).2.1

/-! ### Reading and writing -/

/-- A path leads to a file with some contents, which its owner may read. -/
def Holds (t : FileTree) (path : String) (bytes : List UInt8) : Prop :=
  ∃ mode, letsRead mode = true ∧ t.find path = .ok (placeOf path, some (.file bytes mode))

theorem Holds.read (h : t.Holds path bytes) : t.read path = .ok bytes := by
  obtain ⟨mode, readable, hfind⟩ := h
  simp only [FileTree.read, hfind, bind, Except.bind, readable, if_true]

theorem Holds.contains (h : t.Holds path bytes) : t.contains path = true := by
  obtain ⟨mode, -, hfind⟩ := h
  rw [FileTree.contains, hfind]

/-- A file is written in the stead of another that lets itself be written, or of nothing. -/
theorem write_eq_ok (h : t.write path bytes mode = .ok t') :
    (Path.ofText path).needsDirectory = false ∧ t.node? (placeOf path) ≠ some .directory ∧
      t' = t.put (placeOf path) (.file bytes mode) ∧
      t.find path = .ok (placeOf path, t.node? (placeOf path)) := by
  obtain ⟨⟨place, n⟩, hfind, h⟩ := bind_eq_ok.mp h
  obtain rfl := eq_placeOf_of_find hfind
  obtain rfl := (find_eq_ok.mp hfind).2.2.1
  simp only at h
  split at h
  next => cases h
  next hname =>
    have hname : (Path.ofText path).needsDirectory = false := by simpa using hname
    split at h
    next => cases h
    next hnode =>
      split at h
      next => exact ⟨hname, by simp [hnode], (Except.ok.inj h).symm, hnode ▸ hfind⟩
      next => cases h
    next hnode =>
      split at h
      next => exact ⟨hname, by simp [hnode], (Except.ok.inj h).symm, hnode ▸ hfind⟩
      next => cases h
      next => cases h

/-- What was written is there. -/
theorem holds_write (h : t.write path bytes mode = .ok t') (readable : letsRead mode = true) :
    t'.Holds path bytes := by
  obtain ⟨hname, hnode, rfl, hfind⟩ := write_eq_ok h
  refine ⟨mode, readable, ?_⟩
  rw [(keepsDirectories_put hnode).find hfind hname, node?_put (ne_nil_of_node? hnode), if_pos rfl]

/-- What is elsewhere stays. -/
theorem Holds.write (holds : t.Holds other content) (distinct : placeOf other ≠ placeOf path)
    (h : t.write path bytes mode = .ok t') : t'.Holds other content := by
  obtain ⟨-, hnode, rfl, -⟩ := write_eq_ok h
  obtain ⟨m, readable, hfind⟩ := holds
  obtain ⟨-, -, hfile, hdirectory⟩ := find_eq_ok.mp hfind
  have hname : (Path.ofText other).needsDirectory = false := by
    by_contra hneeds
    exact hdirectory (by simpa using hneeds) content m rfl
  refine ⟨m, readable, ?_⟩
  rw [(keepsDirectories_put hnode).find hfind hname, node?_put (ne_nil_of_node? hnode),
    if_neg distinct, hfile]

end FileTree
end SignOn.KeyFiles
