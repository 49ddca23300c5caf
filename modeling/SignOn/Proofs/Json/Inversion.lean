import SignOn.Proofs.Json.Values

/-!
What a reading that succeeds says of the text: how a value begins and what stands inside it, one
item and one member after another.
-/
namespace SignOn.Json

theorem Read.map_eq_got {α β : Type} {f : α → β} {x : Read α} {b : β} {rest : List UInt8} :
    x.map f = .got b rest ↔ ∃ a, x = .got a rest ∧ f a = b := by
  cases x with
  | got a r => simp [map, and_comm]
  | stopped r => simp [map]

theorem Read.filterMap_eq_got {α β : Type} {f : α → Option β} {x : Read α} {b : β}
    {rest : List UInt8} : x.filterMap f = .got b rest ↔ ∃ a, x = .got a rest ∧ f a = some b := by
  cases x with
  | got a r => cases hf : f a <;> simp [filterMap, hf, and_comm]
  | stopped r => simp [filterMap]

theorem Read.complete_eq_some {α : Type} {x : Read α} {a : α} (h : x.complete = some a) :
    ∃ rest, x = .got a rest := by
  cases x with
  | got b r =>
    simp only [complete] at h
    split at h
    next => exact ⟨r, by rw [Option.some.inj h]⟩
    next => cases h
  | stopped r => cases h

/-! ### Blanks and words -/

theorem length_skipSpace (bs : List UInt8) : (skipSpace bs).length ≤ bs.length :=
  (List.dropWhile_suffix isSpace).length_le

theorem length_of_skipSpace {bs r : List UInt8} {b : UInt8} (h : skipSpace bs = b :: r) :
    r.length < bs.length := by
  have := length_skipSpace bs
  rw [h, List.length_cons] at this
  exact this

@[simp] theorem skipSpace_skipSpace (bs : List UInt8) :
    skipSpace (skipSpace bs) = skipSpace bs := by
  cases h : skipSpace bs with
  | nil => rfl
  | cons b r =>
    have hhead := List.head?_dropWhile_not isSpace bs
    rw [← skipSpace, h] at hhead
    exact skipSpace_cons (by simpa using hhead) r

theorem rawValue_skipSpace (depth : Nat) (bs : List UInt8) :
    rawValue depth (skipSpace bs) = rawValue depth bs := by
  rw [rawValue, skipSpace_skipSpace, rawValue]

/-- What is read with a word is no matter of its letters. -/
theorem word_eq_got {α : Type} {a b : α} {ws bs rest : List UInt8}
    (h : word a ws bs = .got b rest) :
    b = a ∧ word () ws bs = .got () rest ∧ rest.length ≤ bs.length := by
  induction ws generalizing bs with
  | nil =>
    cases h
    exact ⟨rfl, rfl, Nat.le_refl _⟩
  | cons w ws ih =>
    cases bs with
    | nil => cases h
    | cons c bs =>
      rw [word] at h
      split at h
      next hc =>
        obtain ⟨hb, hword, hlength⟩ := ih h
        exact ⟨hb, by rw [word, if_pos hc, hword], Nat.le_succ_of_le hlength⟩
      next => cases h

/-! ### Values -/

/-- What stands where a value is read, behind the blanks. -/
inductive ValueAt (depth : Nat) : List UInt8 → Value → List UInt8 → Prop
  | null {r rest : List UInt8} (h : nullWord () r = .got () rest) :
      ValueAt depth (ascii 'n' :: r) .null rest
  | yes {r rest : List UInt8} (h : trueWord () r = .got () rest) :
      ValueAt depth (ascii 't' :: r) (.bool true) rest
  | no {r rest : List UInt8} (h : falseWord () r = .got () rest) :
      ValueAt depth (ascii 'f' :: r) (.bool false) rest
  | string {r rest : List UInt8} {s : String} (h : stringBody r = .got s rest) :
      ValueAt depth (0x22 :: r) (.string s) rest
  | array {inner : Nat} {r rest : List UInt8} {vs : List Value} (hdepth : depth = inner + 1)
      (h : items (rawValue inner) r = .got vs rest) : ValueAt depth (0x5b :: r) (.array vs) rest
  | object {inner : Nat} {r rest : List UInt8} {ms : List (String × Value)}
      (hdepth : depth = inner + 1) (h : members (rawValue inner) r = .got ms rest) :
      ValueAt depth (0x7b :: r) (.object ms) rest
  | number {b : UInt8} {r rest : List UInt8} {n : Number} (h : number (b :: r) = .got n rest) :
      ValueAt depth (b :: r) (.number n) rest

theorem valueAt_of_rawValue {depth : Nat} {bs rest : List UInt8} {v : Value}
    (h : rawValue depth bs = .got v rest) : ValueAt depth (skipSpace bs) v rest := by
  rw [rawValue] at h
  split at h
  next => cases h
  next b r hbs =>
  rw [hbs]
  split at h
  next hb =>
    obtain ⟨rfl, hword, -⟩ := word_eq_got h
    exact hb ▸ .null hword
  next =>
  split at h
  next hb =>
    obtain ⟨rfl, hword, -⟩ := word_eq_got h
    exact hb ▸ .yes hword
  next =>
  split at h
  next hb =>
    obtain ⟨rfl, hword, -⟩ := word_eq_got h
    exact hb ▸ .no hword
  next =>
  split at h
  next hb =>
    obtain ⟨s, hs, rfl⟩ := Read.map_eq_got.mp h
    exact hb ▸ .string hs
  next =>
  split at h
  next hb =>
    cases depth with
    | zero => cases h
    | succ depth =>
      obtain ⟨vs, hvs, rfl⟩ := Read.map_eq_got.mp h
      exact hb ▸ .array rfl hvs
  next =>
  split at h
  next hb =>
    cases depth with
    | zero => cases h
    | succ depth =>
      obtain ⟨ms, hms, rfl⟩ := Read.map_eq_got.mp h
      exact hb ▸ .object rfl hms
  next =>
    obtain ⟨n, hn, rfl⟩ := Read.map_eq_got.mp h
    exact .number hn

/-- A number begins with a minus sign or a digit. -/
theorem number_eq_got {b : UInt8} {r rest : List UInt8} {n : Number}
    (h : number (b :: r) = .got n rest) :
    (b = 0x2d ∧ unsigned true r = .got n rest) ∨
      (isDigit b = true ∧ unsigned false (b :: r) = .got n rest) := by
  by_cases hb : b = 0x2d
  · subst hb
    exact .inl ⟨rfl, h⟩
  · rw [number] at h
    · split at h
      next hdigit => exact .inr ⟨hdigit, h⟩
      next => cases h
    · exact fun hminus => hb hminus

/-! ### Items and members -/

theorem stopInside_ne_got {α : Type} {close : UInt8} {r rest : List UInt8} {a : α} :
    stopInside close r ≠ .got a rest := by
  intro h
  unfold stopInside at h
  split at h
  next => split at h <;> cases h
  next => cases h

section
variable {σ : Type} {bound : Nat} {first : Bool} {s s' : σ} {bs rest : List UInt8}

/-- A list is over, or another item is read: after a comma, if it is not the first. -/
theorem foldItems_eq_got {step : σ → Reader σ}
    (h : foldItems step (bound + 1) first s bs = .got s' rest) :
    (skipSpace bs = 0x5d :: rest ∧ s' = s) ∨
    ∃ r s₁ mid, (if first then r = skipSpace bs
        else ∃ r₀, skipSpace bs = 0x2c :: r₀ ∧ r = skipSpace r₀) ∧ (∀ r₀, r ≠ 0x5d :: r₀) ∧
      step s r = .got s₁ mid ∧ foldItems step bound false s₁ mid = .got s' rest := by
  rw [foldItems] at h
  simp only at h
  split at h
  next => cases h
  next r hbs =>
    cases h
    exact .inl ⟨hbs, rfl⟩
  next r hbs =>
    split at h
    next hfirst =>
      split at h
      next s₁ mid hstep =>
        exact .inr ⟨_, s₁, mid, by rw [if_pos hfirst, hbs], by simp, hstep, h⟩
      next => exact absurd h stopInside_ne_got
    next hfirst =>
      split at h
      next => cases h
      next => cases h
      next b r' hne hr =>
        split at h
        next s₁ mid hstep =>
          exact .inr ⟨_, s₁, mid, by rw [if_neg hfirst]; exact ⟨r, hbs, hr.symm⟩,
            fun r₀ hb => hne (List.cons.inj hb).1, hstep, h⟩
        next => exact absurd h stopInside_ne_got
  next b r hne _ hbs =>
    split at h
    next hfirst =>
      split at h
      next s₁ mid hstep =>
        exact .inr ⟨_, s₁, mid, by rw [if_pos hfirst, hbs],
          fun r₀ hb => hne (List.cons.inj hb).1, hstep, h⟩
      next => exact absurd h stopInside_ne_got
    next => cases h

/-- The name of a member comes next: after a comma, if it is not the first. -/
def MemberAt (first : Bool) (bs r : List UInt8) : Prop :=
  if first then skipSpace bs = 0x22 :: r
  else ∃ r₀, skipSpace bs = 0x2c :: r₀ ∧ skipSpace r₀ = 0x22 :: r

theorem MemberAt.unique {r r' : List UInt8} (h : MemberAt first bs r) (h' : MemberAt first bs r') :
    r = r' := by
  cases first with
  | true => exact (List.cons.inj (h.symm.trans h')).2
  | false =>
    obtain ⟨r₀, hbs, hr⟩ := h
    obtain ⟨r₀', hbs', hr'⟩ := h'
    obtain ⟨-, rfl⟩ := List.cons.inj (hbs.symm.trans hbs')
    exact (List.cons.inj (hr.symm.trans hr')).2

theorem MemberAt.not_over {r : List UInt8} (h : MemberAt first bs r) :
    skipSpace bs ≠ 0x7d :: rest := by
  intro hbs
  cases first with
  | true => cases hbs.symm.trans h
  | false =>
    obtain ⟨r₀, hbs', -⟩ := h
    cases hbs.symm.trans hbs'

/-- A member is its name, a colon and its value, and the others come behind it. -/
theorem foldMembers_name_eq_got {step : String → σ → Reader σ} {r : List UInt8}
    (h : foldMembers step (bound + 1) true s (0x22 :: r) = .got s' rest) :
    ∃ name r₁ r₂ s₁ mid, stringBody r = .got name r₁ ∧ skipSpace r₁ = 0x3a :: r₂ ∧
      step name s r₂ = .got s₁ mid ∧ foldMembers step bound false s₁ mid = .got s' rest := by
  rw [foldMembers, skipSpace_cons (by decide)] at h
  simp only [if_true] at h
  split at h
  next => exact absurd h stopInside_ne_got
  next name r₁ hname =>
    split at h
    next r₂ hcolon =>
      split at h
      next s₁ mid hstep => exact ⟨name, r₁, r₂, s₁, mid, hname, hcolon, hstep, h⟩
      next => exact absurd h stopInside_ne_got
    next => cases h

/-- An object is over, or another member begins and is read as a first one would be. -/
theorem foldMembers_begins {step : String → σ → Reader σ}
    (h : foldMembers step (bound + 1) first s bs = .got s' rest) :
    (skipSpace bs = 0x7d :: rest ∧ s' = s) ∨ ∃ r, MemberAt first bs r ∧
      foldMembers step (bound + 1) true s (0x22 :: r) = .got s' rest := by
  rw [foldMembers] at h
  simp only at h
  split at h
  next => cases h
  next r hbs =>
    cases h
    exact .inl ⟨hbs, rfl⟩
  next r hbs =>
    split at h
    next => cases h
    next hfirst =>
      split at h
      next r' hr =>
        refine .inr ⟨r', by rw [MemberAt, if_neg hfirst]; exact ⟨r, hbs, hr⟩, ?_⟩
        rw [foldMembers, skipSpace_cons (by decide)]
        exact h
      next => cases h
      next => cases h
  next r hbs =>
    split at h
    next hfirst =>
      refine .inr ⟨r, by rw [MemberAt, if_pos hfirst, hbs], ?_⟩
      rw [foldMembers, skipSpace_cons (by decide)]
      exact h
    next => cases h
  next => cases h

/-- An object is over, or another member is read. -/
theorem foldMembers_eq_got {step : String → σ → Reader σ}
    (h : foldMembers step (bound + 1) first s bs = .got s' rest) :
    (skipSpace bs = 0x7d :: rest ∧ s' = s) ∨
    ∃ r name r₁ r₂ s₁ mid, MemberAt first bs r ∧ stringBody r = .got name r₁ ∧
      skipSpace r₁ = 0x3a :: r₂ ∧ step name s r₂ = .got s₁ mid ∧
      foldMembers step bound false s₁ mid = .got s' rest := by
  rcases foldMembers_begins h with ended | ⟨r, start, h⟩
  · exact .inl ended
  · obtain ⟨name, r₁, r₂, s₁, mid, hmember⟩ := foldMembers_name_eq_got h
    exact .inr ⟨r, name, r₁, r₂, s₁, mid, start, hmember⟩

end

/-- A member of an unknown name is passed over; one of a known name is read by the field, once. -/
theorem readMember_eq_got {α : Type} {fields : List (Field α)} {name : String} {d d' : Draft α}
    {bs rest : List UInt8} (h : readMember fields name d bs = .got d' rest) :
    ((∀ f ∈ fields, f.name ≠ name) ∧ skipValue bs = .got () rest ∧ d' = d) ∨
    ∃ f ∈ fields, f.name = name ∧ name ∉ d.seen ∧ ∃ a, f.read d.value bs = .got a rest ∧
      d' = ⟨a, name :: d.seen⟩ := by
  unfold readMember at h
  split at h
  next hnone =>
    obtain ⟨_, hskip, rfl⟩ := Read.map_eq_got.mp h
    exact .inl ⟨fun f hf => by simpa using List.find?_eq_none.mp hnone f hf, hskip, rfl⟩
  next f hfind =>
    split at h
    next => cases h
    next hseen =>
      obtain ⟨a, hread, rfl⟩ := Read.map_eq_got.mp h
      exact .inr ⟨f, List.mem_of_find?_eq_some hfind, by simpa using List.find?_some hfind, hseen,
        a, hread, rfl⟩

end SignOn.Json
