import SignOn.Proofs.Documents.Stored

/-!
What clients of a document server are answered, one command at a time. A server may answer with any
of the documents that a filter accepts, and may refuse to add one where another client was first. A
lookup is settled by one answer, and so is a creation, or by that of the lookup after it.
-/
namespace SignOn.Documents

/-! ### Servers -/

/-- A collection has a document that a filter accepts. -/
def Server.Has (s : Server) (c : Collection) (f : Filter) (d : Document) : Prop :=
  d ∈ s.rows c ∧ f.accepts d = true

/-- How a server may answer, at once and without fail. Nothing is added that agrees with another
document on a unique index; and an upsert may be refused once there is what it looks for. -/
inductive Serves (t : Moment) : (c : Command) → c.Answer → Server → Server → Prop
  | found {s c f d} (has : s.Has c f d) : Serves t (.find c f) (.ok (some d)) s s
  | nothing {s c f} (no : ∀ d, ¬ s.Has c f d) : Serves t (.find c f) (.ok none) s s
  | matched {s c f insert d} (has : s.Has c f d) :
      Serves t (.upsert c f insert) (.ok (some d)) s s
  | inserted {s c f insert} (no : ∀ d, ¬ s.Has c f d)
      (apart : ∀ i ∈ s.indexes c, ∀ d ∈ s.rows c, i.clash (f.document ++ insert) d = false) :
      Serves t (.upsert c f insert) (.ok (some (f.document ++ insert))) s
        (s.withRows c (s.rows c ++ [f.document ++ insert]))
  | lost {s c f insert d} (cause : String) (has : s.Has c f d) :
      Serves t (.upsert c f insert) (.error cause) s s
  | refused {s c f insert i d} (cause : String) (no : ∀ d, ¬ s.Has c f d) (hi : i ∈ s.indexes c)
      (hd : d ∈ s.rows c) (clash : i.clash (f.document ++ insert) d = true) :
      Serves t (.upsert c f insert) (.error cause) s s
  | indexed {s c is} : Serves t (.createIndexes c is) (.ok ()) s
      (Server.answer (.createIndexes c is) s).2

/-- An answer settles what a client asked for unless it refuses an upsert. -/
def settles : (c : Command) → c.Answer → Bool
  | .upsert _ _ _, .error _ => false
  | _, _ => true

/-- A server that serves one client does so. -/
theorem serves_answer (t : Moment) (c : Command) (s : Server) :
    Serves t c (Server.answer c s).1 s (Server.answer c s).2 := by
  cases c with
  | find c f =>
    rw [Server.answer]
    cases hfind : (s.rows c).find? f.accepts with
    | some d => exact .found ⟨List.mem_of_find?_eq_some hfind, List.find?_some hfind⟩
    | none => exact .nothing fun d hd => List.find?_eq_none.mp hfind d hd.1 hd.2
  | upsert c f insert =>
    rw [Server.answer]
    cases hfind : (s.rows c).find? f.accepts with
    | some d => exact .matched ⟨List.mem_of_find?_eq_some hfind, List.find?_some hfind⟩
    | none =>
      have no (d : Document) (hd : s.Has c f d) : False :=
        List.find?_eq_none.mp hfind d hd.1 hd.2
      dsimp only
      split
      next hclash =>
        obtain ⟨i, hi, hrows⟩ := List.any_eq_true.mp hclash
        obtain ⟨d, hd, hclash⟩ := List.any_eq_true.mp hrows
        exact .refused _ no hi hd hclash
      next hclash =>
        refine .inserted no fun i hi d hd => Bool.eq_false_iff.mpr fun hid => hclash ?_
        exact List.any_eq_true.mpr ⟨i, hi, List.any_eq_true.mpr ⟨d, hd, hid⟩⟩
  | createIndexes c is => exact .indexed

/-! ### Lookups and upserts -/

namespace Kind

variable {α β : Type} {k : Kind α} {f : Filter} {found : Option α} {a : α} {s s' : Server}
  {t : Moment}

/-- A filter accepts only the document of one record, if any, and that can be read. -/
structure Picks (k : Kind α) (s : Server) (f : Filter) (found : Option α) : Prop where
  has_iff : ∀ d, s.Has k.collection f d ↔ ∃ b, found = some b ∧ k.stored b = d
  reads : ∀ b, found = some b → k.read? (k.stored b) = some (.ok b)

theorem Picks.of_iff {rows : List α} {fits : α → Prop}
    (hrows : s.rows k.collection = rows.map k.stored)
    (hfound : ∀ b, found = some b ↔ b ∈ rows ∧ fits b)
    (haccepts : ∀ b, f.accepts (k.stored b) = true ↔ fits b)
    (hreads : ∀ b ∈ rows, k.read? (k.stored b) = some (.ok b)) : k.Picks s f found where
  has_iff d := by
    simp only [Server.Has, hrows, List.mem_map, hfound]
    constructor
    · rintro ⟨⟨b, hb, rfl⟩, hd⟩
      exact ⟨b, ⟨hb, (haccepts b).mp hd⟩, rfl⟩
    · rintro ⟨b, ⟨hb, hfits⟩, rfl⟩
      exact ⟨⟨b, hb, rfl⟩, (haccepts b).mpr hfits⟩
  reads b hb := hreads b ((hfound b).mp hb).1

/-- What a lookup returns on an answer. -/
def looked (k : Kind α) (answer : Except String (Option Document)) : Except Error (Option α) :=
  match k.received answer with
  | .error e => failed e
  | .ok none => .ok none
  | .ok (some r) => r.map some

/-- A lookup is one command. -/
theorem find_bind (k : Kind α) (f : Filter) (g : Except Error (Option α) → Routine documents β) :
    k.find f >>= g = .ask (.find k.collection f) fun answer => g (k.looked answer) := by
  change Routine.ask _ _ = _
  refine congrArg (Routine.ask _) (funext fun answer => ?_)
  simp only [looked, Routine.bind]
  cases k.received answer with
  | error e => rfl
  | ok r => cases r <;> rfl

theorem Picks.find_served (h : k.Picks s f found) {answer : Except String (Option Document)}
    (served : Serves t (.find k.collection f) answer s s') :
    s' = s ∧ k.looked answer = .ok found := by
  cases served with
  | found has =>
    obtain ⟨b, rfl, rfl⟩ := (h.has_iff _).mp has
    refine ⟨rfl, ?_⟩
    rw [looked, received]
    simp only [h.reads b rfl]
    rfl
  | nothing no =>
    cases found with
    | none => exact ⟨rfl, rfl⟩
    | some b => exact absurd ((h.has_iff _).mpr ⟨b, rfl, rfl⟩) (no _)

/-- What is left of the creation of a record once the server refused it. -/
def reread (k : Kind α) (a : α) (cause : String) : Routine documents (Except Error α) := do
  match ← k.find (k.key a) with
  | .error e => return .error e
  | .ok none => return failed cause
  | .ok (some b) => return .ok b

theorem reread_bind (k : Kind α) (a : α) (cause : String)
    (g : Except Error α → Routine documents β) :
    k.reread a cause >>= g = .ask (.find k.collection (k.key a)) fun answer =>
      g (match k.looked answer with
        | .error e => .error e
        | .ok none => failed cause
        | .ok (some b) => .ok b) := by
  rw [reread, find_bind]
  change Routine.ask _ _ = _
  refine congrArg (Routine.ask _) (funext fun answer => ?_)
  beta_reduce
  cases k.looked answer with
  | error e => rfl
  | ok b? => cases b? <;> rfl

theorem create_bind (k : Kind α) (a : α) (g : Except Error α → Routine documents β) :
    k.create a >>= g = .ask (.upsert k.collection (k.key a) (k.insert a)) fun answer =>
      match k.received answer with
      | .ok (some r) => g r
      | .ok none => g (failed "upsert returned no document")
      | .error cause => k.reread a cause >>= g := by
  change Routine.ask _ _ = _
  refine congrArg (Routine.ask _) (funext fun answer => ?_)
  simp only [Routine.bind]
  cases k.received answer with
  | error e => rfl
  | ok r => cases r <;> rfl

theorem Picks.upsert_served (h : k.Picks s (k.key a) found)
    (hread : k.read? (k.stored a) = some (.ok a))
    (apart : found = none → ∀ i ∈ s.indexes k.collection, ∀ d ∈ s.rows k.collection,
      i.clash (k.stored a) d = false) {answer : Except String (Option Document)}
    (served : Serves t (.upsert k.collection (k.key a) (k.insert a)) answer s s') :
    (∃ d, answer = .ok (some d) ∧ k.read? d = some (.ok (found.getD a)) ∧
      s' = if found.isSome then s else
        s.withRows k.collection (s.rows k.collection ++ [k.stored a])) ∨
    ∃ cause, answer = .error cause ∧ s' = s ∧ ∃ b, found = some b := by
  have missing (no : ∀ d, ¬ s.Has k.collection (k.key a) d) : found = none := by
    cases found with
    | none => rfl
    | some b => exact absurd ((h.has_iff _).mpr ⟨b, rfl, rfl⟩) (no _)
  cases served with
  | matched has =>
    obtain ⟨b, rfl, rfl⟩ := (h.has_iff _).mp has
    exact .inl ⟨_, rfl, h.reads b rfl, rfl⟩
  | inserted no =>
    obtain rfl := missing no
    exact .inl ⟨_, rfl, hread, rfl⟩
  | lost cause has =>
    obtain ⟨b, rfl, -⟩ := (h.has_iff _).mp has
    exact .inr ⟨cause, rfl, rfl, b, rfl⟩
  | refused cause no hi hd clash =>
    exact absurd clash (Bool.eq_false_iff.mp (apart (missing no) _ hi _ hd))

/-! ### Steps -/

section
variable {c : Command} {answer : c.Answer}

theorem Picks.find_step (h : k.Picks s f found)
    {g : Except Error (Option α) → Routine documents β} {next : c.Answer → Routine documents β}
    (hask : k.find f >>= g = .ask c next) (served : Serves t c answer s s') :
    settles c answer = true ∧ next answer = g (.ok found) ∧ s' = s := by
  rw [find_bind] at hask
  cases hask
  obtain ⟨rfl, hlooked⟩ := h.find_served served
  exact ⟨rfl, congrArg g hlooked, rfl⟩

theorem Picks.reread_step {b : α} {cause : String} (h : k.Picks s (k.key a) (some b))
    {g : Except Error α → Routine documents β} {next : c.Answer → Routine documents β}
    (hask : k.reread a cause >>= g = .ask c next) (served : Serves t c answer s s') :
    settles c answer = true ∧ next answer = g (.ok b) ∧ s' = s := by
  rw [reread_bind] at hask
  cases hask
  obtain ⟨rfl, hlooked⟩ := h.find_served served
  exact ⟨rfl, by simp only [hlooked], rfl⟩

theorem Picks.create_step (h : k.Picks s (k.key a) found)
    (hread : k.read? (k.stored a) = some (.ok a))
    (apart : found = none → ∀ i ∈ s.indexes k.collection, ∀ d ∈ s.rows k.collection,
      i.clash (k.stored a) d = false)
    {g : Except Error α → Routine documents β} {next : c.Answer → Routine documents β}
    (hask : k.create a >>= g = .ask c next) (served : Serves t c answer s s') :
    (settles c answer = true ∧ next answer = g (.ok (found.getD a)) ∧
      s' = if found.isSome then s else
        s.withRows k.collection (s.rows k.collection ++ [k.stored a])) ∨
    settles c answer = false ∧ (∃ cause, next answer = k.reread a cause >>= g) ∧ s' = s ∧
      ∃ b, found = some b := by
  rw [create_bind] at hask
  cases hask
  rcases h.upsert_served hread apart served with ⟨d, rfl, hd, hs'⟩ | ⟨cause, rfl, hs', hfound⟩
  · refine .inl ⟨rfl, ?_, hs'⟩
    simp only [received, hd]
  · exact .inr ⟨rfl, ⟨cause, rfl⟩, hs', hfound⟩

end

end Kind

end SignOn.Documents
