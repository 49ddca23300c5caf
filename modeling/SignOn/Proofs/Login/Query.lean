import Mathlib.Tactic.Common
import SignOn.Login.Query

/-!
What a query says. Each of the names that mean something holds the one value that comes with it, and
a query is unreadable only if one of them comes twice, next to whatever else.
-/
namespace SignOn.Login.Query

/-- The names that mean something. -/
def names : List String := ["state", "code", "error", "error_description"]

/-- The values that come with a name, in their order. -/
def values (name : String) (ps : List (String × String)) : List String :=
  (ps.filter fun p => p.1 = name).map (·.2)

variable {q q' : Query} {name : String} {ps : List (String × String)} {f : Fault}

@[simp] theorem values_nil : values name [] = [] := rfl

theorem values_cons (p : String × String) :
    values name (p :: ps) = (if p.1 = name then [p.2] else []) ++ values name ps := by
  by_cases h : p.1 = name <;> simp [values, h]

theorem values_eq_nil : values name ps = [] ↔ name ∉ ps.map (·.1) := by
  simp only [values, List.map_eq_nil_iff, List.filter_eq_nil_iff, List.mem_map, not_exists, not_and,
    decide_eq_true_eq]

@[simp] theorem get?_empty : empty.get? name = none := by
  simp [empty, get?]

theorem get?_of_notMem (h : name ∉ names) : q.get? name = none := by
  simp only [names, List.mem_cons, List.not_mem_nil, or_false, not_or] at h
  simp only [get?, if_neg h.1, if_neg h.2.1, if_neg h.2.2.1, if_neg h.2.2.2]

theorem get?_set (h : name ∈ names) (member value : String) :
    (q.set member value).get? name = if member = name then some value else q.get? name := by
  simp only [names, List.mem_cons, List.not_mem_nil, or_false] at h
  rcases h with rfl | rfl | rfl | rfl <;> simp only [set] <;> split_ifs <;> simp_all [get?]

/-! ### Pairs one after another -/

/-- What has been read of a name is followed by the values that are still to come. -/
theorem get?_of_addPairs (h : q.addPairs ps = .ok q') (meant : name ∈ names) :
    (q'.get? name).toList = (q.get? name).toList ++ values name ps := by
  induction ps generalizing q with
  | nil =>
    cases h
    simp
  | cons p ps ih =>
    obtain ⟨member, value⟩ := p
    rw [addPairs] at h
    split at h
    next => cases h
    next hnew =>
      rw [ih h, get?_set meant, values_cons]
      by_cases hm : member = name
      · subst hm
        have hnone : q.get? member = none := by simpa using hnew
        simp [hnone]
      · simp [hm]

/-- A name that is refused comes once more than it may. -/
theorem twice_of_addPairs (h : q.addPairs ps = .error f) :
    f.name ∈ names ∧ 2 ≤ ((q.get? f.name).toList ++ values f.name ps).length := by
  induction ps generalizing q with
  | nil => cases h
  | cons p ps ih =>
    obtain ⟨member, value⟩ := p
    rw [addPairs] at h
    split at h
    next hold =>
      cases h
      refine ⟨?_, ?_⟩
      · by_contra hn
        simp [get?_of_notMem hn] at hold
      · obtain ⟨old, hold⟩ := Option.isSome_iff_exists.mp hold
        simp [hold, values_cons]
    next =>
      obtain ⟨meant, twice⟩ := ih h
      refine ⟨meant, ?_⟩
      rw [get?_set meant] at twice
      rw [values_cons]
      by_cases hm : member = f.name
      · simp only [hm, if_true, Option.toList_some, List.singleton_append, List.length_cons,
          List.length_append] at twice ⊢
        omega
      · simpa [hm] using twice

/-! ### Whole queries -/

theorem get?_of_ofPairs (h : ofPairs ps = .ok q) (meant : name ∈ names) :
    (q.get? name).toList = values name ps := by
  simpa using get?_of_addPairs h meant

/-- Pairs make no query if and only if a name that means something comes twice. -/
theorem ofPairs_eq_error :
    (∃ f, ofPairs ps = .error f) ↔ ∃ name ∈ names, 2 ≤ (values name ps).length := by
  constructor
  · rintro ⟨f, h⟩
    obtain ⟨meant, twice⟩ := twice_of_addPairs h
    exact ⟨f.name, meant, by simpa using twice⟩
  · rintro ⟨name, meant, twice⟩
    cases h : ofPairs ps with
    | error f => exact ⟨f, rfl⟩
    | ok q =>
      rw [← get?_of_ofPairs h meant] at twice
      cases hget : q.get? name <;> simp [hget] at twice

/-- A query ends a sign-on if and only if a state, a code or an error comes in it. -/
theorem isCallback_of_ofPairs (h : ofPairs ps = .ok q) :
    q.isCallback = true ↔ ∃ name ∈ ["state", "code", "error"], name ∈ ps.map (·.1) := by
  have some_iff (name : String) (meant : name ∈ names) :
      (q.get? name).isSome = true ↔ name ∈ ps.map (·.1) := by
    rw [← not_iff_not, ← values_eq_nil, ← get?_of_ofPairs h meant]
    simp
  have hstate := some_iff "state" (by decide)
  have hcode := some_iff "code" (by decide)
  have herror := some_iff "error" (by decide)
  simp only [get?] at hstate hcode herror
  simp only [isCallback, Bool.or_eq_true, List.mem_cons, List.not_mem_nil, or_false,
    exists_eq_or_imp, exists_eq_left, ← hstate, ← hcode, ← herror]
  simp [or_assoc]

end SignOn.Login.Query
