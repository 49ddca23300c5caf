import Mathlib.Data.List.Basic
import Mathlib.Data.List.Nodup
import SignOn.Store.Identities
import SignOn.Store.Users

/-!
What storing does to identities and users that are kept in memory. A record under a new identifier
is added behind the others, unless its account has one.
-/
namespace SignOn.Store

variable {α : Type}

theorem put_of_notMem {id : α → Uuid} {a : α} {rows : List α} (h : id a ∉ rows.map id) :
    put id a rows = rows ++ [a] := by
  induction rows with
  | nil => rfl
  | cons b rows ih =>
    rw [List.map_cons, List.mem_cons, not_or] at h
    rw [put, if_neg (Ne.symm h.1), ih h.2, List.cons_append]

/-! ### Identities -/

namespace Identities

variable {s : Identities} {a : Account} {i j : Identity}

theorem find_eq_some (h : s.find a = some i) : i ∈ s.rows ∧ i.external = some a := by
  refine ⟨List.mem_of_find?_eq_some h, ?_⟩
  simpa [Identity.isExternal] using List.find?_some h

theorem find_eq_none : s.find a = none ↔ some a ∉ s.rows.map (·.external) := by
  rw [find, List.find?_eq_none]
  simp [Identity.isExternal]

/-- Where every account has one identity, that is the one that is found. -/
theorem find_of_mem (h : (s.rows.map (·.external)).Nodup) (hi : i ∈ s.rows)
    (ha : i.external = some a) : s.find a = some i := by
  cases hf : s.find a with
  | none => exact absurd (ha ▸ List.mem_map_of_mem hi) (find_eq_none.mp hf)
  | some j =>
    obtain ⟨hj, hja⟩ := find_eq_some hf
    rw [List.inj_on_of_nodup_map h hj hi (hja.trans ha.symm)]

theorem create_known (ha : i.external = some a) (h : s.find a = some j) : s.create i = (j, s) := by
  rw [create, existing?, ha]
  simp only [h]

theorem create_new (ha : i.external = some a) (h : s.find a = none)
    (hnew : i.id ∉ s.rows.map (·.id)) : s.create i = (i, ⟨s.rows ++ [i]⟩) := by
  rw [create, existing?, ha]
  simp only [h, put_of_notMem hnew]

/-- The identity of the account is answered, or the new one is added. -/
theorem create_cases (ha : i.external = some a) (hnew : i.id ∉ s.rows.map (·.id)) :
    (∃ j, s.find a = some j ∧ s.create i = (j, s)) ∨
      (s.find a = none ∧ s.create i = (i, ⟨s.rows ++ [i]⟩)) := by
  cases hf : s.find a with
  | none => exact .inr ⟨rfl, create_new ha hf hnew⟩
  | some j => exact .inl ⟨j, rfl, create_known ha hf⟩

end Identities

/-! ### Users -/

end SignOn.Store

namespace SignOn

/-- The account that a user came through. -/
def User.account (u : User) : Account := ⟨u.provider, u.externalId⟩

namespace Store.Users

variable {s : Users} {u v : User}

theorem create_known (h : s.existing? u = some v) : s.create u = (v, s) := by
  simp only [create, h]

theorem create_new (h : s.existing? u = none) (hnew : u.id ∉ s.rows.map (·.id)) :
    s.create u = (u, ⟨s.rows ++ [u]⟩) := by
  simp only [create, h, put_of_notMem hnew]

theorem create_cases (hnew : u.id ∉ s.rows.map (·.id)) :
    (∃ v ∈ s.rows, v.account = u.account ∧ s.create u = (v, s)) ∨
      (u.account ∉ s.rows.map User.account ∧ s.create u = (u, ⟨s.rows ++ [u]⟩)) := by
  cases h : s.existing? u with
  | none =>
    refine .inr ⟨fun hm => ?_, create_new h hnew⟩
    obtain ⟨v, hv, hva⟩ := List.mem_map.mp hm
    obtain ⟨hprovider, hid⟩ := Account.mk.inj hva
    have := List.find?_eq_none.mp h v hv
    rw [hprovider, hid, beq_self_eq_true, beq_self_eq_true] at this
    exact this rfl
  | some v =>
    refine .inl ⟨v, List.mem_of_find?_eq_some h, ?_, create_known h⟩
    have := List.find?_some h
    rw [Bool.and_eq_true] at this
    rw [User.account, User.account, eq_of_beq this.1, eq_of_beq this.2]

end Store.Users
end SignOn
