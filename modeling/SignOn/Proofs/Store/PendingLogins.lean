import Mathlib.Data.List.Basic
import SignOn.Store.PendingLogins

/-!
What saving and taking do to the entries that are kept in memory. An entry stays where nothing takes
its state and no other is saved under it, as long as its time is not over. Behind the lock this
holds until a save stops; from then on no record is handed out.
-/
namespace SignOn.Store

variable {s : PendingLogins} {life : Nat} {now : Moment} {state other : String}
  {p : Login.Pending} {e : Entry}

@[simp] theorem Entry.isLive_iff (e : Entry) (now : Moment) :
    e.isLive now = true ↔ now.nanos < e.expiry.nanos := by simp [Entry.isLive]

/-- Where a list is filtered, the first match of a key stays the first if it stays at all. -/
theorem lookup_filter {α : Type} {entries : List (String × α)} {keep : String × α → Bool} {a : α}
    (h : entries.lookup state = some a) (hkeep : keep (state, a)) :
    (entries.filter keep).lookup state = some a := by
  rw [List.lookup_eq_some_iff] at h ⊢
  obtain ⟨l₁, l₂, rfl, hl⟩ := h
  refine ⟨l₁.filter keep, l₂.filter keep, ?_, fun x hx => hl x (List.mem_of_mem_filter hx)⟩
  rw [List.filter_append, List.filter_cons_of_pos hkeep]

theorem mem_of_lookup {α : Type} {entries : List (String × α)} {a : α}
    (h : entries.lookup state = some a) : (state, a) ∈ entries := by
  rw [List.lookup_eq_some_iff] at h
  obtain ⟨l₁, l₂, rfl, -⟩ := h
  exact List.mem_append_right _ List.mem_cons_self

theorem lookup_filter_ne {α : Type} (entries : List (String × α)) (state : String) :
    (entries.filter fun e => e.1 != state).lookup state = none := by
  rw [List.lookup_eq_none_iff]
  intro e he
  rw [bne_comm]
  exact (List.mem_filter.mp he).2

namespace PendingLogins

/-! ### Saving -/

theorem mem_save {x : String × Entry} (h : x ∈ (s.save life now state p).entries) :
    x = (state, ⟨p, ⟨now.nanos + life⟩⟩) ∨ x ∈ s.entries := by
  rcases List.mem_cons.mp h with rfl | h
  · exact .inl rfl
  · exact .inr (List.mem_of_mem_filter h)

theorem lookup_save : (s.save life now state p).entries.lookup state =
    some ⟨p, ⟨now.nanos + life⟩⟩ := by simp [save]

theorem lookup_save_of_ne (h : s.entries.lookup other = some e) (hlive : e.isLive now)
    (hne : other ≠ state) : (s.save life now state p).entries.lookup other = some e := by
  have hbeq : (other == state) = false := by simpa using hne
  simp only [save, List.lookup_cons, hbeq]
  exact lookup_filter h (by simpa [hne] using hlive)

/-! ### Taking -/

theorem mem_take {x : String × Entry} :
    x ∈ (s.take now state).2.entries ↔ x ∈ s.entries ∧ x.1 ≠ state := by simp [take]

theorem lookup_take_of_ne (h : s.entries.lookup other = some e) (hne : other ≠ state) :
    (s.take now state).2.entries.lookup other = some e := lookup_filter h (by simpa using hne)

/-- A record that was taken is not taken again. -/
theorem take_take (now later : Moment) : ((s.take now state).2.take later state).1 = none := by
  simp only [take, lookup_filter_ne]
  rfl

/-- What is taken is the record of an entry whose time is not over. -/
theorem take_eq_some : (s.take now state).1 = some p ↔
    ∃ e, s.entries.lookup state = some e ∧ e.isLive now ∧ e.pending = p := by
  cases h : s.entries.lookup state with
  | none => simp [take, h]
  | some e => simp [take, h, Option.filter, ite_eq_iff]

end PendingLogins

namespace LockedLogins

variable {x : LockedLogins}

/-! ### Saving behind the lock -/

theorem save_of_canKeep (s : PendingLogins) (h : PendingLogins.CanKeep life now) :
    (sound s).save life now state p = (some (.ok ()), sound (s.save life now state p)) := by
  simp only [save, PendingLogins.save?, if_pos h]

theorem save_of_not_canKeep (s : PendingLogins) (h : ¬ PendingLogins.CanKeep life now) :
    (sound s).save life now state p = (none, poisoned) := by
  simp only [save, PendingLogins.save?, if_neg h]

theorem lookup_save (s : PendingLogins) (h : PendingLogins.CanKeep life now) :
    ((sound s).save life now state p).2.records.entries.lookup state =
      some ⟨p, ⟨now.nanos + life⟩⟩ := by
  rw [save_of_canKeep s h]
  exact PendingLogins.lookup_save

/-- A record is kept, or the store is poisoned afterwards and the record was not kept. -/
theorem save_cases (x : LockedLogins) (life : Nat) (now : Moment) (state : String)
    (p : Login.Pending) :
    (PendingLogins.CanKeep life now ∧
      x.save life now state p = (some (.ok ()), sound (x.records.save life now state p))) ∨
    ((x.save life now state p).1 ≠ some (.ok ()) ∧ (x.save life now state p).2 = poisoned) := by
  cases x with
  | poisoned => exact .inr ⟨nofun, rfl⟩
  | sound s =>
    by_cases h : PendingLogins.CanKeep life now
    · exact .inl ⟨h, save_of_canKeep s h⟩
    · rw [save_of_not_canKeep s h]
      exact .inr ⟨nofun, rfl⟩

/-- A save stops only where no clock can tell the end. -/
theorem save_ne_none (h : PendingLogins.CanKeep life now) (x : LockedLogins) (state : String)
    (p : Login.Pending) : (x.save life now state p).1 ≠ none := by
  cases x with
  | poisoned => exact nofun
  | sound s =>
    rw [save_of_canKeep s h]
    exact nofun

theorem records_save_subset :
    (x.save life now state p).2.records.entries ⊆
      (state, ⟨p, ⟨now.nanos + life⟩⟩) :: x.records.entries := by
  intro e he
  rcases save_cases x life now state p with ⟨-, h⟩ | ⟨-, h⟩
  · rw [h] at he
    rcases PendingLogins.mem_save he with rfl | he
    · exact List.mem_cons_self
    · exact List.mem_cons_of_mem _ he
  · rw [h] at he
    cases he

/-! ### Taking behind the lock -/

theorem records_take (x : LockedLogins) (now : Moment) (state : String) :
    (x.take now state).2.records = (x.records.take now state).2 := by
  cases x <;> rfl

theorem records_take_subset : (x.take now state).2.records.entries ⊆ x.records.entries := by
  rw [records_take]
  exact List.filter_subset_self _

/-- A record is handed out only by a store that is not poisoned. -/
theorem take_eq_some : (x.take now state).1 = .ok (some p) ↔
    (x.records.take now state).1 = some p := by
  cases x with
  | sound s => exact ⟨Except.ok.inj, congrArg Except.ok⟩
  | poisoned => exact ⟨nofun, nofun⟩

/-- A record that was taken is not taken again. -/
theorem take_take (now later : Moment) (p : Login.Pending) :
    ((x.take now state).2.take later state).1 ≠ .ok (some p) := by
  rw [ne_eq, take_eq_some, records_take, PendingLogins.take_take]
  exact nofun

end LockedLogins
end SignOn.Store
