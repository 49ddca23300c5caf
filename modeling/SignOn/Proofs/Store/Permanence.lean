import Mathlib.Data.List.Induction
import Mathlib.Data.List.Perm.Basic
import SignOn.Proofs.Interleaving
import SignOn.Proofs.Store.Accounts
import SignOn.Store.Memory

/-!
How long records stay. Whether a record is new is decided by its account, and where it is put by its
identifier. So a record that was answered once is answered from then on, until one of another
account is stored under its identifier; that one takes its stead.
-/
namespace SignOn.Store

open Login

/-! ### Tables -/

section
variable {α : Type} {id : α → Uuid} {a b : α} {rows : List α}

/-- Where identifiers differ, a record that is put takes the stead of that of its identifier. -/
theorem put_perm (h : (rows.map id).Nodup) :
    (put id a rows).Perm (a :: rows.filter fun b => id b ≠ id a) := by
  induction rows with
  | nil => rfl
  | cons b rows ih =>
    rw [List.map_cons, List.nodup_cons] at h
    by_cases hb : id b = id a
    · have rest : rows.filter (fun c => id c ≠ id a) = rows := by
        refine List.filter_eq_self.mpr fun c hc => decide_eq_true fun heq => h.1 ?_
        rw [hb, ← heq]
        exact List.mem_map_of_mem hc
      rw [put, if_pos hb, List.filter_cons_of_neg (by simpa using hb), rest]
    · rw [put, if_neg hb, List.filter_cons_of_pos (by simpa using hb)]
      exact ((ih h.2).cons b).trans (.swap ..)

theorem mem_put (h : (rows.map id).Nodup) :
    b ∈ put id a rows ↔ b = a ∨ b ∈ rows ∧ id b ≠ id a := by
  rw [(put_perm h).mem_iff]
  simp

theorem nodup_put (h : (rows.map id).Nodup) : ((put id a rows).map id).Nodup := by
  rw [((put_perm h).map id).nodup_iff, List.map_cons, List.nodup_cons]
  refine ⟨fun hm => ?_, h.sublist (List.filter_sublist.map id)⟩
  obtain ⟨c, hc, heq⟩ := List.mem_map.mp hm
  exact of_decide_eq_true (List.mem_filter.mp hc).2 heq

/-- A key that no record has is had by one once a record with it is put. -/
theorem nodup_key_put {κ : Type} {key : α → Option κ} (h : (rows.map id).Nodup)
    (hkeys : (rows.filterMap key).Nodup) (hnew : ∀ k, key a = some k → k ∉ rows.filterMap key) :
    ((put id a rows).filterMap key).Nodup := by
  have rest : ((rows.filter fun b => id b ≠ id a).filterMap key).Sublist (rows.filterMap key) :=
    List.filter_sublist.filterMap key
  rw [((put_perm h).filterMap key).nodup_iff]
  cases hk : key a with
  | none => rw [List.filterMap_cons_none hk]; exact hkeys.sublist rest
  | some k =>
    rw [List.filterMap_cons_some hk, List.nodup_cons]
    exact ⟨fun hm => hnew k hk (rest.subset hm), hkeys.sublist rest⟩

theorem get?_eq_some (h : (rows.map id).Nodup) {u : Uuid} :
    get? id u rows = some a ↔ a ∈ rows ∧ id a = u := by
  constructor
  · intro hget
    exact ⟨List.mem_of_find?_eq_some hget, by simpa using List.find?_some hget⟩
  · rintro ⟨ha, rfl⟩
    cases hget : get? id (id a) rows with
    | none => exact absurd (beq_self_eq_true (id a)) (List.find?_eq_none.mp hget a ha)
    | some b =>
      have hb : id b = id a := by simpa using List.find?_some hget
      rw [List.inj_on_of_nodup_map h (List.mem_of_find?_eq_some hget) ha hb]

end

/-! ### Identities -/

namespace Identities

variable {s : Identities} {i j : Identity}

/-- No two identities have the same identifier, nor the same account. -/
structure Distinct (s : Identities) : Prop where
  ids : (s.rows.map (·.id)).Nodup
  accounts : (s.rows.filterMap (·.external)).Nodup

/-- Storing an identity displaces another one: they have the same identifier, and what is looked at
is only that the account of the new one has none. -/
def Displaces (s : Identities) (j i : Identity) : Prop :=
  j.id = i.id ∧ ∃ a, j.external = some a ∧ s.find a = none

theorem account_notMem {a : Account} (h : s.find a = none) :
    a ∉ s.rows.filterMap (·.external) := by
  intro hm
  obtain ⟨i, hi, ha⟩ := List.mem_filterMap.mp hm
  exact find_eq_none.mp h (ha ▸ List.mem_map_of_mem hi)

theorem Distinct.create (h : s.Distinct) (j : Identity) : (s.create j).2.Distinct := by
  unfold Identities.create
  cases he : s.existing? j with
  | some e => exact h
  | none =>
    refine ⟨nodup_put h.ids, nodup_key_put h.ids h.accounts fun a ha => ?_⟩
    rw [existing?, ha] at he
    exact account_notMem he

/-- What storing answers is stored. -/
theorem mem_create (h : s.Distinct) (j : Identity) : (s.create j).1 ∈ (s.create j).2.rows := by
  unfold Identities.create
  cases he : s.existing? j with
  | none => exact (mem_put h.ids).mpr (.inl rfl)
  | some e =>
    rw [existing?] at he
    split at he
    next => exact (find_eq_some he).1
    next => exact List.mem_of_find?_eq_some he

theorem mem_create_iff (h : s.Distinct) (hi : i ∈ s.rows) :
    i ∈ (s.create j).2.rows ↔ ¬ s.Displaces j i := by
  unfold Identities.create Displaces
  cases ha : j.external with
  | none =>
    refine iff_of_true ?_ (by simp)
    cases he : s.existing? j with
    | some e => exact hi
    | none =>
      rw [existing?, ha] at he
      refine (mem_put h.ids).mpr (.inr ⟨hi, fun hid => ?_⟩)
      cases he.symm.trans ((get?_eq_some h.ids).mpr ⟨hi, hid⟩)
  | some a =>
    have hexisting : s.existing? j = s.find a := by rw [existing?, ha]
    rw [hexisting]
    cases he : s.find a with
    | some e => exact iff_of_true hi (by simp [he])
    | none =>
      have hne : i ≠ j := by
        rintro rfl
        exact account_notMem he (List.mem_filterMap.mpr ⟨i, hi, ha⟩)
      simp only [mem_put h.ids, hi, hne, false_or, true_and, Option.some.injEq, exists_eq_left', he,
        and_true]
      exact not_congr eq_comm

theorem find_iff (h : s.Distinct) {a : Account} :
    s.find a = some i ↔ i ∈ s.rows ∧ i.external = some a := by
  refine ⟨find_eq_some, ?_⟩
  rintro ⟨hi, ha⟩
  cases hf : s.find a with
  | none => exact absurd (List.mem_filterMap.mpr ⟨i, hi, ha⟩) (account_notMem hf)
  | some j =>
    obtain ⟨hj, hja⟩ := find_eq_some hf
    rw [eq_of_drew h.accounts hj hi hja ha]

/-- An identity is stored if it is answered under its identifier and for its account. -/
theorem reads_iff (h : s.Distinct) : (s.load i.id = some i ∧
    ∀ a, i.external = some a → s.find a = some i) ↔ i ∈ s.rows := by
  constructor
  · rintro ⟨hload, -⟩
    exact ((get?_eq_some h.ids).mp hload).1
  · intro hi
    exact ⟨(get?_eq_some h.ids).mpr ⟨hi, rfl⟩, fun a ha => (find_iff h).mpr ⟨hi, ha⟩⟩

end Identities

/-! ### Users -/

namespace Users

variable {s : Users} {u v : User}

/-- No two users have the same identifier, nor the same account. -/
structure Distinct (s : Users) : Prop where
  ids : (s.rows.map (·.id)).Nodup
  accounts : (s.rows.filterMap fun u => some u.account).Nodup

/-- Storing a user displaces another one: they have the same identifier, and what is looked at is
only that the account of the new one has none. -/
def Displaces (s : Users) (v u : User) : Prop := v.id = u.id ∧ s.existing? v = none

theorem account_ne (h : s.existing? v = none) (hu : u ∈ s.rows) : u.account ≠ v.account := by
  intro heq
  obtain ⟨hprovider, hid⟩ := Account.mk.inj heq
  have := List.find?_eq_none.mp h u hu
  rw [hprovider, hid, beq_self_eq_true, beq_self_eq_true] at this
  exact this rfl

theorem Distinct.create (h : s.Distinct) (v : User) : (s.create v).2.Distinct := by
  unfold Users.create
  cases he : s.existing? v with
  | some e => exact h
  | none =>
    refine ⟨nodup_put h.ids, nodup_key_put h.ids h.accounts fun a ha hm => ?_⟩
    obtain ⟨u, hu, hua⟩ := List.mem_filterMap.mp hm
    exact account_ne he hu (Option.some.inj (hua.trans ha.symm))

theorem mem_create (h : s.Distinct) (v : User) : (s.create v).1 ∈ (s.create v).2.rows := by
  unfold Users.create
  cases he : s.existing? v with
  | none => exact (mem_put h.ids).mpr (.inl rfl)
  | some e => exact List.mem_of_find?_eq_some he

theorem mem_create_iff (h : s.Distinct) (hu : u ∈ s.rows) :
    u ∈ (s.create v).2.rows ↔ ¬ s.Displaces v u := by
  unfold Users.create Displaces
  cases he : s.existing? v with
  | some e => exact iff_of_true hu (by simp)
  | none =>
    have hne : u ≠ v := fun heq => account_ne he hu (heq ▸ rfl)
    simp only [mem_put h.ids, hu, hne, false_or, true_and, and_true]
    exact not_congr eq_comm

theorem account_of_existing? (h : s.existing? u = some v) : v.account = u.account := by
  have hfits := List.find?_some h
  rw [Bool.and_eq_true] at hfits
  rw [User.account, User.account, eq_of_beq hfits.1, eq_of_beq hfits.2]

theorem existing?_iff (h : s.Distinct) :
    s.existing? u = some v ↔ v ∈ s.rows ∧ v.account = u.account := by
  refine ⟨fun he => ⟨List.mem_of_find?_eq_some he, account_of_existing? he⟩, ?_⟩
  rintro ⟨hv, hva⟩
  cases he : s.existing? u with
  | none => exact absurd hva (account_ne he hv)
  | some w =>
    have hwa : some w.account = some u.account := congrArg some (account_of_existing? he)
    rw [eq_of_drew h.accounts (List.mem_of_find?_eq_some he) hv hwa (congrArg some hva)]

theorem load_iff (h : s.Distinct) : s.load u.id = some u ↔ u ∈ s.rows := by
  rw [load, get?_eq_some h.ids]
  simp

end Users

/-! ### Runs -/

namespace Memory

variable {s : Surroundings} {m : Memory}

/-- The memory after calls. -/
def after (s : Surroundings) (calls : List Call) (m : Memory) : Memory :=
  calls.foldl (fun m c => (m.answer s c).2) m

@[simp] theorem after_concat (calls : List Call) (c : Call) :
    m.after s (calls ++ [c]) = ((m.after s calls).answer s c).2 := by simp [after]

theorem after_append (calls later : List Call) :
    m.after s (calls ++ later) = (m.after s calls).after s later := by simp [after]

/-- No two records of a kind have the same identifier, nor the same account. -/
structure Distinct (m : Memory) : Prop where
  identities : m.identities.Distinct
  users : m.users.Distinct

theorem Distinct.answer (h : m.Distinct) (c : Call) : (m.answer s c).2.Distinct := by
  cases c with
  | createIdentity i => exact ⟨h.identities.create i, h.users⟩
  | createUser u => exact ⟨h.identities, h.users.create u⟩
  | _ => exact ⟨h.identities, h.users⟩

theorem Distinct.after (h : m.Distinct) (calls : List Call) : (m.after s calls).Distinct := by
  induction calls using List.reverseRecOn with
  | nil => exact h
  | append_singleton calls c ih =>
    rw [after_concat]
    exact ih.answer c

theorem distinct_empty : empty.Distinct :=
  ⟨⟨List.nodup_nil, List.nodup_nil⟩, ⟨List.nodup_nil, List.nodup_nil⟩⟩

theorem mem_identities_answer (h : m.Distinct) {i : Identity} (hi : i ∈ m.identities.rows)
    (c : Call) : i ∈ (m.answer s c).2.identities.rows ↔
      ¬ ∃ j, c = .createIdentity j ∧ m.identities.Displaces j i := by
  cases c with
  | createIdentity j =>
    change i ∈ (m.identities.create j).2.rows ↔ _
    simpa using Identities.mem_create_iff h.identities hi
  | _ => exact iff_of_true hi (by simp)

theorem mem_users_answer (h : m.Distinct) {u : User} (hu : u ∈ m.users.rows) (c : Call) :
    u ∈ (m.answer s c).2.users.rows ↔ ¬ ∃ v, c = .createUser v ∧ m.users.Displaces v u := by
  cases c with
  | createUser v =>
    change u ∈ (m.users.create v).2.rows ↔ _
    simpa using Users.mem_create_iff h.users hu
  | _ => exact iff_of_true hu (by simp)

/-- What only calls of one kind can end holds as long as no call of that kind ends it. -/
theorem holds_after_iff {β : Type} {p : Memory → Prop} {f : β → Call} {q : Memory → β → Prop}
    (calls : List Call) (hstart : p m) (hstep : ∀ pre c, p (m.after s pre) →
      (p ((m.after s pre).answer s c).2 ↔ ¬ ∃ b, c = f b ∧ q (m.after s pre) b)) :
    (∀ pre, pre <+: calls → p (m.after s pre)) ↔
      ∀ pre b, pre ++ [f b] <+: calls → ¬ q (m.after s pre) b := by
  constructor
  · intro h pre b hpre hends
    have hnext := h _ hpre
    rw [after_concat] at hnext
    exact (hstep pre _ (h pre ((List.prefix_append ..).trans hpre))).mp hnext ⟨b, rfl, hends⟩
  · intro h pre
    induction pre using List.reverseRecOn with
    | nil => exact fun _ => hstart
    | append_singleton pre c ih =>
      intro hpre
      rw [after_concat]
      refine (hstep pre c (ih ((List.prefix_append ..).trans hpre))).mpr ?_
      rintro ⟨b, rfl, hends⟩
      exact h pre b hpre hends

theorem mem_identities_after_iff (h : m.Distinct) {i : Identity} (hi : i ∈ m.identities.rows)
    (calls : List Call) : (∀ pre, pre <+: calls → i ∈ (m.after s pre).identities.rows) ↔
      ∀ pre j, pre ++ [.createIdentity j] <+: calls →
        ¬ (m.after s pre).identities.Displaces j i :=
  holds_after_iff (p := fun m => i ∈ m.identities.rows) (q := fun m j => m.identities.Displaces j i)
    calls hi fun pre c hi => mem_identities_answer (h.after pre) hi c

theorem mem_users_after_iff (h : m.Distinct) {u : User} (hu : u ∈ m.users.rows)
    (calls : List Call) : (∀ pre, pre <+: calls → u ∈ (m.after s pre).users.rows) ↔
      ∀ pre v, pre ++ [.createUser v] <+: calls → ¬ (m.after s pre).users.Displaces v u :=
  holds_after_iff (p := fun m => u ∈ m.users.rows) (q := fun m v => m.users.Displaces v u)
    calls hu fun pre c hu => mem_users_answer (h.after pre) hu c

/-- A record that storing answered is answered to every later call, under its identifier and for its
account, just as long as no record of another account is stored under its identifier. -/
theorem stored_until_displaced (s : Surroundings) (before later : List Call) :
    (∀ i, ∃ x, ((empty.after s before).answer s (.createIdentity i)).1 = .ok x ∧
      ((∀ pre, pre <+: later →
        ((empty.after s (before ++ .createIdentity i :: pre)).answer s (.loadIdentity x.id)).1 =
          .ok (some x) ∧
        ∀ a, x.external = some a →
          ((empty.after s (before ++ .createIdentity i :: pre)).answer s (.findIdentity a)).1 =
            .ok (some x)) ↔
      ∀ pre j, pre ++ [.createIdentity j] <+: later →
        ¬ (empty.after s (before ++ .createIdentity i :: pre)).identities.Displaces j x)) ∧
    ∀ u, ∃ x, ((empty.after s before).answer s (.createUser u)).1 = .ok x ∧
      ((∀ pre, pre <+: later →
        (empty.after s (before ++ .createUser u :: pre)).users.load x.id = some x) ↔
      ∀ pre v, pre ++ [.createUser v] <+: later →
        ¬ (empty.after s (before ++ .createUser u :: pre)).users.Displaces v x) := by
  have distinct (calls : List Call) : (empty.after s calls).Distinct := distinct_empty.after calls
  have split (c : Call) (calls : List Call) : empty.after s (before ++ c :: calls) =
      ((empty.after s before).answer s c).2.after s calls := after_append before (c :: calls)
  simp only [split]
  constructor
  · intro i
    have hstored := (distinct before).answer (s := s) (.createIdentity i)
    refine ⟨((empty.after s before).identities.create i).1, rfl, ?_⟩
    rw [← mem_identities_after_iff hstored (Identities.mem_create (distinct before).identities i)]
    refine forall₂_congr fun pre _ => ?_
    simpa only [answer, Except.ok.injEq] using Identities.reads_iff (hstored.after pre).identities
  · intro u
    have hstored := (distinct before).answer (s := s) (.createUser u)
    refine ⟨((empty.after s before).users.create u).1, rfl, ?_⟩
    rw [← mem_users_after_iff hstored (Users.mem_create (distinct before).users u)]
    exact forall₂_congr fun pre _ => Users.load_iff (hstored.after pre).users

/-- An identity that was answered is lost once another account is stored under its identifier. -/
theorem displaced_identity_lost : ∃ first second : Identity,
    (Identities.empty.create first).1 = first ∧
    ((Identities.empty.create first).2.create second).2.load first.id ≠ some first ∧
    ((Identities.empty.create first).2.create second).2.find ⟨.github, "7"⟩ = none ∧
    first.external = some ⟨.github, "7"⟩ :=
  ⟨⟨.nil, "first", "", [], some ⟨.github, "7"⟩⟩, ⟨.nil, "second", "", [], some ⟨.github, "8"⟩⟩,
    by decide⟩

end Memory
end SignOn.Store
