import Mathlib.Data.List.Find
import SignOn.Proofs.Store.Permanence
import SignOn.Proofs.Visits

/-!
The order of a table is never seen. A table is looked through for the first record that fits, and
nothing is promised about the order in which its records stand. But no account has two records and
no identifier has, so at most one fits, and memories that hold the same records answer alike.
-/
namespace SignOn.Store

open Login

/-! ### Tables -/

section
variable {α : Type} {id : α → Uuid} {rows rows' : List α}

theorem get?_perm (h : (rows.map id).Nodup) (order : rows.Perm rows') (u : Uuid) :
    get? id u rows = get? id u rows' := by
  refine List.find?_eq_find?_of_perm order ?_
  rintro a ⟨ha, hau⟩ b ⟨hb, hbu⟩
  exact List.inj_on_of_nodup_map h ha hb ((eq_of_beq hau).trans (eq_of_beq hbu).symm)

theorem put_perm_put (h : (rows.map id).Nodup) (order : rows.Perm rows') (a : α) :
    (put id a rows).Perm (put id a rows') := by
  have h' : (rows'.map id).Nodup := (order.map id).nodup_iff.mp h
  exact ((put_perm h).trans ((order.filter _).cons a)).trans (put_perm h').symm

end

/-! ### Identities -/

namespace Identities

variable {s t : Identities}

theorem find_perm (h : s.Distinct) (order : s.rows.Perm t.rows) (a : Account) :
    s.find a = t.find a := by
  refine List.find?_eq_find?_of_perm order ?_
  rintro i ⟨hi, hia⟩ j ⟨hj, hja⟩
  exact eq_of_drew h.accounts hi hj (eq_of_beq hia) (eq_of_beq hja)

theorem existing?_perm (h : s.Distinct) (order : s.rows.Perm t.rows) (i : Identity) :
    s.existing? i = t.existing? i := by
  unfold existing?
  cases i.external with
  | none => exact get?_perm h.ids order i.id
  | some a => exact find_perm h order a

theorem create_perm (h : s.Distinct) (order : s.rows.Perm t.rows) (i : Identity) :
    (s.create i).1 = (t.create i).1 ∧ (s.create i).2.rows.Perm (t.create i).2.rows := by
  unfold create
  rw [← existing?_perm h order i]
  cases s.existing? i with
  | some e => exact ⟨rfl, order⟩
  | none => exact ⟨rfl, put_perm_put h.ids order i⟩

end Identities

/-! ### Users -/

namespace Users

variable {s t : Users}

theorem existing?_perm (h : s.Distinct) (order : s.rows.Perm t.rows) (u : User) :
    s.existing? u = t.existing? u := by
  have account (v : User) (hv : (v.provider == u.provider && v.externalId == u.externalId) = true) :
      v.account = u.account := by
    rw [Bool.and_eq_true] at hv
    rw [User.account, User.account, eq_of_beq hv.1, eq_of_beq hv.2]
  refine List.find?_eq_find?_of_perm order ?_
  rintro v ⟨hv, hvu⟩ w ⟨hw, hwu⟩
  exact eq_of_drew h.accounts hv hw (congrArg some (account v hvu)) (congrArg some (account w hwu))

theorem create_perm (h : s.Distinct) (order : s.rows.Perm t.rows) (u : User) :
    (s.create u).1 = (t.create u).1 ∧ (s.create u).2.rows.Perm (t.create u).2.rows := by
  unfold create
  rw [← existing?_perm h order u]
  cases s.existing? u with
  | some e => exact ⟨rfl, order⟩
  | none => exact ⟨rfl, put_perm_put h.ids order u⟩

end Users

/-! ### Runs -/

namespace Memory

variable {s : Surroundings} {m n : Memory}

/-- Two memories hold the same, each with its tables in an order of its own. -/
structure SameRecords (m n : Memory) : Prop where
  identities : m.identities.rows.Perm n.identities.rows
  users : m.users.rows.Perm n.users.rows
  pendings : m.pendings = n.pendings
  draws : m.draws = n.draws

theorem SameRecords.trans {o : Memory} (h : m.SameRecords n) (h' : n.SameRecords o) :
    m.SameRecords o :=
  ⟨h.identities.trans h'.identities, h.users.trans h'.users, h.pendings.trans h'.pendings,
    h.draws.trans h'.draws⟩

theorem SameRecords.distinct (h : m.Distinct) (same : m.SameRecords n) : n.Distinct where
  identities :=
    ⟨(same.identities.map _).nodup_iff.mp h.identities.ids,
      (same.identities.filterMap _).nodup_iff.mp h.identities.accounts⟩
  users :=
    ⟨(same.users.map _).nodup_iff.mp h.users.ids,
      (same.users.filterMap _).nodup_iff.mp h.users.accounts⟩

theorem SameRecords.answer (h : m.Distinct) (same : m.SameRecords n) (c : Call) :
    (m.answer s c).1 = (n.answer s c).1 ∧ (m.answer s c).2.SameRecords (n.answer s c).2 := by
  obtain ⟨identities, users, pendings, draws⟩ := same
  cases c with
  | drawState =>
    exact ⟨congrArg s.randomState draws, identities, users, pendings, congrArg (· + 1) draws⟩
  | drawId =>
    exact ⟨congrArg s.randomId draws, identities, users, pendings, congrArg (· + 1) draws⟩
  | savePending state p =>
    exact ⟨congrArg (fun x => (LockedLogins.save x s.life s.now state p).1) pendings, identities,
      users, congrArg (fun x => (LockedLogins.save x s.life s.now state p).2) pendings, draws⟩
  | takePending state =>
    exact ⟨congrArg (fun x => (LockedLogins.take x s.now state).1) pendings, identities, users,
      congrArg (fun x => (LockedLogins.take x s.now state).2) pendings, draws⟩
  | loadIdentity id =>
    exact ⟨congrArg Except.ok (get?_perm h.identities.ids identities id), identities, users,
      pendings, draws⟩
  | findIdentity a =>
    exact ⟨congrArg Except.ok (Identities.find_perm h.identities identities a), identities, users,
      pendings, draws⟩
  | createIdentity i =>
    obtain ⟨hstored, hrows⟩ := Identities.create_perm h.identities identities i
    exact ⟨congrArg Except.ok hstored, hrows, users, pendings, draws⟩
  | createUser u =>
    obtain ⟨hstored, hrows⟩ := Users.create_perm h.users users u
    exact ⟨congrArg Except.ok hstored, identities, hrows, pendings, draws⟩
  | _ => exact ⟨rfl, identities, users, pendings, draws⟩

/-- What calls may leave in a memory whose tables come in any order before each of them. -/
inductive Shuffled (s : Surroundings) : List Call → Memory → Prop
  | nothing : Shuffled s [] empty
  | call {calls : List Call} {m n : Memory} (before : Shuffled s calls m) (order : m.SameRecords n)
      (c : Call) : Shuffled s (calls ++ [c]) (n.answer s c).2

theorem Shuffled.sameRecords {calls : List Call} (run : Shuffled s calls m) :
    m.Distinct ∧ m.SameRecords (empty.after s calls) := by
  induction run with
  | nothing => exact ⟨distinct_empty, .refl _, .refl _, rfl, rfl⟩
  | @call calls m n before order c ih =>
    obtain ⟨distinct, same⟩ := ih
    have hn := order.distinct distinct
    have back : n.SameRecords m :=
      ⟨order.identities.symm, order.users.symm, order.pendings.symm, order.draws.symm⟩
    rw [after_concat]
    exact ⟨hn.answer c, ((back.trans same).answer hn c).2⟩

/-- In whatever order the tables come before each call, no account ever has two identities or two
users, and every call is answered as if records stood in the order in which they were stored. -/
theorem order_never_seen {calls : List Call} (run : Shuffled s calls m) :
    (m.identities.rows.filterMap (·.external)).Nodup ∧ (m.users.rows.map User.account).Nodup ∧
      ∀ n, m.SameRecords n → ∀ c, (n.answer s c).1 = ((empty.after s calls).answer s c).1 := by
  obtain ⟨distinct, same⟩ := run.sameRecords
  refine ⟨distinct.identities.accounts, ?_, fun n order c => ?_⟩
  · rw [← List.filterMap_eq_map]
    exact distinct.users.accounts
  · exact ((order.answer distinct c).1.symm).trans (same.answer distinct c).1

/-- Two identities that stand in the other order are found as before. -/
theorem order_never_seen_sample : ∃ (calls : List Call) (m n : Memory) (i : Identity),
    Shuffled Service.sampleSurroundings calls m ∧ m.SameRecords n ∧ m ≠ n ∧
      (n.answer Service.sampleSurroundings (.findIdentity ⟨.github, "7"⟩)).1 = .ok (some i) := by
  let first : Identity := ⟨.nil, "first", "", [], some ⟨.github, "7"⟩⟩
  let second : Identity := ⟨⟨1⟩, "second", "", [], some ⟨.github, "8"⟩⟩
  let calls : List Call := [.createIdentity first, .createIdentity second]
  let n : Memory := ⟨.empty, ⟨[second, first]⟩, .empty, 0⟩
  have run : Shuffled Service.sampleSurroundings calls
      (empty.after Service.sampleSurroundings calls) :=
    .call (.call .nothing ⟨.refl _, .refl _, rfl, rfl⟩ (.createIdentity first))
      ⟨.refl _, .refl _, rfl, rfl⟩ (.createIdentity second)
  have order : (empty.after Service.sampleSurroundings calls).SameRecords n :=
    ⟨.swap .., .refl _, rfl, rfl⟩
  refine ⟨calls, _, n, first, run, order, by decide, ?_⟩
  rw [(order_never_seen run).2.2 n order]
  decide

end Memory
end SignOn.Store
