import SignOn.Proofs.Login.Addresses
import SignOn.Proofs.Login.Emails

/-!
The address that is recorded of a person. The first sign-on through an account stores a user beside
the identity, with the address to use of those that the identity has; the profile's own address is
taken only where the identity has none. It is so when one person signs on alone, and for every user
that is stored while others sign on.
-/
namespace SignOn

open Login Store

namespace Service

variable {p : GitHub.Profile} {i : Identity} {emails : List Email}

/-- A user as it is recorded beside an identity: of the profile's account, and with the address to
use of the identity, if it has any. -/
structure IsUserOf (p : GitHub.Profile) (i : Identity) (u : User) : Prop where
  account : u.account = p.account
  identity : u.identityId = i.id
  email : i.emails ≠ [] → u.email = (Email.primary? i.emails).map (·.address)

theorem isUserOf_newUser (p : GitHub.Profile) (i : Identity) (id : Uuid) (m : Moment) :
    IsUserOf p i (newUser p i id m) where
  account := rfl
  identity := rfl
  email h := by
    change userEmail p i = _
    unfold userEmail
    cases hchosen : Email.primary? i.emails with
    | none => exact absurd (Email.primary?_eq_none.mp hchosen) h
    | some e => rfl

/-! ### One person alone -/

section
variable {s : Surroundings} {clock : Nat → Moment} {x : Timed}

/-- Where the account has no user yet, one of the identity is stored, and no other of the account. -/
theorem run_recordUser_first (h : ∀ u ∈ x.memory.users.rows, u.account ≠ p.account)
    (i : Identity) : ∃ u x', (recordUser p i).run (Timed.answer s clock) x = (.ok i, x') ∧
      IsUserOf p i u ∧ u ∈ x'.memory.users.rows ∧
      ∀ v ∈ x'.memory.users.rows, v.account = p.account → v = u := by
  obtain ⟨u, hu⟩ : ∃ u, u = newUser p i (s.randomId x.memory.draws) (clock (x.calls + 1)) :=
    ⟨_, rfl⟩
  have huser : IsUserOf p i u := hu ▸ isUserOf_newUser ..
  have hnone : x.memory.users.existing? u = none := by
    cases hexisting : x.memory.users.existing? u with
    | none => rfl
    | some v =>
      have haccount := (Users.account_of_existing? hexisting).trans huser.account
      exact absurd haccount (h v (List.mem_of_find?_eq_some hexisting))
  have hcreate : (x.memory.users.create u).2 = ⟨put (·.id) u x.memory.users.rows⟩ := by
    rw [Users.create, hnone]
  refine ⟨u, _, run_recordUser i, huser, ?_, fun v hv haccount => ?_⟩
  · have hget : get? (·.id) u.id (put (·.id) u x.memory.users.rows) = some u := by simp
    rw [← hu, hcreate]
    exact List.mem_of_find?_eq_some hget
  · rw [← hu, hcreate] at hv
    exact (mem_of_mem_put hv).resolve_right fun hold => h v hold haccount

/-- The first sign-on through an account stores a user of the identity that it ends with. -/
theorem run_resolveIdentity_first (h : ∀ u ∈ x.memory.users.rows, u.account ≠ p.account)
    (emails : List Email) : ∃ i u x',
      (resolveIdentity p emails).run (Timed.answer s clock) x = (.ok i, x') ∧ IsUserOf p i u ∧
      u ∈ x'.memory.users.rows ∧ ∀ v ∈ x'.memory.users.rows, v.account = p.account → v = u := by
  cases hfind : x.memory.identities.find p.account with
  | some i =>
    rw [run_resolveIdentity_known hfind]
    have first : ∀ u ∈ (Timed.mk x.memory (x.calls + 1)).memory.users.rows,
        u.account ≠ p.account := h
    exact ⟨i, run_recordUser_first first i⟩
  | none =>
    obtain ⟨i, hi⟩ : ∃ i, i = candidate p emails (s.randomId x.memory.draws) := ⟨_, rfl⟩
    rw [run_resolveIdentity_new hfind emails hi]
    refine ⟨i, run_recordUser_first ?_ i⟩
    exact h

end

/-! ### Among others -/

section
variable {ι : Type} [DecidableEq ι] {profiles : ι → GitHub.Profile} {emails : ι → List Email}
  {x x' : Accounts} {es : List (Event services ι)}
  {now : ι → Routine services (Except Error Identity)}

/-- The address to use is what a single pass finds that keeps the best so far: nothing just where
there is no address, else the earliest of those that rank highest; an address more behind the others
changes it just if it ranks higher. The first sign-on through an account stores it for the user, if
the identity has addresses; and so it is stored for every new user, whoever else signs on meanwhile
and whichever calls fail. -/
theorem earliest_best_recorded
    (run : Run MayFail (fun k => resolveIdentity (profiles k) (emails k)) x es now x')
    (list : List Email) :
    Email.primary? list = list.foldl Email.better none ∧
    (Email.primary? list = none ↔ list = []) ∧
    (∀ e, Email.primary? list = some e ↔
      ∃ before after, list = before ++ e :: after ∧ Email.Leads before e after) ∧
    (∀ before e after, list = before ++ e :: after → Email.Leads before e after →
      Email.primaryIndex? list = some before.length) ∧
    (∀ e next, Email.primary? list = some e →
      (Email.primary? (list ++ [next]) = some e ↔ next.rank ≤ e.rank)) ∧
    (∀ (s : Surroundings) (clock : Nat → Moment) (y : Timed) (p : GitHub.Profile),
      (∀ u ∈ y.memory.users.rows, u.account ≠ p.account) → ∃ i u y',
        (resolveIdentity p list).run (Timed.answer s clock) y = (.ok i, y') ∧ IsUserOf p i u ∧
        u ∈ y'.memory.users.rows ∧ ∀ v ∈ y'.memory.users.rows, v.account = p.account → v = u) ∧
    ∀ u ∈ x'.users.rows, u ∈ x.users.rows ∨
      ∃ k i, Resolved k es (profiles k) i ∧ IsUserOf (profiles k) i u := by
  refine ⟨Email.primary?_eq_foldl list, Email.primary?_eq_none, fun _ => Email.primary?_eq_some,
    ?_, fun _ _ => Email.primary?_concat_iff, fun _ _ _ _ h => run_resolveIdentity_first h list,
    fun u hu => ?_⟩
  · rintro before e after rfl lead
    exact lead.primaryIndex?
  · refine (usersResolved_of_run run u hu).imp_right ?_
    rintro ⟨k, i, id, m, hi, rfl⟩
    exact ⟨k, i, hi, isUserOf_newUser ..⟩

end

/-- A verified address and two primary ones. -/
def sampleAddresses : List Email :=
  [⟨"a@example.com", true, false⟩, ⟨"b@example.com", false, true⟩, ⟨"c@example.com", true, true⟩]

/-- The end of a first sign-on with these addresses, in an empty memory. -/
def sampleFirst : Except Error Identity × Timed :=
  (resolveIdentity sampleProfile sampleAddresses).run
    (Timed.answer sampleSurroundings fun _ => .ofSeconds 60) ⟨.empty, 0⟩

/-- Of two primary addresses the earlier is recorded, though only the later is verified. -/
theorem earliest_best_recorded_sample :
    sampleFirst.2.memory.users.rows.map (·.email) = [some "b@example.com"] ∧
      (∃ i u, sampleFirst.1 = .ok i ∧ IsUserOf sampleProfile i u ∧
        u ∈ sampleFirst.2.memory.users.rows) ∧
      Email.primaryIndex? sampleAddresses = some 1 ∧
      Email.primary? (sampleAddresses ++ [⟨"d@example.com", true, true⟩]) =
        some ⟨"b@example.com", false, true⟩ := by
  have answers (c : Call) (m : Memory) : ∃ t, MayFail t c (Memory.answer sampleSurroundings c m).1
      m.accounts (Memory.answer sampleSurroundings c m).2.accounts :=
    ⟨_, mayFail_answer (by decide) c m⟩
  obtain ⟨es, run⟩ := Run.alone answers (resolveIdentity sampleProfile sampleAddresses) .empty
  have lead : Email.Leads [⟨"a@example.com", true, false⟩] ⟨"b@example.com", false, true⟩
      [⟨"c@example.com", true, true⟩] := ⟨by decide, by decide⟩
  obtain ⟨-, -, leads, place, behind, alone, -⟩ := earliest_best_recorded run sampleAddresses
  have chosen := (leads _).mpr ⟨_, _, rfl, lead⟩
  obtain ⟨i, u, y, hend, huser, hu, -⟩ := alone sampleSurroundings (fun _ => .ofSeconds 60)
    ⟨.empty, 0⟩ sampleProfile (fun _ hu => by cases hu)
  have hend : sampleFirst = (.ok i, y) := hend
  refine ⟨by decide +kernel, ⟨i, u, ?_, huser, ?_⟩, place _ _ _ rfl lead, ?_⟩
  · rw [hend]
  · rw [hend]
    exact hu
  · exact (behind _ ⟨"d@example.com", true, true⟩ chosen).mpr (by decide)

end Service
end SignOn
