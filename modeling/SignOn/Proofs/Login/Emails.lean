import SignOn.Proofs.Email
import SignOn.Proofs.Login.Course
import SignOn.Proofs.Store.Requests
import SignOn.Proofs.Text.Blank

/-!
Blank addresses. Identities are kept free of them on every way into the stores, whoever else signs
on meanwhile. Users are not: where an identity has no address, the profile's own is taken over as it
is.
-/
namespace SignOn

open Login Store

/-! ### Addresses -/

namespace Email

/-- Something can be seen of an address. -/
def NotBlank (e : Email) : Prop := Text.isBlankText e.address = false

end Email

/-- An identity without a blank address. -/
def Identity.NoBlank (i : Identity) : Prop := ∀ e ∈ i.emails, e.NotBlank

/-- An address that is there, but of which nothing can be seen. -/
def IsBlankAddress (email : Option String) : Prop :=
  ∃ a, email = some a ∧ Text.isBlankText a = true

namespace Service

variable {p : GitHub.Profile} {i : Identity} {emails : List Email}

/-- A new identity has no blank address if the provider lists none: that of the profile is looked
at before it stands in. -/
theorem noBlank_candidate (listed : ∀ e ∈ emails, e.NotBlank) (id : Uuid) :
    (candidate p emails id).NoBlank := by
  intro e he
  change e ∈ candidateEmails p emails at he
  unfold candidateEmails at he
  split at he
  next a ha =>
    split at he
    next => cases he
    next hblank =>
      obtain rfl := List.mem_singleton.mp he
      change Text.isBlankText (Text.trim a) = false
      rw [Text.isBlankText_trim]
      exact Bool.not_eq_true _ ▸ hblank
  next => exact listed e he

/-- The user of an identity without blank addresses has a blank one just if the identity has none
at all and that of the profile is blank. -/
theorem isBlankAddress_userEmail (stored : i.NoBlank) :
    IsBlankAddress (userEmail p i) ↔ i.emails = [] ∧ IsBlankAddress p.email := by
  unfold userEmail
  cases h : Email.primary? i.emails with
  | none => simp only [Email.primary?_eq_none.mp h, true_and]
  | some e =>
    have hblank : Text.isBlankText e.address = false := stored e (Email.mem_of_primary? h)
    constructor
    · rintro ⟨a, ha, hb⟩
      obtain rfl := Option.some.inj ha
      rw [hblank] at hb
      cases hb
    · rintro ⟨hnone, -⟩
      rw [Email.primary?_eq_none.mpr hnone] at h
      cases h

/-! ### What resolving an identity asks -/

section
variable {ι : Type} (k : ι) (p : GitHub.Profile) (emails : List Email)

/-- The stores are asked for the identity of the profile's account, then perhaps to store one that
is made of the addresses, and to store a user of the one that was answered. -/
def resolveAsks : List (Event services ι) → Call → Prop
  | _, .findIdentity a => a = p.account
  | _, .createIdentity i => ∃ id, i = candidate p emails id
  | h, .createUser u => ∃ i id m, Resolved k h p i ∧ u = newUser p i id m
  | _, .now | _, .drawId => True
  | _, _ => False

/-- What is answered in the end was answered by the stores. -/
def resolveEnds (h : List (Event services ι)) (r : Except Error Identity) : Prop :=
  ∀ i, r = .ok i → Resolved k h p i

variable {k p emails}

theorem recordUser_asks {h : List (Event services ι)} (hi : Resolved k h p i) :
    (recordUser p i).Obeys k (resolveAsks k p emails) (resolveEnds k p) h := by
  simp only [recordUser, ask, Routine.call, Routine.obeys_bind, Routine.Obeys]
  refine ⟨trivial, fun t id => ⟨trivial, fun t' m => ⟨?_, fun t'' stored => ?_⟩⟩⟩
  · exact ⟨i, id, m, hi.mono (by simp), rfl⟩
  · cases stored with
    | error e =>
      intro j hj
      cases hj
    | ok u =>
      intro j hj
      cases hj
      exact hi.mono (by simp)

theorem resolveIdentity_asks (h : List (Event services ι)) :
    (resolveIdentity p emails).Obeys k (resolveAsks k p emails) (resolveEnds k p) h := by
  simp only [resolveIdentity, ask, Routine.call, Routine.obeys_bind, Routine.Obeys]
  refine ⟨rfl, fun t found => ?_⟩
  cases found with
  | error e =>
    intro i hi
    cases hi
  | ok found =>
    cases found with
    | some i => exact recordUser_asks (.inl ⟨t, by simp⟩)
    | none =>
      simp only [Routine.obeys_bind, Routine.Obeys]
      refine ⟨trivial, fun t' id => ⟨⟨id, rfl⟩, fun t'' stored => ?_⟩⟩
      cases stored with
      | error e =>
        intro i hi
        cases hi
      | ok i => exact recordUser_asks (.inr ⟨t'', candidate p emails id, rfl, by simp⟩)

end

/-! ### Runs -/

section
variable {ι : Type} [DecidableEq ι] {profiles : ι → GitHub.Profile} {emails : ι → List Email}
  {before x x' : Accounts} {es : List (Event services ι)} {k : ι} {t : Moment} {c : Call}
  {a : c.Answer}

/-- No identity that is stored or was answered has a blank address, and the new users are those of
identities that were answered. -/
structure Tidy (profiles : ι → GitHub.Profile) (before : Accounts) (es : List (Event services ι))
    (x : Accounts) : Prop where
  identities : ∀ i ∈ x.identities.rows, i.NoBlank
  resolved : ∀ k i, Resolved k es (profiles k) i → i.NoBlank
  users : ∀ u ∈ x.users.rows, u ∈ before.users.rows ∨
    ∃ k i id m, Resolved k es (profiles k) i ∧ u = newUser (profiles k) i id m

theorem mem_of_answer_identities {i : Identity} (answered : MayFail t c a x x')
    (hi : i ∈ x'.identities.rows) : c = .createIdentity i ∨ i ∈ x.identities.rows := by
  rcases stores_of_answer answered with rfl | ⟨j, rfl, rfl⟩ | ⟨u, rfl, rfl⟩
  · exact .inr hi
  · exact (Identities.mem_of_create hi).imp_left fun h => by rw [h]
  · exact .inr hi

theorem mem_of_answer_users {u : User} (answered : MayFail t c a x x')
    (hu : u ∈ x'.users.rows) : c = .createUser u ∨ u ∈ x.users.rows := by
  rcases stores_of_answer answered with rfl | ⟨j, rfl, rfl⟩ | ⟨v, rfl, rfl⟩
  · exact .inr hu
  · exact .inr hu
  · exact (Users.mem_of_create hu).imp_left fun h => by rw [h]

/-- Who is answered an identity is answered one that is stored, or the one that they brought. -/
theorem answered_identity {i j : Identity} (answered : MayFail t (.createIdentity j) (.ok i) x x') :
    i = j ∨ i ∈ x.identities.rows := by
  rcases answered with ⟨h, -⟩ | ⟨⟨e, h⟩, -⟩
  · obtain rfl := Except.ok.inj h
    rw [Identities.create]
    cases hexisting : x.identities.existing? j with
    | none => exact .inl rfl
    | some i =>
      refine .inr ?_
      unfold Identities.existing? at hexisting
      split at hexisting
      next => exact List.mem_of_find?_eq_some hexisting
      next => exact List.mem_of_find?_eq_some hexisting
  · cases h

/-- The users that were not there before are those of identities that were answered. -/
def UsersResolved (profiles : ι → GitHub.Profile) (before : Accounts)
    (es : List (Event services ι)) (x : Accounts) : Prop :=
  ∀ u ∈ x.users.rows, u ∈ before.users.rows ∨
    ∃ k i id m, Resolved k es (profiles k) i ∧ u = newUser (profiles k) i id m

theorem UsersResolved.step (h : UsersResolved profiles before es x)
    (asks : resolveAsks k (profiles k) (emails k) (history k es) c)
    (answered : MayFail t c a x x') :
    UsersResolved profiles before (es ++ [⟨k, t, c, a⟩]) x' := by
  intro u hu
  rcases mem_of_answer_users answered hu with rfl | hu
  · obtain ⟨i, id, m, hi, rfl⟩ := asks
    have hi : Resolved k es (profiles k) i := hi.mono (List.filter_subset_self _)
    exact .inr ⟨k, i, id, m, hi.mono (List.subset_append_left ..), rfl⟩
  · rcases h u hu with hu | ⟨j, i, id, m, hi, rfl⟩
    · exact .inl hu
    · exact .inr ⟨j, i, id, m, hi.mono (List.subset_append_left ..), rfl⟩

theorem Tidy.step (listed : ∀ k, ∀ e ∈ emails k, e.NotBlank) (h : Tidy profiles before es x)
    (asks : resolveAsks k (profiles k) (emails k) (history k es) c)
    (answered : MayFail t c a x x') : Tidy profiles before (es ++ [⟨k, t, c, a⟩]) x' := by
  have grown {j : ι} {i : Identity} (hi : Resolved j es (profiles j) i) :
      Resolved j (es ++ [⟨k, t, c, a⟩]) (profiles j) i := hi.mono (by simp)
  have brought {i : Identity} (hc : c = .createIdentity i) : i.NoBlank := by
    subst hc
    obtain ⟨id, rfl⟩ := asks
    exact noBlank_candidate (listed k) id
  refine ⟨fun i hi => ?_, fun j i hi => ?_, fun u hu => ?_⟩
  · rcases mem_of_answer_identities answered hi with hc | hi
    · exact brought hc
    · exact h.identities i hi
  · rcases hi.concat with hi | ⟨t', he⟩ | ⟨t', b, -, he⟩
    · exact h.resolved j i hi
    · cases he
      obtain ⟨hrow, -⟩ := found_of_answer answered
      obtain ⟨-, rfl⟩ := answered
      exact h.identities i hrow
    · cases he
      rcases answered_identity answered with rfl | hrow
      · exact brought rfl
      · exact h.identities i hrow
  · have users : UsersResolved profiles before es x := h.users
    exact users.step asks answered u hu

theorem usersResolved_of_run {now : ι → Routine services (Except Error Identity)}
    (run : Run MayFail (fun k => resolveIdentity (profiles k) (emails k)) x es now x') :
    UsersResolved profiles x es x' := by
  refine run.invariant (fun k => resolveIdentity_asks []) (fun u hu => .inl hu) ?_
  intro es k t c a y y' asks answered users
  exact users.step asks answered

theorem tidy_of_run {now : ι → Routine services (Except Error Identity)}
    (listed : ∀ k, ∀ e ∈ emails k, e.NotBlank) (stored : ∀ i ∈ x.identities.rows, i.NoBlank)
    (run : Run MayFail (fun k => resolveIdentity (profiles k) (emails k)) x es now x') :
    Tidy profiles x es x' := by
  refine run.invariant (fun k => resolveIdentity_asks []) ⟨stored, ?_, fun u hu => .inl hu⟩
    fun _ _ _ _ _ _ _ asks answered h => h.step listed asks answered
  rintro k i (⟨t, hi⟩ | ⟨t, j, -, hi⟩)
  · cases hi
  · cases hi

/-- Where the provider lists no blank address and no identity has one, none gets one, whoever else
resolves an identity meanwhile and whichever calls fail. A new user gets one just if the identity
has no address at all and that of the profile is blank, so none does where no profile's is. -/
theorem blank_only_from_profile {now : ι → Routine services (Except Error Identity)}
    (run : Run MayFail (fun k => resolveIdentity (profiles k) (emails k)) x es now x')
    (listed : ∀ k, ∀ e ∈ emails k, e.NotBlank) (stored : ∀ i ∈ x.identities.rows, i.NoBlank) :
    (∀ i ∈ x'.identities.rows, i.NoBlank) ∧ (∀ k i, now k = .done (.ok i) → i.NoBlank) ∧
    (∀ u ∈ x'.users.rows, u ∈ x.users.rows ∨ ∃ k i, Resolved k es (profiles k) i ∧
      u.identityId = i.id ∧
      (IsBlankAddress u.email ↔ i.emails = [] ∧ IsBlankAddress (profiles k).email)) ∧
    ((∀ k, ¬ IsBlankAddress (profiles k).email) →
      ∀ u ∈ x'.users.rows, u ∈ x.users.rows ∨ ¬ IsBlankAddress u.email) := by
  have tidy := tidy_of_run listed stored run
  have users : ∀ u ∈ x'.users.rows, u ∈ x.users.rows ∨ ∃ k i, Resolved k es (profiles k) i ∧
      u.identityId = i.id ∧
      (IsBlankAddress u.email ↔ i.emails = [] ∧ IsBlankAddress (profiles k).email) := by
    intro u hu
    rcases tidy.users u hu with hu | ⟨k, i, id, m, hi, rfl⟩
    · exact .inl hu
    · exact .inr ⟨k, i, hi, rfl, isBlankAddress_userEmail (tidy.resolved k i hi)⟩
  refine ⟨tidy.identities, fun k i hk => ?_, users, fun shown u hu => ?_⟩
  · have hends := run.ended (fun k => resolveIdentity_asks []) hk
    exact tidy.resolved k i ((hends i rfl).mono (List.filter_subset_self _))
  · refine (users u hu).imp_right ?_
    rintro ⟨k, i, -, -, hblank⟩ hu
    exact shown k (hblank.mp hu).2

end

/-- The sample's newcomer, with an address in the profile. -/
def profileWith (email : String) : GitHub.Profile := { sampleProfile with email := some email }

/-- The memory after an identity was resolved for a profile, of a person whom nobody knew and of
whom the provider lists no addresses. -/
def resolvedAlone (p : GitHub.Profile) : Memory :=
  ((resolveIdentity p []).run (Memory.answer sampleSurroundings) .empty).2

/-- White space around the profile's address is taken off. -/
theorem blank_only_from_profile_sample :
    (resolvedAlone (profileWith " me@example.com ")).users.rows.map (·.email) =
        [some "me@example.com"] ∧
      ∀ u ∈ (resolvedAlone (profileWith " me@example.com ")).users.rows,
        ¬ IsBlankAddress u.email := by
  have answers (c : Call) (m : Memory) : ∃ t, MayFail t c (Memory.answer sampleSurroundings c m).1
      m.accounts (Memory.answer sampleSurroundings c m).2.accounts :=
    ⟨_, mayFail_answer (by decide) c m⟩
  obtain ⟨es, run⟩ :=
    Run.alone answers (resolveIdentity (profileWith " me@example.com ") []) .empty
  have shown : ¬ IsBlankAddress (profileWith " me@example.com ").email := by
    rintro ⟨a, ha, hblank⟩
    obtain rfl := Option.some.inj ha
    exact absurd hblank (by decide)
  obtain ⟨-, -, -, users⟩ :=
    blank_only_from_profile run (fun _ _ he => by cases he) (fun _ hi => by cases hi)
  refine ⟨by decide +kernel, fun u hu => ?_⟩
  exact (users (fun _ => shown) u hu).resolve_left fun hu => by cases hu

/-- A user with a blank address, beside an identity that was kept free of it. -/
theorem blank_address_taken_over :
    (resolvedAlone (profileWith "  ")).identities.rows.map (·.emails) = [[]] ∧
      ∃ u ∈ (resolvedAlone (profileWith "  ")).users.rows, IsBlankAddress u.email := by
  refine ⟨by decide +kernel, newUser (profileWith "  ") (candidate (profileWith "  ") [] .nil) .nil
    (.ofSeconds 60), by decide +kernel, "  ", rfl, by decide⟩

end Service
end SignOn
