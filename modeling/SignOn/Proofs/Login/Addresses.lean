import SignOn.Proofs.GitHub.Question
import SignOn.Proofs.Login.Course

/-!
What becomes of a sign-on does not hang on the addresses that the provider lists. Two second visits
that differ in the answer to that one question end alike, with the same token, and leave the same
records but for the addresses of an identity and of a user that they have just made.
-/
namespace SignOn

open Login Store

/-! ### Memory by a clock that goes on -/

namespace Store

/-- Memory with the number of calls that it has answered. -/
structure Timed where
  memory : Memory
  calls : Nat

/-- Answers each call at the moment that a clock tells after so many calls. -/
def Timed.answer (s : Surroundings) (clock : Nat → Moment) (c : Call) (x : Timed) :
    c.Answer × Timed :=
  let (a, m) := x.memory.answer { s with now := clock x.calls } c
  (a, ⟨m, x.calls + 1⟩)

/-- By a clock that stands still it is the memory that answers. -/
theorem Timed.run_still {α : Type} (s : Surroundings) (r : Routine services α) (x : Timed) :
    ∃ calls, r.run (Timed.answer s fun _ => s.now) x =
      ((r.run (Memory.answer s) x.memory).1, ⟨(r.run (Memory.answer s) x.memory).2, calls⟩) := by
  induction r generalizing x with
  | done a => exact ⟨x.calls, rfl⟩
  | ask c next ih => exact ih _ ⟨_, x.calls + 1⟩

/-- Surroundings that may differ in what the provider answers about addresses, and in nothing
else but the time. -/
structure Surroundings.SameButAddresses (s s' : Surroundings) : Prop where
  life : s'.life = s.life
  registration : s'.registration = s.registration
  randomState : s'.randomState = s.randomState
  randomId : s'.randomId = s.randomId
  exchange : ∀ code, (GitHub.exchange s.registration code).ask s'.carry =
    (GitHub.exchange s.registration code).ask s.carry
  profile : ∀ token, (GitHub.profile s.registration token).ask s'.carry =
    (GitHub.profile s.registration token).ask s.carry

theorem Timed.answer_same {s s' : Surroundings} (same : s.SameButAddresses s')
    (clock : Nat → Moment) {c : Call} (hc : ∀ token, c ≠ .addresses token) (x : Timed) :
    Timed.answer s' clock c x = Timed.answer s clock c x := by
  cases c with
  | addresses token => exact absurd rfl (hc token)
  | drawState => simp only [Timed.answer, Memory.answer, same.randomState]
  | drawId => simp only [Timed.answer, Memory.answer, same.randomId]
  | savePending state p => simp only [Timed.answer, Memory.answer, same.life]
  | exchange code => simp only [Timed.answer, Memory.answer, same.registration, same.exchange]
  | profile token => simp only [Timed.answer, Memory.answer, same.registration, same.profile]
  | _ => rfl

/-- The request for the addresses of a person. -/
def IsAddressesRequest (r : Config.Registration) (request : GitHub.Request) : Prop :=
  request.method = "GET" ∧
    Url.parse? (Text.trimEnd '/' r.apiUri ++ "/" ++ "user/emails") = some request.url

instance (r : Config.Registration) (request : GitHub.Request) :
    Decidable (IsAddressesRequest r request) := inferInstanceAs (Decidable (_ ∧ _))

theorem exchange_request {r : Config.Registration} {code : String} {request : GitHub.Request}
    (h : (GitHub.exchange r code).request? = some request) : request.method = "POST" :=
  congrArg GitHub.Request.method (GitHub.request?_eq_some.mp h).2.2.2

theorem profile_request {r : Config.Registration} {token : String} {request : GitHub.Request}
    (h : (GitHub.profile r token).request? = some request) :
    Url.parse? (Text.trimEnd '/' r.apiUri ++ "/" ++ "user") = some request.url := by
  unfold GitHub.profile GitHub.record at h
  dsimp only at h
  exact (GitHub.request?_eq_some.mp h).1

/-- Providers that answer all requests alike but the one for addresses, where that is another
request than the one for the profile. -/
theorem sameButAddresses_of_carry {s : Surroundings} {carry : GitHub.Carrier}
    (apart : Url.parse? (Text.trimEnd '/' s.registration.apiUri ++ "/" ++ "user") ≠
      Url.parse? (Text.trimEnd '/' s.registration.apiUri ++ "/" ++ "user/emails"))
    (h : ∀ r, ¬ IsAddressesRequest s.registration r → carry r = s.carry r) :
    s.SameButAddresses { s with carry := carry } where
  life := rfl
  registration := rfl
  randomState := rfl
  randomId := rfl
  exchange code := by
    apply GitHub.ask_congr
    intro r hr
    apply h
    rintro ⟨hget, -⟩
    exact absurd ((exchange_request hr).symm.trans hget) (by decide)
  profile token := by
    apply GitHub.ask_congr
    intro r hr
    apply h
    rintro ⟨-, hurl⟩
    rw [profile_request hr, hurl] at apart
    exact apart rfl

/-- Memories that hold the same, but perhaps for the addresses of one identity and of one user that
were not there before. -/
structure Memory.SameButNewAddresses (before : Accounts) (m m' : Memory) : Prop where
  pendings : m'.pendings = m.pendings
  draws : m'.draws = m.draws
  identities : m'.identities = m.identities ∨ ∃ (a : Account) (i : Identity) (emails : List Email),
    i.external = some a ∧ before.identities.find a = none ∧
    m.identities = ⟨put (·.id) i before.identities.rows⟩ ∧
    m'.identities = ⟨put (·.id) { i with emails := emails } before.identities.rows⟩
  users : m'.users = m.users ∨ ∃ (u : User) (email : Option String),
    before.users.existing? u = none ∧ m.users = ⟨put (·.id) u before.users.rows⟩ ∧
    m'.users = ⟨put (·.id) { u with email := email } before.users.rows⟩

theorem Memory.sameButNewAddresses_refl (before : Accounts) (m : Memory) :
    m.SameButNewAddresses before m := ⟨rfl, rfl, .inl rfl, .inl rfl⟩

end Store

/-! ### Storing -/

namespace Store

variable {s : Surroundings} {clock : Nat → Moment} {x : Timed}

theorem run_findIdentity (a : Account) : (ask (.findIdentity a)).run (Timed.answer s clock) x =
    (.ok (x.memory.identities.find a), ⟨x.memory, x.calls + 1⟩) := rfl

theorem run_drawId : (ask .drawId).run (Timed.answer s clock) x =
    (s.randomId x.memory.draws, ⟨x.memory.drawn, x.calls + 1⟩) := rfl

theorem run_now : (ask .now).run (Timed.answer s clock) x =
    (clock x.calls, ⟨x.memory, x.calls + 1⟩) := rfl

theorem run_createIdentity {i : Identity} (h : x.memory.identities.existing? i = none) :
    (ask (.createIdentity i)).run (Timed.answer s clock) x =
      (.ok i, ⟨{ x.memory with identities := ⟨put (·.id) i x.memory.identities.rows⟩ },
        x.calls + 1⟩) := by
  have hcreate : x.memory.identities.create i =
      (i, ⟨put (·.id) i x.memory.identities.rows⟩) := by rw [Identities.create, h]
  have hrun : (ask (.createIdentity i)).run (Timed.answer s clock) x =
      (.ok (x.memory.identities.create i).1,
        ⟨{ x.memory with identities := (x.memory.identities.create i).2 }, x.calls + 1⟩) := rfl
  rw [hrun, hcreate]

/-- Whether a user is stored does not hang on their address. -/
theorem create_email (users : Users) (u : User) (email : Option String) :
    (users.create { u with email := email }).2 = (users.create u).2 ∨
      users.existing? u = none ∧ (users.create u).2 = ⟨put (·.id) u users.rows⟩ ∧
        (users.create { u with email := email }).2 =
          ⟨put (·.id) { u with email := email } users.rows⟩ := by
  have hsame : users.existing? { u with email := email } = users.existing? u := rfl
  cases h : users.existing? u with
  | some v => exact .inl (by rw [Users.create, Users.create, hsame, h])
  | none => exact .inr ⟨rfl, by rw [Users.create, h], by rw [Users.create, hsame, h]⟩

end Store

/-! ### Two visits -/

namespace Service

variable {s s' : Surroundings} {clock : Nat → Moment} {p : GitHub.Profile} {x x' : Timed}

/-- The user of an identity is stored at once, or is there already. -/
theorem run_recordUser (i : Identity) : (recordUser p i).run (Timed.answer s clock) x =
    (.ok i, ⟨{ x.memory.drawn with users := (x.memory.users.create
      (newUser p i (s.randomId x.memory.draws) (clock (x.calls + 1)))).2 }, x.calls + 3⟩) := rfl

theorem run_resolveIdentity_known {i : Identity} (h : x.memory.identities.find p.account = some i)
    (emails : List Email) : (resolveIdentity p emails).run (Timed.answer s clock) x =
      (recordUser p i).run (Timed.answer s clock) ⟨x.memory, x.calls + 1⟩ := by
  rw [resolveIdentity, Routine.run_bind, run_findIdentity, h]

/-- A newcomer's identity is made of the addresses, and then stored before its user. -/
theorem run_resolveIdentity_new (h : x.memory.identities.find p.account = none)
    (emails : List Email) {i : Identity}
    (hi : i = candidate p emails (s.randomId x.memory.draws)) :
    (resolveIdentity p emails).run (Timed.answer s clock) x =
      (recordUser p i).run (Timed.answer s clock) ⟨{ x.memory.drawn with
        identities := ⟨put (·.id) i x.memory.identities.rows⟩ }, x.calls + 3⟩ := by
  subst hi
  have hexisting : x.memory.identities.existing?
      (candidate p emails (s.randomId x.memory.draws)) = none := h
  rw [resolveIdentity, Routine.run_bind, run_findIdentity, h]
  dsimp only
  rw [Routine.run_bind, run_drawId]
  dsimp only
  rw [Routine.run_bind, run_createIdentity (x := ⟨x.memory.drawn, x.calls + 1 + 1⟩) hexisting]
  rfl

/-- How two visits that were alike may have ended: in the same way after as many calls. -/
structure Alike {α : Type} (before : Accounts) (r r' : α × Timed) : Prop where
  result : r'.1 = r.1
  calls : r'.2.calls = r.2.calls
  memory : r.2.memory.SameButNewAddresses before r'.2.memory

theorem alike_refl {α : Type} (before : Accounts) (r : α × Timed) : Alike before r r :=
  ⟨rfl, rfl, Memory.sameButNewAddresses_refl _ _⟩

/-- Whatever the addresses are, the same person gets the same identity, but for them. -/
theorem resolveIdentity_alike (same : s.SameButAddresses s') (emails emails' : List Email) :
    ∃ i kept x₁ x₂, (resolveIdentity p emails).run (Timed.answer s clock) x = (.ok i, x₁) ∧
      (resolveIdentity p emails').run (Timed.answer s' clock) x =
        (.ok { i with emails := kept }, x₂) ∧
      x₂.calls = x₁.calls ∧ x₁.memory.SameButNewAddresses x.memory.accounts x₂.memory := by
  cases h : x.memory.identities.find p.account with
  | some i =>
    rw [run_resolveIdentity_known h, run_resolveIdentity_known h, run_recordUser, run_recordUser,
      same.randomId]
    exact ⟨i, i.emails, _, _, rfl, rfl, rfl, Memory.sameButNewAddresses_refl _ _⟩
  | none =>
    obtain ⟨i, hi⟩ : ∃ i, i = candidate p emails (s.randomId x.memory.draws) := ⟨_, rfl⟩
    have hexternal : i.external = some p.account := by rw [hi]; rfl
    have hi' : { i with emails := candidateEmails p emails' } =
        candidate p emails' (s'.randomId x.memory.draws) := by rw [hi, same.randomId]; rfl
    rw [run_resolveIdentity_new h emails hi, run_resolveIdentity_new h emails' hi', run_recordUser,
      run_recordUser, same.randomId]
    refine ⟨i, candidateEmails p emails', _, _, rfl, rfl, rfl, rfl, rfl, ?_, ?_⟩
    · exact .inr ⟨p.account, i, _, hexternal, h, rfl, rfl⟩
    · rcases create_email x.memory.users
          (newUser p i (s.randomId x.memory.drawn.draws) (clock (x.calls + 3 + 1)))
          (userEmail p { i with emails := candidateEmails p emails' }) with
        heq | ⟨hnone, hput, hput'⟩
      · exact .inl heq
      · exact .inr ⟨_, _, hnone, hput, hput'⟩

/-! ### The same end -/

variable {v : Service} {q : Query} {before : Accounts}

theorem run_issue_timed (i : Identity) : (v.issue i).run (Timed.answer s clock) x =
    (v.issued i (clock x.calls), ⟨x.memory, x.calls + 1⟩) := by
  rw [issue, Routine.run_bind, run_now, issued]
  dsimp only
  split
  next =>
    cases v.tokens.generate i (clock x.calls) with
    | ok token => rfl
    | error e => rfl
  next => rfl

/-- A token says nothing about addresses. -/
theorem issued_emails (i : Identity) (emails : List Email) (m : Moment) :
    v.issued { i with emails := emails } m = v.issued i m := rfl

/-- A call that is answered alike leaves what follows to decide. -/
theorem alike_ask {α : Type} (same : s.SameButAddresses s') {c : Call}
    (hc : ∀ token, c ≠ .addresses token) {f : c.Answer → Routine services α}
    (h : ∀ a x₁, Timed.answer s clock c x = (a, x₁) →
      Alike before ((f a).run (Timed.answer s clock) x₁) ((f a).run (Timed.answer s' clock) x₁)) :
    Alike before ((ask c >>= f).run (Timed.answer s clock) x)
      ((ask c >>= f).run (Timed.answer s' clock) x) := by
  have hask (t : Surroundings) : (ask c).run (Timed.answer t clock) x = Timed.answer t clock c x :=
    rfl
  rw [Routine.run_bind, Routine.run_bind, hask, hask, Timed.answer_same same clock hc]
  exact h _ _ rfl

theorem alike_addresses {α : Type} {token : String}
    {f : Except Error (List GitHub.Address) → Routine services α}
    (h : ∀ r r', Alike before
      ((f r).run (Timed.answer s clock) ⟨x.memory, x.calls + 1⟩)
      ((f r').run (Timed.answer s' clock) ⟨x.memory, x.calls + 1⟩)) :
    Alike before ((ask (.addresses token) >>= f).run (Timed.answer s clock) x)
      ((ask (.addresses token) >>= f).run (Timed.answer s' clock) x) := by
  rw [Routine.run_bind, Routine.run_bind]
  exact h _ _

/-- Once the addresses are there, whatever they are, the sign-on ends in one way. -/
theorem resolved_alike (same : s.SameButAddresses s') (hx : x.memory.accounts = before)
    (emails emails' : List Email) {f : Except Error Identity → Routine services Ending}
    (hf : ∀ i, f (.ok i) = v.issue i) :
    Alike before ((resolveIdentity p emails >>= f).run (Timed.answer s clock) x)
      ((resolveIdentity p emails' >>= f).run (Timed.answer s' clock) x) := by
  obtain ⟨i, kept, x₁, x₂, hrun, hrun', hcalls, hmemory⟩ :=
    resolveIdentity_alike (p := p) (x := x) same emails emails'
  rw [Routine.run_bind, Routine.run_bind, hrun, hrun', hf, hf, run_issue_timed, run_issue_timed,
    issued_emails, hcalls]
  exact ⟨rfl, rfl, hx ▸ hmemory⟩

theorem signOnWith_alike (same : s.SameButAddresses s') (hx : x.memory.accounts = before)
    (token : String) : Alike before ((v.signOnWith token).run (Timed.answer s clock) x)
      ((v.signOnWith token).run (Timed.answer s' clock) x) := by
  unfold signOnWith
  apply alike_ask same (by simp)
  intro profile x₁ hprofile
  have hx₁ : x₁.memory.accounts = before := by
    rw [← hx]
    exact congrArg (fun r => Memory.accounts r.2.memory) hprofile.symm
  cases profile with
  | error e => exact alike_refl _ _
  | ok p =>
    apply alike_addresses
    intro r r'
    apply resolved_alike (x := ⟨x₁.memory, x₁.calls + 1⟩) (v := v) same hx₁
    intro i
    rfl

theorem finish_alike (same : s.SameButAddresses s') (hx : x.memory.accounts = before) :
    Alike before ((v.finish q).run (Timed.answer s clock) x)
      ((v.finish q).run (Timed.answer s' clock) x) := by
  unfold finish
  split
  next => exact alike_refl _ _
  next =>
    dsimp only
    split
    next => exact alike_refl _ _
    next =>
      apply alike_ask same (by simp)
      intro exchanged x₁ hexchange
      cases exchanged with
      | error e => exact alike_refl _ _
      | ok token =>
        apply signOnWith_alike same
        rw [← hx]
        exact congrArg (fun r => Memory.accounts r.2.memory) hexchange.symm

theorem callback_alike (same : s.SameButAddresses s') :
    Alike x.memory.accounts ((v.callback q).run (Timed.answer s clock) x)
      ((v.callback q).run (Timed.answer s' clock) x) := by
  unfold callback
  dsimp only
  split
  next => exact alike_refl _ _
  next =>
    apply alike_ask same (by simp)
    intro taken x₁ htake
    have hx₁ : x₁.memory.accounts = x.memory.accounts :=
      congrArg (fun r => Memory.accounts r.2.memory) htake.symm
    split
    next p =>
      have hfinish : Alike x.memory.accounts ((v.finish q).run (Timed.answer s clock) x₁)
          ((v.finish q).run (Timed.answer s' clock) x₁) := finish_alike same hx₁
      rw [Routine.run_bind, Routine.run_bind]
      exact ⟨congrArg (Outcome.ofEnding (v.origin p)) hfinish.result, hfinish.calls, hfinish.memory⟩
    next => exact alike_refl _ _

/-- The addresses that the provider lists decide nothing. Two second visits to the same memory, at
the same times and with the same draws, where the provider answers alike but for the addresses (with
any list, a failure or not at all), end at the same place with the same token. The memories that
they leave differ at most in the addresses of an identity and of a user that were not there
before. -/
theorem addresses_decide_nothing (same : s.SameButAddresses s') (v : Service) (q : Query)
    (clock : Nat → Moment) (x : Timed) :
    ((v.callback q).run (Timed.answer s' clock) x).1 =
        ((v.callback q).run (Timed.answer s clock) x).1 ∧
      ((v.callback q).run (Timed.answer s clock) x).2.memory.SameButNewAddresses x.memory.accounts
        ((v.callback q).run (Timed.answer s' clock) x).2.memory :=
  ⟨(callback_alike same).result, (callback_alike same).memory⟩

/-- A provider that knows one person, and answers about their addresses as it is told to. -/
def sampleProvider (addresses : Option GitHub.Response) : GitHub.Carrier := fun r =>
  if IsAddressesRequest sample.registration r then addresses else sampleGitHub r

def sampleAnswering (addresses : Option GitHub.Response) : Surroundings :=
  { sampleSurroundings with carry := sampleProvider addresses }

theorem sampleAnswering_same (addresses addresses' : Option GitHub.Response) :
    (sampleAnswering addresses).SameButAddresses (sampleAnswering addresses') := by
  have apart : Url.parse? (Text.trimEnd '/' sample.registration.apiUri ++ "/" ++ "user") ≠
      Url.parse? (Text.trimEnd '/' sample.registration.apiUri ++ "/" ++ "user/emails") := by
    decide +kernel
  refine sameButAddresses_of_carry apart fun r hr => ?_
  have hr : ¬ IsAddressesRequest sample.registration r := hr
  change sampleProvider addresses' r = sampleProvider addresses r
  rw [sampleProvider, sampleProvider, if_neg hr, if_neg hr]

/-- One address, in a list. -/
def sampleList : GitHub.Response :=
  ⟨200, Text.Utf8.encode "[\x7b\"email\":\"a@example.com\",\"verified\":true\x7d]"⟩

/-- The end of a visit of the person whose record was kept, an hour long. -/
def sampleEnd (addresses : Option GitHub.Response) : Outcome × Timed :=
  (sample.callback ⟨some (stateText sampleState), some "code", none, none⟩).run
    (Timed.answer (sampleAnswering addresses) fun calls => .ofSeconds (60 + calls)) ⟨sampleKept, 0⟩

/-- A list of addresses and no answer about them make two identities, and one place to go to. -/
theorem addresses_decide_nothing_sample :
    (sampleEnd none).1 = (sampleEnd (some sampleList)).1 ∧
      (sampleEnd (some sampleList)).2.memory.identities.rows.map (·.emails) =
        [[⟨"a@example.com", true, false⟩]] ∧
      (sampleEnd none).2.memory.identities.rows.map (·.emails) = [[]] := by
  have same := sampleAnswering_same (some sampleList) none
  obtain ⟨ending, -⟩ := addresses_decide_nothing same sample
    ⟨some (stateText sampleState), some "code", none, none⟩ (fun calls => .ofSeconds (60 + calls))
    ⟨sampleKept, 0⟩
  exact ⟨ending, by decide +kernel, by decide +kernel⟩

end Service
end SignOn
