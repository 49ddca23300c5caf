import Mathlib.Tactic.Common
import SignOn.Login.Flow
import SignOn.Proofs.Interleaving
import SignOn.Proofs.Token.Subject
import SignOn.Proofs.Token.Text
import SignOn.Proofs.Url.Query
import SignOn.Store.Memory

/-!
The two visits of a sign-on as routines among others, and what each lives up to on its own: what it
asks, after which answers, and how it ends. Nothing is said here of who else asks in between.
-/
namespace SignOn

open Login

/-- What a person comes with: on the first visit perhaps a page, on the second a query. -/
inductive Login.Visit where
  | authorize (referrer : Option String)
  | callback (q : Query)

/-- The routine of a visit. -/
def Service.visit (s : Service) : Visit → Routine services Outcome
  | .authorize referrer => do return .ofDeparture (← s.authorize referrer)
  | .callback q => s.callback q

namespace Service

variable {ι : Type} (s : Service) (k : ι)

/-! ### States -/

theorem stateText_injective : Function.Injective stateText := by
  intro d d' h
  have h := congrArg (Text.Base64.decode? Text.Base64.urlSafe)
    (Token.Manager.asciiText_injective h)
  rwa [Text.Base64.decode?_encode Text.Base64.lawful_urlSafe,
    Text.Base64.decode?_encode Text.Base64.lawful_urlSafe, Option.some.injEq] at h

theorem stateText_ne_empty {d : List UInt8} (h : d ≠ []) : stateText d ≠ "" := fun hempty =>
  h (stateText_injective (hempty.trans (by decide)))

/-! ### The first visit -/

/-- A first visit draws a state and asks the time, and then has one record kept under that state,
for the page that it resolved. -/
def authorizeAsks (referrer : Option String) : List (Event services ι) → Call → Prop
  | h, .drawState => h = []
  | h, .now => ∃ t d, h = [⟨k, t, .drawState, d⟩]
  | h, .savePending state p => ∃ t₁ t₂ d m, h = [⟨k, t₁, .drawState, d⟩, ⟨k, t₂, .now, m⟩] ∧
      state = stateText d ∧ p = .of (s.redirects.resolve referrer) m
  | _, _ => False

/-- It ends after these three calls, at the address that the last answer leads to. -/
def authorizeEnds (referrer : Option String) (h : List (Event services ι)) (o : Outcome) : Prop :=
  ∃ t₁ t₂ t₃ d m saved,
    h = [⟨k, t₁, .drawState, d⟩, ⟨k, t₂, .now, m⟩,
      ⟨k, t₃, .savePending (stateText d) (.of (s.redirects.resolve referrer) m), saved⟩] ∧
    o = .ofDeparture (saved.map (s.departure (s.redirects.resolve referrer) (stateText d)))

theorem authorize_obeys (referrer : Option String) :
    (s.visit (.authorize referrer)).Obeys k (s.authorizeAsks k referrer)
      (s.authorizeEnds k referrer) [] := by
  simp only [visit, authorize, ask, Routine.call, Routine.obeys_bind, Routine.Obeys,
    Routine.obeys_pure]
  refine ⟨rfl, fun t₁ d => ⟨⟨t₁, d, rfl⟩, fun t₂ m => ⟨⟨t₁, t₂, d, m, rfl, rfl, rfl⟩, ?_⟩⟩⟩
  exact fun t₃ saved => ⟨t₁, t₂, t₃, d, m, saved, rfl, rfl⟩

/-- Once its record is saved a first visit is over. -/
theorem authorize_saved {s : Service} {k : ι} {referrer : Option String}
    {h : List (Event services ι)} {r : Routine services Outcome} {t : Moment} {state : String}
    {p : Pending} {saved : Option (Except Error Unit)}
    (obeys : r.Obeys k (s.authorizeAsks k referrer) (s.authorizeEnds k referrer) h)
    (he : ⟨k, t, .savePending state p, saved⟩ ∈ h) :
    r = .done (.ofDeparture (saved.map (s.departure (s.redirects.resolve referrer) state))) := by
  cases r with
  | done o =>
    obtain ⟨_, _, _, d, m, saved', rfl, rfl⟩ := obeys
    simp only [List.mem_cons, List.not_mem_nil, or_false] at he
    rcases he with he | he | he
    · cases he
    · cases he
    · cases he
      rfl
  | ask c next =>
    exfalso
    have hc := obeys.1
    cases c with
    | drawState => simp [show h = [] from hc] at he
    | now =>
      obtain ⟨_, _, rfl⟩ := hc
      simp at he
    | savePending =>
      obtain ⟨_, _, _, _, rfl, -⟩ := hc
      simp at he
    | _ => exact hc

/-! ### The second visit -/

/-- The record of a state was taken. -/
def Took (h : List (Event services ι)) (state : String) (p : Pending) : Prop :=
  ∃ t, ⟨k, t, .takePending state, .ok (some p)⟩ ∈ h

/-- The provider told the profile. -/
def Learnt (h : List (Event services ι)) (p : GitHub.Profile) : Prop :=
  ∃ t token, ⟨k, t, .profile token, .ok p⟩ ∈ h

/-- The identity of a profile's account was found, or answered when one was to be stored. -/
def Resolved (h : List (Event services ι)) (p : GitHub.Profile) (i : Identity) : Prop :=
  (∃ t, ⟨k, t, .findIdentity p.account, .ok (some i)⟩ ∈ h) ∨
  ∃ t j, j.external = some p.account ∧ ⟨k, t, .createIdentity j, .ok i⟩ ∈ h

/-- What is held of a drawn identifier after an event: it is there until it is put into a record. -/
def hold (held : Option Uuid) (e : Event services ι) : Option Uuid :=
  match e.call, e.answer with
  | .drawId, id => some (id : Uuid)
  | .createIdentity _, _ => none
  | .createUser _, _ => none
  | _, _ => held

/-- The identifier that was drawn and not yet put into a record. -/
def held (h : List (Event services ι)) : Option Uuid := h.foldl hold none

@[simp] theorem held_concat (h : List (Event services ι)) (e : Event services ι) :
    held (h ++ [e]) = hold (held h) e := by simp [held]

/-- A second visit takes a record first and once, learns one profile, and stores records only of
that profile's account, each under an identifier that it has drawn for it. -/
def callbackAsks (q : Query) : List (Event services ι) → Call → Prop
  | h, .takePending state => h = [] ∧ q.state = some state
  | h, .profile _ => ∀ p, ¬ Learnt k h p
  | h, .findIdentity a => ∃ p, Learnt k h p ∧ a = p.account
  | h, .createIdentity i => held h = some i.id ∧ ∃ p, Learnt k h p ∧ i.external = some p.account
  | h, .createUser u => held h = some u.id ∧ ∃ p i, Learnt k h p ∧ Resolved k h p i ∧
      u.identityId = i.id ∧ u.provider = p.account.provider ∧
      u.externalId = p.account.externalId
  | _, .savePending _ _ => False
  | _, .drawState => False
  | _, .loadIdentity _ => False
  | _, .now | _, .drawId | _, .exchange _ | _, .addresses _ => True

/-- A token is one for the identity that was resolved, issued at a time that was told; only a time
without a date ends a visit without an answer. -/
def Warrants (h : List (Event services ι)) : Ending → Prop
  | .token text => ∃ p i t m, Learnt k h p ∧ Resolved k h p i ∧ ⟨k, t, .now, m⟩ ∈ h ∧
    s.tokens.CanDate m ∧ s.tokens.generate i m = .ok text
  | .failure _ => True
  | .undated => ∃ t m, ⟨k, t, .now, m⟩ ∈ h ∧ ¬ s.tokens.CanDate m

/-- A visit whose state was not taken is rejected; any other ends at the page of the record. -/
def callbackEnds (h : List (Event services ι)) (o : Outcome) : Prop :=
  (o = .rejected ∧ ∀ state p, ¬ Took k h state p) ∨
  ∃ state p e, Took k h state p ∧ s.Warrants k h e ∧ o = .ofEnding (s.origin p) e

section
variable {s k} {h h' : List (Event services ι)} {p : GitHub.Profile} {i : Identity} {q : Query}

theorem Learnt.mono (hp : Learnt k h p) (hh : h ⊆ h') : Learnt k h' p := by
  obtain ⟨t, token, hp⟩ := hp
  exact ⟨t, token, hh hp⟩

theorem Resolved.mono (hi : Resolved k h p i) (hh : h ⊆ h') : Resolved k h' p i := by
  rcases hi with ⟨t, hi⟩ | ⟨t, j, hj, hi⟩
  · exact .inl ⟨t, hh hi⟩
  · exact .inr ⟨t, j, hj, hh hi⟩

/-- Who is resolved after one more event was so before, or it was that event that answered them. -/
theorem Resolved.concat {e : Event services ι} (hi : Resolved k (h ++ [e]) p i) :
    Resolved k h p i ∨ (∃ t, e = ⟨k, t, .findIdentity p.account, .ok (some i)⟩) ∨
      ∃ t j, j.external = some p.account ∧ e = ⟨k, t, .createIdentity j, .ok i⟩ := by
  rcases hi with ⟨t, hm⟩ | ⟨t, j, hj, hm⟩
  · rcases List.mem_append.mp hm with hm | hm
    · exact .inl (.inl ⟨t, hm⟩)
    · exact .inr (.inl ⟨t, (List.mem_singleton.mp hm).symm⟩)
  · rcases List.mem_append.mp hm with hm | hm
    · exact .inl (.inr ⟨t, j, hj, hm⟩)
    · exact .inr (.inr ⟨t, j, hj, (List.mem_singleton.mp hm).symm⟩)

theorem recordUser_obeys (hp : Learnt k h p) (hi : Resolved k h p i) :
    (recordUser p i).Obeys k (callbackAsks k q)
      (fun h' r => h ⊆ h' ∧ ∀ j, r = .ok j → j = i) h := by
  simp only [recordUser, ask, Routine.call, Routine.obeys_bind, Routine.Obeys]
  refine ⟨trivial, fun t id => ⟨trivial, fun t' m => ⟨?_, fun t'' stored => ?_⟩⟩⟩
  · refine ⟨?_, p, i, hp.mono ?_, hi.mono ?_, rfl, rfl, rfl⟩
    · rw [held_concat, held_concat]
      rfl
    · simp
    · simp
  · cases stored with
    | ok u => exact ⟨by simp, fun j hj => by cases hj; rfl⟩
    | error e => exact ⟨by simp, fun j hj => by cases hj⟩

theorem resolveIdentity_obeys (hp : Learnt k h p) (emails : List Email) :
    (resolveIdentity p emails).Obeys k (callbackAsks k q)
      (fun h' r => h ⊆ h' ∧ ∀ i, r = .ok i → Resolved k h' p i) h := by
  have record {g : List (Event services ι)} {i : Identity} (hg : h ⊆ g)
      (hi : Resolved k g p i) : (recordUser p i).Obeys k (callbackAsks k q)
        (fun h' r => h ⊆ h' ∧ ∀ i, r = .ok i → Resolved k h' p i) g :=
    (recordUser_obeys (hp.mono hg) hi).mono fun h' r hr =>
      ⟨List.Subset.trans hg hr.1, fun j hj => hr.2 j hj ▸ hi.mono hr.1⟩
  simp only [resolveIdentity, ask, Routine.call, Routine.obeys_bind, Routine.Obeys]
  refine ⟨⟨p, hp, rfl⟩, fun t found => ?_⟩
  cases found with
  | error e => exact ⟨by simp, fun i hi => by cases hi⟩
  | ok found =>
    cases found with
    | some i => exact record (by simp) (.inl ⟨t, by simp⟩)
    | none =>
      simp only [Routine.obeys_bind, Routine.Obeys]
      refine ⟨trivial, fun t' id => ⟨⟨?_, p, hp.mono ?_, rfl⟩, ?_⟩⟩
      · rw [held_concat]
        rfl
      · simp
      · intro t'' stored
        cases stored with
        | error e => exact ⟨by simp, fun i hi => by cases hi⟩
        | ok i => exact record (by simp) (.inr ⟨t'', candidate p emails id, rfl, by simp⟩)

theorem issue_obeys (hp : Learnt k h p) (hi : Resolved k h p i) :
    (s.issue i).Obeys k (callbackAsks k q) (fun h' e => h ⊆ h' ∧ s.Warrants k h' e) h := by
  simp only [issue, ask, Routine.call, Routine.obeys_bind, Routine.Obeys]
  refine ⟨trivial, fun t m => ?_⟩
  split
  next hd =>
    cases hg : s.tokens.generate i m with
    | ok text =>
      exact ⟨by simp, p, i, t, m, hp.mono (by simp), hi.mono (by simp), by simp, hd, hg⟩
    | error e => exact ⟨by simp, trivial⟩
  next hd => exact ⟨by simp, t, m, by simp, hd⟩

theorem signOnWith_obeys (accessToken : String) (hnew : ∀ p, ¬ Learnt k h p) :
    (s.signOnWith accessToken).Obeys k (callbackAsks k q)
      (fun h' e => h ⊆ h' ∧ s.Warrants k h' e) h := by
  simp only [signOnWith, ask, Routine.call, Routine.obeys_bind, Routine.Obeys]
  refine ⟨hnew, fun t profile => ?_⟩
  cases profile with
  | error e => exact ⟨by simp, trivial⟩
  | ok p =>
    simp only [Routine.obeys_bind, Routine.Obeys]
    refine ⟨trivial, fun t' addresses => ?_⟩
    have hp : Learnt k (h ++ [⟨k, t, .profile accessToken, .ok p⟩] ++
        [⟨k, t', .addresses accessToken, addresses⟩]) p := ⟨t, accessToken, by simp⟩
    refine (resolveIdentity_obeys hp _).mono fun g r hr => ?_
    cases r with
    | error e => exact ⟨List.Subset.trans (by simp) hr.1, trivial⟩
    | ok i =>
      refine (issue_obeys (hp.mono hr.1) (hr.2 i rfl)).mono fun h' e he => ?_
      exact ⟨List.Subset.trans (by simp) (List.Subset.trans hr.1 he.1), he.2⟩

theorem finish_obeys (hnew : ∀ p, ¬ Learnt k h p) :
    (s.finish q).Obeys k (callbackAsks k q) (fun h' e => h ⊆ h' ∧ s.Warrants k h' e) h := by
  unfold finish
  split
  · exact ⟨List.Subset.refl h, trivial⟩
  · simp only
    split
    · exact ⟨List.Subset.refl h, trivial⟩
    · simp only [ask, Routine.call, Routine.obeys_bind, Routine.Obeys]
      refine ⟨trivial, fun t exchanged => ?_⟩
      cases exchanged with
      | error e => exact ⟨by simp, trivial⟩
      | ok accessToken =>
        refine (signOnWith_obeys accessToken fun p hp => ?_).mono fun h' e he =>
          ⟨List.Subset.trans (by simp) he.1, he.2⟩
        obtain ⟨t', token, hp⟩ := hp
        simp only [List.mem_append, List.mem_singleton] at hp
        rcases hp with hp | hp
        · exact hnew p ⟨t', token, hp⟩
        · injection hp with _ _ hc
          cases hc

end

theorem callback_obeys (q : Query) :
    (s.visit (.callback q)).Obeys k (callbackAsks k q) (s.callbackEnds k) [] := by
  simp only [visit, callback]
  split
  next hq => exact .inl ⟨rfl, by simp [Took]⟩
  next hq =>
    have hstate : q.state = some (q.state.getD "") := by
      cases hs : q.state with
      | none => simp [hs] at hq
      | some state => rfl
    simp only [ask, Routine.call, Routine.obeys_bind, Routine.Obeys]
    refine ⟨⟨rfl, hstate⟩, fun t taken => ?_⟩
    have rejected (r : Call.Answer (.takePending (q.state.getD ""))) (hr : ∀ p, r ≠ .ok (some p)) :
        s.callbackEnds k [⟨k, t, .takePending (q.state.getD ""), r⟩] .rejected := by
      refine .inl ⟨rfl, fun state p hp => ?_⟩
      obtain ⟨t', hp⟩ := hp
      rw [List.mem_singleton] at hp
      injection hp with _ _ hc ha
      cases hc
      exact hr p ha.symm
    cases taken with
    | error e => exact rejected _ fun p hp => by cases hp
    | ok kept =>
      cases kept with
      | none => exact rejected _ fun p hp => by cases hp
      | some p =>
        simp only [Routine.obeys_bind]
        refine (finish_obeys fun p' hp' => ?_).mono fun h e he => ?_
        · obtain ⟨t', token, hp'⟩ := hp'
          simp only [List.nil_append, List.mem_singleton] at hp'
          injection hp' with _ _ hc
          cases hc
        · exact .inr ⟨q.state.getD "", p, e, ⟨t, he.1 (by simp)⟩, he.2, rfl⟩

/-! ### Either visit -/

def visitAsks : Visit → List (Event services ι) → Call → Prop
  | .authorize referrer => s.authorizeAsks k referrer
  | .callback q => callbackAsks k q

def visitEnds : Visit → List (Event services ι) → Outcome → Prop
  | .authorize referrer => s.authorizeEnds k referrer
  | .callback _ => s.callbackEnds k

theorem visit_obeys (v : Visit) : (s.visit v).Obeys k (s.visitAsks k v) (s.visitEnds k v) [] := by
  cases v with
  | authorize referrer => exact s.authorize_obeys k referrer
  | callback q => exact s.callback_obeys k q

/-- Only a first visit saves a record, under the state that it drew and of the page that it
resolved, and it has done nothing else so far but ask the time. -/
theorem visit_of_save {v : Visit} {h : List (Event services ι)} {state : String} {p : Pending}
    (asks : s.visitAsks k v h (.savePending state p)) :
    ∃ referrer t₁ t₂ d m, v = .authorize referrer ∧
      h = [⟨k, t₁, .drawState, d⟩, ⟨k, t₂, .now, m⟩] ∧ state = stateText d ∧
      p = .of (s.redirects.resolve referrer) m := by
  cases v with
  | authorize referrer =>
    obtain ⟨t₁, t₂, d, m, hh, hstate, hp⟩ := asks
    exact ⟨referrer, t₁, t₂, d, m, rfl, hh, hstate, hp⟩
  | callback q => exact asks.elim

/-- Only a second visit takes a record, before all else, and that of the state that it came with. -/
theorem visit_of_take {v : Visit} {h : List (Event services ι)} {state : String}
    (asks : s.visitAsks k v h (.takePending state)) :
    h = [] ∧ ∃ q, v = .callback q ∧ q.state = some state := by
  cases v with
  | authorize referrer => exact asks.elim
  | callback q => exact ⟨asks.1, q, rfl, asks.2⟩

/-- Who asks for a profile has learnt none. -/
theorem visit_of_profile {v : Visit} {h : List (Event services ι)} {token : String}
    (asks : s.visitAsks k v h (.profile token)) (p : GitHub.Profile) : ¬ Learnt k h p := by
  cases v with
  | authorize referrer => exact asks.elim
  | callback q => exact asks p

/-- A record leads back to the page that it was made of. -/
theorem origin_of {page : Url} (h : page.ReadsBack) (m : Moment) : s.origin (.of page m) = page := by
  unfold Url.ReadsBack at h
  simp only [origin, Pending.referrerUrl?, Pending.of, h, Option.getD_some]

/-! ### Visits that nothing comes between -/

section
variable {s k} [DecidableEq ι] {σ : Type} {rule : Rule services σ} {first x x₁ x₂ x₃ : σ}
  {start now : ι → Routine services Outcome} {es : List (Event services ι)} {t t₁ t₂ t₃ : Moment}

theorem run_authorize {referrer : Option String} {d : List UInt8} {m : Moment}
    {saved : Option (Except Error Unit)} (before : Run rule start first es now x)
    (hk : now k = s.visit (.authorize referrer)) (h₁ : rule t₁ .drawState d x x₁)
    (h₂ : rule t₂ .now m x₁ x₂)
    (h₃ : rule t₃ (.savePending (stateText d) (.of (s.redirects.resolve referrer) m)) saved x₂ x₃) :
    Run rule start first
      (es ++ [⟨k, t₁, .drawState, d⟩, ⟨k, t₂, .now, m⟩,
        ⟨k, t₃, .savePending (stateText d) (.of (s.redirects.resolve referrer) m), saved⟩])
      (Function.update now k
        (.done (.ofDeparture
          (saved.map (s.departure (s.redirects.resolve referrer) (stateText d)))))) x₃ := by
  have r₁ := before.step hk h₁
  have r₂ := r₁.step (by rw [Function.update_self]; rfl) h₂
  have r₃ := r₂.step (by rw [Function.update_self]; rfl) h₃
  simp only [Function.update_idem, List.append_assoc, List.cons_append, List.nil_append] at r₃
  exact r₃

/-- How a person who did not agree at the provider ends, by what the store answers. -/
def denied (s : Service) : Except Error (Option Pending) → Outcome
  | .ok (some p) => .ofEnding (s.origin p) (.failure .accessDenied)
  | _ => .rejected

/-- A person who did not agree at the provider comes back with an error. -/
theorem run_denied {q : Query} {state : String} {taken : Except Error (Option Pending)}
    (before : Run rule start first es now x) (hk : now k = s.visit (.callback q))
    (hstate : q.state = some state) (hne : state ≠ "") (herror : q.error.isSome = true)
    (h : rule t (.takePending state) taken x x₁) :
    Run rule start first (es ++ [⟨k, t, .takePending state, taken⟩])
      (Function.update now k (.done (s.denied taken))) x₁ := by
  have hask : ∃ next, s.visit (.callback q) = .ask (.takePending state) next ∧
      next taken = .done (s.denied taken) := by
    obtain ⟨_, code, error, description⟩ := q
    cases hstate
    simp only [visit, callback, Option.getD_some, if_neg hne, finish, herror, if_true]
    refine ⟨_, rfl, ?_⟩
    match taken with
    | .error e => rfl
    | .ok none => rfl
    | .ok (some p) => rfl
  obtain ⟨next, hask, hnext⟩ := hask
  have r := before.step (hk.trans hask) h
  rwa [hnext] at r

end

/-! ### A service on one machine -/

/-- The address of a page of the machine itself. -/
def samplePage (path : String) : Url where
  scheme := "http".toList
  authority := some ⟨[], none, .ipv6 [0, 0, 0, 0, 0, 0, 0, 1], some 3000⟩
  path := path.toList
  query := none
  fragment := none

/-- A key of the two greatest primes below 2 ^ 1024. -/
def sampleKey : Rsa.PrivateKey where
  publicKey := ⟨(2 ^ 1024 - 105) * (2 ^ 1024 - 179), 65537⟩
  exponent := (1 + 54058 * ((2 ^ 1024 - 106) * (2 ^ 1024 - 180))) / 65537
  p := 2 ^ 1024 - 105
  q := 2 ^ 1024 - 179

theorem sampleKey_canSign : sampleKey.CanSign := by decide +kernel

def sample : Service where
  registration := ⟨"client", "secret", none, "http://[::1]:8000/agree", "http://[::1]:8000/token",
    "http://[::1]:8000/api", "user:email", 10⟩
  redirects := .of (samplePage "/") [] 600
  tokens := ⟨sampleKey, "key", none⟩

theorem generate_sample (i : Identity) (m : Moment) :
    ∃ token, sample.tokens.generate i m = .ok token :=
  Token.Manager.generate_iff.mpr sampleKey_canSign

def sampleState : List UInt8 := List.replicate 32 0

def sampleSurroundings : Store.Surroundings where
  now := .ofSeconds 60
  life := 600
  registration := sample.registration
  carry := fun _ => none
  randomState := fun _ => sampleState
  randomId := fun _ => .nil

def sampleQuery : Query := ⟨some (stateText sampleState), none, some "access_denied", none⟩

/-- A person sets out from a page and comes back without having agreed. -/
def sampleVisits : Bool → Visit
  | false => .authorize (some "http://[::1]:3000/home")
  | true => .callback sampleQuery

set_option maxRecDepth 100000 in
theorem resolve_sample :
    sample.redirects.resolve (some "http://[::1]:3000/home") = samplePage "/home" := by
  decide +kernel

set_option maxRecDepth 100000 in
theorem readsBack_samplePage (path : String) (hpath : path ∈ ["/", "/home"]) :
    (samplePage path).ReadsBack := by
  unfold Url.ReadsBack
  rcases List.mem_pair.mp hpath with rfl | rfl
  · decide +kernel
  · decide +kernel

theorem readsBack_sample (k : Bool) (referrer : Option String)
    (hk : sampleVisits k = .authorize referrer) :
    (sample.redirects.resolve referrer).ReadsBack := by
  cases k with
  | false => cases hk; rw [resolve_sample]; exact readsBack_samplePage "/home" (by decide)
  | true => cases hk

/-- The events of the two visits, a second between each two. -/
def sampleEvents : List (Event services Bool) :=
  [⟨false, .ofSeconds 0, .drawState, sampleState⟩, ⟨false, .ofSeconds 1, .now, .ofSeconds 1⟩,
    ⟨false, .ofSeconds 2,
      .savePending (stateText sampleState) (.of (samplePage "/home") (.ofSeconds 1)),
      some (.ok ())⟩,
    ⟨true, .ofSeconds 3, .takePending (stateText sampleState),
      .ok (some (.of (samplePage "/home") (.ofSeconds 1)))⟩]

theorem run_sample {σ : Type} (rule : Rule services σ) {x x₁ x₂ x₃ x₄ : σ}
    (draw : rule (.ofSeconds 0) .drawState sampleState x x₁)
    (clock : rule (.ofSeconds 1) .now (.ofSeconds 1) x₁ x₂)
    (save : rule (.ofSeconds 2)
      (.savePending (stateText sampleState) (.of (samplePage "/home") (.ofSeconds 1)))
      (some (.ok ())) x₂ x₃)
    (take : rule (.ofSeconds 3) (.takePending (stateText sampleState))
      (.ok (some (.of (samplePage "/home") (.ofSeconds 1)))) x₃ x₄) :
    ∃ now, Run rule (fun k => sample.visit (sampleVisits k)) x sampleEvents now x₄ ∧
      now true = .done (.ofEnding (samplePage "/home") (.failure .accessDenied)) := by
  rw [← resolve_sample] at save
  have start : Run rule (fun k => sample.visit (sampleVisits k)) x [] _ x := .nothing
  have out := run_authorize start (k := false) rfl draw clock save
  have back := run_denied out (k := true) (q := sampleQuery) rfl rfl
    (stateText_ne_empty (by decide)) rfl take
  rw [resolve_sample] at back
  refine ⟨_, back, ?_⟩
  rw [Function.update_self, denied, origin_of sample (readsBack_samplePage "/home" (by decide))]

end Service
end SignOn
