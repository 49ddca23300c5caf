import SignOn.Config.Redirects
import SignOn.GitHub.Client
import SignOn.Login.Outcome
import SignOn.Login.Query
import SignOn.Login.Services
import SignOn.Token.Manager

/-!
The two visits of a sign-on. The first sends a person to the provider, with a state that stands for
the page they came from. The second takes that state back, once, and turns the provider's code into
an identity and a token. What fails after the state was taken is told to the page the person came
from.
-/
namespace SignOn

/-- What the visits of a sign-on go by. -/
structure Service where
  registration : Config.Registration
  redirects : Config.Redirects
  tokens : Token.Manager

namespace Service

open Login

/-! ### The first visit -/

/-- The text of a state that was drawn. -/
def stateText (drawn : List UInt8) : String :=
  Token.Manager.asciiText (Text.Base64.encode Text.Base64.urlSafe drawn)

/-- Where to send a person whose state was stored, or could not be. -/
def departure (s : Service) (referrer : Url) (state : String) (saved : Except Error Unit) : Url :=
  match saved, GitHub.authorizeUrl s.registration state with
  | .ok (), .ok u => u
  | _, _ => referrer.withOutcome "error" Failure.loginFailed.word

/-- Begins a sign-on for a person who came from a page. It leads nowhere where the store stops. -/
def authorize (s : Service) (referrer : Option String) : Routine services (Option Url) := do
  let target := s.redirects.resolve referrer
  let drawn ← ask .drawState
  let now ← ask .now
  let saved ← ask (.savePending (stateText drawn) (.of target now))
  return saved.map (s.departure target (stateText drawn))

/-! ### Identities -/

/-- The addresses that a new identity gets. The profile's own address stands in for missing ones. -/
def candidateEmails (p : GitHub.Profile) (emails : List Email) : List Email :=
  match emails, p.email with
  | [], some a => if Text.isBlankText a then [] else [⟨Text.trim a, false, false⟩]
  | es, _ => es

def candidate (p : GitHub.Profile) (emails : List Email) (id : Uuid) : Identity :=
  ⟨id, p.displayName, p.avatarUrl.getD "", candidateEmails p emails, some p.account⟩

/-- The address of a user: the identity's primary one, else the profile's. -/
def userEmail (p : GitHub.Profile) (i : Identity) : Option String :=
  match Email.primary? i.emails with
  | some e => some e.address
  | none => p.email

/-- Records the user of an identity. -/
def recordUser (p : GitHub.Profile) (i : Identity) : Routine services (Except Error Identity) := do
  let id ← ask .drawId
  let now ← ask .now
  let u : User := ⟨id, i.id, p.account.provider, p.account.externalId, p.login, userEmail p i,
    .ofMoment now⟩
  match ← ask (.createUser u) with
  | .ok _ => return .ok i
  | .error e => return .error e

/-- The identity of a profile's account, made new if there is none. -/
def resolveIdentity (p : GitHub.Profile) (emails : List Email) :
    Routine services (Except Error Identity) := do
  match ← ask (.findIdentity p.account) with
  | .error e => return .error e
  | .ok (some i) => recordUser p i
  | .ok none =>
    let id ← ask .drawId
    match ← ask (.createIdentity (candidate p emails id)) with
    | .error e => return .error e
    | .ok i => recordUser p i

/-! ### The second visit -/

def issue (s : Service) (i : Identity) : Routine services Ending := do
  let now ← ask .now
  if s.tokens.CanDate now then
    match s.tokens.generate i now with
    | .ok t => return .token t
    | .error _ => return .failure .loginFailed
  else return .undated

/-- Signs on the person whose profile an access token opens. Their addresses may be missing. -/
def signOnWith (s : Service) (accessToken : String) : Routine services Ending := do
  match ← ask (.profile accessToken) with
  | .error _ => return .failure .profileUnavailable
  | .ok p =>
    let emails := match ← ask (.addresses accessToken) with
      | .ok as => as.map GitHub.Address.toEmail
      | .error _ => []
    match ← resolveIdentity p emails with
    | .error _ => return .failure .loginFailed
    | .ok i => s.issue i

/-- Ends a sign-on whose state was taken. -/
def finish (s : Service) (q : Query) : Routine services Ending := do
  if q.error.isSome then return .failure .accessDenied
  else
    let code := q.code.getD ""
    if Text.isBlankText code then return .failure .invalidCode
    else
      match ← ask (.exchange code) with
      | .error _ => return .failure .invalidCode
      | .ok accessToken => s.signOnWith accessToken

/-- The page that a person who comes back set out from. -/
def origin (s : Service) (p : Pending) : Url := p.referrerUrl?.getD s.redirects.default

/-- Ends a sign-on for a person who comes back from the provider. -/
def callback (s : Service) (q : Query) : Routine services Outcome := do
  let state := q.state.getD ""
  if state = "" then return .rejected
  else
    match ← ask (.takePending state) with
    | .ok (some p) => return .ofEnding (s.origin p) (← s.finish q)
    | _ => return .rejected

end Service
end SignOn
