import SignOn.Login.Flow
import SignOn.Token.Bearer
import SignOn.Web.Message

/-!
The pages of the service: its health, the page that both visits of a sign-on come to, and the
identity of whoever sends a token. Everything at or below the last is behind the token check, even
where there is no page.
-/
namespace SignOn.Service

open Login Web

/-! ### Health -/

/-- The name and the version that the service tells. -/
def name : String := "identity_auth_service"
def version : String := "0.1.0"

def healthJson (now : Timestamp) : Json.Value :=
  .object [("status", .string "healthy"), ("service", .string name), ("version", .string version),
    ("timestamp", .string now.offsetText),
    ("features", .object [("login", .string "GitHub OAuth 2.0"), ("token", .string "RS256")])]

def health : Routine services Response := do
  let now ← ask .now
  return .ofJson 200 (healthJson (.ofMoment now))

/-! ### Sign-on -/

/-- The answer to a visit that nobody is known to have begun. -/
def invalidState : Response :=
  .unauthorized "invalid_state" "로그인 요청을 확인할 수 없습니다. 다시 로그인해 주세요"

def ofOutcome : Outcome → Option Response
  | .redirect u => some (.redirect u)
  | .rejected => some invalidState
  | .undated => none

/-- Answers either visit of a sign-on. -/
def signOnPage (s : Service) (r : Request) : Routine services (Option Response) :=
  match Query.parse r.query with
  | .error _ => pure (some invalidState)
  | .ok q =>
    if q.isCallback then do return ofOutcome (← s.callback q)
    else do return ofOutcome (.ofDeparture (← s.authorize (r.header? "referer")))

/-! ### Identity -/

def authenticationRequired : Response :=
  .unauthorized "authentication_required" "유효한 인증 토큰이 필요합니다"

def ofError (e : Error) : Response := .ofJson e.status e.toJson

/-- The claims of the token that a request carries. -/
def claims? (s : Service) (r : Request) (now : Moment) : Option Token.Verified :=
  match r.header? "authorization" with
  | none => none
  | some h =>
    match Token.bearer h with
    | .error _ => none
    | .ok t => (s.tokens.verify now t).toOption

/-- The identity that claims speak of. -/
def identityOf (claims : Token.Verified) : Routine services Response := do
  match Token.locate (some claims) with
  | .error e => return ofError (.ofToken e)
  | .ok id =>
    match ← ask (.loadIdentity id) with
    | .error e => return ofError e
    | .ok none => return ofError ⟨.notFound, s!"identity {id.text}"⟩
    | .ok (some i) => return .ofJson 200 i.publicJson

def userPage (s : Service) (r : Request) : Routine services Response := do
  let now ← ask .now
  match s.claims? r now with
  | none => return authenticationRequired
  | some claims => if r.gets "/api/user" then identityOf claims else return .notFound

/-! ### All pages -/

/-- Answers a request; nothing where the service stops without an answer. -/
def respond (s : Service) (r : Request) : Routine services (Option Response) :=
  if r.gets "/health" then do return some (← health)
  else if r.gets "/api/login/authorize" then s.signOnPage r
  else if r.isWithin "/api/user" then do return some (← s.userPage r)
  else pure (some .notFound)

end SignOn.Service
