import SignOn.Config.Registration
import SignOn.GitHub.Question
import SignOn.GitHub.Reply
import SignOn.Url.Query

/-!
What GitHub is asked in the course of a sign-on: the page where a person agrees to it, the exchange
of the code that comes back for an access token, and with the token the profile and the addresses.
-/
namespace SignOn.GitHub

/-- The address of the page where a person agrees to a sign-on with a state. -/
def authorizeUrl (r : Config.Registration) (state : String) : Except Error Url :=
  match Url.parse r.authUri with
  | .error e => .error ⟨.configuration, s!"GITHUB_AUTH_URI '{r.authUri}': {e.message}"⟩
  | .ok u =>
    .ok <| u.appendPairs <|
      [("client_id", r.clientId), ("scope", r.scopes), ("state", state),
        ("allow_signup", "true")] ++
      (r.redirectUri.map fun uri => ("redirect_uri", uri)).toList

/-! ### Codes and tokens -/

def exchangePairs (r : Config.Registration) (code : String) : List (String × String) :=
  [("client_id", r.clientId), ("client_secret", r.clientSecret), ("code", code)] ++
    (r.redirectUri.map fun uri => ("redirect_uri", uri)).toList

/-- An answer of status 200 can still be a refusal. -/
def readToken (answer : Option Response) : Except Error String :=
  match answer with
  | none => failed "GitHub 토큰 요청 실패"
  | some a =>
    if !a.isSuccess then failed s!"GitHub 토큰 교환 실패: {a.statusLine}"
    else match Json.parse? TokenReply.reader a.body with
      | none => failed "GitHub 토큰 응답 파싱 실패"
      | some t =>
        match t.usable? with
        | some token => .ok token
        | none =>
          let reason := t.error.getD "empty access_token"
          failed s!"GitHub 토큰 교환 거부: {reason}"

/-- Turns a code into an access token. -/
def exchange (r : Config.Registration) (code : String) : Question String where
  request? := request? "POST" r.tokenUri
    [("accept", "application/json"), ("content-type", "application/x-www-form-urlencoded"),
      ("user-agent", userAgent)]
    (some (Url.Form.encode (exchangePairs r code)))
  read := readToken

/-! ### Profiles and addresses -/

def readRecord {α : Type} (path : String) (reader : Json.Reader α) (answer : Option Response) :
    Except Error α :=
  match answer with
  | none => failed s!"GitHub /{path} 요청 실패"
  | some a =>
    if !a.isSuccess then failed s!"GitHub /{path} 조회 실패: {a.statusLine}"
    else match Json.parse? reader a.body with
      | none => failed s!"GitHub /{path} 응답 파싱 실패"
      | some x => .ok x

/-- A record that is read with an access token. -/
def record {α : Type} (r : Config.Registration) (path : String) (reader : Json.Reader α)
    (accessToken : String) : Question α where
  request? := request? "GET" (Text.trimEnd '/' r.apiUri ++ "/" ++ path)
    [("accept", "application/vnd.github+json"), ("authorization", s!"Bearer {accessToken}"),
      ("user-agent", userAgent)]
    none
  read := readRecord path reader

def profile (r : Config.Registration) (accessToken : String) : Question Profile :=
  record r "user" Profile.reader accessToken

def addresses (r : Config.Registration) (accessToken : String) : Question (List Address) :=
  record r "user/emails" (Json.list Address.reader) accessToken

end SignOn.GitHub
