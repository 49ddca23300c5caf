import SignOn.Identity.Basic
import SignOn.Json.Record
import SignOn.Text.Blank
import SignOn.Text.Decimal

/-!
What GitHub answers: a token or an error (with status 200 either way), a profile, and a list of
addresses.
-/
namespace SignOn.GitHub

structure TokenReply where
  accessToken : Option String
  tokenType : Option String
  scope : Option String
  error : Option String
  errorDescription : Option String
  deriving DecidableEq, Repr, Inhabited

namespace TokenReply

def fields : List (Json.Field TokenReply) :=
  [.trailing "access_token" Json.string fun t s => { t with accessToken := s },
   .trailing "token_type" Json.string fun t s => { t with tokenType := s },
   .trailing "scope" Json.string fun t s => { t with scope := s },
   .trailing "error" Json.string fun t s => { t with error := s },
   .trailing "error_description" Json.string fun t s => { t with errorDescription := s }]

def reader : Json.Reader TokenReply := Json.record fields ⟨none, none, none, none, none⟩

/-- A token that is not blank, if no error stands beside it. -/
def usable? (t : TokenReply) : Option String :=
  match t.error, t.accessToken with
  | none, some s => if Text.isBlankText s then none else some s
  | _, _ => none

end TokenReply

structure Profile where
  /-- The number of the account, which never changes. -/
  id : Nat
  login : String
  name : Option String
  avatarUrl : Option String
  email : Option String
  deriving DecidableEq, Repr, Inhabited

namespace Profile

def accountNumber : Json.Reader Nat := fun bs => (Json.whole 0 (2 ^ 64) bs).map Int.toNat

def fields : List (Json.Field Profile) :=
  [.required "id" accountNumber fun p n => { p with id := n },
   .required "login" Json.string fun p s => { p with login := s },
   .trailing "name" Json.string fun p s => { p with name := s },
   .trailing "avatar_url" Json.string fun p s => { p with avatarUrl := s },
   .trailing "email" Json.string fun p s => { p with email := s }]

def reader : Json.Reader Profile := Json.record fields ⟨0, "", none, none, none⟩

def externalId (p : Profile) : String := Text.Decimal.ofNat p.id

def account (p : Profile) : Account := ⟨.github, p.externalId⟩

/-- The name without white space around it, or the login where that leaves nothing. -/
def displayName (p : Profile) : String :=
  match p.name with
  | some n => if Text.isBlankText n then p.login else Text.trim n
  | none => p.login

end Profile

structure Address where
  email : String
  primary : Bool
  verified : Bool
  visibility : Option String
  deriving DecidableEq, Repr, Inhabited

namespace Address

def fields : List (Json.Field Address) :=
  [.required "email" Json.string fun a s => { a with email := s },
   .defaulted "primary" Json.boolean fun a b => { a with primary := b },
   .defaulted "verified" Json.boolean fun a b => { a with verified := b },
   .trailing "visibility" Json.string fun a s => { a with visibility := s }]

def reader : Json.Reader Address := Json.record fields ⟨"", false, false, none⟩

def toEmail (a : Address) : Email := ⟨a.email, a.verified, a.primary⟩

end Address
end SignOn.GitHub
