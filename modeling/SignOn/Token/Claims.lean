import SignOn.Json.Record

/-!
The claims of a token: whom it speaks of, two attributes for display, when it was issued and, for
tokens of limited life, when it ends.
-/
namespace SignOn.Token

structure Claims where
  uuid : String
  fullName : String
  imageUrl : String
  issuedAt : Int
  expiresAt : Option Int
  deriving DecidableEq, Repr, Inhabited

namespace Claims

/-- The name of the claim that holds the identity's id. -/
def uuidClaim : String := "uuid"

def toJson (c : Claims) : Json.Value :=
  .object <|
    [(uuidClaim, .string c.uuid), ("fullName", .string c.fullName),
      ("imageURL", .string c.imageUrl), ("iat", .int c.issuedAt)] ++
    Json.member? "exp" (c.expiresAt.map .int)

/-- A number of seconds is a word of 64 bits with sign. -/
def seconds : Json.Reader Int := Json.whole (-2 ^ 63) (2 ^ 63)

def fields : List (Json.Field Claims) :=
  [.required uuidClaim Json.string fun c s => { c with uuid := s },
   .defaulted "fullName" Json.string fun c s => { c with fullName := s },
   .defaulted "imageURL" Json.string fun c s => { c with imageUrl := s },
   .required "iat" seconds fun c i => { c with issuedAt := i },
   .trailing "exp" seconds fun c i => { c with expiresAt := i }]

def reader : Json.Reader Claims := Json.record fields ⟨"", "", "", 0, none⟩

end Claims
end SignOn.Token
