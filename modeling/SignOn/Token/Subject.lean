import SignOn.Json.Writer
import SignOn.Token.Claims
import SignOn.Token.Error
import SignOn.Uuid

/-! The identity that a verified token speaks of. -/
namespace SignOn.Token

/-- The claims of a token whose signature holds, in the order of its text. -/
abbrev Verified := List (String × Json.Value)

def Verified.claim? (t : Verified) (name : String) : Option Json.Value := t.lookup name

/-- The id of the identity, read from the claims without another look at the signature. -/
def locate (token : Option Verified) : Except Error Uuid :=
  match token with
  | none => .error .tokenNotFound
  | some t =>
    match t.claim? Claims.uuidClaim with
    | none => .error (.claimMissing Claims.uuidClaim)
    | some (.string s) =>
      match Uuid.parse s with
      | .ok u => .ok u
      | .error f => .error (.claimMalformed Claims.uuidClaim f.message)
    | some v => .error (.claimMalformed Claims.uuidClaim s!"expected a string, got {v.text}")

end SignOn.Token
