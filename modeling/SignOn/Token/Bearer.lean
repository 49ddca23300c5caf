import SignOn.Text.Blank
import SignOn.Token.Error

/-!
Bearer credentials: the word `bearer` in any case, a space, and the token. White space around the
whole and around the token is no part of either.
-/
namespace SignOn.Token

/-- The text before and the text after the first of a character. -/
def splitFirst (c : Char) : List Char → Option (List Char × List Char)
  | [] => none
  | d :: r => if d = c then some ([], r) else (splitFirst c r).map fun (a, b) => (d :: a, b)

def bearerChars (header : List Char) : Except Error (List Char) :=
  match splitFirst ' ' (Text.trimChars header) with
  | none => .error (.invalidToken "malformed authorization header")
  | some (scheme, token) =>
    if scheme.map Char.toLower ≠ "bearer".toList then
      .error (.invalidToken s!"unsupported authorization scheme '{String.ofList scheme}'")
    else
      let token := Text.trimChars token
      if token.isEmpty then .error .tokenNotFound else .ok token

/-- The token in the value of an `Authorization` header. -/
def bearer (header : String) : Except Error String :=
  (bearerChars header.toList).map String.ofList

example : bearerChars " BeArEr  a b ".toList = .ok "a b".toList := rfl

end SignOn.Token
