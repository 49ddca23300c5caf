import SignOn.Config.Variables
import SignOn.Text.Decimal

/-! Where the signing keys are and how long tokens live. -/
namespace SignOn.Config

structure TokenKeys where
  privatePath : String
  publicPath : String
  /-- The name that tokens give their key. -/
  keyId : String
  /-- Tokens of no life in hours never end. -/
  hours : Option Int
  deriving DecidableEq, Repr

namespace TokenKeys

/-- The key id of tokens where none is configured. -/
def defaultKeyId : String := "identity-auth-key-1"

def ofVariables (vs : Variables) : TokenKeys where
  privatePath := vs.getD "JWT_PRIVATE_KEY_PATH" "./keys/jwt_private_key.pem"
  publicPath := vs.getD "JWT_PUBLIC_KEY_PATH" "./keys/jwt_public_key.pem"
  keyId := vs.getD "JWT_KEY_ID" defaultKeyId
  hours := do
    let s ← vs.get? "JWT_EXPIRATION_HOURS"
    let h ← Text.Decimal.int64? s
    if 0 < h then some h else none

/-- The greatest number of seconds that a duration may last: a word of 64 bits of milliseconds. -/
def maxSeconds : Int := (2 ^ 63 - 1) / 1000

/-- The life of tokens in seconds; nothing where it is too long for a duration. -/
def lifetime? (k : TokenKeys) : Option (Option Int) :=
  match k.hours with
  | none => some none
  | some h => if h * 3600 ≤ maxSeconds then some (some (h * 3600)) else none

end TokenKeys
end SignOn.Config
