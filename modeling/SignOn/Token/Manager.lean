import SignOn.Identity.Basic
import SignOn.Rsa.Encoding
import SignOn.Rsa.Signature
import SignOn.Timestamp
import SignOn.Token.Claims
import SignOn.Token.Header
import SignOn.Token.Subject
import SignOn.Token.Validity

/-!
Issuing and checking tokens. A token is a header, a payload and a signature over the two, each in
base64 and with a point between them. `extract` reads the identity that a token speaks of, `verify`
its claims; both hold the signature and the end of the token's life to the same rules.
-/
namespace SignOn.Token

structure Manager where
  privateKey : Rsa.PrivateKey
  keyId : String
  /-- The life of tokens in seconds. If there is one, every token has to tell when it ends. -/
  lifetime : Option Int
  deriving DecidableEq, Repr

namespace Manager

def publicKey (m : Manager) : Rsa.PublicKey := m.privateKey.publicKey

def defaultKeyId : String := "identity-auth-key-1"

/-- A manager for two keys that belong together. -/
def of (publicKey : Rsa.PublicKey) (privateKey : Rsa.PrivateKey) : Except Error Manager :=
  if privateKey.publicKey ≠ publicKey then
    .error (.keyMaterialInvalid "public key does not match private key")
  else match privateKey.coefficient? with
    | none => .error (.keyMaterialInvalid "PKCS#8 cryptographic key data malformed")
    | some _ => .ok ⟨privateKey, defaultKeyId, none⟩

/-! ### Issuing -/

/-- The first and the last second that have a date. -/
def firstSecond : Int := -8334601228800
def lastSecond : Int := 8210266876799

/-- Whether a token issued now ends at a second that has a date. -/
def CanDate (m : Manager) (now : Moment) : Prop :=
  match m.lifetime with
  | none => True
  | some l => firstSecond ≤ now.seconds + l ∧ now.seconds + l ≤ lastSecond

instance (m : Manager) (now : Moment) : Decidable (m.CanDate now) := by
  unfold CanDate; split <;> infer_instance

def claims (m : Manager) (i : Identity) (now : Moment) : Claims :=
  ⟨i.id.text, i.fullName, i.imageUrl, now.seconds, m.lifetime.map (now.seconds + ·)⟩

/-- A part of a token: the text of a value in base64. -/
def part (v : Json.Value) : List UInt8 :=
  Text.Base64.encode Text.Base64.urlSafe (Text.Utf8.encodeChars v.chars)

/-- The point between the parts. -/
def dot : UInt8 := 0x2e

/-- The bytes that are signed. -/
def message (m : Manager) (i : Identity) (now : Moment) : List UInt8 :=
  part (Header.toJson m.keyId) ++ dot :: part (m.claims i now).toJson

/-- A character for each byte of a text that is all ASCII. -/
def asciiText (bs : List UInt8) : String := String.ofList (bs.map fun b => .ofNat b.toNat)

/-- A token for an identity. -/
def generate (m : Manager) (i : Identity) (now : Moment) : Except Error String :=
  let message := m.message i now
  match m.privateKey.sign? message with
  | some s => .ok (asciiText (message ++ dot :: Text.Base64.encode Text.Base64.urlSafe s))
  | none => .error (.signing "RSA key invalid")

/-! ### Checking -/

/-- Why a token is refused. -/
inductive Fault where
  | shape
  | base64
  | json
  | algorithm
  | signature
  | expired
  | noExpiry
  deriving DecidableEq, Repr

def Fault.message : Fault → String
  | .shape => "InvalidToken"
  | .base64 => "Base64 error"
  | .json => "JSON error"
  | .algorithm => "InvalidAlgorithm"
  | .signature => "InvalidSignature"
  | .expired => "ExpiredSignature"
  | .noExpiry => "Missing required claim: exp"

/-- The bytes before and after the last point. -/
def splitLast (bs : List UInt8) : Option (List UInt8 × List UInt8) :=
  let tail := bs.reverse.takeWhile (· ≠ dot)
  match bs.reverse.dropWhile (· ≠ dot) with
  | [] => none
  | _ :: head => some (head.reverse, tail.reverse)

/-- The payload of a token whose signature holds. -/
def payload (m : Manager) (token : String) : Except Fault (List UInt8) := do
  let some (message, signature) := splitLast (Text.Utf8.encode token) | .error .shape
  let some (header, payload) := splitLast message | .error .shape
  let some header := Text.Base64.decode? Text.Base64.urlSafe header | .error .base64
  let some algorithm := Header.algorithm? header | .error .json
  if algorithm ≠ Header.signing then .error .algorithm
  else
    let some signature := Text.Base64.decode? Text.Base64.urlSafe signature | .error .base64
    if !m.publicKey.verify message signature then .error .signature
    else
      let some payload := Text.Base64.decode? Text.Base64.urlSafe payload | .error .base64
      .ok payload

/-- The seconds for which a token is still taken after its end. -/
def leeway : Int := 60

/-- Holds the end of a token's life, read from its payload, against the time. The check counts the
seconds since 1970 in a word without a sign, so that it speaks of times from the leeway on: for the
first minute of 1970 the word underflows. -/
def checkExpiry (m : Manager) (now : Moment) (payload : List UInt8) : Except Fault Unit :=
  match Validity.expiry? payload with
  | none => .error .json
  | some none => if m.lifetime.isSome then .error .noExpiry else .ok ()
  | some (some e) => if e < now.seconds - leeway then .error .expired else .ok ()

/-- Reads the payload of a token that holds now. -/
def decode {α : Type} (m : Manager) (now : Moment) (token : String)
    (read? : List UInt8 → Option α) : Except Fault α := do
  let payload ← m.payload token
  let some a := read? payload | .error .json
  m.checkExpiry now payload
  .ok a

/-- An object as its members. -/
def members? (payload : List UInt8) : Option Verified :=
  match Json.parse? Json.value payload with
  | some (.object ms) => some ms
  | _ => none

/-- The claims of a token that holds now. -/
def verify (m : Manager) (now : Moment) (token : String) : Except Error Verified :=
  match m.decode now token members? with
  | .ok ms => .ok ms
  | .error f => .error (.invalidToken f.message)

/-- The identity that a token speaks of, as far as the token describes it. -/
def extract (m : Manager) (now : Moment) (token : String) : Except Error Identity :=
  match m.decode now token (Json.parse? Claims.reader) with
  | .error f => .error (.invalidToken f.message)
  | .ok c =>
    match Uuid.parse c.uuid with
    | .error f => .error (.invalidToken s!"uuid claim: {f.message}")
    | .ok id => .ok ⟨id, c.fullName, c.imageUrl, [], none⟩

end Manager
end SignOn.Token
