import SignOn.Rsa.Der
import SignOn.Rsa.Key
import SignOn.Rsa.Pem
import SignOn.Text.Blank
import SignOn.Text.Utf8
import SignOn.Token.Error

/-!
The forms in which keys are kept. A private key stands bare or inside the envelope that names its
algorithm; so does a public key. All four forms are armoured as text.
-/
namespace SignOn.Rsa

/-! ### The bare forms -/

def PublicKey.der (k : PublicKey) : List UInt8 :=
  Der.sequence [Der.integer k.modulus, Der.integer k.exponent]

def PublicKey.ofDer? (bs : List UInt8) : Option PublicKey := do
  match ← Der.naturals? 2 (← Der.only? Der.sequenceTag bs) with
  | [n, e] => if (⟨n, e⟩ : PublicKey).IsUsable then some ⟨n, e⟩ else none
  | _ => none

/-- The numbers of a private key of two factors, with those that speed up its use. -/
def PrivateKey.der (k : PrivateKey) (coefficient : Nat) : List UInt8 :=
  Der.sequence [Der.integer 0, Der.integer k.publicKey.modulus, Der.integer k.publicKey.exponent,
    Der.integer k.exponent, Der.integer k.p, Der.integer k.q, Der.integer (k.exponent % (k.p - 1)),
    Der.integer (k.exponent % (k.q - 1)), Der.integer coefficient]

def PrivateKey.ofDer? (bs : List UInt8) : Option PrivateKey := do
  match ← Der.naturals? 9 (← Der.only? Der.sequenceTag bs) with
  | 0 :: n :: e :: d :: p :: q :: _ =>
    if (⟨⟨n, e⟩, d, p, q⟩ : PrivateKey).IsUsable then some ⟨⟨n, e⟩, d, p, q⟩ else none
  | _ => none

/-! ### Envelopes -/

/-- The object identifier of RSA encryption with its null parameter. -/
def algorithm : List UInt8 :=
  [0x06, 0x09, 0x2a, 0x86, 0x48, 0x86, 0xf7, 0x0d, 0x01, 0x01, 0x01, 0x05, 0x00]

def PublicKey.envelope (k : PublicKey) : List UInt8 :=
  Der.sequence [Der.element Der.sequenceTag algorithm, Der.element Der.bitStringTag (0 :: k.der)]

def PublicKey.ofEnvelope? (bs : List UInt8) : Option PublicKey := do
  let contents ← Der.only? Der.sequenceTag bs
  let (name, rest) ← Der.expect? Der.sequenceTag contents
  if name ≠ algorithm then none
  else match ← Der.only? Der.bitStringTag rest with
    | 0 :: key => PublicKey.ofDer? key
    | _ => none

/-- What may follow the key in an envelope: elements of the context's class, each around one element
of any kind. -/
def areExtensions : Nat → List UInt8 → Bool
  | 0, bs => bs.isEmpty
  | fuel + 1, bs =>
    bs.isEmpty || match Der.element? bs with
      | some (tag, contents, rest) =>
        0xa0 ≤ tag && tag ≤ 0xbe && areExtensions fuel rest &&
          match Der.element? contents with
          | some (inner, _, []) => Der.isTag inner
          | _ => false
      | none => false

/-- Passes over attributes to the public key that may stand with the private one: whether it is
there, and what follows. -/
def embeddedPublicKey? : Nat → List UInt8 → Option (Bool × List UInt8)
  | 0, _ => none
  | fuel + 1, bs =>
    match bs with
    | [] => some (false, [])
    | tag :: _ =>
      if tag = 0x80 ∨ tag = 0xa0 then do
        let (_, _, rest) ← Der.element? bs
        embeddedPublicKey? fuel rest
      else if tag = 0xa1 then none
      else if tag = 0x81 then
        match Der.element? bs with
        | some (_, 0 :: _, rest) => some (true, rest)
        | _ => none
      else if Der.isTag tag then some (false, bs)
      else none

def PrivateKey.ofEnvelope? (bs : List UInt8) : Option PrivateKey := do
  let contents ← Der.only? Der.sequenceTag bs
  let (version, rest) ← Der.expect? Der.integerTag contents
  let version ← Der.natural? version
  let (name, rest) ← Der.expect? Der.sequenceTag rest
  let (key, rest) ← Der.expect? Der.octetStringTag rest
  let (hasPublicKey, rest) ← embeddedPublicKey? (rest.length + 1) rest
  if 1 < version ∨ name ≠ algorithm ∨ hasPublicKey ≠ (version == 1) ∨
      !areExtensions rest.length rest then
    none
  else PrivateKey.ofDer? key

/-! ### Armour -/

/-- The text of armoured bytes, without the white space around it. -/
def armoured (bytes : List UInt8) : Except Token.Error (List Char) :=
  match Text.Utf8.decodeChars bytes with
  | .ok cs => .ok (Text.trimChars cs)
  | .error f => .error (.keyMaterialInvalid s!"PEM is not UTF-8: {f.message}")

def PrivateKey.ofPem? (cs : List Char) : Option PrivateKey := do
  let (label, bytes) ← Pem.decode? cs
  if label = "RSA PRIVATE KEY".toList then PrivateKey.ofDer? bytes
  else if label = "PRIVATE KEY".toList then PrivateKey.ofEnvelope? bytes
  else none

def PublicKey.ofPem? (cs : List Char) : Option PublicKey := do
  let (label, bytes) ← Pem.decode? cs
  if label = "PUBLIC KEY".toList then PublicKey.ofEnvelope? bytes
  else if label = "RSA PUBLIC KEY".toList then PublicKey.ofDer? bytes
  else none

def PrivateKey.parse (bytes : List UInt8) : Except Token.Error PrivateKey := do
  match PrivateKey.ofPem? (← armoured bytes) with
  | some k => .ok k
  | none => .error (.keyMaterialInvalid "private key: not an RSA key")

def PublicKey.parse (bytes : List UInt8) : Except Token.Error PublicKey := do
  match PublicKey.ofPem? (← armoured bytes) with
  | some k => .ok k
  | none => .error (.keyMaterialInvalid "public key: not an RSA key")

/-- The bare form, if the factors have no divisor in common. -/
def PrivateKey.pem? (k : PrivateKey) : Option String :=
  k.coefficient?.map fun c => Pem.encode "RSA PRIVATE KEY" (k.der c)

def PublicKey.pem (k : PublicKey) : String := Pem.encode "PUBLIC KEY" k.envelope

end SignOn.Rsa
