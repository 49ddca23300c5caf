import SignOn.Json.Record

/-!
The header of a token: the algorithm that signed it and descriptions of the key. Only the algorithm
and the key's name are used, but the descriptions have to keep their forms.
-/
namespace SignOn.Token.Header

def algorithms : List String :=
  ["HS256", "HS384", "HS512", "ES256", "ES384", "RS256", "RS384", "RS512", "PS256", "PS384",
    "PS512", "EdDSA"]

/-- The algorithm of the tokens of this service. -/
def signing : String := "RS256"

/-! ### A key written into a header -/

/-- A name, alone or as the only member, with `null`, of an object. -/
def isNameOf (ok : String → Bool) : Json.Value → Bool
  | .string s => ok s
  | .object [(k, .null)] => ok k
  | _ => false

def isText : Json.Value → Bool
  | .string _ => true
  | _ => false

def isTexts : Json.Value → Bool
  | .array vs => vs.all isText
  | _ => false

/-- The members that any kind of key may have, with the form of their values. -/
def commonForms : List (String × (Json.Value → Bool)) :=
  [("use", isText), ("key_ops", isTexts), ("alg", isNameOf fun _ => true), ("kid", isText),
    ("x5u", isText), ("x5c", isTexts), ("x5t", isText), ("x5t#S256", isText)]

def isCurve (s : String) : Bool := s ∈ ["P-256", "P-384", "P-521", "Ed25519"]

/-- The kinds of keys, each with the forms of the members that it needs. -/
def kinds : List (List (String × (Json.Value → Bool))) :=
  [[("kty", isNameOf (· == "EC")), ("crv", isNameOf isCurve), ("x", isText), ("y", isText)],
   [("kty", isNameOf (· == "RSA")), ("n", isText), ("e", isText)],
   [("kty", isNameOf (· == "oct")), ("k", isText)],
   [("kty", isNameOf (· == "OKP")), ("crv", isNameOf isCurve), ("x", isText)]]

/-- A member that may come once, and may be `null`. -/
def isOptional (ms : List (String × Json.Value)) (f : String × (Json.Value → Bool)) : Bool :=
  match ms.filter (·.1 == f.1) with
  | [] => true
  | [(_, .null)] => true
  | [(_, v)] => f.2 v
  | _ => false

/-- A member that comes just once. -/
def isNeeded (ms : List (String × Json.Value)) (f : String × (Json.Value → Bool)) : Bool :=
  match ms.filter (·.1 == f.1) with
  | [(_, v)] => f.2 v
  | _ => false

def isKey (ms : List (String × Json.Value)) : Bool :=
  let rest := ms.filter fun m => !(commonForms.any (·.1 == m.1))
  commonForms.all (isOptional ms) && kinds.any fun k => k.all (isNeeded rest)

def key : Json.Reader Unit := fun bs =>
  match Json.skipSpace bs with
  | 0x7b :: r =>
    (Json.members (Json.rawValue (Json.maxDepth - 2)) r).filterMap fun ms =>
      if isKey ms then some () else none
  | r => .stopped r

/-! ### The header -/

def ofName? (s : String) : Option String := if s ∈ algorithms then some s else none

/-- The members of a header; what is read is the algorithm. -/
def fields : List (Json.Field String) :=
  let text (name : String) : Json.Field String := .optional name Json.string fun a _ => a
  [text "typ",
   .required "alg" (Json.enum ofName?) fun _ a => a,
   text "cty", text "jku",
   .optional "jwk" key fun a _ => a,
   text "kid", text "x5u",
   .optional "x5c" (Json.list Json.string) fun a _ => a,
   text "x5t", text "x5t#S256"]

/-- The algorithm that a header names. -/
def algorithm? (bytes : List UInt8) : Option String := Json.parse? (Json.record fields "") bytes

def toJson (keyId : String) : Json.Value :=
  .object [("typ", .string "JWT"), ("alg", .string signing), ("kid", .string keyId)]

end SignOn.Token.Header
