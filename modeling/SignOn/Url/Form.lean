import SignOn.Url.Percent

/-!
Pairs of names and values as the text of a form: `name=value` with `&` between pairs, a blank as `+`
and every byte that is not a letter, a digit or one of `*-._` percent-encoded.
-/
namespace SignOn.Url.Form

/-- The bytes that stand for themselves. -/
def isPlain (b : UInt8) : Bool :=
  (0x30 ≤ b && b ≤ 0x39) || (0x41 ≤ b && b ≤ 0x5a) || (0x61 ≤ b && b ≤ 0x7a) ||
    b == 0x2a || b == 0x2d || b == 0x2e || b == 0x5f

def encodeByte (b : UInt8) : List Char :=
  if b = 0x20 then ['+'] else if isPlain b then [.ofNat b.toNat] else percentByte b

def encodeText (s : String) : List Char := (Text.Utf8.encode s).flatMap encodeByte

def encodePair (p : String × String) : List Char := encodeText p.1 ++ '=' :: encodeText p.2

/-- Appends pairs to the text of a form. -/
def append (form : List Char) : List (String × String) → List Char
  | [] => form
  | p :: r => append (if form.isEmpty then encodePair p else form ++ '&' :: encodePair p) r

def encode (ps : List (String × String)) : List Char := append [] ps

/-- The parts between the bytes that a separator stands for. -/
def split (sep : UInt8) : List UInt8 → List (List UInt8)
  | [] => [[]]
  | b :: r =>
    if b = sep then [] :: split sep r
    else match split sep r with
      | [] => [[b]]
      | p :: ps => (b :: p) :: ps

/-- The bytes before and after the first `=`; without one, all and none. -/
def cutPair : List UInt8 → List UInt8 × List UInt8
  | [] => ([], [])
  | b :: r => if b = 0x3d then ([], r) else ((b :: (cutPair r).1), (cutPair r).2)

/-- Text that is not UTF-8 once decoded is read with U+FFFD in its stead. -/
def decodeText (bs : List UInt8) : String :=
  Text.Utf8.decodeLossy (percentDecode (bs.map fun b => if b = 0x2b then 0x20 else b))

/-- The pairs of a form; empty parts are none. -/
def decodeBytes (bs : List UInt8) : List (String × String) :=
  ((split 0x26 bs).filter fun p => !p.isEmpty).map fun p =>
    (decodeText (cutPair p).1, decodeText (cutPair p).2)

def decode (form : List Char) : List (String × String) :=
  decodeBytes (Text.Utf8.encodeChars form)

example : encode [("a b", "&="), ("", "")] = "a+b=%26%3D&=".toList := by decide +kernel
example : decode "a+b=%26%3D&&c".toList = [("a b", "&="), ("c", "")] := by decide +kernel

end SignOn.Url.Form
