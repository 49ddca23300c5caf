import SignOn.Text.Hex
import SignOn.Text.Utf8

/-!
Percent-encoding. Each part of a URL has a set of ASCII characters that it may not show; those and
all characters beyond ASCII are written as the bytes of their UTF-8 form.
-/
namespace SignOn.Url

/-- A set of ASCII characters. -/
abbrev EncodeSet := Char → Bool

namespace EncodeSet

def controls : EncodeSet := fun c => c.toNat < 0x20 || c.toNat == 0x7f

def fragment : EncodeSet := fun c => controls c || c ∈ [' ', '"', '<', '>', '`']

def query : EncodeSet := fun c => controls c || c ∈ [' ', '"', '#', '<', '>']

/-- The query of a URL of a special scheme does not show an apostrophe. -/
def specialQuery : EncodeSet := fun c => query c || c == '\''

def path : EncodeSet := fun c => fragment c || c ∈ ['#', '?', '{', '}']

def userinfo : EncodeSet := fun c =>
  path c || c ∈ ['/', ':', ';', '=', '@', '[', '\\', ']', '^', '|']

end EncodeSet

/-- An upper-case hexadecimal digit. -/
def upperDigit (n : Nat) : Char := if n < 10 then .ofNat (0x30 + n) else .ofNat (0x37 + n)

def percentByte (b : UInt8) : List Char :=
  ['%', upperDigit (b.toNat / 16), upperDigit (b.toNat % 16)]

def percentChar (set : EncodeSet) (c : Char) : List Char :=
  if 0x80 ≤ c.toNat || set c then (Text.Utf8.encodeChar c).flatMap percentByte else [c]

def percentEncode (set : EncodeSet) (cs : List Char) : List Char := cs.flatMap (percentChar set)

/-- The value of a hexadecimal digit of either case. -/
def hexValue? (b : UInt8) : Option Nat := Text.Hex.value? (.ofNat b.toNat)

/-- Reads a percent sign with two digits as the byte they stand for; all else stands for itself. -/
def percentDecode : List UInt8 → List UInt8
  | [] => []
  | 0x25 :: a :: b :: r =>
    match hexValue? a, hexValue? b with
    | some x, some y => .ofNat (x * 16 + y) :: percentDecode r
    | _, _ => 0x25 :: percentDecode (a :: b :: r)
  | c :: r => c :: percentDecode r

example : percentEncode .path "a b/é".toList = "a%20b/%C3%A9".toList := by decide
example : percentDecode (Text.Utf8.encode "%41%zz%") = Text.Utf8.encode "A%zz%" := by decide

end SignOn.Url
