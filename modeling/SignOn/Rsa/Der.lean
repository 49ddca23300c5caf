import SignOn.Rsa.Arithmetic

/-!
The distinguished encoding of the few kinds of data that keys are made of. Each element is a tag, the
length of its contents in as few bytes as hold it, and the contents.
-/
namespace SignOn.Rsa.Der

def integerTag : UInt8 := 0x02
def bitStringTag : UInt8 := 0x03
def octetStringTag : UInt8 := 0x04
def sequenceTag : UInt8 := 0x30

/-! ### Writing -/

/-- Lengths below 128 are one byte; for others the first byte tells how many follow. -/
def lengthBytes (n : Nat) : List UInt8 :=
  if n < 0x80 then [.ofNat n] else .ofNat (0x80 + byteLength n) :: toBytes (byteLength n) n

def element (tag : UInt8) (contents : List UInt8) : List UInt8 :=
  tag :: lengthBytes contents.length ++ contents

/-- A whole number has as few bytes as leave its highest bit clear. -/
def integer (n : Nat) : List UInt8 := element integerTag (toBytes (bitLength n / 8 + 1) n)

def sequence (parts : List (List UInt8)) : List UInt8 := element sequenceTag parts.flatten

/-! ### Reading -/

/-- A length in its shortest form, and what follows. -/
def length? : List UInt8 → Option (Nat × List UInt8)
  | [] => none
  | b :: r =>
    if b < 0x80 then some (b.toNat, r)
    else
      let count := b.toNat - 0x80
      if count = 0 ∨ 4 < count ∨ r.length < count then none
      else
        let n := ofBytes (r.take count)
        if lengthBytes n = b :: r.take count ∧ n < 2 ^ 28 then some (n, r.drop count) else none

/-- The tag and the contents of an element, and what follows. -/
def element? : List UInt8 → Option (UInt8 × List UInt8 × List UInt8)
  | [] => none
  | tag :: r => do
    let (n, r) ← length? r
    if r.length < n then none else some (tag, r.take n, r.drop n)

/-- An element of a known tag. -/
def expect? (tag : UInt8) (bs : List UInt8) : Option (List UInt8 × List UInt8) := do
  let (t, contents, rest) ← element? bs
  if t = tag then some (contents, rest) else none

/-- An element of a known tag that nothing follows. -/
def only? (tag : UInt8) (bs : List UInt8) : Option (List UInt8) := do
  let (contents, rest) ← expect? tag bs
  if rest.isEmpty then some contents else none

/-- The value of a whole number that is not negative. -/
def natural? : List UInt8 → Option Nat
  | [] => none
  | [b] => if b < 0x80 then some b.toNat else none
  | b :: c :: r =>
    if 0x80 ≤ b then none
    else if b = 0 ∧ c < 0x80 then none
    else some (ofBytes (b :: c :: r))

/-- A number of whole numbers that nothing follows. -/
def naturals? : Nat → List UInt8 → Option (List Nat)
  | 0, bs => if bs.isEmpty then some [] else none
  | count + 1, bs => do
    let (contents, rest) ← expect? integerTag bs
    let n ← natural? contents
    let ns ← naturals? count rest
    some (n :: ns)

/-- The tags of the universal class that an element may have. -/
def universalTags : List UInt8 :=
  [0x01, 0x02, 0x03, 0x04, 0x05, 0x06, 0x09, 0x0a, 0x0c, 0x12, 0x13, 0x14, 0x15, 0x16, 0x17, 0x18,
    0x1a, 0x1b, 0x1e, 0x30, 0x31]

/-- The tags that an element may have: those of the universal class and short ones of the others. -/
def isTag (b : UInt8) : Bool := universalTags.contains b || (0x40 ≤ b && b % 0x20 != 0x1f)

example : element? (sequence [integer 3, integer 200]) =
    some (0x30, [2, 1, 3, 2, 2, 0, 200], []) := by decide
example : naturals? 2 [2, 1, 3, 2, 2, 0, 200] = some [3, 200] := by decide

end SignOn.Rsa.Der
