/-!
The UTF-8 form of text. `pieces` reads any bytes as characters and faults; a strict reading
reports the first fault with its position, a lossy one writes U+FFFD for each.
-/
namespace SignOn.Text.Utf8

/-- The bytes of one character. -/
def encodeChar (c : Char) : List UInt8 :=
  let n := c.toNat
  let tail (k : Nat) : UInt8 := .ofNat (0x80 + n / k % 0x40)
  if n < 0x80 then [.ofNat n]
  else if n < 0x800 then [.ofNat (0xc0 + n / 0x40), tail 1]
  else if n < 0x10000 then [.ofNat (0xe0 + n / 0x1000), tail 0x40, tail 1]
  else [.ofNat (0xf0 + n / 0x40000), tail 0x1000, tail 0x40, tail 1]

def encodeChars (cs : List Char) : List UInt8 := cs.flatMap encodeChar

def encode (s : String) : List UInt8 := encodeChars s.toList

/-- What stands at a place in a byte sequence: a character, a number of bytes that no character
starts with, or a start of a character that the end cuts off. -/
inductive Piece where
  | char (c : Char)
  | bad (length : Nat)
  | cut
  deriving Repr, DecidableEq

/-- The bytes that continue a character. -/
def isTail (b : UInt8) : Bool := 0x80 ≤ b && b ≤ 0xbf

/-- The second bytes that may follow the first byte of a character of three bytes. -/
def secondOfThree (a b : UInt8) : Bool :=
  if a == 0xe0 then 0xa0 ≤ b && b ≤ 0xbf
  else if a == 0xed then 0x80 ≤ b && b ≤ 0x9f
  else isTail b

/-- The second bytes that may follow the first byte of a character of four bytes. -/
def secondOfFour (a b : UInt8) : Bool :=
  if a == 0xf0 then 0x90 ≤ b && b ≤ 0xbf
  else if a == 0xf4 then 0x80 ≤ b && b ≤ 0x8f
  else isTail b

/-- The six bits that a continuing byte carries. -/
def payload (b : UInt8) : Nat := b.toNat % 0x40

/-- A fault is as long as the longest start of a character that stands there, and at least one
byte. -/
def pieces : List UInt8 → List Piece
  | [] => []
  | a :: r =>
    if a < 0x80 then .char (.ofNat a.toNat) :: pieces r
    else if 0xc2 ≤ a && a ≤ 0xdf then
      match r with
      | [] => [.cut]
      | b :: r =>
        if isTail b then .char (.ofNat (a.toNat % 0x20 * 0x40 + payload b)) :: pieces r
        else .bad 1 :: pieces (b :: r)
    else if 0xe0 ≤ a && a ≤ 0xef then
      match r with
      | [] => [.cut]
      | b :: r =>
        if secondOfThree a b then
          match r with
          | [] => [.cut]
          | c :: r =>
            if isTail c then
              .char (.ofNat (a.toNat % 0x10 * 0x1000 + payload b * 0x40 + payload c)) :: pieces r
            else .bad 2 :: pieces (c :: r)
        else .bad 1 :: pieces (b :: r)
    else if 0xf0 ≤ a && a ≤ 0xf4 then
      match r with
      | [] => [.cut]
      | b :: r =>
        if secondOfFour a b then
          match r with
          | [] => [.cut]
          | c :: r =>
            if isTail c then
              match r with
              | [] => [.cut]
              | d :: r =>
                if isTail d then
                  .char (.ofNat (a.toNat % 8 * 0x40000 + payload b * 0x1000 + payload c * 0x40 +
                      payload d)) :: pieces r
                else .bad 3 :: pieces (d :: r)
            else .bad 2 :: pieces (c :: r)
        else .bad 1 :: pieces (b :: r)
    else .bad 1 :: pieces r

/-- Why bytes are not UTF-8: where the first fault begins, and its length unless the end of the
bytes cuts a character off. -/
structure Fault where
  index : Nat
  length : Option Nat
  deriving Repr, DecidableEq

def Fault.message (f : Fault) : String :=
  match f.length with
  | some n => s!"invalid utf-8 sequence of {n} bytes from index {f.index}"
  | none => s!"incomplete utf-8 byte sequence from index {f.index}"

/-- Reads pieces that begin at an index and hold no fault. -/
def charsOf (index : Nat) : List Piece → Except Fault (List Char)
  | [] => .ok []
  | .char c :: r => (charsOf (index + (encodeChar c).length) r).map (c :: ·)
  | .bad n :: _ => .error ⟨index, some n⟩
  | .cut :: _ => .error ⟨index, none⟩

def decodeChars (bs : List UInt8) : Except Fault (List Char) := charsOf 0 (pieces bs)

def decode (bs : List UInt8) : Except Fault String := (decodeChars bs).map String.ofList

def decode? (bs : List UInt8) : Option String := (decode bs).toOption

/-- Writes U+FFFD for a fault. -/
def Piece.lossy : Piece → Char
  | .char c => c
  | _ => '\ufffd'

def decodeLossy (bs : List UInt8) : String := String.ofList ((pieces bs).map Piece.lossy)

example : encode "aé€😀" = [0x61, 0xc3, 0xa9, 0xe2, 0x82, 0xac, 0xf0, 0x9f, 0x98, 0x80] := by decide
example : decodeChars [0x61, 0xe2, 0x82, 0x41] = .error ⟨1, some 2⟩ := rfl
example : decodeChars [0xf0, 0x9f] = .error ⟨0, none⟩ := rfl

end SignOn.Text.Utf8
