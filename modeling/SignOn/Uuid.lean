import SignOn.Text.Hex
import SignOn.Json.Record

/-!
Universally unique identifiers. They are written as five groups of hexadecimal digits; they are read
from that form, also in braces or after `urn:uuid:`, and from the bare digits.
-/
namespace SignOn

structure Uuid where
  bits : BitVec 128
  deriving DecidableEq, Repr, Inhabited

namespace Uuid

def nil : Uuid := ⟨0⟩

/-- The 32 digits, the highest first. -/
def digits (u : Uuid) : List Char :=
  (List.range 32).map fun i => Text.Hex.digit (u.bits.toNat / 16 ^ (31 - i) % 16)

/-- Puts hyphens after the digits 8, 12, 16 and 20. -/
def hyphenate (ds : List Char) : List Char :=
  ds.take 8 ++ '-' :: (ds.drop 8).take 4 ++ '-' :: (ds.drop 12).take 4 ++
    '-' :: (ds.drop 16).take 4 ++ '-' :: ds.drop 20

def chars (u : Uuid) : List Char := hyphenate u.digits

def text (u : Uuid) : String := String.ofList u.chars

/-- Why a text is not an identifier. -/
inductive Fault where
  | character (c : Char) (index : Nat)
  | length (found : Nat)
  | groupCount (found : Nat)
  | groupLength (group expected found : Nat)
  deriving DecidableEq, Repr

def Fault.message : Fault → String
  | .character c i => s!"invalid character: found `{c}` at {i}"
  | .length n => s!"invalid length: found {n}"
  | .groupCount n => s!"invalid group count: expected 5, found {n}"
  | .groupLength g e n => s!"invalid group length in group {g}: expected {e}, found {n}"

def ofDigits? (cs : List Char) : Option Uuid :=
  (cs.mapM Text.Hex.value?).map fun vs => ⟨.ofNat 128 (vs.foldl (fun n v => n * 16 + v) 0)⟩

/-- Reads the form with hyphens. -/
def ofHyphenated? (cs : List Char) : Option Uuid :=
  if cs.length = 36 ∧ cs[8]? = some '-' ∧ cs[13]? = some '-' ∧ cs[18]? = some '-' ∧
      cs[23]? = some '-' then
    ofDigits? (cs.take 8 ++ (cs.drop 9).take 4 ++ (cs.drop 14).take 4 ++ (cs.drop 19).take 4 ++
      cs.drop 24)
  else none

/-- The text inside braces. -/
def inBraces? : List Char → Option (List Char)
  | '{' :: r =>
    match r.reverse with
    | '}' :: inner => some inner.reverse
    | _ => none
  | _ => none

/-- The text after `urn:uuid:` in any case. -/
def afterUrn? (cs : List Char) : Option (List Char) :=
  if (cs.take 9).map Char.toLower = "urn:uuid:".toList then some (cs.drop 9) else none

def read? (cs : List Char) : Option Uuid :=
  if cs.length = 32 then ofDigits? cs
  else if cs.length = 36 then ofHyphenated? cs
  else if cs.length = 38 then (inBraces? cs).bind ofHyphenated?
  else if cs.length = 45 then (afterUrn? cs).bind ofHyphenated?
  else none

/-- The first character that is neither a digit nor a hyphen, and else the places of the hyphens,
all counted in bytes. -/
def hyphens (index : Nat) : List Char → Except (Char × Nat) (List Nat)
  | [] => .ok []
  | c :: r =>
    if c = '-' then (hyphens (index + 1) r).map (index :: ·)
    else if (Text.Hex.value? c).isSome then hyphens (index + 1) r
    else .error (c, index)

/-- The first group whose closing hyphen is out of place. -/
def wrongGroup? : List (Nat × Nat × Nat × Nat) → Option (Nat × Nat × Nat)
  | [] => none
  | (group, start, expected, place) :: r =>
    if place = start + expected then wrongGroup? r else some (group, expected, place - start)

/-- What is wrong with a text of `size` bytes that `read?` refuses. -/
def fault (cs : List Char) (size : Nat) : Fault :=
  let (inner, bare) := match inBraces? cs with
    | some inner => (inner, false)
    | none => match afterUrn? cs with
      | some inner => (inner, false)
      | none => (cs, size != 36)
  match hyphens 0 inner with
  | .error (c, i) => .character c i
  | .ok places =>
    if places.isEmpty && bare then .length size
    else if places.length ≠ 4 then .groupCount (places.length + 1)
    else
      let groups := (places.zip [(0, 0, 8), (1, 9, 4), (2, 14, 4), (3, 19, 4)]).map
        fun (p, g, s, e) => (g, s, e, p)
      match wrongGroup? groups with
      | some (g, e, n) => .groupLength g e n
      | none => .groupLength 4 12 (size - 24)

def parse (s : String) : Except Fault Uuid :=
  match read? s.toList with
  | some u => .ok u
  | none => .error (fault s.toList s.utf8ByteSize)

def parse? (s : String) : Option Uuid := read? s.toList

/-- The identifier of version 4 with 128 given bits, six of which are fixed. -/
def ofRandom (n : Nat) : Uuid :=
  let kept := n % 2 ^ 128
  let high := kept / 2 ^ 80
  let middle := 4 * 2 ^ 12 + kept / 2 ^ 64 % 2 ^ 12
  let low := 2 ^ 63 + kept % 2 ^ 62
  ⟨.ofNat 128 (high * 2 ^ 80 + middle * 2 ^ 64 + low)⟩

def version (u : Uuid) : Nat := u.bits.toNat / 2 ^ 76 % 16

def toJson (u : Uuid) : Json.Value := .string u.text

def reader : Json.Reader Uuid := fun bs => (Json.string bs).filterMap parse?

example : nil.text = "00000000-0000-0000-0000-000000000000" := by decide +kernel
example : (parse "abc").toOption = none ∧ fault "abc".toList 3 = .length 3 := by decide +kernel

end Uuid
end SignOn
