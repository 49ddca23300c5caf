import SignOn.Text.Utf8
import SignOn.Url.Idna.Direction
import SignOn.Url.Idna.Mapping
import SignOn.Url.Idna.Normal
import SignOn.Url.Idna.Punycode

/-!
Names of hosts in ASCII. A name is mapped and normalised and cut at its points; each label has to be
fit to stand in a name, and labels beyond ASCII are written in digits after `xn--`.
-/
namespace SignOn.Url.Idna

/-- ASCII characters that no name holds. -/
def isForbidden (c : Char) : Bool :=
  c.toNat ≤ 0x20 || c.toNat == 0x7f ||
    c ∈ ['%', '#', '/', ':', '<', '>', '?', '@', '[', '\\', ']', '^', '|']

/-- The parts between points. -/
def labels : List Char → List (List Char)
  | [] => [[]]
  | c :: r =>
    if c = '.' then [] :: labels r
    else match labels r with
      | [] => [[c]]
      | p :: ps => (c :: p) :: ps

def isAscii (cs : List Char) : Bool := cs.all fun c => c.toNat < 0x80

/-- The label that is meant: for digits after `xn--` what they stand for, which has to be beyond ASCII,
normal and valid. -/
def meant? : List Char → Option (List Char)
  | 'x' :: 'n' :: '-' :: '-' :: r => do
    if !isAscii r then none
    else
      let label ← Punycode.decode? r
      if isAscii label ∨ normalize label ≠ label ∨ !label.all isValid then none else some label
  | label => some label

/-- What each label is asked on its own. -/
def isFit (label : List Char) : Bool :=
  (match label with
    | c :: _ => !isMark c
    | [] => true) && joinersFit [] label

def labelToAscii (label : List Char) : List Char :=
  if isAscii label then label else 'x' :: 'n' :: '-' :: '-' :: Punycode.encode label

/-- Puts points between labels. -/
def joinLabels : List (List Char) → List Char
  | [] => []
  | [l] => l
  | l :: r => l ++ '.' :: joinLabels r

def nameToAscii? (cs : List Char) : Option (List Char) := do
  let name := normalize (← mapName cs)
  if name.any isForbidden then none
  else
    let ls ← (labels name).mapM meant?
    let directions := ls.map (·.map direction)
    if !ls.all isFit then none
    else if directions.any hasRightToLeft ∧ !directions.all keepsDirection then none
    else some (joinLabels (ls.map labelToAscii))

/-- The name that the bytes of a text stand for. -/
def toAscii? (bytes : List UInt8) : Option (List Char) :=
  match Text.Utf8.decodeChars bytes with
  | .ok cs => nameToAscii? cs
  | .error _ => none

end SignOn.Url.Idna
