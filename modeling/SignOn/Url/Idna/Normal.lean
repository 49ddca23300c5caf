import SignOn.Url.Idna.NormalTable
import SignOn.Url.Idna.Row

/-!
The composed normal form of text: characters are taken apart, combining marks are put in the order of
their classes, and what composes is composed again.
-/
namespace SignOn.Url.Idna

def decompositions : Table := .ofText decompositionText

def combiningClasses : Table := .ofText combiningText

def combiningClass (n : Nat) : Nat := ((combiningClasses.find? n).bind (·.get? '=')).getD 0

def isMark (c : Char) : Bool := Text.Spans.contains markSpans c.toNat

/-- Hangul syllables are put together by counting. -/
def syllableBase : Nat := 0xac00
def leadBase : Nat := 0x1100
def vowelBase : Nat := 0x1161
def tailBase : Nat := 0x11a7

/-- A character taken apart; the parts of a part are no deeper than the bound. -/
def decompose : Nat → Nat → List Nat
  | 0, n => [n]
  | depth + 1, n =>
    if syllableBase ≤ n ∧ n < syllableBase + 11172 then
      let i := n - syllableBase
      let tail := i % 28
      [leadBase + i / 588, vowelBase + i % 588 / 28] ++ if tail = 0 then [] else [tailBase + tail]
    else
      match decompositions.find? n with
      | none => [n]
      | some row =>
        let parts := row.numbers '=' ++ row.numbers '!'
        parts.flatMap (decompose depth)

/-- Puts a character behind those of no greater class, but not before one of class zero. -/
def insertOrdered (n : Nat) : List Nat → List Nat
  | [] => [n]
  | m :: r =>
    if combiningClass n ≠ 0 ∧ combiningClass n < combiningClass m then m :: insertOrdered n r
    else n :: m :: r

/-- The canonical order, of characters taken from the left and kept latest first. -/
def ordered (ns : List Nat) : List Nat := (ns.foldl (fun acc n => insertOrdered n acc) []).reverse

/-- The rows of characters that two others compose to. -/
def compositions : List (Nat × Nat × Nat) :=
  decompositions.rows.toList.filterMap fun row =>
    match row.numbers '=' with
    | [a, b] => some (a, b, row.span.first)
    | _ => none

def compose? (a b : Nat) : Option Nat :=
  if leadBase ≤ a ∧ a < leadBase + 19 ∧ vowelBase ≤ b ∧ b < vowelBase + 21 then
    some (syllableBase + ((a - leadBase) * 21 + (b - vowelBase)) * 28)
  else if syllableBase ≤ a ∧ a < syllableBase + 11172 ∧ (a - syllableBase) % 28 = 0 ∧
      tailBase < b ∧ b < tailBase + 28 then
    some (a + (b - tailBase))
  else (compositions.find? fun c => c.1 = a && c.2.1 = b).map (·.2.2)

/-- Composes a starter with what follows it; `kept` holds the characters between, latest first. -/
def composeFrom (starter : Option Nat) (kept : List Nat) : List Nat → List Nat
  | [] => starter.toList ++ kept.reverse
  | n :: r =>
    let blocked := match kept with
      | [] => false
      | k :: _ => combiningClass n ≤ combiningClass k
    match if blocked then none else starter.bind fun s => compose? s n with
    | some c => composeFrom (some c) kept r
    | none =>
      if combiningClass n = 0 then starter.toList ++ kept.reverse ++ composeFrom (some n) [] r
      else composeFrom starter (n :: kept) r

def normalize (cs : List Char) : List Char :=
  if cs.all fun c => c.toNat < 0xc0 then cs
  else
    (composeFrom none [] (ordered (cs.flatMap fun c => decompose 8 c.toNat))).map Char.ofNat

end SignOn.Url.Idna
