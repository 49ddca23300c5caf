import SignOn.Text.Hex

/-!
Sets of code points as spans in ascending order. A table is written as words of hexadecimal
digits, `41` for one code point and `41-5a` for a span.
-/
namespace SignOn.Text

/-- The code points from `first` to `last`. -/
structure Span where
  first : Nat
  last : Nat
  deriving Repr, DecidableEq, Inhabited

def Span.contains (s : Span) (n : Nat) : Bool := s.first ≤ n && n ≤ s.last

namespace Spans

/-- The span whose first and last code points have been read. -/
def span (first last : Option Nat) : List Span :=
  match first, last with
  | some a, some b => [⟨a, b⟩]
  | none, some b => [⟨b, b⟩]
  | _, none => []

/-- Reads words with any blanks between them, given what has been read of the first. -/
def read (first last : Option Nat) : List Char → List Span
  | [] => span first last
  | c :: r =>
    match Text.Hex.value? c with
    | some d => read first (some (last.getD 0 * 16 + d)) r
    | none => if c = '-' then read last none r else span first last ++ read none none r

def ofText (s : String) : Array Span := (read none none s.toList).toArray

/-- Looks for the span of a code point between two places of an ascending table, halving the
distance at each step. -/
def search (spans : Array Span) (n : Nat) : Nat → Nat → Nat → Option Nat
  | 0, _, _ => none
  | steps + 1, low, high =>
    if low < high then
      let middle := (low + high) / 2
      match spans[middle]? with
      | none => none
      | some s =>
        if n < s.first then search spans n steps low middle
        else if s.last < n then search spans n steps (middle + 1) high
        else some middle
    else none

/-- The place of the span that holds a code point. -/
def find? (spans : Array Span) (n : Nat) : Option Nat :=
  search spans n (spans.size.log2 + 2) 0 spans.size

def contains (spans : Array Span) (n : Nat) : Bool := (find? spans n).isSome

end Spans

example : Spans.ofText "41-5a b5" = #[⟨0x41, 0x5a⟩, ⟨0xb5, 0xb5⟩] := by decide
example : Spans.contains (Spans.ofText "41-5a b5 c0-d6") 0xb5 = true := by decide

end SignOn.Text
