import SignOn.Text.Spans

/-!
Rows of tables on characters. A row begins with the characters that it is about; marks before further
numbers say what those are.
-/
namespace SignOn.Url.Idna

/-- The marks of a row, each with the number after it; a blank stands before the first. -/
abbrev Row := List (Char × Nat)

/-- Reads rows, given what has been read of the first. -/
def readRows (row : Row) (mark : Char) (n : Option Nat) : List Char → List Row
  | [] => if n.isSome then [(row.reverse ++ [(mark, n.getD 0)])] else []
  | c :: r =>
    match Text.Hex.value? c with
    | some d => readRows row mark (some (n.getD 0 * 16 + d)) r
    | none =>
      if c = ' ' ∨ c = '\n' then
        match n with
        | some n => (row.reverse ++ [(mark, n)]) :: readRows [] ' ' none r
        | none => readRows [] ' ' none r
      else readRows ((mark, n.getD 0) :: row) c none r

/-- The first number after a mark. -/
def Row.get? (row : Row) (mark : Char) : Option Nat := row.lookup mark

/-- The numbers after a mark and after the points that follow it. -/
def Row.numbers (row : Row) (mark : Char) : List Nat :=
  match row.dropWhile fun f => f.1 ≠ mark with
  | [] => []
  | f :: r => f.2 :: (r.takeWhile fun f => f.1 = '.').map (·.2)

def Row.span (row : Row) : Text.Span :=
  let first := (row.get? ' ').getD 0
  ⟨first, (row.get? '-').getD first⟩

/-- Rows with the characters that they are about, in ascending order. -/
structure Table where
  spans : Array Text.Span
  rows : Array Row

def Table.ofText (s : String) : Table :=
  let rows := (readRows [] ' ' none s.toList).toArray
  ⟨rows.map Row.span, rows⟩

/-- The row about a character. -/
def Table.find? (t : Table) (n : Nat) : Option Row :=
  (Text.Spans.find? t.spans n).bind fun i => t.rows[i]?

example : readRows [] ' ' none "41-5a>61 a8>20.308".toList =
    [[(' ', 0x41), ('-', 0x5a), ('>', 0x61)], [(' ', 0xa8), ('>', 0x20), ('.', 0x308)]] := by decide

end SignOn.Url.Idna
