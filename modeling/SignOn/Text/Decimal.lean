import SignOn.Power

/-!
Whole numbers in decimal digits. The readers take an optional sign and ASCII digits only, and
refuse what is out of their range.
-/
namespace SignOn.Text.Decimal

/-- The value of a digit. -/
def digit? (c : Char) : Option Nat :=
  if '0' ≤ c && c ≤ '9' then some (c.toNat - 0x30) else none

/-- Continues a number with further digits. -/
def continue? (n : Nat) : List Char → Option Nat
  | [] => some n
  | c :: r => do
    let d ← digit? c
    continue? (n * 10 + d) r

/-- One digit or more. -/
def digits? : List Char → Option Nat
  | [] => none
  | cs => continue? 0 cs

/-- A number below a bound, with an optional `+`. -/
def below? (bound : Nat) (s : String) : Option Nat := do
  let n ← match s.toList with
    | '+' :: r => digits? r
    | cs => digits? cs
  if n < bound then some n else none

/-- A number of a word of two's complement, with an optional sign. -/
def int64? (s : String) : Option Int := do
  let i : Int ← match s.toList with
    | '+' :: r => (digits? r).map Int.ofNat
    | '-' :: r => (digits? r).map (fun n => -(n : Int))
    | cs => (digits? cs).map Int.ofNat
  if -2 ^ 63 ≤ i ∧ i < 2 ^ 63 then some i else none

def ofNat (n : Nat) : String := String.ofList (Nat.toDigits 10 n)

def ofInt : Int → String
  | .ofNat n => ofNat n
  | .negSucc n => "-" ++ ofNat (n + 1)

/-- At least `width` digits, with zeros in front. -/
def padded (width n : Nat) : String :=
  let digits := Nat.toDigits 10 n
  String.ofList (List.replicate (width - digits.length) '0' ++ digits)

example : below? 65536 "+080" = some 80 := by decide
example : below? 65536 "65536" = none := by decide
example : int64? "-9223372036854775808" = some (-2 ^ 63) := by decide

end SignOn.Text.Decimal
