import SignOn.Json.Binary64
import SignOn.Text.Decimal

/-!
The shortest decimal text that reads back as a floating-point number. The digits come from a search
over the decimal grids of one, two, up to 17 digits; the first grid with a point among the reals
that round to the number wins, of two points the nearer, of two as near the even one.
-/
namespace SignOn.Json

/-- A whole number times a power of ten. -/
structure Scientific where
  digits : Nat
  exponent : Int
  deriving DecidableEq, Repr

namespace Scientific

/-- Moves up to `count` trailing zeros into the exponent. -/
def stripZeros : Nat → Scientific → Scientific
  | 0, s => s
  | count + 1, s =>
    if s.digits ≠ 0 && s.digits % 10 = 0 then stripZeros count ⟨s.digits / 10, s.exponent + 1⟩
    else s

end Scientific

namespace Binary64

/-- The reals that round to a number, all over one denominator. -/
structure Interval where
  low : Nat
  value : Nat
  high : Nat
  den : Nat
  closed : Bool
  deriving Repr

/-- The interval reaches half-way to the neighbours; below a power of two the neighbour is nearer.
Its ends round to the number if the significand is even. -/
def interval (x : Binary64) : Interval :=
  let m := x.significand
  let below := if m = 2 ^ 52 ∧ 2 ^ 53 ≤ x.magnitude then 1 else 2
  let (a, b) := scaled 1 1 (x.exponent - 2)
  ⟨(4 * m - below) * a, 4 * m * a, (4 * m + 2) * a, b, m % 2 == 0⟩

def Interval.contains (i : Interval) (n : Nat) : Bool :=
  if i.closed then i.low ≤ n && n ≤ i.high else i.low < n && n < i.high

/-- The exponent of the power of ten at or below a quotient that is not zero. -/
def decimalExponent (num den : Nat) : Int :=
  let atLeast (k : Int) : Bool := 10 ^ k.toNat * den ≤ num * 10 ^ (-k).toNat
  let guess : Int := ((num.log2 : Int) - den.log2) * 30103 / 100000
  if atLeast (guess + 1) then guess + 1 else if atLeast guess then guess else guess - 1

/-- The best point of the grid of multiples of `10 ^ u` inside an interval. -/
def onGrid? (i : Interval) (u : Int) : Option Scientific :=
  -- all over `den` times the negative part of the power of ten
  let up := 10 ^ u.toNat * i.den
  let down := 10 ^ (-u).toNat
  let j : Interval := ⟨i.low * down, i.value * down, i.high * down, i.den * down, i.closed⟩
  let d := j.value / up
  let lower := j.contains (d * up)
  let upper := j.contains ((d + 1) * up)
  let left := j.value - d * up
  let right := (d + 1) * up - j.value
  if lower && upper then
    if left < right || (left == right && d % 2 == 0) then some ⟨d, u⟩ else some ⟨d + 1, u⟩
  else if lower then some ⟨d, u⟩
  else if upper then some ⟨d + 1, u⟩
  else none

/-- The shortest digits of a finite number that is not zero, without its sign. -/
def shortest (x : Binary64) : Scientific :=
  let i := x.interval
  let k := decimalExponent i.value i.den
  match (List.range 17).findSome? fun (n : Nat) => onGrid? i (k - n) with
  | some s => s.stripZeros 17
  | none => ⟨0, 0⟩

/-- Numbers from 10^-5 to below 10^16 are written positionally and keep a fraction; others have one
digit before the point and a signed exponent. -/
def chars (x : Binary64) : List Char :=
  let sign := if x.isNegative then ['-'] else []
  if x.magnitude = 0 then sign ++ ['0', '.', '0']
  else
    let s := x.shortest
    let ds := Nat.toDigits 10 s.digits
    let e : Int := s.exponent + ds.length - 1
    let body : List Char :=
      if 0 ≤ s.exponent ∧ e < 16 then ds ++ List.replicate s.exponent.toNat '0' ++ ['.', '0']
      else if 0 ≤ e ∧ e < 16 then ds.take (e.toNat + 1) ++ ['.'] ++ ds.drop (e.toNat + 1)
      else if -5 ≤ e ∧ e < 0 then ['0', '.'] ++ List.replicate (-e - 1).toNat '0' ++ ds
      else
        ds.take 1 ++ (if ds.length = 1 then [] else '.' :: ds.drop 1) ++ ['e'] ++
          (if 0 ≤ e then ['+'] else ['-']) ++ Nat.toDigits 10 e.natAbs
    sign ++ body

def text (x : Binary64) : String := String.ofList x.chars

example : (ofRatio 3 2).text = "1.5" := by decide +kernel
example : (ofNat (10 ^ 100)).text = "1e+100" := by decide +kernel
example : (ofRatio 1 3).text = "0.3333333333333333" := by decide +kernel
example : (⟨1⟩ : Binary64).text = "5e-324" := by decide +kernel
example : (ofNat (10 ^ 15)).text = "1000000000000000.0" := by decide +kernel

end Binary64
end SignOn.Json
