import SignOn.Power

/-!
Binary floating-point numbers of 64 bits, as exact arithmetic on their bits. `ofRatio` rounds a
quotient to the nearest number, a tie to the even one; products and quotients of numbers are
rounded once from their exact value.
-/
namespace SignOn.Json

/-- A sign, eleven bits of exponent and 52 of fraction. -/
structure Binary64 where
  bits : UInt64
  deriving DecidableEq, Repr, Inhabited

namespace Binary64

def isNegative (x : Binary64) : Bool := 2 ^ 63 ≤ x.bits.toNat

/-- The bits below the sign. -/
def magnitude (x : Binary64) : Nat := x.bits.toNat % 2 ^ 63

def ofMagnitude (negative : Bool) (m : Nat) : Binary64 :=
  ⟨.ofNat (m % 2 ^ 63 + if negative then 2 ^ 63 else 0)⟩

def negate (x : Binary64) : Binary64 := ofMagnitude (!x.isNegative) x.magnitude

/-- The magnitude of infinity, above which no finite number lies. -/
def infinity : Nat := 0x7ff * 2 ^ 52

def isFinite (x : Binary64) : Bool := x.magnitude < infinity

/-- A finite number is its significand times two to its exponent. -/
def significand (x : Binary64) : Nat :=
  let m := x.magnitude
  if m < 2 ^ 52 then m else m % 2 ^ 52 + 2 ^ 52

def exponent (x : Binary64) : Int :=
  let m := x.magnitude
  if m < 2 ^ 52 then -1074 else (m / 2 ^ 52 : Int) - 1075

/-- A ratio multiplied by a power of two. -/
def scaled (num den : Nat) (e : Int) : Nat × Nat :=
  if 0 ≤ e then (num * 2 ^ e.toNat, den) else (num, den * 2 ^ (-e).toNat)

/-- The quotient, a half going to the even neighbour. -/
def roundDiv (num den : Nat) : Nat :=
  let q := num / den
  let r := num % den
  if den < 2 * r || (2 * r == den && q % 2 == 1) then q + 1 else q

/-- The magnitude nearest to a quotient, infinity's where it lies beyond all finite numbers. -/
def nearest (num den : Nat) : Nat :=
  if num = 0 then 0
  else
    let e : Int := (num.log2 : Int) - den.log2
    let (a, b) := scaled num den (-e)
    let q := max (if b ≤ a then e - 52 else e - 53) (-1074)
    let (a, b) := scaled num den (-q)
    min ((q + 1074).toNat * 2 ^ 52 + roundDiv a b) infinity

def ofRatio (num den : Nat) : Binary64 := ofMagnitude false (nearest num den)

def ofNat (n : Nat) : Binary64 := ofRatio n 1

/-- The product of two finite numbers that are not negative. -/
def mul (x y : Binary64) : Binary64 :=
  let (a, b) := scaled (x.significand * y.significand) 1 (x.exponent + y.exponent)
  ofRatio a b

/-- The quotient of two finite numbers that are not negative, the divisor not zero. -/
def div (x y : Binary64) : Binary64 :=
  let (a, b) := scaled x.significand y.significand (x.exponent - y.exponent)
  ofRatio a b

def zero : Binary64 := ⟨0⟩

/-- The power of ten nearest to the exact one. -/
def powerOfTen (k : Nat) : Binary64 := ofNat (10 ^ k)

/-- A significand times a power of ten below 10^309: one rounding for the significand and one for
the product or the quotient. A power further down is divided out 308 places at a time. Too large a
number gives nothing. -/
def ofDecimal? (fuel : Nat) (x : Binary64) (e : Int) : Option Binary64 :=
  if e.natAbs ≤ 308 then
    if 0 ≤ e then
      let y := mul x (powerOfTen e.natAbs)
      if y.isFinite then some y else none
    else some (div x (powerOfTen e.natAbs))
  else
    match fuel with
    | 0 => some zero
    | fuel + 1 =>
      if x.magnitude = 0 then some x
      else if 0 ≤ e then none
      else ofDecimal? fuel (div x (powerOfTen 308)) (e + 308)

/-- A finite number that is not negative, rounded to a whole number, a half upwards. -/
def round (x : Binary64) : Nat :=
  let (a, b) := scaled x.significand 1 x.exponent
  (2 * a + b) / (2 * b)

/-- The floating-point number 0.1 + 0.2 is one step above the one nearest to 0.3. -/
example : (ofRatio 3 10).bits = 0x3fd3333333333333 := by decide +kernel
example : (ofDecimal? 3 (ofNat 1) (-400)).map (·.bits) = some 0 := by decide +kernel
example : (ofDecimal? 3 (ofNat 5) (-324)).map (·.bits) = some 1 := by decide +kernel

end Binary64
end SignOn.Json
