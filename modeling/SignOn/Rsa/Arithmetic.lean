import SignOn.Power

/-!
Arithmetic for keys and signatures: powers modulo a number, inverses, and numbers as bytes with the
highest first.
-/
namespace SignOn.Rsa

/-- The power `b ^ e % m`, with `bits` at least the number of binary digits of `e`. -/
def powModBits (m : Nat) : Nat → Nat → Nat → Nat
  | 0, _, _ => 1 % m
  | bits + 1, b, e =>
    let r := powModBits m bits (b * b % m) (e / 2)
    if e % 2 = 1 then b * r % m else r

def powMod (b e m : Nat) : Nat := powModBits m (e.log2 + 1) (b % m) e

theorem powModBits_eq (m bits b e : Nat) (h : e < 2 ^ bits) :
    powModBits m bits b e = b ^ e % m := by
  induction bits generalizing b e with
  | zero =>
    have : e = 0 := by simpa using h
    simp [powModBits, this]
  | succ bits ih =>
    have he : e / 2 < 2 ^ bits := by rw [Nat.pow_succ] at h; omega
    have hsq : (b * b) ^ (e / 2) = b ^ (2 * (e / 2)) := by rw [← Nat.pow_two, ← Nat.pow_mul]
    rw [powModBits, ih _ _ he, ← Nat.pow_mod, hsq]
    by_cases ho : e % 2 = 1
    · have : e = 2 * (e / 2) + 1 := by omega
      simp only [ho, if_true]
      conv => rhs; rw [this, Nat.pow_succ, Nat.mul_comm]
      simp [Nat.mul_mod]
    · have : e = 2 * (e / 2) := by omega
      simp only [ho, if_false]
      conv => rhs; rw [this]

/-- Powers are taken by squaring, modulo `m` throughout. -/
theorem powMod_eq (b e m : Nat) : powMod b e m = b ^ e % m := by
  rw [powMod, powModBits_eq _ _ _ _ Nat.lt_log2_self, ← Nat.pow_mod]

/-- The last remainder of Euclid's algorithm that is not zero, and the factor of the first number
that gives it modulo the second. -/
def euclid : Nat → Int → Int → Nat → Nat → Nat × Int
  | 0, s, _, a, _ => (a, s)
  | steps + 1, s, t, a, b =>
    if b = 0 then (a, s) else euclid steps t (s - (a / b : Nat) * t) b (a % b)

/-- A number whose product with `a` leaves the remainder 1 modulo `m`. -/
def inverse? (a m : Nat) : Option Nat :=
  let (g, s) := euclid (2 * (m.log2 + 2)) 1 0 (a % m) m
  if g = 1 then some (s % m).toNat else none

/-- The number that bytes stand for. -/
def ofBytes (bs : List UInt8) : Nat := bs.foldl (fun n b => n * 256 + b.toNat) 0

/-- The bytes of a number, as many as are asked for. -/
def toBytes (count n : Nat) : List UInt8 :=
  (List.range count).map fun i => .ofNat (n / 256 ^ (count - 1 - i) % 256)

/-- The number of binary digits. -/
def bitLength (n : Nat) : Nat := if n = 0 then 0 else n.log2 + 1

/-- The number of bytes that hold a number. -/
def byteLength (n : Nat) : Nat := (bitLength n + 7) / 8

example : inverse? 3 7 = some 5 := by decide
example : inverse? 6 9 = none := by decide

end SignOn.Rsa
