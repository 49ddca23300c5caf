import SignOn.Rsa.Key

/-!
New key pairs. Candidates for the two factors come from outside; they are tested by Miller and Rabin's
method, and a key is given out only if it is usable.
-/
namespace SignOn.Rsa

/-- The primes by which candidates are divided, and to which as bases they are tested. -/
def smallPrimes : List Nat :=
  (List.range 1000).filter fun n =>
    2 ≤ n && (List.range n).all fun d => d < 2 || n < d * d || n % d != 0

/-- Squares a remainder up to `count` times, looking for minus one. -/
def reachesMinusOne (n : Nat) : Nat → Nat → Bool
  | 0, _ => false
  | count + 1, x => x == n - 1 || reachesMinusOne n count (x * x % n)

/-- Splits a number into a power of two and an odd number. -/
def twos : Nat → Nat → Nat × Nat
  | 0, d => (0, d)
  | fuel + 1, d => if d % 2 = 0 then ((twos fuel (d / 2)).1 + 1, (twos fuel (d / 2)).2) else (0, d)

/-- Whether an odd number passes the test to a base. -/
def passes (n base : Nat) : Bool :=
  let (s, d) := twos 64 (n - 1)
  let x := powMod base d n
  x == 1 || reachesMinusOne n s x

def isProbablePrime (n : Nat) : Bool :=
  if n ≤ 1000 then smallPrimes.contains n
  else smallPrimes.all (fun p => n % p != 0) && (smallPrimes.take 24).all (passes n)

/-- An odd number of just so many binary digits, the highest two of them ones. -/
def shape (bits n : Nat) : Nat :=
  let low := n % 2 ^ (bits - 2)
  3 * 2 ^ (bits - 2) + low - low % 2 + 1

def publicExponent : Nat := 65537

/-- The first prime from an attempt on that may be a factor, and the attempt after it. -/
def factor? (bits : Nat) (draw : Nat → Nat) : Nat → Nat → Option (Nat × Nat)
  | 0, _ => none
  | fuel + 1, attempt =>
    let n := shape bits (draw attempt)
    if (n - 1) % publicExponent ≠ 0 && isProbablePrime n then some (n, attempt + 1)
    else factor? bits draw fuel (attempt + 1)

/-- How many candidates are looked at for a factor. -/
def maxAttempts : Nat := 100000

/-- A key with a modulus of so many binary digits, from numbers drawn at random. -/
def generate? (bits : Nat) (draw : Nat → Nat) : Option PrivateKey := do
  let (p, next) ← factor? (bits / 2) draw maxAttempts 0
  let (q, _) ← factor? (bits / 2) draw maxAttempts next
  let d ← inverse? publicExponent ((p - 1) * (q - 1))
  let k : PrivateKey := ⟨⟨p * q, publicExponent⟩, d, p, q⟩
  if p ≠ q ∧ k.IsUsable then some k else none

end SignOn.Rsa
