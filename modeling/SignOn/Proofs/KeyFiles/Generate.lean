import SignOn.Proofs.KeyFiles.Der
import SignOn.Proofs.Visits
import SignOn.Rsa.Generate

/-!
Making a key. Whatever numbers are drawn, a key that is given out is usable; and a key whose factors
pass the tests is given out when they are drawn.
-/
namespace SignOn.Rsa

variable {bits : Nat} {draw : Nat → Nat} {k : PrivateKey}

/-- A new key is usable, and its exponent is below its modulus. -/
theorem usable_of_generate? (h : generate? bits draw = some k) :
    k.IsUsable ∧ k.exponent < k.publicKey.modulus := by
  simp only [generate?, Option.bind_eq_bind, Option.bind_eq_some_iff] at h
  obtain ⟨⟨p, attempt⟩, -, ⟨q, _⟩, -, d, hd, h⟩ := h
  split at h
  next hgood =>
    obtain rfl := Option.some.inj h
    obtain ⟨-, hp, hq, -⟩ := hgood.2
    have hp : 2 ≤ p := hp
    have hq : 2 ≤ q := hq
    have hpos : 0 < (p - 1) * (q - 1) := Nat.mul_pos (by omega) (by omega)
    have hlt : d < (p - 1) * (q - 1) := inverse?_lt hpos hd
    have hle : (p - 1) * (q - 1) ≤ p * q := Nat.mul_le_mul (by omega) (by omega)
    exact ⟨hgood.2, Nat.lt_of_lt_of_le hlt hle⟩
  next => cases h

/-! ### The tests of a factor -/

/-- The primes below 90 are the bases of the tests. -/
theorem take_smallPrimes : smallPrimes.take 24 = [2, 3, 5, 7, 11, 13, 17, 19, 23, 29, 31, 37, 41, 43,
    47, 53, 59, 61, 67, 71, 73, 79, 83, 89] := by
  have hsplit : List.range 1000 = List.range 90 ++ (List.range 910).map (90 + ·) := by
    rw [← List.range_add]
  have hfirst : ((List.range 90).filter fun n =>
      2 ≤ n && (List.range n).all fun d => d < 2 || n < d * d || n % d != 0) =
      [2, 3, 5, 7, 11, 13, 17, 19, 23, 29, 31, 37, 41, 43, 47, 53, 59, 61, 67, 71, 73, 79, 83,
        89] := by decide +kernel
  rw [smallPrimes, hsplit, List.filter_append, hfirst]
  rfl

/-- What no number below a thousand divides, no small prime divides. -/
theorem isProbablePrime_of {n : Nat} (big : 1000 < n)
    (indivisible : ((List.range 1000).all fun d => d < 2 || n % d != 0) = true)
    (passing : (smallPrimes.take 24).all (passes n) = true) : isProbablePrime n = true := by
  rw [isProbablePrime, if_neg (Nat.not_le.mpr big), passing, Bool.and_true, List.all_eq_true]
  intro d hd
  obtain ⟨hrange, hprime⟩ := List.mem_filter.mp hd
  have htwo : 2 ≤ d := by simpa using (Bool.and_eq_true_iff.mp hprime).1
  have hd := List.all_eq_true.mp indivisible d hrange
  simpa [Nat.not_lt.mpr htwo] using hd

/-- A number that can be a factor is taken where it is drawn. -/
theorem factor?_eq_some {attempt n : Nat} (drawn : shape bits (draw attempt) = n)
    (coprime : (n - 1) % publicExponent ≠ 0) (prime : isProbablePrime n = true) :
    factor? bits draw maxAttempts attempt = some (n, attempt + 1) := by
  rw [maxAttempts, factor?, drawn]
  exact if_pos (by simp [coprime, prime])

/-- A usable key is given out where its factors are found. -/
theorem generate?_eq_some {attempt after : Nat}
    (hp : factor? (bits / 2) draw maxAttempts 0 = some (k.p, attempt))
    (hq : factor? (bits / 2) draw maxAttempts attempt = some (k.q, after))
    (hexponent : k.publicKey.exponent = publicExponent)
    (hd : inverse? publicExponent ((k.p - 1) * (k.q - 1)) = some k.exponent)
    (distinct : k.p ≠ k.q) (usable : k.IsUsable) : generate? bits draw = some k := by
  obtain ⟨⟨modulus, e⟩, d, p, q⟩ := k
  obtain rfl : modulus = p * q := usable.2.2.2.1.symm
  obtain rfl : e = publicExponent := hexponent
  simp only [generate?, hp, hq, hd, Option.bind_eq_bind, Option.bind_some]
  exact if_pos ⟨distinct, usable⟩

/-! ### A key that is made -/

open Service (sampleKey)

theorem isProbablePrime_sampleKey_p : isProbablePrime sampleKey.p = true := by
  refine isProbablePrime_of (by decide +kernel) (by decide +kernel) ?_
  rw [take_smallPrimes]
  decide +kernel

theorem isProbablePrime_sampleKey_q : isProbablePrime sampleKey.q = true := by
  refine isProbablePrime_of (by decide +kernel) (by decide +kernel) ?_
  rw [take_smallPrimes]
  decide +kernel

/-- Draws the factors of the sample key. -/
def sampleDraw (attempt : Nat) : Nat := if attempt = 0 then sampleKey.p else sampleKey.q

theorem generate?_sampleDraw : generate? 2048 sampleDraw = some sampleKey :=
  generate?_eq_some
    (factor?_eq_some (by decide +kernel) (by decide +kernel) isProbablePrime_sampleKey_p)
    (factor?_eq_some (by decide +kernel) (by decide +kernel) isProbablePrime_sampleKey_q)
    rfl (by decide +kernel) (by decide +kernel) (by decide +kernel)

end SignOn.Rsa
