import SignOn.Rsa.Arithmetic

/-!
RSA keys. A key is usable if its numbers keep some limits and belong together; whether the factors
are prime is not asked.
-/
namespace SignOn.Rsa

structure PublicKey where
  modulus : Nat
  exponent : Nat
  deriving DecidableEq, Repr, Inhabited

/-- At most 4096 bits, an odd modulus, and an odd exponent from 3 up to 33 bits and below the
modulus. -/
def PublicKey.IsUsable (k : PublicKey) : Prop :=
  bitLength k.modulus ≤ 4096 ∧ k.exponent < k.modulus ∧ k.modulus % 2 = 1 ∧
    k.exponent % 2 = 1 ∧ 2 ≤ k.exponent ∧ k.exponent < 2 ^ 33

instance (k : PublicKey) : Decidable k.IsUsable := by unfold PublicKey.IsUsable; infer_instance

structure PrivateKey where
  publicKey : PublicKey
  exponent : Nat
  p : Nat
  q : Nat
  deriving DecidableEq, Repr, Inhabited

/-- The modulus is the product of the factors, and the exponents undo each other modulo each factor
less one. -/
def PrivateKey.IsUsable (k : PrivateKey) : Prop :=
  k.publicKey.IsUsable ∧ 2 ≤ k.p ∧ 2 ≤ k.q ∧ k.p * k.q = k.publicKey.modulus ∧
    k.publicKey.exponent * k.exponent % (k.p - 1) = 1 ∧
    k.publicKey.exponent * k.exponent % (k.q - 1) = 1

instance (k : PrivateKey) : Decidable k.IsUsable := by unfold PrivateKey.IsUsable; infer_instance

/-- The number by which the second factor is undone modulo the first. -/
def PrivateKey.coefficient? (k : PrivateKey) : Option Nat := inverse? k.q k.p

end SignOn.Rsa
