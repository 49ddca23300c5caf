import SignOn.Digest.Sha256
import SignOn.Rsa.Key

/-!
Signatures over SHA-256 digests with the padding of PKCS #1 version 1.5. Signing and verifying each
ask more of a key than that it is usable.
-/
namespace SignOn.Rsa

/-- What stands before the digest: the name of the digest algorithm. -/
def digestHeader : List UInt8 :=
  [0x30, 0x31, 0x30, 0x0d, 0x06, 0x09, 0x60, 0x86, 0x48, 0x01, 0x65, 0x03, 0x04, 0x02, 0x01, 0x05,
    0x00, 0x04, 0x20]

/-- The padded digest of a message, as many bytes as the modulus. -/
def padded (count : Nat) (message : List UInt8) : List UInt8 :=
  0 :: 1 :: List.replicate (count - 3 - 51) 0xff ++
    0 :: digestHeader ++ Digest.Sha256.digest message

/-- Keys that sign: a modulus of 2048 to 4096 bits, an exponent from 65537 on, and two factors of
half the length of the modulus, a multiple of 512 bits; the private exponent is longer than that and
below the modulus. -/
def PrivateKey.CanSign (k : PrivateKey) : Prop :=
  let half := (bitLength k.publicKey.modulus + 1) / 2
  256 ≤ byteLength k.publicKey.modulus ∧ bitLength k.publicKey.modulus ≤ 4096 ∧
    65537 ≤ k.publicKey.exponent ∧ bitLength k.p = half ∧ bitLength k.q = half ∧
    half % 512 = 0 ∧ half < bitLength k.exponent ∧ k.exponent < k.publicKey.modulus

instance (k : PrivateKey) : Decidable k.CanSign := by unfold PrivateKey.CanSign; infer_instance

/-- The signature of a message, if the key can sign. -/
def PrivateKey.sign? (k : PrivateKey) (message : List UInt8) : Option (List UInt8) :=
  if k.CanSign then
    let n := k.publicKey.modulus
    let count := byteLength n
    some (toBytes count (powMod (ofBytes (padded count message)) k.exponent n))
  else none

/-- Holds if a signature of full length, taken to the public exponent, is the padded digest of the
message, under a modulus of 2048 bits or more. -/
def PublicKey.verify (k : PublicKey) (message signature : List UInt8) : Bool :=
  let count := byteLength k.modulus
  256 ≤ count && signature.length == count && ofBytes signature < k.modulus &&
    toBytes count (powMod (ofBytes signature) k.exponent k.modulus) == padded count message

end SignOn.Rsa
