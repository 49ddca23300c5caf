import Mathlib.Tactic.Ring
import SignOn.Rsa.Encoding

/-!
Keys as bytes. A number, an element and a whole key are read back from the bytes that they are
written in; elements are told apart from what follows by their lengths, which are read back as long
as they are below 2 ^ 28.
-/
namespace SignOn.Rsa

/-! ### Numbers as bytes -/

theorem lt_two_pow_bitLength (n : Nat) : n < 2 ^ bitLength n := by
  unfold bitLength
  split
  next h =>
    rw [h]
    decide
  next => exact Nat.lt_log2_self

theorem bitLength_le_iff {n bits : Nat} : bitLength n ≤ bits ↔ n < 2 ^ bits := by
  constructor
  · intro h
    exact Nat.lt_of_lt_of_le (lt_two_pow_bitLength n) (Nat.pow_le_pow_right (by decide) h)
  · intro h
    unfold bitLength
    split
    next => exact Nat.zero_le _
    next hn => exact (Nat.log2_lt hn).mpr h

theorem pow_256 (count : Nat) : 256 ^ count = 2 ^ (8 * count) := by
  rw [show 256 = 2 ^ 8 from rfl, ← Nat.pow_mul]

theorem lt_pow_byteLength (n : Nat) : n < 256 ^ byteLength n := by
  rw [pow_256, ← bitLength_le_iff]
  unfold byteLength
  omega

/-- The highest bit of a byte is set in the numbers that are long enough. -/
theorem div_pow_lt_iff {n count : Nat} :
    n / 256 ^ count < 0x80 ↔ bitLength n < 8 * (count + 1) := by
  have hpow : 0x80 * 2 ^ (8 * count) = 2 ^ (8 * count + 7) := by ring
  rw [pow_256, Nat.div_lt_iff_lt_mul (Nat.two_pow_pos _), hpow, ← bitLength_le_iff]
  omega

theorem length_toBytes (count n : Nat) : (toBytes count n).length = count := by
  simp [toBytes]

/-- The highest byte stands first. -/
theorem toBytes_succ (count n : Nat) :
    toBytes (count + 1) n = .ofNat (n / 256 ^ count % 256) :: toBytes count n := by
  unfold toBytes
  rw [List.range_succ_eq_map, List.map_cons, List.map_map]
  congr 1
  apply List.map_congr_left
  intro i _
  have hi : count + 1 - 1 - (i + 1) = count - 1 - i := by omega
  simp only [Function.comp_apply, Nat.succ_eq_add_one, hi]

theorem ofBytes_cons (b : UInt8) (bs : List UInt8) :
    ofBytes (b :: bs) = b.toNat * 256 ^ bs.length + ofBytes bs := by
  have hfold (a : Nat) : bs.foldl (fun n b => n * 256 + b.toNat) a =
      a * 256 ^ bs.length + ofBytes bs := by
    unfold ofBytes
    induction bs generalizing a with
    | nil => simp
    | cons c r ih =>
      rw [List.foldl_cons, List.foldl_cons, ih, ih (0 * 256 + c.toNat), List.length_cons,
        Nat.pow_succ']
      ring
  rw [ofBytes, List.foldl_cons, hfold]
  simp

theorem toNat_ofNat_mod (n : Nat) : (UInt8.ofNat (n % 256)).toNat = n % 256 := by
  rw [UInt8.toNat_ofNat']
  exact Nat.mod_mod_of_dvd _ (Nat.dvd_refl _)

theorem ofBytes_toBytes (count n : Nat) : ofBytes (toBytes count n) = n % 256 ^ count := by
  induction count with
  | zero => simp [toBytes, ofBytes, Nat.mod_one]
  | succ count ih =>
    rw [toBytes_succ, ofBytes_cons, length_toBytes, ih, toNat_ofNat_mod, Nat.pow_succ,
      Nat.mod_mul]
    ring

theorem ofBytes_toBytes_of_lt {count n : Nat} (h : n < 256 ^ count) :
    ofBytes (toBytes count n) = n := by
  rw [ofBytes_toBytes, Nat.mod_eq_of_lt h]

namespace Der

/-! ### Whole numbers -/

theorem natural?_cons_cons {b c : UInt8} {r : List UInt8} (hb : b < 0x80)
    (hshort : b = 0 → 0x80 ≤ c) : natural? (b :: c :: r) = some (ofBytes (b :: c :: r)) := by
  rw [natural?, if_neg (by simpa using hb), if_neg]
  rintro ⟨h0, hc⟩
  exact absurd hc (by simpa using hshort h0)

theorem ofNat_lt {n : Nat} (h : n < 0x80) : UInt8.ofNat n < 0x80 := by
  rw [UInt8.lt_iff_toNat_lt, UInt8.toNat_ofNat']
  exact Nat.lt_of_le_of_lt (Nat.mod_le _ _) h

/-- The bytes of a number are as few as leave the highest bit clear, so they are read. -/
theorem natural?_toBytes (n : Nat) : natural? (toBytes (bitLength n / 8 + 1) n) = some n := by
  have hhigh : n / 256 ^ (bitLength n / 8) < 0x80 := div_pow_lt_iff.mpr (by omega)
  have hfits : n < 256 ^ (bitLength n / 8 + 1) := by
    rw [pow_256, ← bitLength_le_iff]
    omega
  have hread := ofBytes_toBytes_of_lt hfits
  cases hcount : bitLength n / 8 with
  | zero =>
    rw [hcount, Nat.pow_zero, Nat.div_one] at hhigh
    rw [hcount] at hread
    have hone : toBytes (0 + 1) n = [.ofNat n] := by
      rw [toBytes_succ, Nat.pow_zero, Nat.div_one, Nat.mod_eq_of_lt (by omega)]
      rfl
    rw [hone] at hread ⊢
    rw [natural?, if_pos (ofNat_lt hhigh), ← hread]
    simp [ofBytes]
  | succ count =>
    rw [hcount] at hhigh hread
    -- where the first byte is zero, the number reaches into the highest bit of the second
    have hsecond (hzero : UInt8.ofNat (n / 256 ^ (count + 1) % 256) = 0) :
        0x80 ≤ UInt8.ofNat (n / 256 ^ count % 256) := by
      have hnone : n / 256 ^ (count + 1) = 0 := by
        have hbyte := congrArg UInt8.toNat hzero
        rw [toNat_ofNat_mod, Nat.mod_eq_of_lt (by omega)] at hbyte
        exact hbyte
      rw [Nat.pow_succ, ← Nat.div_div_eq_div_mul] at hnone
      have hset : ¬ n / 256 ^ count < 0x80 := by
        rw [div_pow_lt_iff]
        omega
      rw [UInt8.le_iff_toNat_le, toNat_ofNat_mod, Nat.mod_eq_of_lt (by omega)]
      exact Nat.not_lt.mp hset
    have hfirst : UInt8.ofNat (n / 256 ^ (count + 1) % 256) < 0x80 := by
      rw [Nat.mod_eq_of_lt (by omega)]
      exact ofNat_lt hhigh
    rw [toBytes_succ, toBytes_succ] at hread ⊢
    rw [natural?_cons_cons hfirst hsecond, hread]

/-! ### Elements -/

theorem length?_lengthBytes {n : Nat} (h : n < 2 ^ 28) (rest : List UInt8) :
    length? (lengthBytes n ++ rest) = some (n, rest) := by
  by_cases hn : n < 0x80
  · have hb : (UInt8.ofNat n).toNat = n := by
      rw [UInt8.toNat_ofNat']
      exact Nat.mod_eq_of_lt (by omega)
    rw [lengthBytes, if_pos hn, List.singleton_append, length?, if_pos (ofNat_lt hn), hb]
  · have hcount : 0 < byteLength n ∧ byteLength n ≤ 4 := by
      have hle := bitLength_le_iff.mpr h
      have hpos : ¬ bitLength n ≤ 0 := by
        rw [bitLength_le_iff]
        omega
      unfold byteLength
      omega
    have hb : (UInt8.ofNat (0x80 + byteLength n)).toNat = 0x80 + byteLength n := by
      rw [UInt8.toNat_ofNat']
      exact Nat.mod_eq_of_lt (by omega)
    have hlong : lengthBytes n = .ofNat (0x80 + byteLength n) :: toBytes (byteLength n) n :=
      if_neg hn
    have hhigh : ¬ UInt8.ofNat (0x80 + byteLength n) < 0x80 := by
      rw [UInt8.lt_iff_toNat_lt, hb]
      exact Nat.not_lt.mpr (Nat.le_add_right _ _)
    have htake : (toBytes (byteLength n) n ++ rest).take (byteLength n) =
        toBytes (byteLength n) n := List.take_left' (length_toBytes _ _)
    have hdrop : (toBytes (byteLength n) n ++ rest).drop (byteLength n) = rest :=
      List.drop_left' (length_toBytes _ _)
    have hvalue : ofBytes (toBytes (byteLength n) n) = n :=
      ofBytes_toBytes_of_lt (lt_pow_byteLength n)
    have henough : ¬ (byteLength n = 0 ∨ 4 < byteLength n ∨
        (toBytes (byteLength n) n ++ rest).length < byteLength n) := by
      rw [List.length_append, length_toBytes]
      omega
    rw [hlong, List.cons_append, length?, if_neg hhigh, hb]
    simp only [Nat.add_sub_cancel_left, if_neg henough, htake, hdrop, hvalue]
    rw [if_pos ⟨hlong, h⟩]

theorem element?_element (tag : UInt8) {contents : List UInt8} (h : contents.length < 2 ^ 28)
    (rest : List UInt8) :
    element? (element tag contents ++ rest) = some (tag, contents, rest) := by
  unfold element
  rw [List.append_assoc, List.cons_append, element?, length?_lengthBytes h]
  simp

theorem expect?_element (tag : UInt8) {contents : List UInt8} (h : contents.length < 2 ^ 28)
    (rest : List UInt8) : expect? tag (element tag contents ++ rest) = some (contents, rest) := by
  simp [expect?, element?_element tag h]

theorem only?_element (tag : UInt8) {contents : List UInt8} (h : contents.length < 2 ^ 28) :
    only? tag (element tag contents) = some contents := by
  have hread := expect?_element tag h []
  rw [List.append_nil] at hread
  simp [only?, hread]

theorem length_element_le (tag : UInt8) {contents : List UInt8} (h : contents.length < 2 ^ 28) :
    (element tag contents).length ≤ contents.length + 6 := by
  have hlength : (lengthBytes contents.length).length ≤ 5 := by
    have hbits := bitLength_le_iff.mpr h
    unfold lengthBytes
    split
    next => exact Nat.le_of_ble_eq_true rfl
    next =>
      rw [List.length_cons, length_toBytes, byteLength]
      omega
  unfold element
  rw [List.length_append, List.length_cons]
  omega

/-! ### Rows of numbers -/

theorem length_integer_le {n : Nat} (h : bitLength n ≤ 4096) : (integer n).length ≤ 519 := by
  have hcontents : (toBytes (bitLength n / 8 + 1) n).length = bitLength n / 8 + 1 :=
    length_toBytes _ _
  have hle := length_element_le integerTag
    (show (toBytes (bitLength n / 8 + 1) n).length < 2 ^ 28 by omega)
  unfold integer
  omega

theorem length_integers_le {ns : List Nat} (h : ∀ n ∈ ns, bitLength n ≤ 4096) :
    (ns.map integer).flatten.length ≤ 519 * ns.length := by
  induction ns with
  | nil => exact Nat.le_refl _
  | cons n r ih =>
    obtain ⟨hn, hr⟩ := List.forall_mem_cons.mp h
    have hfirst := length_integer_le hn
    have hrest := ih hr
    rw [List.map_cons, List.flatten_cons, List.length_append, List.length_cons]
    omega

theorem naturals?_integers {ns : List Nat} (h : ∀ n ∈ ns, bitLength n ≤ 4096) :
    naturals? ns.length (ns.map integer).flatten = some ns := by
  induction ns with
  | nil => rfl
  | cons n r ih =>
    obtain ⟨hn, hr⟩ := List.forall_mem_cons.mp h
    have hshort : (toBytes (bitLength n / 8 + 1) n).length < 2 ^ 28 := by
      rw [length_toBytes]
      omega
    rw [List.length_cons, List.map_cons, List.flatten_cons, naturals?, integer,
      expect?_element integerTag hshort]
    simp only [Option.bind_eq_bind, Option.bind_some, natural?_toBytes, ih hr]

/-- Up to nine numbers of up to 4096 digits are read back. -/
theorem naturals?_sequence {ns : List Nat} (h : ∀ n ∈ ns, bitLength n ≤ 4096)
    (few : ns.length ≤ 9) : ∃ contents,
    only? sequenceTag (sequence (ns.map integer)) = some contents ∧
      naturals? ns.length contents = some ns := by
  have hlength := length_integers_le h
  refine ⟨(ns.map integer).flatten, ?_, naturals?_integers h⟩
  exact only?_element sequenceTag (by omega)

end Der

/-! ### Keys -/

theorem bitLength_le_of_le {m n : Nat} (h : m ≤ n) {bits : Nat} (hn : bitLength n ≤ bits) :
    bitLength m ≤ bits :=
  bitLength_le_iff.mpr (Nat.lt_of_le_of_lt h (bitLength_le_iff.mp hn))

theorem PublicKey.bitLength_le {k : PublicKey} (usable : k.IsUsable) :
    ∀ n ∈ [k.modulus, k.exponent], bitLength n ≤ 4096 := by
  obtain ⟨hbits, hlt, -⟩ := usable
  simp only [List.forall_mem_cons]
  exact ⟨hbits, bitLength_le_of_le (Nat.le_of_lt hlt) hbits, by simp⟩

theorem PublicKey.ofDer?_der {k : PublicKey} (usable : k.IsUsable) :
    PublicKey.ofDer? k.der = some k := by
  obtain ⟨contents, hcontents, hnumbers⟩ :=
    Der.naturals?_sequence (bitLength_le usable) (Nat.le_of_ble_eq_true rfl)
  have hder : Der.only? Der.sequenceTag k.der = some contents := hcontents
  have hpair : Der.naturals? 2 contents = some [k.modulus, k.exponent] := hnumbers
  simp only [PublicKey.ofDer?, hder, Option.bind_eq_bind, Option.bind_some, hpair, if_pos usable]

/-- A number that undoes another one modulo a third is below the third. -/
theorem inverse?_lt {a m d : Nat} (hm : 0 < m) (h : inverse? a m = some d) : d < m := by
  unfold inverse? at h
  simp only at h
  split at h
  next =>
    obtain rfl := Option.some.inj h
    have hpos : (0 : Int) < m := by omega
    have hlt := Int.emod_lt_of_pos (euclid (2 * (m.log2 + 2)) 1 0 (a % m) m).2 hpos
    omega
  next => cases h

/-- The number that undoes the second factor is below the first. -/
theorem coefficient_lt {k : PrivateKey} {c : Nat} (hp : 2 ≤ k.p) (h : k.coefficient? = some c) :
    c < k.p := inverse?_lt (by omega) h

/-- A usable key is read back if its exponent is below its modulus. -/
theorem PrivateKey.ofDer?_der {k : PrivateKey} (usable : k.IsUsable)
    (below : k.exponent < k.publicKey.modulus) {c : Nat} (hc : k.coefficient? = some c) :
    PrivateKey.ofDer? (k.der c) = some k := by
  obtain ⟨⟨hbits, hlt, -⟩, hp, hq, hmodulus, -⟩ := id usable
  have fits {n : Nat} (h : n ≤ k.publicKey.modulus) : bitLength n ≤ 4096 :=
    bitLength_le_of_le h hbits
  have hple : k.p ≤ k.publicKey.modulus := hmodulus ▸ Nat.le_mul_of_pos_right k.p (by omega)
  have hqle : k.q ≤ k.publicKey.modulus := hmodulus ▸ Nat.le_mul_of_pos_left k.q (by omega)
  have hcle : c ≤ k.publicKey.modulus :=
    Nat.le_trans (Nat.le_of_lt (coefficient_lt hp hc)) hple
  have hexponent : k.exponent ≤ k.publicKey.modulus := Nat.le_of_lt below
  have hall : ∀ n ∈ [0, k.publicKey.modulus, k.publicKey.exponent, k.exponent, k.p, k.q,
      k.exponent % (k.p - 1), k.exponent % (k.q - 1), c], bitLength n ≤ 4096 := by
    simp only [List.forall_mem_cons]
    exact ⟨fits (Nat.zero_le _), hbits, fits (Nat.le_of_lt hlt), fits hexponent, fits hple,
      fits hqle, fits (Nat.le_trans (Nat.mod_le _ _) hexponent),
      fits (Nat.le_trans (Nat.mod_le _ _) hexponent), fits hcle, by simp⟩
  obtain ⟨contents, hcontents, hnumbers⟩ :=
    Der.naturals?_sequence hall (Nat.le_of_ble_eq_true rfl)
  have hder : Der.only? Der.sequenceTag (k.der c) = some contents := hcontents
  have hnine : Der.naturals? 9 contents = some [0, k.publicKey.modulus, k.publicKey.exponent,
    k.exponent, k.p, k.q, k.exponent % (k.p - 1), k.exponent % (k.q - 1), c] := hnumbers
  simp only [PrivateKey.ofDer?, hder, Option.bind_eq_bind, Option.bind_some, hnine, if_pos usable]

/-- The envelope of a public key is opened to find it. -/
theorem PublicKey.ofEnvelope?_envelope {k : PublicKey} (usable : k.IsUsable) :
    PublicKey.ofEnvelope? k.envelope = some k := by
  have hnumbers : ([Der.integer k.modulus, Der.integer k.exponent].flatten).length ≤ 519 * 2 :=
    Der.length_integers_le (bitLength_le usable)
  have hder : k.der.length ≤ 519 * 2 + 6 := by
    have hle := Der.length_element_le Der.sequenceTag (Nat.lt_of_le_of_lt hnumbers (by decide))
    exact Nat.le_trans hle (Nat.add_le_add_right hnumbers 6)
  have hbits : (0 :: k.der).length ≤ 519 * 2 + 7 := Nat.succ_le_succ hder
  have hname : Der.expect? Der.sequenceTag (Der.element Der.sequenceTag algorithm ++
      (Der.element Der.bitStringTag (0 :: k.der) ++ [])) =
        some (algorithm, Der.element Der.bitStringTag (0 :: k.der)) := by
    rw [Der.expect?_element Der.sequenceTag (by decide), List.append_nil]
  have hkey : Der.only? Der.bitStringTag (Der.element Der.bitStringTag (0 :: k.der)) =
      some (0 :: k.der) := Der.only?_element Der.bitStringTag (by omega)
  have hcontents : Der.only? Der.sequenceTag k.envelope =
      some (Der.element Der.sequenceTag algorithm ++
        (Der.element Der.bitStringTag (0 :: k.der) ++ [])) := by
    apply Der.only?_element
    have hfirst : (Der.element Der.sequenceTag algorithm).length = 15 := by decide
    have hsecond := Der.length_element_le Der.bitStringTag
      (Nat.lt_of_le_of_lt hbits (by decide))
    simp only [List.flatten_cons, List.flatten_nil, List.length_append, List.length_nil, hfirst]
    omega
  simp only [PublicKey.ofEnvelope?, hcontents, Option.bind_eq_bind, Option.bind_some, hname, hkey,
    ne_eq, not_true_eq_false, if_false, ofDer?_der usable]

end SignOn.Rsa
