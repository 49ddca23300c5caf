import SignOn.Text.Utf8

/-!
Reading undoes writing: bytes that were written from text are all characters, the same ones, to the
strict reading and to the lossy one.
-/
namespace SignOn.Text.Utf8

/-! ### Tails -/

theorem isTail_iff {b : UInt8} : isTail b = true ↔ 0x80 ≤ b.toNat ∧ b.toNat ≤ 0xbf := by
  simp [isTail, UInt8.le_iff_toNat_le]

theorem secondOfThree_of {a b : UInt8} (ht : 0x80 ≤ b.toNat ∧ b.toNat ≤ 0xbf)
    (hl : a.toNat = 0xe0 → 0xa0 ≤ b.toNat) (hu : a.toNat = 0xed → b.toNat ≤ 0x9f) :
    secondOfThree a b = true := by
  unfold secondOfThree
  split
  next h =>
    have e : a.toNat = 0xe0 := by simp at h; subst h; rfl
    simpa [UInt8.le_iff_toNat_le] using ⟨hl e, ht.2⟩
  next =>
    split
    next h =>
      have e : a.toNat = 0xed := by simp at h; subst h; rfl
      simpa [UInt8.le_iff_toNat_le] using ⟨ht.1, hu e⟩
    next => exact isTail_iff.2 ht

theorem secondOfFour_of {a b : UInt8} (ht : 0x80 ≤ b.toNat ∧ b.toNat ≤ 0xbf)
    (hl : a.toNat = 0xf0 → 0x90 ≤ b.toNat) (hu : a.toNat = 0xf4 → b.toNat ≤ 0x8f) :
    secondOfFour a b = true := by
  unfold secondOfFour
  split
  next h =>
    have e : a.toNat = 0xf0 := by simp at h; subst h; rfl
    simpa [UInt8.le_iff_toNat_le] using ⟨hl e, ht.2⟩
  next =>
    split
    next h =>
      have e : a.toNat = 0xf4 := by simp at h; subst h; rfl
      simpa [UInt8.le_iff_toNat_le] using ⟨ht.1, hu e⟩
    next => exact isTail_iff.2 ht

/-! ### Bytes and numbers -/

theorem toNat_valid (c : Char) : c.toNat < 0xd800 ∨ (0xdfff < c.toNat ∧ c.toNat < 0x110000) := by
  have := c.valid
  simp only [UInt32.isValidChar, Nat.isValidChar] at this
  exact this

theorem ofNat_toNat {c : Char} {n : Nat} (h : n = c.toNat) : Char.ofNat n = c := by
  subst h; exact Char.ofNat_toNat c

theorem toNat_byte {n : Nat} (h : n < 256) : (UInt8.ofNat n).toNat = n := by
  simp [UInt8.toNat_ofNat']; omega

/-! ### The piece at the front -/

theorem pieces_one {a : UInt8} (h : a.toNat < 0x80) (r : List UInt8) :
    pieces (a :: r) = .char (.ofNat a.toNat) :: pieces r := by
  rw [pieces.eq_def]
  exact if_pos (UInt8.lt_iff_toNat_lt.2 h)

theorem pieces_two {a b : UInt8} (ha : 0xc2 ≤ a.toNat ∧ a.toNat ≤ 0xdf)
    (hb : isTail b = true) (r : List UInt8) :
    pieces (a :: b :: r) = .char (.ofNat (a.toNat % 0x20 * 0x40 + payload b)) :: pieces r := by
  have h₁ : ¬ a < 0x80 := by rw [UInt8.lt_iff_toNat_lt]; simp; omega
  have h₂ : (0xc2 ≤ a && a ≤ 0xdf) = true := by simpa [UInt8.le_iff_toNat_le] using ha
  rw [pieces.eq_def]
  simp only [if_neg h₁, if_pos h₂, if_pos hb]

theorem pieces_three {a b c : UInt8} (ha : 0xe0 ≤ a.toNat ∧ a.toNat ≤ 0xef)
    (hb : secondOfThree a b = true) (hc : isTail c = true) (r : List UInt8) :
    pieces (a :: b :: c :: r) =
      .char (.ofNat (a.toNat % 0x10 * 0x1000 + payload b * 0x40 + payload c)) :: pieces r := by
  have h₁ : ¬ a < 0x80 := by rw [UInt8.lt_iff_toNat_lt]; simp; omega
  have h₂ : ¬ (0xc2 ≤ a && a ≤ 0xdf) = true := by simp [UInt8.le_iff_toNat_le]; omega
  have h₃ : (0xe0 ≤ a && a ≤ 0xef) = true := by simpa [UInt8.le_iff_toNat_le] using ha
  rw [pieces.eq_def]
  simp only [if_neg h₁, if_neg h₂, if_pos h₃, if_pos hb, if_pos hc]

theorem pieces_four {a b c d : UInt8} (ha : 0xf0 ≤ a.toNat ∧ a.toNat ≤ 0xf4)
    (hb : secondOfFour a b = true) (hc : isTail c = true) (hd : isTail d = true)
    (r : List UInt8) :
    pieces (a :: b :: c :: d :: r) =
      .char (.ofNat (a.toNat % 8 * 0x40000 + payload b * 0x1000 + payload c * 0x40 +
        payload d)) :: pieces r := by
  have h₁ : ¬ a < 0x80 := by rw [UInt8.lt_iff_toNat_lt]; simp; omega
  have h₂ : ¬ (0xc2 ≤ a && a ≤ 0xdf) = true := by simp [UInt8.le_iff_toNat_le]; omega
  have h₃ : ¬ (0xe0 ≤ a && a ≤ 0xef) = true := by simp [UInt8.le_iff_toNat_le]; omega
  have h₄ : (0xf0 ≤ a && a ≤ 0xf4) = true := by simpa [UInt8.le_iff_toNat_le] using ha
  rw [pieces.eq_def]
  simp only [if_neg h₁, if_neg h₂, if_neg h₃, if_pos h₄, if_pos hb, if_pos hc, if_pos hd]

/-! ### Whole texts -/

/-- A character stands before whatever follows its bytes. -/
theorem pieces_encodeChar (c : Char) (r : List UInt8) :
    pieces (encodeChar c ++ r) = .char c :: pieces r := by
  have hv := toNat_valid c
  have tail (k : Nat) :
      (UInt8.ofNat (0x80 + c.toNat / k % 0x40)).toNat = 0x80 + c.toNat / k % 0x40 :=
    toNat_byte (by omega)
  have isTail (k : Nat) : isTail (.ofNat (0x80 + c.toNat / k % 0x40)) = true :=
    isTail_iff.2 (by rw [tail]; omega)
  unfold encodeChar
  simp only
  split
  next h =>
    have e : (UInt8.ofNat c.toNat).toNat = c.toNat := toNat_byte (by omega)
    rw [List.singleton_append, pieces_one (by omega), ofNat_toNat e]
  next h₁ =>
  split
  next h =>
    have e : (UInt8.ofNat (0xc0 + c.toNat / 0x40)).toNat = 0xc0 + c.toNat / 0x40 :=
      toNat_byte (by omega)
    simp only [List.cons_append, List.nil_append]
    rw [pieces_two (by omega) (isTail 1)]
    simp only [payload, e, tail]
    rw [ofNat_toNat (c := c) (by omega)]
  next h₂ =>
  split
  next h =>
    have e : (UInt8.ofNat (0xe0 + c.toNat / 0x1000)).toNat = 0xe0 + c.toNat / 0x1000 :=
      toNat_byte (by omega)
    simp only [List.cons_append, List.nil_append]
    rw [pieces_three (by omega)
      (secondOfThree_of (by rw [tail]; omega) (by rw [tail, e]; omega) (by rw [tail, e]; omega))
      (isTail 1)]
    simp only [payload, e, tail]
    rw [ofNat_toNat (c := c) (by omega)]
  next h₃ =>
    have e : (UInt8.ofNat (0xf0 + c.toNat / 0x40000)).toNat = 0xf0 + c.toNat / 0x40000 :=
      toNat_byte (by omega)
    simp only [List.cons_append, List.nil_append]
    rw [pieces_four (by omega)
      (secondOfFour_of (by rw [tail]; omega) (by rw [tail, e]; omega) (by rw [tail, e]; omega))
      (isTail 0x40) (isTail 1)]
    simp only [payload, e, tail]
    rw [ofNat_toNat (c := c) (by omega)]

theorem pieces_encodeChars (cs : List Char) : pieces (encodeChars cs) = cs.map .char := by
  induction cs with
  | nil => rfl
  | cons c r ih =>
    simp only [encodeChars, List.flatMap_cons, pieces_encodeChar, List.map_cons] at *
    rw [ih]

theorem charsOf_map_char (index : Nat) (cs : List Char) : charsOf index (cs.map .char) = .ok cs := by
  induction cs generalizing index with
  | nil => rfl
  | cons c r ih => simp only [List.map_cons, charsOf, ih]; rfl

/-- What is written is read back. -/
theorem decode_encode (s : String) : decode (encode s) = .ok s := by
  unfold decode decodeChars encode
  rw [pieces_encodeChars, charsOf_map_char]
  simp [Except.map]

theorem decode?_encode (s : String) : decode? (encode s) = some s := by
  rw [decode?, decode_encode]
  rfl

theorem decodeLossy_encode (s : String) : decodeLossy (encode s) = s := by
  unfold decodeLossy encode
  rw [pieces_encodeChars, List.map_map]
  have : Piece.lossy ∘ Piece.char = id := rfl
  simp [this]

end SignOn.Text.Utf8
