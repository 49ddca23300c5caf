import Mathlib.Data.List.Basic
import SignOn.Json.Reader
import SignOn.Json.Writer
import SignOn.Text.Utf8.Lemmas

/-!
Whole numbers as JSON writes them are read as what they were, where they fit into a word of 64 bits
and no digit, point or exponent follows.
-/
namespace SignOn.Json

open Text.Utf8

/-- The bytes of a number's decimal digits. -/
def digitBytes (n : Nat) : List UInt8 := encodeChars (Nat.toDigits 10 n)

theorem encodeChar_digitChar : ∀ d < 10, encodeChar d.digitChar = [.ofNat (0x30 + d)] := by decide

theorem isDigit_byte : ∀ d < 10, isDigit (.ofNat (0x30 + d)) = true ∧
    (UInt8.ofNat (0x30 + d)).toNat - 0x30 = d ∧ (0 < d → UInt8.ofNat (0x30 + d) ≠ 0x30) ∧
    UInt8.ofNat (0x30 + d) ≠ 0x2d := by decide

theorem digitBytes_of_lt {n : Nat} (h : n < 10) : digitBytes n = [.ofNat (0x30 + n)] := by
  rw [digitBytes, Nat.toDigits_of_lt_base h, encodeChars, List.flatMap_singleton,
    encodeChar_digitChar n h]

theorem digitBytes_of_le {n : Nat} (h : 10 ≤ n) :
    digitBytes n = digitBytes (n / 10) ++ [.ofNat (0x30 + n % 10)] := by
  rw [digitBytes, Nat.toDigits_of_base_le (by omega) h, encodeChars, List.flatMap_append,
    List.flatMap_singleton, encodeChar_digitChar _ (Nat.mod_lt _ (by omega))]
  rfl

/-- The first digit is a zero only of the number zero, which has no other. -/
theorem digitBytes_eq_cons (n : Nat) : ∃ b r, digitBytes n = b :: r ∧ isDigit b = true ∧
    b ≠ 0x2d ∧ (b = 0x30 → n = 0) ∧ (n = 0 → b = 0x30 ∧ r = []) := by
  induction n using Nat.strongRecOn with
  | _ n ih =>
    rcases Nat.lt_or_ge n 10 with h | h
    · obtain ⟨hd, -, hpos, hminus⟩ := isDigit_byte n h
      refine ⟨_, [], digitBytes_of_lt h, hd, hminus, fun hb => ?_, fun hn => by simp [hn]⟩
      by_contra hn
      exact hpos (by omega) hb
    · obtain ⟨b, r, hr, hd, hminus, hzero, -⟩ := ih (n / 10) (by omega)
      refine ⟨b, r ++ [.ofNat (0x30 + n % 10)], ?_, hd, hminus, fun hb => ?_, fun hn => by omega⟩
      · rw [digitBytes_of_le h, hr, List.cons_append]
      · have := hzero hb
        omega

/-- What may come behind a number: neither a further digit nor a fraction nor an exponent. -/
def Ends (rest : List UInt8) : Prop :=
  ∀ b r, rest = b :: r → isDigit b = false ∧ b ≠ 0x2e ∧ isExponentLetter b = false

theorem wholeDigits_digitBytes {n : Nat} (h : n < 2 ^ 64) (rest : List UInt8) :
    wholeDigits 0 0 (digitBytes n ++ rest) = wholeDigits n 0 rest := by
  induction n using Nat.strongRecOn generalizing rest with
  | _ n ih =>
    have step {m d : Nat} (hd : d < 10) (hm : m * 10 + d < 2 ^ 64) :
        wholeDigits m 0 (.ofNat (0x30 + d) :: rest) = wholeDigits (m * 10 + d) 0 rest := by
      obtain ⟨hdigit, hvalue, -⟩ := isDigit_byte d hd
      rw [wholeDigits, if_pos hdigit, hvalue, if_pos ⟨rfl, hm⟩]
    rcases Nat.lt_or_ge n 10 with hn | hn
    · rw [digitBytes_of_lt hn, List.singleton_append, step hn (by omega)]
      simp
    · rw [digitBytes_of_le hn, List.append_assoc, List.singleton_append,
        ih (n / 10) (by omega) (by omega), step (Nat.mod_lt _ (by omega)) (by omega)]
      congr 1
      omega

theorem wholeDigits_of_ends {rest : List UInt8} (h : Ends rest) (n : Nat) :
    wholeDigits n 0 rest = (n, 0, rest) := by
  cases rest with
  | nil => rfl
  | cons b r => rw [wholeDigits, if_neg (by simp [(h b r rfl).1])]

theorem unsigned_digitBytes {n : Nat} (h : n < 2 ^ 64) {rest : List UInt8} (hr : Ends rest)
    (negative : Bool) :
    unsigned negative (digitBytes n ++ rest) = .got (wholeNumber negative n) rest := by
  obtain ⟨b, r, hb, hdigit, -, hzero, hnil⟩ := digitBytes_eq_cons n
  have hread : (if b = 0x30 then (0, 0, r ++ rest) else wholeDigits (b.toNat - 0x30) 0 (r ++ rest)) =
      (n, 0, rest) := by
    by_cases hn : n = 0
    · obtain ⟨rfl, rfl⟩ := hnil hn
      simp [hn]
    · rw [if_neg (mt hzero hn), ← wholeDigits_of_ends hr, ← wholeDigits_digitBytes h, hb,
        List.cons_append, wholeDigits, if_pos hdigit, if_pos]
      · simp
      · have := b.toNat_lt
        omega
  rw [hb, List.cons_append, unsigned, if_neg (by simp [hdigit])]
  simp only [hread]
  cases rest with
  | nil => rfl
  | cons c rest =>
    obtain ⟨hc, hpoint, hexp⟩ := hr c rest rfl
    simp [hc, hpoint, hexp]

/-- The bytes of a number with its sign. -/
theorem encodeChars_ofInt (i : Int) : encodeChars (Text.Decimal.ofInt i).toList =
    if i < 0 then 0x2d :: digitBytes i.natAbs else digitBytes i.natAbs := by
  cases i with
  | ofNat n => simp [Text.Decimal.ofInt, Text.Decimal.ofNat, digitBytes]
  | negSucc n =>
    have hminus : encodeChar '-' = [0x2d] := by decide
    simp [Text.Decimal.ofInt, Text.Decimal.ofNat, digitBytes, encodeChars, hminus]

/-- A written number is read as what it was. -/
theorem number_ofInt {i : Int} (h : -2 ^ 63 ≤ i ∧ i < 2 ^ 64) {rest : List UInt8}
    (hr : Ends rest) :
    number (encodeChars (Text.Decimal.ofInt i).toList ++ rest) = .got (.whole i) rest := by
  rw [encodeChars_ofInt]
  split
  next hi =>
    rw [List.cons_append, number, unsigned_digitBytes (by omega) hr, wholeNumber]
    have h0 : ¬ (i.natAbs = 0 ∨ 2 ^ 63 < i.natAbs) := by omega
    simp only [Bool.not_true, Bool.false_eq_true, if_false, if_neg h0]
    congr 2
    omega
  next hi =>
    obtain ⟨b, r, hb, hdigit, hminus, -⟩ := digitBytes_eq_cons i.natAbs
    have hread := unsigned_digitBytes (n := i.natAbs) (by omega) hr false
    rw [hb, List.cons_append] at hread ⊢
    rw [number, if_pos hdigit, hread, wholeNumber]
    · simp only [Bool.not_false, if_true]
      congr 2
      omega
    · exact fun hb => hminus hb

/-! ### Passing over -/

theorem isDigit_of_mem {n : Nat} {b : UInt8} (h : b ∈ digitBytes n) : isDigit b = true := by
  induction n using Nat.strongRecOn with
  | _ n ih =>
    rcases Nat.lt_or_ge n 10 with hn | hn
    · rw [digitBytes_of_lt hn, List.mem_singleton] at h
      exact h ▸ (isDigit_byte n hn).1
    · rw [digitBytes_of_le hn, List.mem_append, List.mem_singleton] at h
      rcases h with h | h
      · exact ih (n / 10) (by omega) h
      · exact h ▸ (isDigit_byte _ (Nat.mod_lt _ (by omega))).1

theorem dropWhile_of_ends {rest : List UInt8} (h : Ends rest) : rest.dropWhile isDigit = rest := by
  cases rest with
  | nil => rfl
  | cons b r => rw [List.dropWhile_cons_of_neg (by simp [(h b r rfl).1])]

/-- The digits of a number are passed over, however many they are. -/
theorem skipUnsigned_digitBytes (n : Nat) {rest : List UInt8} (hr : Ends rest) :
    skipUnsigned (digitBytes n ++ rest) = .got () rest := by
  obtain ⟨b, r, hb, hdigit, -, hzero, hnil⟩ := digitBytes_eq_cons n
  have hdigits : ∀ c ∈ r, isDigit c = true := fun c hc =>
    isDigit_of_mem (hb ▸ List.mem_cons_of_mem b hc)
  have hread : (if b = 0x30 then r ++ rest else (r ++ rest).dropWhile isDigit) = rest := by
    split
    next h0 => rw [(hnil (hzero h0)).2, List.nil_append]
    next => rw [List.dropWhile_append_of_pos hdigits, dropWhile_of_ends hr]
  rw [hb, List.cons_append, skipUnsigned, if_neg (by simp [hdigit])]
  simp only [hread]
  cases rest with
  | nil => rfl
  | cons c rest =>
    obtain ⟨hc, hpoint, hexp⟩ := hr c rest rfl
    simp [hc, hpoint, hexp]

end SignOn.Json
