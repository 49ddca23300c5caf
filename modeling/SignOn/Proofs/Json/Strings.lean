import Mathlib.Data.List.Basic
import SignOn.Json.Reader
import SignOn.Json.Writer
import SignOn.Text.Utf8.Lemmas

/-!
Strings as JSON writes them are read as what they were. A character is written as itself, as a
backslash and a letter, or as a backslash and its number.
-/
namespace SignOn.Text.Utf8

/-- A byte of a character is the character itself, if that is ASCII, or no ASCII at all. -/
theorem mem_encodeChar {c : Char} {b : UInt8} (h : b ∈ encodeChar c) :
    (b.toNat = c.toNat ∧ c.toNat < 0x80) ∨ 0x80 ≤ b.toNat := by
  have hv := toNat_valid c
  unfold encodeChar at h
  simp only at h
  split at h
  next hn =>
    obtain rfl := List.mem_singleton.mp h
    exact .inl ⟨toNat_byte (by omega), hn⟩
  next =>
    right
    split at h
    next =>
      rcases List.mem_pair.mp h with rfl | rfl <;> rw [toNat_byte (by omega)] <;> omega
    next =>
      split at h <;> simp only [List.mem_cons, List.not_mem_nil, or_false] at h
      · rcases h with rfl | rfl | rfl <;> rw [toNat_byte (by omega)] <;> omega
      · rcases h with rfl | rfl | rfl | rfl <;> rw [toNat_byte (by omega)] <;> omega

end SignOn.Text.Utf8

namespace SignOn.Json

open Text.Utf8

/-- A byte that stands for itself in a string. -/
def IsPlain (b : UInt8) : Prop := b ≠ 0x22 ∧ b ≠ 0x5c ∧ ¬ b < 0x20

instance (b : UInt8) : Decidable (IsPlain b) :=
  inferInstanceAs (Decidable (b ≠ 0x22 ∧ b ≠ 0x5c ∧ ¬ b < 0x20))

theorem eq_ofNat {c : Char} {n : Nat} (h : c.toNat = n) : c = .ofNat n :=
  (ofNat_toNat h.symm).symm

/-- The number of a control character is written with four digits. -/
theorem hex4?_control : ∀ n < 0x20,
    encodeChars ['\\', 'u', '0', '0', Text.Hex.digit (n / 16), Text.Hex.digit (n % 16)] =
      [0x5c, 0x75, 0x30, 0x30, ascii (Text.Hex.digit (n / 16)), ascii (Text.Hex.digit (n % 16))] ∧
    hex4? 0x30 0x30 (ascii (Text.Hex.digit (n / 16))) (ascii (Text.Hex.digit (n % 16))) =
      some n := by
  decide

/-- The three ways in which a character is written. -/
theorem escapeChar_cases (c : Char) :
    (∃ b e, encodeChars (escapeChar c) = [0x5c, b] ∧ b ≠ 0x75 ∧ simpleEscape? b = some e ∧
      encodeChar c = [e]) ∨
    (∃ a b, encodeChars (escapeChar c) = [0x5c, 0x75, 0x30, 0x30, a, b] ∧
      hex4? 0x30 0x30 a b = some c.toNat ∧ c.toNat < 0x20) ∨
    (encodeChars (escapeChar c) = encodeChar c ∧ ∀ b ∈ encodeChar c, IsPlain b) := by
  unfold escapeChar
  split
  next h => subst h; exact .inl ⟨0x22, 0x22, by decide, by decide, by decide, by decide⟩
  next hquote =>
  split
  next h => subst h; exact .inl ⟨0x5c, 0x5c, by decide, by decide, by decide, by decide⟩
  next hslash =>
  split
  next h => subst h; exact .inl ⟨0x6e, 0x0a, by decide, by decide, by decide, by decide⟩
  next =>
  split
  next h => subst h; exact .inl ⟨0x72, 0x0d, by decide, by decide, by decide, by decide⟩
  next =>
  split
  next h => subst h; exact .inl ⟨0x74, 0x09, by decide, by decide, by decide, by decide⟩
  next =>
  split
  next h =>
    obtain rfl := eq_ofNat h
    exact .inl ⟨0x62, 0x08, by decide, by decide, by decide, by decide⟩
  next =>
  split
  next h =>
    obtain rfl := eq_ofNat h
    exact .inl ⟨0x66, 0x0c, by decide, by decide, by decide, by decide⟩
  next =>
  split
  next h =>
    obtain ⟨hbytes, hhex⟩ := hex4?_control c.toNat h
    exact .inr (.inl ⟨_, _, hbytes, hhex, h⟩)
  next h =>
    refine .inr (.inr ⟨by simp [encodeChars], fun b hb => ?_⟩)
    have ne (d : Char) (hd : c ≠ d) : c.toNat ≠ d.toNat := fun hn =>
      hd ((eq_ofNat hn).trans (Char.ofNat_toNat d))
    have hq := ne _ hquote
    have hs := ne _ hslash
    simp only [IsPlain, ne_eq, ← UInt8.toNat_inj, UInt8.lt_iff_toNat_lt]
    rcases mem_encodeChar hb with ⟨he, -⟩ | he
    · rw [he]
      exact ⟨hq, hs, h⟩
    · refine ⟨?_, ?_, ?_⟩ <;> simp <;> omega

/-! ### Reading -/

theorem stringBytes_cons {b : UInt8} (h : IsPlain b) (done r : List UInt8) :
    stringBytes done (b :: r) = stringBytes (b :: done) r := by
  obtain ⟨hq, hs, hc⟩ := h
  rw [stringBytes, if_neg hc]
  · exact hq
  all_goals
    intros
    exact hs ‹_›

theorem stringBytes_simpleEscape {b e : UInt8} (hu : b ≠ 0x75) (he : simpleEscape? b = some e)
    (done r : List UInt8) :
    stringBytes done (0x5c :: b :: r) = stringBytes (e :: done) r := by
  rw [stringBytes, he]
  · exact fun _ _ _ _ _ h => absurd h hu
  · exact hu

theorem stringBytes_plain {bs : List UInt8} (h : ∀ b ∈ bs, IsPlain b) (done r : List UInt8) :
    stringBytes done (bs ++ r) = stringBytes (bs.reverse ++ done) r := by
  induction bs generalizing done with
  | nil => rfl
  | cons b bs ih =>
    rw [List.cons_append, stringBytes_cons (h b List.mem_cons_self),
      ih fun c hc => h c (List.mem_cons_of_mem _ hc)]
    simp

theorem stringBytes_escapeChar (c : Char) (done r : List UInt8) :
    stringBytes done (encodeChars (escapeChar c) ++ r) =
      stringBytes ((encodeChar c).reverse ++ done) r := by
  rcases escapeChar_cases c with ⟨b, e, hb, hu, he, hc⟩ | ⟨a, b, hb, hn, hc⟩ | ⟨hb, hplain⟩
  · rw [hb, hc]
    exact stringBytes_simpleEscape hu he done r
  · rw [hb]
    simp only [List.cons_append, List.nil_append]
    rw [stringBytes, hn]
    simp only
    rw [if_neg (by omega), if_neg (by omega), Char.ofNat_toNat]
  · rw [hb]
    exact stringBytes_plain hplain done r

/-- The bytes of a written string, up to the quotation mark behind them. -/
theorem stringBytes_escaped (cs : List Char) (done r : List UInt8) :
    stringBytes done (encodeChars (cs.flatMap escapeChar) ++ 0x22 :: r) =
      .got (done.reverse ++ encodeChars cs) r := by
  induction cs generalizing done with
  | nil => simp [encodeChars, stringBytes]
  | cons c cs ih =>
    have hsplit : encodeChars ((c :: cs).flatMap escapeChar) =
        encodeChars (escapeChar c) ++ encodeChars (cs.flatMap escapeChar) := by
      simp [encodeChars]
    rw [hsplit, List.append_assoc, stringBytes_escapeChar, ih]
    simp [encodeChars]

theorem encodeChars_quote (s : String) : encodeChars (quote s) =
    0x22 :: (encodeChars (s.toList.flatMap escapeChar) ++ [0x22]) := by
  have hq : encodeChar '"' = [0x22] := by decide
  simp [quote, quoteChars, encodeChars, hq]

theorem decode?_encodeChars (s : String) : decode? (encodeChars s.toList) = some s := by
  have := decode_encode s
  simp only [encode] at this
  simp [decode?, this, Except.toOption]

/-- A written string is read as what it was. -/
theorem stringBody_quote (s : String) (r : List UInt8) :
    stringBody (encodeChars (s.toList.flatMap escapeChar) ++ 0x22 :: r) = .got s r := by
  rw [stringBody, stringBytes_escaped]
  simp [Read.filterMap, decode?_encodeChars]

theorem string_quote (s : String) (r : List UInt8) :
    string (encodeChars (quote s) ++ r) = .got s r := by
  rw [encodeChars_quote, List.cons_append, List.append_assoc]
  exact stringBody_quote s r

/-! ### Passing over -/

theorem skipString_cons {b : UInt8} (h : IsPlain b) (r : List UInt8) :
    skipString (b :: r) = skipString r := by
  obtain ⟨hq, hs, hc⟩ := h
  rw [skipString, if_neg hc]
  · exact hq
  all_goals
    intros
    exact hs ‹_›

theorem skipString_simpleEscape {b e : UInt8} (hu : b ≠ 0x75) (he : simpleEscape? b = some e)
    (r : List UInt8) : skipString (0x5c :: b :: r) = skipString r := by
  rw [skipString, he]
  · exact fun _ _ _ _ _ h => absurd h hu
  · exact hu

theorem skipString_plain {bs : List UInt8} (h : ∀ b ∈ bs, IsPlain b) (r : List UInt8) :
    skipString (bs ++ r) = skipString r := by
  induction bs with
  | nil => rfl
  | cons b bs ih =>
    rw [List.cons_append, skipString_cons (h b List.mem_cons_self),
      ih fun c hc => h c (List.mem_cons_of_mem _ hc)]

theorem skipString_escapeChar (c : Char) (r : List UInt8) :
    skipString (encodeChars (escapeChar c) ++ r) = skipString r := by
  rcases escapeChar_cases c with ⟨b, e, hb, hu, he, -⟩ | ⟨a, b, hb, hn, -⟩ | ⟨hb, hplain⟩
  · rw [hb]
    exact skipString_simpleEscape hu he r
  · rw [hb]
    simp only [List.cons_append, List.nil_append]
    rw [skipString, hn]
  · rw [hb]
    exact skipString_plain hplain r

/-- A written string is passed over up to the quotation mark behind it. -/
theorem skipString_escaped (cs : List Char) (r : List UInt8) :
    skipString (encodeChars (cs.flatMap escapeChar) ++ 0x22 :: r) = .got () r := by
  induction cs with
  | nil => simp [encodeChars, skipString]
  | cons c cs ih =>
    have hsplit : encodeChars ((c :: cs).flatMap escapeChar) =
        encodeChars (escapeChar c) ++ encodeChars (cs.flatMap escapeChar) := by
      simp [encodeChars]
    rw [hsplit, List.append_assoc, skipString_escapeChar, ih]

end SignOn.Json
