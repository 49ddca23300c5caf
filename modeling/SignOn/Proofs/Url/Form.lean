import Mathlib.Tactic.Common
import SignOn.Text.Utf8.Lemmas
import SignOn.Url.Form

/-!
Forms are read as they were written: behind whatever stands in a form already, the pairs that are
appended to it come out again, with the same names and values in the same order.
-/
namespace SignOn.Url

/-- A byte other than the percent sign stands for itself. -/
theorem percentDecode_cons {b : UInt8} (h : b ≠ 0x25) (r : List UInt8) :
    percentDecode (b :: r) = b :: percentDecode r := by
  rw [percentDecode.eq_3]
  rintro a c r' rfl
  exact absurd rfl h

/-- Two digits after a percent sign are read as the byte that they stand for. -/
theorem percentDecode_digits {a b : UInt8} {x y : Nat} (ha : hexValue? a = some x)
    (hb : hexValue? b = some y) (r : List UInt8) :
    percentDecode (0x25 :: a :: b :: r) = .ofNat (x * 16 + y) :: percentDecode r := by
  rw [percentDecode]
  simp only [ha, hb]

namespace Form

/-! ### One byte -/

/-- What a byte is written as, in bytes. -/
def written (b : UInt8) : List UInt8 := Text.Utf8.encodeChars (encodeByte b)

/-- A plus sign is read as a blank. -/
def blanked (b : UInt8) : UInt8 := if b = 0x2b then 0x20 else b

/-- A byte is written as itself, unless a reader would take it for a mark, or as its digits. -/
theorem written_cases (b : UInt8) :
    (∃ c, written b = [c] ∧ blanked c = b ∧ b ≠ 0x25 ∧ c ≠ 0x26 ∧ c ≠ 0x3d) ∨
    ∃ x y m n, written b = [0x25, x, y] ∧ x ∉ [0x26, 0x2b, 0x3d] ∧ y ∉ [0x26, 0x2b, 0x3d] ∧
      hexValue? x = some m ∧ hexValue? y = some n ∧ .ofNat (m * 16 + n) = b := by
  have digit : ∀ n < 16, ∃ x, Text.Utf8.encodeChar (upperDigit n) = [x] ∧
      x ∉ ([0x26, 0x2b, 0x3d] : List UInt8) ∧ hexValue? x = some n := by
    intro n hn
    refine ⟨.ofNat (upperDigit n).toNat, ?_, ?_, ?_⟩ <;> revert n <;> decide
  have plain : ∀ n < 256, isPlain (.ofNat n) = true →
      Text.Utf8.encodeChar (.ofNat n) = [.ofNat n] ∧ UInt8.ofNat n ∉ ([0x25, 0x26, 0x2b, 0x3d] : List UInt8) := by
    decide +kernel
  unfold written encodeByte
  split_ifs with hblank hplain
  · subst hblank
    exact .inl ⟨0x2b, by decide⟩
  · have hb := plain b.toNat b.toNat_lt (by simpa using hplain)
    simp only [UInt8.ofNat_toNat, List.mem_cons, not_or] at hb
    refine .inl ⟨b, by simpa [Text.Utf8.encodeChars] using hb.1, ?_, hb.2.1, hb.2.2.1, ?_⟩
    · simp [blanked, hb.2.2.2.1]
    · simpa using hb.2.2.2.2
  · have hlt := b.toNat_lt
    obtain ⟨x, hx, hxm, hxv⟩ := digit (b.toNat / 16) (by omega)
    obtain ⟨y, hy, hym, hyv⟩ := digit (b.toNat % 16) (by omega)
    refine .inr ⟨x, y, _, _, ?_, hxm, hym, hxv, hyv, ?_⟩
    · simp [percentByte, Text.Utf8.encodeChars, hx, hy]
      rfl
    · rw [Nat.div_add_mod']
      exact UInt8.ofNat_toNat

theorem percentDecode_written (b : UInt8) (r : List UInt8) :
    percentDecode ((written b).map blanked ++ r) = b :: percentDecode r := by
  rcases written_cases b with ⟨c, hw, hc, hb, -⟩ | ⟨x, y, m, n, hw, hx, hy, hm, hn, hb⟩
  · simp only [hw, List.map_cons, List.map_nil, List.singleton_append, hc]
    exact percentDecode_cons hb r
  · simp only [List.mem_cons, not_or] at hx hy
    simp only [hw, List.map_cons, List.map_nil, List.cons_append, List.nil_append, blanked,
      if_neg hx.2.1, if_neg hy.2.1]
    exact (percentDecode_digits hm hn r).trans (by rw [hb])

/-- Neither mark of a form is in what a byte is written as. -/
theorem not_mark_of_written {b c : UInt8} (h : c ∈ written b) : c ≠ 0x26 ∧ c ≠ 0x3d := by
  rcases written_cases b with ⟨d, hw, -, -, hd⟩ | ⟨x, y, m, n, hw, hx, hy, -⟩
  · rw [hw, List.mem_singleton] at h
    exact h ▸ hd
  · simp only [List.mem_cons, not_or, List.not_mem_nil, not_false_eq_true, and_true] at hx hy
    rw [hw] at h
    rcases List.mem_cons.mp h with rfl | h
    · decide
    · rcases List.mem_cons.mp h with rfl | h
      · exact ⟨hx.1, hx.2.2⟩
      · obtain rfl := List.mem_singleton.mp h
        exact ⟨hy.1, hy.2.2⟩

/-! ### One text -/

theorem encodeChars_append (a b : List Char) :
    Text.Utf8.encodeChars (a ++ b) = Text.Utf8.encodeChars a ++ Text.Utf8.encodeChars b :=
  List.flatMap_append

theorem encodeChars_cons (c : Char) (r : List Char) :
    Text.Utf8.encodeChars (c :: r) = Text.Utf8.encodeChar c ++ Text.Utf8.encodeChars r :=
  List.flatMap_cons

/-- The bytes of a written text are those of its bytes, each written. -/
theorem encodeChars_encodeText (s : String) :
    Text.Utf8.encodeChars (encodeText s) = (Text.Utf8.encode s).flatMap written := by
  unfold encodeText Text.Utf8.encodeChars
  rw [List.flatMap_assoc]
  rfl

theorem percentDecode_flatMap_written (bs : List UInt8) :
    percentDecode ((bs.flatMap written).map blanked) = bs := by
  induction bs with
  | nil => rfl
  | cons b r ih => rw [List.flatMap_cons, List.map_append, percentDecode_written, ih]

theorem decodeText_encodeText (s : String) :
    decodeText (Text.Utf8.encodeChars (encodeText s)) = s := by
  rw [encodeChars_encodeText]
  change Text.Utf8.decodeLossy (percentDecode (List.map blanked _)) = s
  rw [percentDecode_flatMap_written, Text.Utf8.decodeLossy_encode]

theorem not_mark_of_text {s : String} {c : UInt8}
    (h : c ∈ Text.Utf8.encodeChars (encodeText s)) : c ≠ 0x26 ∧ c ≠ 0x3d := by
  rw [encodeChars_encodeText] at h
  obtain ⟨b, -, hc⟩ := List.mem_flatMap.mp h
  exact not_mark_of_written hc

/-! ### Pairs -/

theorem split_ne_nil (sep : UInt8) (bs : List UInt8) : split sep bs ≠ [] := by
  cases bs with
  | nil => simp [split]
  | cons b r => unfold split; split_ifs <;> [simp; split <;> simp]

/-- What stands around a separator is split apart. -/
theorem split_append (sep : UInt8) (a b : List UInt8) :
    split sep (a ++ sep :: b) = split sep a ++ split sep b := by
  induction a with
  | nil => simp [split]
  | cons c r ih =>
    simp only [List.cons_append, split]
    rw [ih]
    by_cases hc : c = sep
    · simp [hc]
    · rw [if_neg hc, if_neg hc]
      cases hs : split sep r with
      | nil => exact absurd hs (split_ne_nil sep r)
      | cons p ps => rfl

theorem split_of_notMem {sep : UInt8} {a : List UInt8} (h : sep ∉ a) : split sep a = [a] := by
  induction a with
  | nil => rfl
  | cons c r ih =>
    simp only [List.mem_cons, not_or] at h
    rw [split, if_neg (Ne.symm h.1), ih h.2]

theorem cutPair_append {a : List UInt8} (h : 0x3d ∉ a) (b : List UInt8) :
    cutPair (a ++ 0x3d :: b) = (a, b) := by
  induction a with
  | nil => simp [cutPair]
  | cons c r ih =>
    simp only [List.mem_cons, not_or] at h
    rw [List.cons_append, cutPair, if_neg (Ne.symm h.1), ih h.2]

theorem decodeBytes_append (a b : List UInt8) :
    decodeBytes (a ++ 0x26 :: b) = decodeBytes a ++ decodeBytes b := by
  simp [decodeBytes, split_append]

@[simp] theorem decode_nil : decode [] = [] := rfl

theorem decode_append_pair (form : List Char) (cs : List Char) :
    decode (form ++ '&' :: cs) = decode form ++ decode cs := by
  unfold decode
  rw [encodeChars_append, encodeChars_cons]
  exact decodeBytes_append _ _

theorem decode_encodePair (p : String × String) : decode (encodePair p) = [p] := by
  obtain ⟨name, value⟩ := p
  have hname : 0x3d ∉ Text.Utf8.encodeChars (encodeText name) := fun h =>
    (not_mark_of_text h).2 rfl
  have hbytes : Text.Utf8.encodeChars (encodePair (name, value)) =
      Text.Utf8.encodeChars (encodeText name) ++
        0x3d :: Text.Utf8.encodeChars (encodeText value) := by
    rw [encodePair, encodeChars_append, encodeChars_cons]
    rfl
  have hmark : 0x26 ∉ Text.Utf8.encodeChars (encodePair (name, value)) := by
    rw [hbytes]
    intro h
    rcases List.mem_append.mp h with h | h
    · exact (not_mark_of_text h).1 rfl
    · rcases List.mem_cons.mp h with h | h
      · exact absurd h (by decide)
      · exact (not_mark_of_text h).1 rfl
  unfold decode decodeBytes
  rw [split_of_notMem hmark, hbytes]
  simp [cutPair_append hname, decodeText_encodeText]

/-- Pairs that are appended to a form are read behind those that it held before. -/
theorem decode_append (form : List Char) (ps : List (String × String)) :
    decode (append form ps) = decode form ++ ps := by
  induction ps generalizing form with
  | nil => simp [append]
  | cons p r ih =>
    rw [append, ih]
    cases form with
    | nil => simp [decode_encodePair]
    | cons c cs =>
      rw [if_neg (by simp), decode_append_pair, decode_encodePair, List.append_assoc]
      rfl

/-- What is written is read back. -/
theorem decode_encode (ps : List (String × String)) : decode (encode ps) = ps := by
  simp [encode, decode_append]

end Form
end SignOn.Url
