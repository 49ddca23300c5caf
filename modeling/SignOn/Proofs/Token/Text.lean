import Mathlib.Data.List.Basic
import SignOn.Text.Utf8.Lemmas
import SignOn.Token.Manager

/-!
The bytes of tokens and states as text. Both are digits of base64, and in tokens points, so each
byte is a character of its own and is the same byte again in UTF-8.
-/
namespace SignOn.Token.Manager

theorem toNat_ofNat_byte (b : UInt8) : (Char.ofNat b.toNat).toNat = b.toNat := by
  have h : b.toNat.isValidChar := .inl (by have := b.toNat_lt; omega)
  rw [Char.ofNat, dif_pos h]
  rfl

theorem asciiText_injective : Function.Injective asciiText := by
  intro a b h
  refine List.map_injective_iff.mpr (fun x y hxy => ?_) (String.ofList_injective h)
  have hn := congrArg Char.toNat hxy
  rw [toNat_ofNat_byte, toNat_ofNat_byte] at hn
  exact UInt8.toNat_inj.mp hn

theorem encode_asciiText {bs : List UInt8} (h : ∀ b ∈ bs, b.toNat < 0x80) :
    Text.Utf8.encode (asciiText bs) = bs := by
  unfold asciiText Text.Utf8.encode Text.Utf8.encodeChars
  rw [String.toList_ofList]
  induction bs with
  | nil => rfl
  | cons b r ih =>
    have hb : Text.Utf8.encodeChar (.ofNat b.toNat) = [b] := by
      simp [Text.Utf8.encodeChar, toNat_ofNat_byte, h b List.mem_cons_self]
    rw [List.map_cons, List.flatMap_cons, hb, ih fun c hc => h c (List.mem_cons_of_mem _ hc)]
    rfl

/-- A byte that stands for a character which is seen. -/
def IsVisible (b : UInt8) : Prop := 0x20 < b.toNat ∧ b.toNat < 0x7f

theorem digit_urlSafe : ∀ v < 64, (0x20 < (Text.Base64.urlSafe.digit v).toNat ∧
    (Text.Base64.urlSafe.digit v).toNat < 0x7f) ∧ Text.Base64.urlSafe.digit v ≠ dot := by
  decide

/-- The digits of base64 are visible, and none is the point between the parts of a token. -/
theorem mem_encode_urlSafe {bs : List UInt8} {b : UInt8}
    (h : b ∈ Text.Base64.encode Text.Base64.urlSafe bs) : IsVisible b ∧ b ≠ dot := by
  rw [Text.Base64.encode_eq_map] at h
  obtain ⟨v, hv, rfl⟩ := List.mem_map.mp h
  exact digit_urlSafe v (Text.Base64.values_lt bs v hv)

/-- The bytes of three parts and the points between them are visible. -/
theorem isVisible_of_mem_parts {x y z : List UInt8} {b : UInt8}
    (h : b ∈ (Text.Base64.encode Text.Base64.urlSafe x ++
      dot :: Text.Base64.encode Text.Base64.urlSafe y) ++
      dot :: Text.Base64.encode Text.Base64.urlSafe z) : IsVisible b := by
  have point : IsVisible dot := ⟨by decide, by decide⟩
  simp only [List.mem_append, List.mem_cons] at h
  rcases h with (h | rfl | h) | rfl | h
  · exact (mem_encode_urlSafe h).1
  · exact point
  · exact (mem_encode_urlSafe h).1
  · exact point
  · exact (mem_encode_urlSafe h).1

end SignOn.Token.Manager
