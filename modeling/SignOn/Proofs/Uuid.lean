import Mathlib.Data.List.Induction
import SignOn.Proofs.Json.Records
import SignOn.Uuid

/-!
Texts of identifiers. Each identifier may be written in four forms (`Spells`), with digits of either
case; those texts are read as the identifier, and no others are read at all.
-/
namespace SignOn

/-! ### Digits -/

namespace Text.Hex

variable {c : Char} {v : Nat} {cs : List Char} {vs : List Nat}

theorem value?_toLower (c : Char) : value? c.toLower = value? c := by
  by_cases hc : c.toNat < 128
  · have codes : ∀ n < 128, value? (Char.ofNat n).toLower = value? (Char.ofNat n) := by decide
    have hcode := codes c.toNat hc
    rwa [Char.ofNat_toNat] at hcode
  · have hlower : c.toLower = c := by
      unfold Char.toLower
      refine dif_neg fun hupper => hc ?_
      have hZ : c.toNat ≤ 90 := UInt32.le_iff_toNat_le.mp hupper.2
      omega
    rw [hlower]

theorem toNat_lt_of_value? (h : value? c = some v) : c.toNat < 128 := by
  by_contra hc
  have above {d : Char} (hd : d.toNat < 128) : ¬ c ≤ d := fun hle =>
    hc (Nat.lt_of_le_of_lt (UInt32.le_iff_toNat_le.mp hle) hd)
  have h9 : ¬ c ≤ '9' := above (by decide)
  have hf : ¬ c ≤ 'f' := above (by decide)
  have hF : ¬ c ≤ 'F' := above (by decide)
  simp [value?, h9, hf, hF] at h

theorem value?_eq_some : value? c = some v ↔ v < 16 ∧ c.toLower = digit v := by
  constructor
  · intro h
    have codes : ∀ n < 128, ∀ v ∈ value? (Char.ofNat n),
        v < 16 ∧ (Char.ofNat n).toLower = digit v := by decide
    have hcode := codes c.toNat (toNat_lt_of_value? h)
    rw [Char.ofNat_toNat] at hcode
    exact hcode v h
  · rintro ⟨hv, hlower⟩
    rw [← value?_toLower, hlower, value?_digit v hv]

theorem mapM_value?_eq_some :
    cs.mapM value? = some vs ↔ (∀ v ∈ vs, v < 16) ∧ cs.map Char.toLower = vs.map digit := by
  induction cs generalizing vs with
  | nil => cases vs <;> simp
  | cons c cs ih =>
    have step : (c :: cs).mapM value? = some vs ↔
        ∃ v, value? c = some v ∧ ∃ ws, cs.mapM value? = some ws ∧ v :: ws = vs := by
      simp [List.mapM_cons, Option.bind_eq_some_iff]
    simp only [step, value?_eq_some, ih]
    constructor
    · rintro ⟨v, ⟨hv, hc⟩, ws, ⟨hws, hcs⟩, rfl⟩
      exact ⟨List.forall_mem_cons.mpr ⟨hv, hws⟩, by rw [List.map_cons, List.map_cons, hc, hcs]⟩
    · rintro ⟨hvs, hmap⟩
      obtain ⟨v, ws, rfl, hc, hcs⟩ := List.map_eq_cons_iff.mp hmap.symm
      obtain ⟨hv, hws⟩ := List.forall_mem_cons.mp hvs
      exact ⟨v, ⟨hv, hc.symm⟩, ws, ⟨hws, hcs.symm⟩, rfl⟩

end Text.Hex

namespace Uuid

/-- The digits of a number in base sixteen, the highest first, by their values. -/
def values (k n : Nat) : List Nat := (List.range k).map fun i => n / 16 ^ (k - 1 - i) % 16

/-- The number that digits make up. -/
def number (vs : List Nat) : Nat := vs.foldl (fun n v => n * 16 + v) 0

theorem number_concat (vs : List Nat) (v : Nat) : number (vs ++ [v]) = number vs * 16 + v := by
  rw [number, List.foldl_concat, number]

theorem values_succ (k n : Nat) : values (k + 1) n = values k (n / 16) ++ [n % 16] := by
  have hshift : ((List.range k).map fun i => n / 16 ^ (k + 1 - 1 - i) % 16) =
      values k (n / 16) := by
    refine List.map_congr_left fun i hi => ?_
    have hi := List.mem_range.mp hi
    rw [Nat.div_div_eq_div_mul, ← Nat.pow_succ', show k + 1 - 1 - i = (k - 1 - i).succ by omega]
  rw [values, List.range_succ, List.map_append, hshift]
  simp

theorem lt_of_mem_values {k n v : Nat} (h : v ∈ values k n) : v < 16 := by
  obtain ⟨i, -, rfl⟩ := List.mem_map.mp h
  exact Nat.mod_lt _ (by omega)

/-- The digits of a number make the number up again. -/
theorem number_values (k n : Nat) : number (values k n) = n % 16 ^ k := by
  induction k generalizing n with
  | zero => rw [Nat.pow_zero, Nat.mod_one]; rfl
  | succ k ih =>
    rw [values_succ, number_concat, ih, Nat.pow_succ', Nat.mod_mul]
    omega

/-- What is made up of digits has these digits, and no more. -/
theorem values_number {vs : List Nat} (h : ∀ v ∈ vs, v < 16) :
    number vs < 16 ^ vs.length ∧ values vs.length (number vs) = vs := by
  -- the last digit is what is left when the number is divided
  induction vs using List.reverseRecOn with
  | nil => exact ⟨by decide, rfl⟩
  | append_singleton vs v ih =>
    obtain ⟨hvs, hv⟩ := List.forall_mem_append.mp h
    have hv : v < 16 := hv v List.mem_cons_self
    obtain ⟨hlt, heq⟩ := ih hvs
    have hdiv : (number vs * 16 + v) / 16 = number vs := by omega
    have hmod : (number vs * 16 + v) % 16 = v := by omega
    rw [List.length_append, List.length_singleton, number_concat, values_succ, hdiv, hmod, heq,
      Nat.pow_succ]
    exact ⟨by omega, rfl⟩

theorem digits_eq (u : Uuid) : u.digits = (values 32 u.bits.toNat).map Text.Hex.digit := by
  rw [digits, values, List.map_map]
  rfl

theorem length_digits (u : Uuid) : u.digits.length = 32 := by simp [digits]

/-- The digits of an identifier, each in either case. -/
def IsDigits (ds : List Char) (u : Uuid) : Prop := ds.map Char.toLower = u.digits

instance (ds : List Char) (u : Uuid) : Decidable (IsDigits ds u) :=
  inferInstanceAs (Decidable (_ = _))

theorem IsDigits.length {ds : List Char} {u : Uuid} (h : IsDigits ds u) : ds.length = 32 := by
  rw [← u.length_digits, ← h, List.length_map]

theorem ofDigits?_eq_some {ds : List Char} {u : Uuid} (hds : ds.length = 32) :
    ofDigits? ds = some u ↔ IsDigits ds u := by
  simp only [ofDigits?, Option.map_eq_some_iff, Text.Hex.mapM_value?_eq_some, IsDigits, digits_eq]
  constructor
  · rintro ⟨vs, ⟨hvs, hmap⟩, rfl⟩
    have hlength : vs.length = 32 := by simpa [hds] using (congrArg List.length hmap).symm
    obtain ⟨hlt, heq⟩ := values_number hvs
    rw [hlength] at hlt heq
    change _ = (values 32 (BitVec.ofNat 128 (number vs)).toNat).map _
    rw [BitVec.toNat_ofNat, Nat.mod_eq_of_lt hlt, heq, hmap]
  · intro hmap
    refine ⟨_, ⟨fun v hv => lt_of_mem_values hv, hmap⟩, ?_⟩
    change Uuid.mk (.ofNat 128 (number (values 32 u.bits.toNat))) = u
    rw [number_values]
    have hbits : u.bits.toNat % 16 ^ 32 = u.bits.toNat := Nat.mod_eq_of_lt u.bits.isLt
    rw [hbits, BitVec.ofNat_toNat, BitVec.setWidth_eq]

theorem isDigits_digits (u : Uuid) : IsDigits u.digits u := by
  have lower : ∀ v < 16, (Text.Hex.digit v).toLower = Text.Hex.digit v := by decide
  rw [IsDigits, digits_eq, List.map_map]
  exact List.map_congr_left fun v hv => lower v (lt_of_mem_values hv)

/-! ### Hyphens -/

theorem group_append_drop (cs : List Char) (n : Nat) :
    (cs.drop n).take 4 ++ cs.drop (n + 4) = cs.drop n := by
  rw [← List.drop_drop]
  exact List.take_append_drop 4 (cs.drop n)

/-- Hyphens are looked for between the groups. -/
theorem ofHyphenated?_groups {a b c d e : List Char} (ha : a.length = 8) (hb : b.length = 4)
    (hc : c.length = 4) (hd : d.length = 4) (he : e.length = 12) :
    ofHyphenated? (a ++ '-' :: b ++ '-' :: c ++ '-' :: d ++ '-' :: e) =
      ofDigits? (a ++ b ++ c ++ d ++ e) := by
  rw [ofHyphenated?, if_pos]
  · simp [List.drop_append, ha, hb, hc, hd, List.drop_eq_nil_of_le]
  · refine ⟨by simp [ha, hb, hc, hd, he], ?_, ?_, ?_, ?_⟩ <;>
      simp [List.getElem?_append, ha, hb, hc, hd]

theorem hyphenate_groups {a b c d e : List Char} (ha : a.length = 8) (hb : b.length = 4)
    (hc : c.length = 4) (hd : d.length = 4) :
    hyphenate (a ++ b ++ c ++ d ++ e) = a ++ '-' :: b ++ '-' :: c ++ '-' :: d ++ '-' :: e := by
  simp [hyphenate, List.drop_append, ha, hb, hc, hd, List.drop_eq_nil_of_le]

/-- A text is read with hyphens only if they stand between groups. -/
theorem exists_groups {cs : List Char} {u : Uuid} (h : ofHyphenated? cs = some u) :
    ∃ a b c d e : List Char, (a.length = 8 ∧ b.length = 4 ∧ c.length = 4 ∧ d.length = 4 ∧
      e.length = 12) ∧ cs = a ++ '-' :: b ++ '-' :: c ++ '-' :: d ++ '-' :: e := by
  have hyphen {n : Nat} (hn : cs[n]? = some '-') : cs.drop n = '-' :: cs.drop (n + 1) := by
    obtain ⟨hlt, heq⟩ := List.getElem?_eq_some_iff.mp hn
    rw [List.drop_eq_getElem_cons hlt, heq]
  unfold ofHyphenated? at h
  split at h
  next hform =>
    obtain ⟨hlength, h8, h13, h18, h23⟩ := hform
    refine ⟨cs.take 8, (cs.drop 9).take 4, (cs.drop 14).take 4, (cs.drop 19).take 4, cs.drop 24,
      by simp [hlength], ?_⟩
    simp only [List.append_assoc, List.cons_append]
    rw [← hyphen h23, group_append_drop, ← hyphen h18, group_append_drop, ← hyphen h13,
      group_append_drop, ← hyphen h8, List.take_append_drop]
  next => cases h

theorem length_hyphenate {ds : List Char} (h : ds.length = 32) : (hyphenate ds).length = 36 := by
  simp [hyphenate, h]

theorem ofHyphenated?_hyphenate {ds : List Char} (h : ds.length = 32) :
    ofHyphenated? (hyphenate ds) = ofDigits? ds := by
  rw [hyphenate, ofHyphenated?_groups (by simp [h]) (by simp [h]) (by simp [h]) (by simp [h])
    (by simp [h])]
  simp only [List.append_assoc]
  rw [group_append_drop, group_append_drop, group_append_drop, List.take_append_drop]

theorem ofHyphenated?_eq_some {cs : List Char} {u : Uuid} :
    ofHyphenated? cs = some u ↔ ∃ ds, IsDigits ds u ∧ cs = hyphenate ds := by
  constructor
  · intro h
    obtain ⟨a, b, c, d, e, ⟨ha, hb, hc, hd, he⟩, rfl⟩ := exists_groups h
    rw [ofHyphenated?_groups ha hb hc hd he, ofDigits?_eq_some (by simp [ha, hb, hc, hd, he])] at h
    exact ⟨_, h, (hyphenate_groups ha hb hc hd).symm⟩
  · rintro ⟨ds, hds, rfl⟩
    rw [ofHyphenated?_hyphenate hds.length, ofDigits?_eq_some hds.length]
    exact hds

/-! ### Texts -/

/-- The forms in which an identifier may be written. -/
inductive Spells (u : Uuid) : List Char → Prop
  | digits {ds : List Char} (h : IsDigits ds u) : Spells u ds
  | groups {ds : List Char} (h : IsDigits ds u) : Spells u (hyphenate ds)
  | braces {ds : List Char} (h : IsDigits ds u) : Spells u ('{' :: hyphenate ds ++ ['}'])
  | urn {scheme ds : List Char} (hscheme : scheme.map Char.toLower = "urn:uuid:".toList)
      (h : IsDigits ds u) : Spells u (scheme ++ hyphenate ds)

theorem inBraces?_eq_some {cs inner : List Char} :
    inBraces? cs = some inner ↔ cs = '{' :: inner ++ ['}'] := by
  constructor
  · intro h
    unfold inBraces? at h
    split at h
    next r =>
      split at h
      next last hr =>
        have hinner := Option.some.inj h
        rw [List.cons_append, ← hinner, ← List.reverse_cons, ← hr, List.reverse_reverse]
      next => cases h
    next => cases h
  · rintro rfl
    simp [inBraces?]

theorem afterUrn?_eq_some {cs inner : List Char} : afterUrn? cs = some inner ↔
    ∃ scheme, scheme.map Char.toLower = "urn:uuid:".toList ∧ cs = scheme ++ inner := by
  constructor
  · intro h
    unfold afterUrn? at h
    split at h
    next hscheme =>
      exact ⟨_, hscheme, by rw [← Option.some.inj h, List.take_append_drop]⟩
    next => cases h
  · rintro ⟨scheme, hscheme, rfl⟩
    have hlength : scheme.length = 9 := by simpa using congrArg List.length hscheme
    rw [afterUrn?, List.take_left' hlength, if_pos hscheme, List.drop_left' hlength]

theorem spells_of_read? {cs : List Char} {u : Uuid} (h : read? cs = some u) : Spells u cs := by
  -- no two of the forms are of one length
  unfold read? at h
  split at h
  next hlength => exact .digits ((ofDigits?_eq_some hlength).mp h)
  split at h
  next =>
    obtain ⟨ds, hds, rfl⟩ := ofHyphenated?_eq_some.mp h
    exact .groups hds
  split at h
  next =>
    obtain ⟨inner, hinner, h⟩ := Option.bind_eq_some_iff.mp h
    obtain ⟨ds, hds, rfl⟩ := ofHyphenated?_eq_some.mp h
    exact inBraces?_eq_some.mp hinner ▸ .braces hds
  split at h
  next =>
    obtain ⟨inner, hinner, h⟩ := Option.bind_eq_some_iff.mp h
    obtain ⟨ds, hds, rfl⟩ := ofHyphenated?_eq_some.mp h
    obtain ⟨scheme, hscheme, rfl⟩ := afterUrn?_eq_some.mp hinner
    exact .urn hscheme hds
  next => cases h

theorem Spells.read?_eq {cs : List Char} {u : Uuid} (h : Spells u cs) : read? cs = some u := by
  have grouped {ds : List Char} (hds : IsDigits ds u) : ofHyphenated? (hyphenate ds) = some u :=
    ofHyphenated?_eq_some.mpr ⟨ds, hds, rfl⟩
  cases h with
  | digits hds => rw [read?, if_pos hds.length, ofDigits?_eq_some hds.length]; exact hds
  | groups hds =>
    have hlength := length_hyphenate hds.length
    rw [read?, if_neg (by omega), if_pos hlength, grouped hds]
  | @braces ds hds =>
    have hlength : ('{' :: hyphenate ds ++ ['}']).length = 38 := by
      simp [length_hyphenate hds.length]
    rw [read?, if_neg (by omega), if_neg (by omega), if_pos hlength, inBraces?_eq_some.mpr rfl,
      Option.bind_some, grouped hds]
  | @urn scheme ds hscheme hds =>
    have hnine : scheme.length = 9 := by simpa using congrArg List.length hscheme
    have hlength : (scheme ++ hyphenate ds).length = 45 := by
      simp [length_hyphenate hds.length, hnine]
    rw [read?, if_neg (by omega), if_neg (by omega), if_neg (by omega), if_pos hlength,
      afterUrn?_eq_some.mpr ⟨scheme, hscheme, rfl⟩, Option.bind_some, grouped hds]

/-- A text is read as an identifier if and only if it spells it. -/
theorem read?_eq_some {cs : List Char} {u : Uuid} : read? cs = some u ↔ Spells u cs :=
  ⟨spells_of_read?, Spells.read?_eq⟩

theorem parse_eq_ok {s : String} {u : Uuid} : parse s = .ok u ↔ Spells u s.toList := by
  rw [← read?_eq_some, parse]
  cases read? s.toList <;> simp

/-- A text of some identifier. -/
def IsText (s : String) : Prop := ∃ u, Spells u s.toList

instance (s : String) : Decidable (IsText s) :=
  decidable_of_iff ((read? s.toList).isSome = true) <|
    Option.isSome_iff_exists.trans (exists_congr fun _ => read?_eq_some)

theorem exists_parse_eq_error {s : String} : (∃ f, parse s = .error f) ↔ ¬ IsText s := by
  simp only [IsText, ← parse_eq_ok]
  cases parse s <;> simp

theorem spells_text (u : Uuid) : Spells u u.text.toList := by
  rw [text, String.toList_ofList]
  exact .groups u.isDigits_digits

theorem parse_text (u : Uuid) : parse u.text = .ok u := parse_eq_ok.mpr u.spells_text

theorem text_injective : Function.Injective text := fun u v h => by
  have hparse := congrArg parse h
  rw [parse_text, parse_text] at hparse
  exact Except.ok.inj hparse

theorem reads (u : Uuid) : Json.Reads reader u.toJson u := by
  have hread : parse? u.text = some u := read?_eq_some.mpr u.spells_text
  exact (Json.reads_string u.text).filterMap hread

end Uuid
end SignOn
