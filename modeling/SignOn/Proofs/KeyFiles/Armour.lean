import SignOn.Proofs.KeyFiles.Der
import SignOn.Proofs.Token.Text

/-!
Keys as text. Bytes are read back from their armour, and a usable key, public or private, from the
file that it is written to.
-/
namespace SignOn.Rsa

namespace Pem

/-! ### Base64 -/

theorem standard_digit : ∀ v < 64, (Text.Base64.standard.digit v).toNat < 0x80 ∧
    (Text.Base64.standard.digit v).toNat ∉ [0x0a, 0x0d, 0x3d] := by
  decide

/-- The digits of bytes, as characters. -/
def digits (bytes : List UInt8) : List Char :=
  (Text.Base64.encode Text.Base64.standard bytes).map fun b => .ofNat b.toNat

theorem toNat_digits {bytes : List UInt8} {c : Char} (h : c ∈ digits bytes) :
    c.toNat < 0x80 ∧ c.toNat ∉ [0x0a, 0x0d, 0x3d] := by
  obtain ⟨b, hb, rfl⟩ := List.mem_map.mp h
  rw [Text.Base64.encode_eq_map] at hb
  obtain ⟨v, hv, rfl⟩ := List.mem_map.mp hb
  rw [Token.Manager.toNat_ofNat_byte]
  exact standard_digit v (Text.Base64.values_lt bytes v hv)

theorem decode?_digits (bytes : List UInt8) :
    Text.Base64.decode? Text.Base64.standard ((digits bytes).map fun c => .ofNat c.toNat) =
      some bytes := by
  have hbytes : ((digits bytes).map fun c => UInt8.ofNat c.toNat) =
      Text.Base64.encode Text.Base64.standard bytes := by
    unfold digits
    rw [List.map_map]
    conv_rhs => rw [← List.map_id (Text.Base64.encode Text.Base64.standard bytes)]
    apply List.map_congr_left
    intro b _
    rw [Function.comp_apply, Token.Manager.toNat_ofNat_byte, UInt8.ofNat_toNat]
    rfl
  rw [hbytes]
  exact Text.Base64.decode?_encode Text.Base64.lawful_standard bytes

/-- No row of digits has a lone one in its last group. -/
theorem length_encode_mod (a : Text.Base64.Alphabet) (bytes : List UInt8) :
    (Text.Base64.encode a bytes).length % 4 ≠ 1 := by
  rw [Text.Base64.encode_eq_map, List.length_map]
  fun_induction Text.Base64.values bytes with
  | case1 | case2 | case3 => simp
  | case4 x y z r ih =>
    simp only [List.length_cons]
    omega

theorem mem_of_reverse {cs r : List Char} {c : Char} (h : cs.reverse = c :: r) : c ∈ cs :=
  List.mem_reverse.mp (h ▸ List.mem_cons_self)

theorem unfilled?_append {ds : List Char} {fill : Nat} (hds : '=' ∉ ds) (hfill : fill ≤ 2)
    (hlength : (ds.length + fill) % 4 = 0) :
    unfilled? (ds ++ List.replicate fill '=') = some ds := by
  have hwhole : (ds ++ List.replicate fill '=').length % 4 = 0 := by
    rw [List.length_append, List.length_replicate, hlength]
  unfold unfilled?
  rw [if_neg (not_not.mpr hwhole)]
  match fill, hfill with
  | 0, _ =>
    rw [List.replicate_zero, List.append_nil]
    split
    next r hr => exact absurd (mem_of_reverse hr) hds
    next r _ hr => exact absurd (mem_of_reverse hr) hds
    next => rfl
  | 1, _ =>
    rw [List.replicate_one, List.reverse_append, List.reverse_singleton, List.singleton_append]
    split
    next r hr =>
      obtain ⟨-, hr⟩ := List.cons.inj hr
      exact absurd (mem_of_reverse hr) hds
    next r _ hr =>
      obtain ⟨-, rfl⟩ := List.cons.inj hr
      rw [List.reverse_reverse]
    next hne => exact absurd rfl (hne ds.reverse)
  | 2, _ =>
    have hreverse : (ds ++ List.replicate 2 '=').reverse = '=' :: '=' :: ds.reverse := by simp
    rw [hreverse]
    exact congrArg some (List.reverse_reverse ds)

theorem base64Bytes?_base64 (bytes : List UInt8) : base64Bytes? (base64 bytes) = some bytes := by
  have hunfilled : unfilled? (base64 bytes) = some (digits bytes) := by
    have hds : '=' ∉ digits bytes := fun hm => absurd (toNat_digits hm).2 (by decide)
    have hlone : (digits bytes).length % 4 ≠ 1 := by
      unfold digits
      rw [List.length_map]
      exact length_encode_mod _ bytes
    change unfilled? (digits bytes ++
      List.replicate ((4 - (digits bytes).length % 4) % 4) '=') = some (digits bytes)
    exact unfilled?_append hds (by omega) (by omega)
  have hascii : (digits bytes).all (fun c => c.toNat < 0x80) = true := by
    rw [List.all_eq_true]
    intro c hc
    exact decide_eq_true (toNat_digits hc).1
  simp only [base64Bytes?, hunfilled, Option.bind_eq_bind, Option.bind_some, hascii, if_true,
    decode?_digits]

theorem not_isLineEnd_base64 {bytes : List UInt8} {c : Char} (h : c ∈ base64 bytes) :
    c ≠ '\n' ∧ c ≠ '\r' := by
  rcases List.mem_append.mp h with h | h
  · constructor
    · rintro rfl
      exact absurd (toNat_digits h).2 (by decide)
    · rintro rfl
      exact absurd (toNat_digits h).2 (by decide)
  · obtain rfl := List.eq_of_mem_replicate h
    decide

/-! ### Lines -/

theorem beforeLineEnd?_append {cs : List Char} (h : '\r' ∉ cs) :
    beforeLineEnd? (cs ++ ['\n']) = some cs := by
  unfold beforeLineEnd?
  rw [List.reverse_append, List.reverse_singleton, List.singleton_append]
  split
  next r hr =>
    obtain ⟨-, hr⟩ := List.cons.inj hr
    exact absurd (mem_of_reverse hr) h
  next r _ hr =>
    obtain ⟨-, rfl⟩ := List.cons.inj hr
    rw [List.reverse_reverse]
  next r hr => cases hr
  next _ hne _ => exact absurd rfl (hne cs.reverse)

theorem beforeLineEnd?_eq_none {cs : List Char} (h : ∀ c ∈ cs, c ≠ '\n' ∧ c ≠ '\r') :
    beforeLineEnd? cs = none := by
  unfold beforeLineEnd?
  split
  next r hr => exact absurd rfl (h _ (mem_of_reverse hr)).1
  next r _ hr => exact absurd rfl (h _ (mem_of_reverse hr)).1
  next r hr => exact absurd rfl (h _ (mem_of_reverse hr)).2
  next => rfl

/-- A text that was cut into lines is put together again. -/
theorem unwrap?_wrap {cs : List Char} (h : ∀ c ∈ cs, c ≠ '\n' ∧ c ≠ '\r') {fuel : Nat}
    (hpos : 0 < fuel) (hfuel : cs.length ≤ fuel) : ∃ lines, wrap fuel cs = lines ++ ['\n'] ∧
      '\r' ∉ lines ∧ ∀ fuel', lines.length < fuel' → unwrap? fuel' lines = some cs := by
  induction fuel generalizing cs with
  | zero => cases hpos
  | succ fuel ih =>
    by_cases hshort : cs.length ≤ 64
    · refine ⟨cs, by rw [wrap, if_pos hshort], fun hr => absurd rfl (h _ hr).2, ?_⟩
      intro fuel' hfuel'
      obtain ⟨fuel', rfl⟩ := Nat.exists_eq_add_of_lt hfuel'
      rw [unwrap?, if_pos hshort, beforeLineEnd?_eq_none h, Option.getD_none]
    · have hdrop : (cs.drop 64).length = cs.length - 64 := List.length_drop
      have htake : (cs.take 64).length = 64 := List.length_take_of_le (by omega)
      have hrest : ∀ c ∈ cs.drop 64, c ≠ '\n' ∧ c ≠ '\r' :=
        fun c hc => h c (List.mem_of_mem_drop hc)
      obtain ⟨lines, hwrap, hr, hread⟩ := ih hrest (by omega) (by omega)
      refine ⟨cs.take 64 ++ '\n' :: lines, ?_, ?_, ?_⟩
      · rw [wrap, if_neg hshort, hwrap]
        simp
      · rw [List.mem_append, List.mem_cons]
        rintro (hm | hm | hm)
        · exact absurd rfl (h _ (List.mem_of_mem_take hm)).2
        · cases hm
        · exact hr hm
      · intro fuel' hfuel'
        rw [List.length_append, List.length_cons, htake] at hfuel'
        obtain ⟨fuel', rfl⟩ := Nat.exists_eq_add_of_lt hfuel'
        have hlong : ¬ (cs.take 64 ++ '\n' :: lines).length ≤ 64 := by
          rw [List.length_append, List.length_cons, htake]
          omega
        rw [unwrap?, if_neg hlong, List.drop_left' htake, List.take_left' htake]
        simp only [afterLineEnd?]
        rw [hread _ (by omega), Option.map_some, List.take_append_drop]

/-! ### Marks -/

theorem after?_append (mark cs : List Char) : after? mark (mark ++ cs) = some cs := by
  induction mark with
  | nil => rfl
  | cons c r ih => rw [List.cons_append, after?, if_pos rfl, ih]

theorem before?_append (cs mark : List Char) : before? mark (cs ++ mark) = some cs := by
  rw [before?, List.reverse_append, after?_append, Option.map_some, List.reverse_reverse]

theorem fromBegin?_append (cs : List Char) : fromBegin? true (beginMark ++ cs) = some cs := by
  have hafter := after?_append beginMark cs
  cases htext : beginMark ++ cs with
  | nil =>
    rw [htext] at hafter
    cases hafter
  | cons c r =>
    rw [htext] at hafter
    rw [fromBegin?, if_pos rfl, hafter]

/-- A label that is read up to the hyphen behind it. -/
def IsLabel (label : List Char) : Prop :=
  ∀ cs, label? false false (label ++ '-' :: cs) = some (label, '-' :: cs)

/-! ### Armour -/

/-- What `encode` writes, without the end of its last line. -/
def armour (label : List Char) (bytes : List UInt8) : List Char :=
  beginMark ++ (label ++ (dashes ++ '\n' :: (wrap (base64 bytes).length (base64 bytes) ++
    (endMark ++ (label ++ dashes)))))

theorem toList_encode (label : String) (bytes : List UInt8) :
    (encode label bytes).toList = armour label.toList bytes ++ ['\n'] := by
  simp [encode, armour]

theorem trimChars_ends {c d : Char} (hc : Text.isBlank c = false) (hd : Text.isBlank d = false)
    (cs : List Char) : Text.trimChars (c :: (cs ++ [d, '\n'])) = c :: (cs ++ [d]) := by
  have hreverse : (c :: (cs ++ [d, '\n'])).reverse = '\n' :: d :: (c :: cs).reverse := by simp
  unfold Text.trimChars
  rw [List.dropWhile_cons_of_neg (by simp [hc]), hreverse, List.dropWhile_cons_of_pos (by decide),
    List.dropWhile_cons_of_neg (by simp [hd])]
  simp

/-- Armour begins and ends with a hyphen, so no more than the end of its last line is taken off. -/
theorem trimChars_armour (label : List Char) (bytes : List UInt8) :
    Text.trimChars (armour label bytes ++ ['\n']) = armour label bytes := by
  have hends : ∃ cs, armour label bytes = '-' :: (cs ++ ['-']) := by
    refine ⟨beginMark.tail ++ (label ++ (dashes ++ '\n' ::
      (wrap (base64 bytes).length (base64 bytes) ++ (endMark ++ (label ++ dashes.dropLast))))), ?_⟩
    simp [armour, beginMark, dashes]
  obtain ⟨cs, hcs⟩ := hends
  have htrim := trimChars_ends (c := '-') (d := '-') (by decide) (by decide) cs
  rw [hcs, List.cons_append, List.append_assoc]
  exact htrim

theorem base64_pos {bytes : List UInt8} (h : bytes ≠ []) : 0 < (base64 bytes).length := by
  apply List.length_pos_of_ne_nil
  intro hnil
  have hread := base64Bytes?_base64 bytes
  rw [hnil] at hread
  exact h (Option.some.inj hread).symm

/-- Bytes, at least one, are read back from their armour. -/
theorem decode?_armour {label : List Char} (hlabel : IsLabel label) {bytes : List UInt8}
    (hne : bytes ≠ []) : decode? (armour label bytes) = some (label, bytes) := by
  have hdigits : ∀ c ∈ base64 bytes, c ≠ '\n' ∧ c ≠ '\r' := fun c => not_isLineEnd_base64
  obtain ⟨lines, hwrap, hr, hread⟩ := unwrap?_wrap hdigits (base64_pos hne) (Nat.le_refl _)
  have hbegin : fromBegin? true (armour label bytes) = some (label ++ (dashes ++ '\n' ::
      ((lines ++ ['\n']) ++ (endMark ++ (label ++ dashes))))) := by
    rw [armour, hwrap]
    exact fromBegin?_append _
  have hname : label? false false (label ++ (dashes ++ '\n' ::
      ((lines ++ ['\n']) ++ (endMark ++ (label ++ dashes))))) = some (label, dashes ++ '\n' ::
        ((lines ++ ['\n']) ++ (endMark ++ (label ++ dashes)))) := hlabel _
  have hopen : beforeLineEnd? ((lines ++ ['\n']) ++ (endMark ++ (label ++ dashes))) = none := by
    rw [← List.append_assoc endMark, ← List.append_assoc, beforeLineEnd?, List.reverse_append]
    rfl
  have hmarks : (lines ++ ['\n']) ++ (endMark ++ (label ++ dashes)) =
      (((lines ++ ['\n']) ++ endMark) ++ label) ++ dashes := by
    simp only [List.append_assoc]
  simp only [decode?, hbegin, hname, after?_append, afterLineEnd?, hopen, Option.getD_none,
    Option.bind_eq_bind, Option.bind_some]
  rw [hmarks]
  simp only [before?_append, beforeLineEnd?_append hr, hread _ (Nat.lt_succ_self _),
    base64Bytes?_base64, Option.bind_some]

end Pem

/-! ### Keys -/

theorem armoured_encode (label : String) (bytes : List UInt8) :
    armoured (Text.Utf8.encode (Pem.encode label bytes)) =
      .ok (Pem.armour label.toList bytes) := by
  unfold armoured Text.Utf8.decodeChars Text.Utf8.encode
  rw [Text.Utf8.pieces_encodeChars, Text.Utf8.charsOf_map_char, Pem.toList_encode]
  simp only [Pem.trimChars_armour]

/-- A usable public key is read back from the file that it is written to. -/
theorem PublicKey.parse_pem {k : PublicKey} (usable : k.IsUsable) :
    PublicKey.parse (Text.Utf8.encode k.pem) = .ok k := by
  have hlabel : Pem.IsLabel "PUBLIC KEY".toList := fun cs => rfl
  have hne : k.envelope ≠ [] := List.cons_ne_nil _ _
  have hread : PublicKey.ofPem? (Pem.armour "PUBLIC KEY".toList k.envelope) = some k := by
    rw [PublicKey.ofPem?, Pem.decode?_armour hlabel hne, Option.bind_eq_bind, Option.bind_some]
    dsimp only
    rw [if_pos rfl, ofEnvelope?_envelope usable]
  unfold PublicKey.parse PublicKey.pem
  rw [armoured_encode]
  simp only [bind, Except.bind, hread]

/-- A usable private key of factors without a common divisor, and with an exponent below the
modulus, is read back from the file that it is written to. -/
theorem PrivateKey.parse_pem {k : PrivateKey} (usable : k.IsUsable)
    (below : k.exponent < k.publicKey.modulus) {pem : String} (hpem : k.pem? = some pem) :
    PrivateKey.parse (Text.Utf8.encode pem) = .ok k := by
  obtain ⟨c, hc, rfl⟩ := Option.map_eq_some_iff.mp hpem
  have hlabel : Pem.IsLabel "RSA PRIVATE KEY".toList := fun cs => rfl
  have hne : k.der c ≠ [] := List.cons_ne_nil _ _
  have hread : PrivateKey.ofPem? (Pem.armour "RSA PRIVATE KEY".toList (k.der c)) = some k := by
    rw [PrivateKey.ofPem?, Pem.decode?_armour hlabel hne, Option.bind_eq_bind, Option.bind_some]
    dsimp only
    rw [if_pos rfl, ofDer?_der usable below hc]
  unfold PrivateKey.parse
  rw [armoured_encode]
  simp only [bind, Except.bind, hread]

end SignOn.Rsa
