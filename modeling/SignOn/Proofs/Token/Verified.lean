import Mathlib.Data.Set.Defs
import SignOn.Proofs.Token.Subject

/-!
What it takes for a token to be accepted. The end that was written into it is the one against which
the time is held; and where only the manager can sign, all but the signature is that of a token that
the manager issued.
-/
namespace SignOn.Token

open Text.Utf8

/-! ### The header -/

/-- The header that a manager writes names its algorithm, whatever the name of the key. -/
theorem Header.algorithm?_toJson (keyId : String) :
    algorithm? (encodeChars (toJson keyId).chars) = some signing := by
  have optional {name : String} {d : Json.Draft String}
      (hf : fields.find? (·.name = name) = some (.optional name Json.string fun a _ => a))
      (hseen : name ∉ d.seen) (s : String) (rest : List UInt8) :
      Json.readMember fields name d (encodeChars (Json.quote s) ++ rest) =
        .got ⟨d.value, name :: d.seen⟩ rest := by
    refine Json.readMember_of_find hf hseen ?_
    simp only [Json.Field.optional, Json.optional_quote, Json.Read.map]
  have alg {d : Json.Draft String} (hseen : "alg" ∉ d.seen) (rest : List UInt8) :
      Json.readMember fields "alg" d (encodeChars (Json.quote signing) ++ rest) =
        .got ⟨signing, "alg" :: d.seen⟩ rest := by
    have hf : fields.find? (·.name = "alg") =
      some (.required "alg" (Json.enum ofName?) fun _ a => a) := rfl
    refine Json.readMember_of_find hf hseen ?_
    have hname : ofName? signing = some signing := by decide
    simp only [Json.Field.required, Json.enum_quote hname, Json.Read.map]
  have reads : Json.ReadsMembers (Json.readMember fields) ⟨"", []⟩
      ([("typ", .string "JWT"), ("alg", .string signing), ("kid", .string keyId)].map
        fun m : String × Json.Value => (m.1, m.2.chars)) ⟨signing, ["kid", "alg", "typ"]⟩ :=
    .cons (fun rest _ => optional rfl (by simp) "JWT" rest)
      (.cons (fun rest _ => alg (by simp) rest)
      (.cons (fun rest _ => optional rfl (by simp) keyId rest) .nil))
  have hrecord := Json.record_written reads (by decide) []
  rw [List.append_nil] at hrecord
  rw [algorithm?, Json.parse?]
  exact congrArg Json.Read.complete hrecord

/-! ### The end of a token -/

namespace Validity

theorem seconds_ofInt {i : Int} (h : -2 ^ 63 ≤ i ∧ i < 2 ^ 64) {rest : List UInt8}
    (hr : Json.Ends rest) : seconds (encodeChars (Text.Decimal.ofInt i).toList ++ rest) =
      .got (if 0 ≤ i then some i.toNat else none) rest := by
  have hread := Json.number_ofInt h hr
  obtain ⟨b, r, hb, hkind⟩ := Json.encodeChars_ofInt_cons i
  rw [hb, List.cons_append] at hread ⊢
  have hnumber : seconds (b :: (r ++ rest)) =
      (Json.number (b :: (r ++ rest))).map secondsOf := by
    rcases hkind with rfl | hdigit
    · rw [seconds, Json.skipSpace_cons (by decide)]
      rfl
    · have ne {c : UInt8} := Json.ne_of_isDigit (c := c) hdigit
      rw [seconds, Json.skipSpace_cons (Json.not_isSpace_of_isDigit hdigit)]
      simp only
      rw [if_neg (ne (by decide)), if_neg (ne (by decide)), if_neg (ne (by decide)),
        if_neg (ne (by decide)), if_neg (ne (by decide)), if_neg (ne (by decide))]
  rw [hnumber, hread]
  rfl

theorem readMember_exp {d : Json.Draft (Option Nat)} (hd : "exp" ∉ d.seen) {i : Int}
    (h : -2 ^ 63 ≤ i ∧ i < 2 ^ 64) {rest : List UInt8} (hr : Json.Ends rest) :
    Json.readMember fields "exp" d (encodeChars (Json.Value.int i).chars ++ rest) =
      .got ⟨if 0 ≤ i then some i.toNat else none, "exp" :: d.seen⟩ rest := by
  have hfind : fields.find? (·.name = "exp") =
      some ⟨"exp", .optional, fun _ bs => (leniently seconds bs).map fun e => e⟩ := rfl
  have hseconds : seconds (encodeChars (Json.Value.int i).chars ++ rest) = _ :=
    seconds_ofInt h hr
  refine Json.readMember_of_find hfind hd ?_
  simp only [leniently, hseconds, Json.Read.map]

/-- The end of a token is read from its claims as it was written, unless it lies before 1970. -/
theorem expiry?_toJson {c : Claims} (h : c.InRange) : expiry? (encodeChars c.toJson.chars) =
    some (c.expiresAt.bind fun e => if 0 ≤ e then some e.toNat else none) := by
  have exp : ∃ seen, Json.ReadsMembers (Json.readMember fields) ⟨none, []⟩
      ((Json.member? "exp" (c.expiresAt.map .int)).map fun m => (m.1, m.2.chars))
      ⟨c.expiresAt.bind fun e => if 0 ≤ e then some e.toNat else none, seen⟩ := by
    cases he : c.expiresAt with
    | none => exact ⟨[], .nil⟩
    | some e =>
      have hrange := h.expiresAt e he
      exact ⟨["exp"], .cons (fun rest hr =>
        readMember_exp (by simp) ⟨hrange.1, Int.lt_trans hrange.2 (by decide)⟩ hr) .nil⟩
  obtain ⟨seen, exp⟩ := exp
  -- all members but the last are passed over
  have reads : Json.ReadsMembers (Json.readMember fields) ⟨none, []⟩
      (c.members.map fun m => (m.1, m.2.chars)) _ :=
    .cons (fun rest _ => Json.readMember_of_ne (by simp [fields, Claims.uuidClaim])
        (Json.skipValue_quote c.uuid rest))
      (.cons (fun rest _ => Json.readMember_of_ne (by simp [fields])
        (Json.skipValue_quote c.fullName rest))
      (.cons (fun rest _ => Json.readMember_of_ne (by simp [fields])
        (Json.skipValue_quote c.imageUrl rest))
      (.cons (fun rest hr => Json.readMember_of_ne (by simp [fields])
        (Json.skipValue_ofInt c.issuedAt hr)) exp)))
  have hrecord := Json.record_written reads (by simp [fields]) []
  rw [List.append_nil] at hrecord
  rw [expiry?, Json.parse?, Claims.toJson_eq]
  exact congrArg Json.Read.complete hrecord

end Validity
namespace Manager

variable {m : Manager} {token : String} {now t : Moment} {i : Identity}

/-- What ends at a second that the clock has yet to reach or has passed by no more than a minute is
not over, for any manager. -/
theorem checkExpiry_of_end {k : Claims} (h : k.InRange) {e : Int} (he : k.expiresAt = some e)
    (hpos : 0 ≤ e) :
    m.checkExpiry now (encodeChars k.toJson.chars) = .ok () ↔ now.seconds ≤ e + 60 := by
  have hleeway : leeway = 60 := rfl
  rw [checkExpiry, Validity.expiry?_toJson h, he, Option.bind_some, if_pos hpos]
  simp only
  by_cases hover : (e.toNat : Int) < now.seconds - leeway
  · rw [if_pos hover]
    refine ⟨fun h => ?_, fun hends => by omega⟩
    cases h
  · rw [if_neg hover]
    exact ⟨fun _ => by omega, fun _ => rfl⟩

/-- What tells no end, or one before 1970, holds for the managers whose tokens have none. -/
theorem checkExpiry_of_no_end {k : Claims} (h : k.InRange)
    (hno : ∀ e, k.expiresAt = some e → e < 0) :
    m.checkExpiry now (encodeChars k.toJson.chars) = .ok () ↔ m.lifetime = none := by
  have hend : (k.expiresAt.bind fun e => if 0 ≤ e then some e.toNat else none) = none := by
    cases he : k.expiresAt with
    | none => rfl
    | some e => rw [Option.bind_some, if_neg (Int.not_le.mpr (hno e he))]
  rw [checkExpiry, Validity.expiry?_toJson h, hend]
  cases m.lifetime <;> simp

/-- An issued token holds until a minute after its end, and not at all if that lies before 1970. -/
theorem checkExpiry_claims (h : m.Dated t) (i : Identity) (now : Moment) :
    m.checkExpiry now (encodeChars (m.claims i t).toJson.chars) = .ok () ↔
      ∀ l, m.lifetime = some l → 0 ≤ t.seconds + l ∧ now.seconds ≤ t.seconds + l + 60 := by
  cases hl : m.lifetime with
  | none =>
    rw [checkExpiry_of_no_end (h.inRange i) (by simp [expiresAt_claims_of_none hl]), hl]
    simp
  | some l =>
    by_cases hpos : 0 ≤ t.seconds + l
    · rw [checkExpiry_of_end (h.inRange i) (expiresAt_claims hl) hpos]
      simp [hpos]
    · rw [checkExpiry_of_no_end (h.inRange i) (by simp [expiresAt_claims hl]; omega), hl]
      simp [hpos]

/-! ### Accepted tokens -/

/-- A payload is accepted only with a signature that the key verifies for all that stands before. -/
theorem payload_eq_ok {payload : List UInt8} (h : m.payload token = .ok payload) :
    ∃ message signature bytes header body,
      splitLast (encode token) = some (message, signature) ∧
      Text.Base64.decode? Text.Base64.urlSafe signature = some bytes ∧
      m.publicKey.verify message bytes = true ∧ splitLast message = some (header, body) ∧
      Text.Base64.decode? Text.Base64.urlSafe body = some payload := by
  unfold Manager.payload at h
  rcases hsplit : splitLast (encode token) with _ | ⟨message, signature⟩ <;> rw [hsplit] at h
  · cases h
  simp only at h
  rcases hparts : splitLast message with _ | ⟨header, body⟩ <;> rw [hparts] at h
  · cases h
  simp only at h
  rcases hheader : Text.Base64.decode? Text.Base64.urlSafe header with _ | headerBytes <;>
    rw [hheader] at h
  · cases h
  simp only at h
  rcases halgorithm : Header.algorithm? headerBytes with _ | algorithm <;> rw [halgorithm] at h
  · cases h
  simp only at h
  split at h
  · cases h
  rcases hbytes : Text.Base64.decode? Text.Base64.urlSafe signature with _ | bytes <;>
    rw [hbytes] at h
  · cases h
  simp only at h
  split at h
  · cases h
  next hverify =>
  rcases hpayload : Text.Base64.decode? Text.Base64.urlSafe body with _ | payload <;>
    rw [hpayload] at h
  · cases h
  cases h
  exact ⟨message, signature, bytes, header, body, rfl, hbytes, by simpa using hverify, hparts,
    hpayload⟩

/-- The claims of a token that is accepted are those that anybody can read in it. -/
theorem written?_of_payload {payload : List UInt8} (h : m.payload token = .ok payload) :
    written? token = members? payload := by
  obtain ⟨message, signature, bytes, header, body, hsplit, -, -, hparts, hbody⟩ := payload_eq_ok h
  simp only [written?, hsplit, hparts, hbody, Option.bind_eq_bind, Option.bind_some]

/-- A token is accepted if its payload is, can be read, and does not say that the token is over. -/
theorem decode_eq_ok {α : Type} {read? : List UInt8 → Option α} {a : α} :
    m.decode now token read? = .ok a ↔ ∃ payload, m.payload token = .ok payload ∧
      read? payload = some a ∧ m.checkExpiry now payload = .ok () := by
  cases hpayload : m.payload token with
  | error f => simp [decode, hpayload, bind, Except.bind]
  | ok payload =>
    simp only [decode, hpayload, bind, Except.bind, Except.ok.injEq, exists_eq_left']
    cases hread : read? payload with
    | none => simp
    | some b => cases hexpiry : m.checkExpiry now payload <;> simp

theorem verify_iff_decode {claims : Verified} :
    m.verify now token = .ok claims ↔ m.decode now token members? = .ok claims := by
  rw [verify]
  cases m.decode now token members? <;> simp

theorem verify_eq_ok {claims : Verified} (h : m.verify now token = .ok claims) :
    ∃ payload, m.payload token = .ok payload ∧ members? payload = some claims ∧
      m.checkExpiry now payload = .ok () :=
  decode_eq_ok.mp (verify_iff_decode.mp h)

/-- A token is taken for an identity if its claims can be read and name one. -/
theorem extract_eq_ok : m.extract now token = .ok i ↔
    ∃ c, m.decode now token (Json.parse? Claims.reader) = .ok c ∧ Uuid.parse c.uuid = .ok i.id ∧
      i = ⟨i.id, c.fullName, c.imageUrl, [], none⟩ := by
  rw [extract]
  cases hdecode : m.decode now token (Json.parse? Claims.reader) with
  | error f => simp
  | ok c =>
    simp only [Except.ok.injEq, exists_eq_left']
    cases hparse : Uuid.parse c.uuid with
    | error f => simp
    | ok id =>
      constructor
      · intro h
        cases h
        exact ⟨rfl, rfl⟩
      · rintro ⟨hid, hi⟩
        rw [hi, ← Except.ok.inj hid]

/-- A payload is accepted behind a header that names the algorithm, if the key verifies the
signature of the two. -/
theorem payload_of_parts {header body bytes : List UInt8}
    (htoken : encode token = (Text.Base64.encode Text.Base64.urlSafe header ++
      dot :: Text.Base64.encode Text.Base64.urlSafe body) ++
      dot :: Text.Base64.encode Text.Base64.urlSafe bytes)
    (halgorithm : Header.algorithm? header = some Header.signing)
    (hkey : m.publicKey.verify (Text.Base64.encode Text.Base64.urlSafe header ++
      dot :: Text.Base64.encode Text.Base64.urlSafe body) bytes = true) :
    m.payload token = .ok body := by
  have hdecode (bs : List UInt8) : Text.Base64.decode? Text.Base64.urlSafe
      (Text.Base64.encode Text.Base64.urlSafe bs) = some bs :=
    Text.Base64.decode?_encode Text.Base64.lawful_urlSafe bs
  unfold payload
  rw [htoken, splitLast_append (dot_notMem_encode bytes)]
  simp only [splitLast_append (dot_notMem_encode body), hdecode, halgorithm, ne_eq,
    not_true_eq_false, if_false, hkey, Bool.not_true, Bool.false_eq_true]

/-- The payload of an issued token is accepted if the key verifies what was signed. -/
theorem payload_generate {c : Manager} (hg : m.generate i t = .ok token)
    (hkey : ∀ s, m.privateKey.sign? (m.message i t) = some s →
      c.publicKey.verify (m.message i t) s = true) :
    c.payload token = .ok (encodeChars (m.claims i t).toJson.chars) := by
  obtain ⟨s, hs, htoken⟩ := encode_generate hg
  exact payload_of_parts htoken (Header.algorithm?_toJson m.keyId) (hkey s hs)

/-- An issued token is accepted until its end. -/
theorem verify_generate (h : m.Dated t) (hg : m.generate i t = .ok token)
    (hkey : ∀ s, m.privateKey.sign? (m.message i t) = some s →
      m.publicKey.verify (m.message i t) s = true)
    (now : Moment)
    (hends : ∀ l, m.lifetime = some l → 0 ≤ t.seconds + l ∧ now.seconds ≤ t.seconds + l + 60) :
    ∃ claims, m.verify now token = .ok claims ∧ locate (some claims) = .ok i.id := by
  refine ⟨(m.claims i t).members, verify_iff_decode.mpr (decode_eq_ok.mpr ?_), locate_members m i t⟩
  exact ⟨_, payload_generate hg hkey, members?_toJson (h.inRange i),
    (checkExpiry_claims h i now).mpr hends⟩

/-- All of a token before its last point, which is what the signature is for. -/
def signed? (token : String) : Option (List UInt8) := (splitLast (encode token)).map (·.1)

theorem signed?_generate (hg : m.generate i t = .ok token) :
    signed? token = some (m.message i t) := by
  obtain ⟨s, -, htoken⟩ := encode_generate hg
  rw [signed?, htoken, splitLast_append (dot_notMem_encode s)]
  rfl

/-- What is accepted of a token that was issued, its signature apart: the identifier of the identity
that it was issued for, and that until the token's end. -/
theorem issued_of_signed? (h : m.Dated t) (hsigned : signed? token = some (m.message i t))
    {claims : Verified} (hverify : m.verify now token = .ok claims) :
    locate (some claims) = .ok i.id ∧
      ∀ l, m.lifetime = some l → 0 ≤ t.seconds + l ∧ now.seconds ≤ t.seconds + l + 60 := by
  obtain ⟨payload, hpayload, hmembers, hexpiry⟩ := verify_eq_ok hverify
  obtain ⟨message, signature, bytes, header, body, hsplit, -, -, hparts, hbody⟩ :=
    payload_eq_ok hpayload
  rw [signed?, hsplit] at hsigned
  obtain rfl := Option.some.inj hsigned
  rw [splitLast_message] at hparts
  obtain ⟨-, rfl⟩ := Prod.mk.inj (Option.some.inj hparts)
  have hdecode := Text.Base64.decode?_encode Text.Base64.lawful_urlSafe
    (encodeChars (m.claims i t).toJson.chars)
  obtain rfl := Option.some.inj (hbody.symm.trans hdecode)
  obtain rfl := Option.some.inj (hmembers.symm.trans (members?_toJson (h.inRange i)))
  exact ⟨locate_members m i t, (checkExpiry_claims h i now).mp hexpiry⟩

/-- If the key verifies a signature of a token, the manager has signed for one that it issued. -/
def Unforged (m : Manager) (issued : Set (Identity × Moment)) (token : String) : Prop :=
  ∀ message signature bytes, splitLast (encode token) = some (message, signature) →
    Text.Base64.decode? Text.Base64.urlSafe signature = some bytes →
    m.publicKey.verify message bytes = true → ∃ p ∈ issued, message = m.message p.1 p.2

theorem Unforged.signed? {issued : Set (Identity × Moment)} (unforged : m.Unforged issued token)
    {claims : Verified} (hverify : m.verify now token = .ok claims) :
    ∃ p ∈ issued, signed? token = some (m.message p.1 p.2) := by
  obtain ⟨payload, hpayload, -, -⟩ := verify_eq_ok hverify
  obtain ⟨message, signature, bytes, _, _, hsplit, hbytes, hkey, -, -⟩ := payload_eq_ok hpayload
  obtain ⟨p, hp, rfl⟩ := unforged message signature bytes hsplit hbytes hkey
  exact ⟨p, hp, by rw [Manager.signed?, hsplit]; rfl⟩

end Manager
end SignOn.Token
