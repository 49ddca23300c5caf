import SignOn.Proofs.Json.Agreement
import SignOn.Proofs.Token.Verified
import SignOn.Proofs.Visits

/-!
The two ways of reading a token agree on whom it speaks of. One looks for the claims that it knows
and refuses a name that comes twice; the other takes any object, and of a repeated name the last.
-/
namespace SignOn.Token

open Text.Utf8

/-! ### The identifier in a payload -/

/-- Each field of the claims reads its own member, and only one is the identifier's. -/
theorem Claims.fields_agree :
    ∀ f ∈ fields, f.Agrees uuidClaim fun c => Json.Value.string c.uuid := by
  have text := Json.agrees_string
  have whole : Json.Agrees seconds .int := Json.agrees_whole (-2 ^ 63) (2 ^ 63)
  simp only [fields, List.forall_mem_cons]
  refine ⟨Json.Field.agrees_of_read rfl text fun _ _ => rfl,
    Json.Field.agrees_of_read rfl text fun _ _ => rfl,
    Json.Field.agrees_of_read rfl text fun _ _ => rfl,
    Json.Field.agrees_of_read rfl whole fun _ _ => rfl,
    Json.Field.agrees_of_read rfl (Json.agrees_optional whole) fun _ _ => rfl, by simp⟩

namespace Manager

variable {m : Manager} {now : Moment} {token : String} {i : Identity} {claims : Verified}

theorem value_of_members? {payload : List UInt8} (h : members? payload = some claims) :
    ∃ rest, Json.value payload = .got (.object claims) rest := by
  unfold members? at h
  split at h
  next ms hparse =>
    obtain rfl := Option.some.inj h
    exact Json.Read.complete_eq_some hparse
  next => cases h

/-- A payload that is read as claims and as an object has the claims' identifier in the object. -/
theorem claim?_of_parse? {payload : List UInt8} {c : Claims}
    (typed : Json.parse? Claims.reader payload = some c) (h : members? payload = some claims) :
    claims.claim? Claims.uuidClaim = some (.string c.uuid) := by
  obtain ⟨_, typed⟩ := Json.Read.complete_eq_some typed
  obtain ⟨_, hvalue⟩ := value_of_members? h
  obtain ⟨raw, hraw, hlookup⟩ := Json.lookup_of_value hvalue
  have isField : ∃ f ∈ Claims.fields, f.name = Claims.uuidClaim := ⟨_, List.mem_cons_self, rfl⟩
  have required : ∀ f ∈ Claims.fields, f.name = Claims.uuidClaim → f.presence = .required := by
    decide
  rw [Verified.claim?, hlookup,
    Json.lookup_of_record Claims.fields_agree isField typed hraw required]
  rfl

/-- The two ways of reading a token agree. If a token is taken for an identity and its payload can
be read as an object, its claims are accepted too, and lead to that identity; and whatever claims
are accepted of such a token lead there. -/
theorem two_readings_agree (h : m.extract now token = .ok i) :
    (∀ claims, written? token = some claims →
      m.verify now token = .ok claims ∧ locate (some claims) = .ok i.id) ∧
    ∀ claims, m.verify now token = .ok claims → locate (some claims) = .ok i.id := by
  obtain ⟨c, hdecode, hid, -⟩ := extract_eq_ok.mp h
  obtain ⟨payload, hpayload, typed, hexpiry⟩ := decode_eq_ok.mp hdecode
  have locates {claims : Verified} (hmembers : members? payload = some claims) :
      locate (some claims) = .ok i.id := by
    simp only [locate, claim?_of_parse? typed hmembers, hid]
  refine ⟨fun claims hwritten => ?_, fun claims hverify => ?_⟩
  · rw [written?_of_payload hpayload] at hwritten
    have hverify := decode_eq_ok.mpr ⟨payload, hpayload, hwritten, hexpiry⟩
    exact ⟨verify_iff_decode.mpr hverify, locates hwritten⟩
  · obtain ⟨payload', hpayload', hmembers, -⟩ := verify_eq_ok hverify
    obtain rfl := Except.ok.inj (hpayload.symm.trans hpayload')
    exact locates hmembers

/-! ### A token of another make -/

def foreignHeader : List UInt8 := encode "\x7b\"alg\":\"RS256\"\x7d"

/-- The fewest claims in another order, with an escape in a name, and with a member that is none of
them and comes twice. -/
def foreignBody : List UInt8 :=
  encode ("\x7b\"admin\":0,\"iat\":0,\"admin\":[\x7b\"uuid\":1\x7d]," ++
    "\"\\u0075uid\":\"00000000000000000000000000000000\"\x7d")

def foreignMessage : List UInt8 :=
  Text.Base64.encode Text.Base64.urlSafe foreignHeader ++
    dot :: Text.Base64.encode Text.Base64.urlSafe foreignBody

def foreignDigest : List UInt8 :=
  [158, 25, 191, 32, 204, 171, 227, 53, 9, 149, 240, 77, 124, 56, 107, 115, 122, 23, 8, 243, 73, 83,
    152, 252, 151, 65, 79, 25, 31, 207, 97, 193]

def foreignReader : Manager := ⟨Service.sampleKey, "key", none⟩

set_option maxRecDepth 100000 in
theorem digest_foreign : Digest.Sha256.digest foreignMessage = foreignDigest :=
  eq_of_beq (by decide +kernel)

set_option maxRecDepth 100000 in
theorem signed_foreign : ∃ s, Service.sampleKey.sign? foreignMessage = some s ∧
    foreignReader.publicKey.verify foreignMessage s = true := by
  rw [Rsa.PrivateKey.sign?, if_pos Service.sampleKey_canSign]
  refine ⟨_, rfl, ?_⟩
  simp only [Rsa.PublicKey.verify, Rsa.padded, digest_foreign]
  decide +kernel

theorem payload_foreign : ∃ token, foreignReader.payload token = .ok foreignBody := by
  obtain ⟨s, -, hverify⟩ := signed_foreign
  have ascii : ∀ b ∈ foreignMessage ++ dot :: Text.Base64.encode Text.Base64.urlSafe s,
      b.toNat < 0x80 :=
    fun _ hb => Nat.lt_trans (isVisible_of_mem_parts hb).2 (by decide)
  exact ⟨_, payload_of_parts (encode_asciiText ascii) (by decide +kernel) hverify⟩

theorem two_readings_agree_sample : ∃ token claims,
    foreignReader.extract (.ofSeconds 0) token = .ok ⟨.nil, "", "", [], none⟩ ∧
      foreignReader.verify (.ofSeconds 0) token = .ok claims ∧ locate (some claims) = .ok .nil := by
  obtain ⟨token, hpayload⟩ := payload_foreign
  have typed : Json.parse? Claims.reader foreignBody =
      some ⟨"00000000000000000000000000000000", "", "", 0, none⟩ := by decide +kernel
  have lasting : Validity.expiry? foreignBody = some none := by decide +kernel
  have hexpiry : foreignReader.checkExpiry (.ofSeconds 0) foreignBody = .ok () := by
    rw [checkExpiry, lasting]
    rfl
  have hextract : foreignReader.extract (.ofSeconds 0) token = .ok ⟨.nil, "", "", [], none⟩ :=
    extract_eq_ok.mpr ⟨_, decode_eq_ok.mpr ⟨_, hpayload, typed, hexpiry⟩, by rfl, rfl⟩
  obtain ⟨claims, hclaims⟩ := Option.isSome_iff_exists.mp
    (show (members? foreignBody).isSome = true by decide +kernel)
  obtain ⟨hverify, hlocate⟩ := (two_readings_agree hextract).1 claims
    ((written?_of_payload hpayload).trans hclaims)
  exact ⟨token, claims, hextract, hverify, hlocate⟩

end Manager
end SignOn.Token
