import SignOn.Proofs.Json.Records
import SignOn.Proofs.Token.Verified
import SignOn.Proofs.Visits

/-!
What becomes of an issued token at the managers with the issuer's key. Both ways of reading it give
back whom it was issued for, and both until the same second.
-/
namespace SignOn.Token

open Text.Utf8

/-! ### Claims -/

namespace Claims

theorem reads_seconds {i : Int} (h : -2 ^ 63 ≤ i ∧ i < 2 ^ 63) : Json.Reads seconds (.int i) i :=
  Json.reads_whole h ⟨h.1, Int.lt_trans h.2 (by decide)⟩

theorem reads_optional_seconds {i : Int} (h : -2 ^ 63 ≤ i ∧ i < 2 ^ 63) :
    Json.Reads (Json.optional seconds) (.int i) (some i) :=
  fun rest hr => Json.optional_ofInt (reads_seconds h rest hr)

/-- Claims are read as they were written, with an end or without. -/
theorem reads {c : Claims} (h : c.InRange) : Json.Reads reader c.toJson c := by
  obtain ⟨uuid, fullName, imageUrl, issuedAt, expiresAt⟩ := c
  have members (expiresAt : Option Int) (seen : List String) {ms : List (String × Json.Value)}
      (tail : Json.ReadsFields fields
        ⟨⟨uuid, fullName, imageUrl, issuedAt, none⟩, ["iat", "imageURL", "fullName", uuidClaim]⟩ ms
        ⟨⟨uuid, fullName, imageUrl, issuedAt, expiresAt⟩, seen⟩) :
      Json.ReadsFields fields ⟨⟨"", "", "", 0, none⟩, []⟩
        ([(uuidClaim, .string uuid), ("fullName", .string fullName),
          ("imageURL", .string imageUrl), ("iat", .int issuedAt)] ++ ms)
        ⟨⟨uuid, fullName, imageUrl, issuedAt, expiresAt⟩, seen⟩ :=
    .cons rfl (by simp) ((Json.reads_string uuid).map _) <|
      .cons rfl (by simp [uuidClaim]) ((Json.reads_string fullName).map _) <|
      .cons rfl (by simp [uuidClaim]) ((Json.reads_string imageUrl).map _) <|
      .cons rfl (by simp [uuidClaim]) ((reads_seconds h.issuedAt).map _) tail
  cases expiresAt with
  | none => exact (members none _ .nil).reads rfl
  | some e =>
    have hend := reads_optional_seconds (h.expiresAt e rfl)
    refine (members (some e) ("exp" :: ["iat", "imageURL", "fullName", uuidClaim]) ?_).reads rfl
    exact .cons rfl (by simp [uuidClaim]) (hend.map _) .nil

theorem parse?_toJson {c : Claims} (h : c.InRange) :
    Json.parse? reader (encodeChars c.toJson.chars) = some c := by
  have hparse := (reads h).parse?
  rw [encode, Json.Value.text, String.toList_ofList] at hparse
  exact hparse

end Claims
namespace Manager

variable {m c : Manager} {i j : Identity} {t now later : Moment} {token : String}

/-! ### Acceptance -/

/-- Both ways of reading a token accept it. -/
def Accepts (m : Manager) (now : Moment) (token : String) : Prop :=
  (∃ i, m.extract now token = .ok i) ∧ ∃ claims, m.verify now token = .ok claims

/-- Neither way of reading a token accepts it. -/
def Rejects (m : Manager) (now : Moment) (token : String) : Prop :=
  (∀ i, m.extract now token ≠ .ok i) ∧ ∀ claims, m.verify now token ≠ .ok claims

section
variable (pair : c.privateKey = m.privateKey) (issued : m.generate i t = .ok token)
  (signs : ∀ s, m.privateKey.sign? (m.message i t) = some s →
    m.publicKey.verify (m.message i t) s = true)
include pair issued signs

theorem decode_issued {α : Type} {read? : List UInt8 → Option α} {a : α} :
    c.decode now token read? = .ok a ↔
      read? (encodeChars (m.claims i t).toJson.chars) = some a ∧
        c.checkExpiry now (encodeChars (m.claims i t).toJson.chars) = .ok () := by
  have hkey : c.publicKey = m.publicKey := congrArg Rsa.PrivateKey.publicKey pair
  have hpayload := payload_generate (c := c) issued (by rwa [hkey])
  simp only [decode_eq_ok, hpayload, Except.ok.injEq, exists_eq_left']

variable (dated : m.Dated t)
include dated

theorem extract_issued : c.extract now token = .ok j ↔
    j = { i with emails := [], external := none } ∧
      c.checkExpiry now (encodeChars (m.claims i t).toJson.chars) = .ok () := by
  have hread := Claims.parse?_toJson (dated.inRange i)
  have hid : Uuid.parse (m.claims i t).uuid = .ok i.id := Uuid.parse_text i.id
  simp only [extract_eq_ok, decode_issued pair issued signs, hread, Option.some.injEq, and_assoc,
    exists_eq_left', hid, Except.ok.injEq]
  constructor
  · rintro ⟨hexpiry, hj, hfields⟩
    exact ⟨by rw [hfields, ← hj]; rfl, hexpiry⟩
  · rintro ⟨rfl, hexpiry⟩
    exact ⟨hexpiry, rfl, rfl⟩

theorem verify_issued {ms : Verified} : c.verify now token = .ok ms ↔
    ms = (m.claims i t).members ∧
      c.checkExpiry now (encodeChars (m.claims i t).toJson.chars) = .ok () := by
  rw [verify_iff_decode, decode_issued pair issued signs, members?_toJson (dated.inRange i),
    Option.some.injEq, eq_comm]

theorem accepts_issued : c.Accepts now token ↔
    c.checkExpiry now (encodeChars (m.claims i t).toJson.chars) = .ok () := by
  simp only [Accepts, extract_issued pair issued signs dated, verify_issued pair issued signs dated]
  simp

theorem rejects_issued : c.Rejects now token ↔
    ¬ c.checkExpiry now (encodeChars (m.claims i t).toJson.chars) = .ok () := by
  simp only [Rejects, ne_eq, extract_issued pair issued signs dated,
    verify_issued pair issued signs dated]
  simp

/-! ### Round trip -/

/-- A token comes back. At the second at which it was issued every manager with the issuer's key,
whatever the name of the key and the life of its own tokens, takes the token for the identity that
it was issued for, as far as it is described there; only a manager whose tokens have an end takes
none without. Clocks are past the first minute of 1970, from which the leeway cannot be taken, and
keys are such that what the private one signs the public one verifies. -/
theorem token_round_trip (ends : c.lifetime ≠ none → m.lifetime ≠ none)
    (life : ∀ l, m.lifetime = some l → 0 ≤ l) (clock : 60 ≤ t.seconds)
    (same : now.seconds = t.seconds) :
    c.extract now token = .ok { i with emails := [], external := none } ∧
      ∃ claims, c.verify now token = .ok claims ∧ locate (some claims) = .ok i.id := by
  have hexpiry : c.checkExpiry now (encodeChars (m.claims i t).toJson.chars) = .ok () := by
    cases hl : m.lifetime with
    | none =>
      have hno : ∀ e, (m.claims i t).expiresAt = some e → e < 0 := by
        simp [expiresAt_claims_of_none hl]
      have own : c.lifetime = none := Classical.not_not.mp fun hc => ends hc hl
      exact (checkExpiry_of_no_end (dated.inRange i) hno).mpr own
    | some l =>
      have := life l hl
      exact (checkExpiry_of_end (dated.inRange i) (expiresAt_claims hl) (by omega)).mpr (by omega)
  exact ⟨(extract_issued pair issued signs dated).mpr ⟨rfl, hexpiry⟩, _,
    (verify_issued pair issued signs dated).mpr ⟨rfl, hexpiry⟩, locate_members m i t⟩

end

def sampleIssuer : Manager := ⟨Service.sampleKey, "key", some 3600⟩

def sampleChecker : Manager := ⟨Service.sampleKey, "other key", some 60⟩

theorem pair_sample : sampleChecker.privateKey = sampleIssuer.privateKey := rfl

theorem sampleIssuer_canSign : sampleIssuer.privateKey.CanSign := Service.sampleKey_canSign

def sampleHolder : Identity :=
  ⟨.nil, "Zoë \"✓\"\n🦀", "http://some.com/image", [], some ⟨.github, "1234"⟩⟩

/-- A moment of the year 2023. -/
def sampleIssue : Moment := .ofSeconds 1700000000

/-- The digest of what is signed of the holder's token. -/
def issueDigest : List UInt8 :=
  [233, 237, 237, 168, 28, 25, 0, 172, 250, 218, 56, 188, 230, 2, 90, 34, 61, 107, 18, 45, 243, 97,
    165, 200, 178, 110, 113, 119, 140, 96, 100, 146]

set_option maxRecDepth 100000 in
theorem digest_issue :
    Digest.Sha256.digest (sampleIssuer.message sampleHolder sampleIssue) = issueDigest :=
  eq_of_beq (by decide +kernel)

set_option maxRecDepth 100000 in
theorem signs_issue (s : List UInt8)
    (hs : sampleIssuer.privateKey.sign? (sampleIssuer.message sampleHolder sampleIssue) = some s) :
    sampleIssuer.publicKey.verify (sampleIssuer.message sampleHolder sampleIssue) s = true := by
  rw [Rsa.PrivateKey.sign?, if_pos sampleIssuer_canSign] at hs
  obtain rfl := Option.some.inj hs
  simp only [Rsa.PublicKey.verify, Rsa.padded, digest_issue]
  decide +kernel

theorem dated_issue : sampleIssuer.Dated sampleIssue := ⟨by decide, by decide⟩

theorem token_round_trip_sample : ∃ token,
    sampleIssuer.generate sampleHolder sampleIssue = .ok token ∧
      sampleChecker.extract sampleIssue token = .ok { sampleHolder with external := none } := by
  obtain ⟨token, issued⟩ := generate_iff.mpr sampleIssuer_canSign
  have life : ∀ l, sampleIssuer.lifetime = some l → 0 ≤ l := by
    rintro l ⟨⟩
    decide
  obtain ⟨hextract, -⟩ := token_round_trip pair_sample issued signs_issue dated_issue
    (fun _ => by decide) life (by decide) rfl
  exact ⟨token, issued, hextract⟩

/-! ### Expiry -/

section
variable (pair : c.privateKey = m.privateKey) (issued : m.generate i t = .ok token)
  (signs : ∀ s, m.privateKey.sign? (m.message i t) = some s →
    m.publicKey.verify (m.message i t) s = true) (dated : m.Dated t)
include pair issued signs dated

/-- When a token is over. An issuer whose tokens live for some time writes into a token when it was
issued and when it ends, and every manager with the issuer's key accepts it in both ways until a
minute after the end and in neither way from then on. A token without an end is accepted at all
times by the managers whose own tokens have none, and at no time by the others. -/
theorem expiry_law :
    (∀ l, m.lifetime = some l → 0 ≤ t.seconds + l →
      (∃ claims, written? token = some claims ∧
        claims.claim? "iat" = some (.int t.seconds) ∧
        claims.claim? "exp" = some (.int (t.seconds + l))) ∧
      (∀ now, c.Accepts now token ↔ now.seconds ≤ t.seconds + l + 60) ∧
      (∀ now, c.Rejects now token ↔ t.seconds + l + 60 < now.seconds) ∧
      ∀ now later, now.seconds ≤ later.seconds → c.Rejects now token → c.Rejects later token) ∧
    (m.lifetime = none →
      (∃ claims, written? token = some claims ∧ claims.claim? "exp" = none) ∧
      (c.lifetime = none → ∀ now, c.Accepts now token) ∧
      (c.lifetime ≠ none → ∀ now, c.Rejects now token)) := by
  have hwritten := written?_generate dated issued
  refine ⟨fun l hl hpos => ?_, fun hl => ?_⟩
  · have hexpiry (now : Moment) : c.checkExpiry now (encodeChars (m.claims i t).toJson.chars) =
        .ok () ↔ now.seconds ≤ t.seconds + l + 60 :=
      checkExpiry_of_end (dated.inRange i) (expiresAt_claims hl) hpos
    have rejects (now : Moment) : c.Rejects now token ↔ t.seconds + l + 60 < now.seconds := by
      rw [rejects_issued pair issued signs dated, hexpiry, Int.not_le]
    refine ⟨⟨_, hwritten, rfl, claim?_exp hl⟩, fun now => ?_, rejects, fun now later hle hnow => ?_⟩
    · rw [accepts_issued pair issued signs dated, hexpiry]
    · have := (rejects now).mp hnow
      exact (rejects later).mpr (by omega)
  · have hexpiry (now : Moment) : c.checkExpiry now (encodeChars (m.claims i t).toJson.chars) =
        .ok () ↔ c.lifetime = none :=
      checkExpiry_of_no_end (dated.inRange i) (by simp [expiresAt_claims_of_none hl])
    refine ⟨⟨_, hwritten, claim?_exp_of_none hl⟩, fun hc now => ?_, fun hc now => ?_⟩
    · exact (accepts_issued pair issued signs dated).mpr ((hexpiry now).mpr hc)
    · exact (rejects_issued pair issued signs dated).mpr (mt (hexpiry now).mp hc)

end

theorem expiry_law_sample : ∃ token,
    sampleIssuer.generate sampleHolder sampleIssue = .ok token ∧
      sampleChecker.Accepts (sampleIssue.addSeconds 3660) token ∧
      sampleChecker.Rejects (sampleIssue.addSeconds 3661) token := by
  obtain ⟨token, issued⟩ := generate_iff.mpr sampleIssuer_canSign
  obtain ⟨ending, -⟩ := expiry_law pair_sample issued signs_issue dated_issue
  obtain ⟨-, accepts, rejects, -⟩ := ending 3600 rfl (by decide)
  exact ⟨token, issued, (accepts _).mpr (by decide), (rejects _).mpr (by decide)⟩

end Manager
end SignOn.Token
