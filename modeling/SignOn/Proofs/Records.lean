import SignOn.Proofs.Login.Pending
import SignOn.Proofs.Token.Issued
import SignOn.Proofs.Uuid
import SignOn.User

/-!
Records outlive the process as JSON texts. Each is read back as it was written, whatever its texts
hold and whichever of its optional fields are there.
-/
namespace SignOn

open Json Text.Utf8

/-! ### Identities -/

theorem Provider.reads (p : Provider) : Reads reader p.toJson p := reads_enum (ofName?_name p)

theorem Email.reads (e : Email) : Reads reader e.toJson e := by
  obtain ⟨address, verified, primary⟩ := e
  have members : ReadsFields fields ⟨⟨"", false, false⟩, []⟩
      [("address", .string address), ("verified", .bool verified), ("primary", .bool primary)]
      ⟨⟨address, verified, primary⟩, ["primary", "verified", "address"]⟩ :=
    .cons rfl (by simp) ((reads_string address).map _) <|
      .cons rfl (by simp) ((reads_boolean verified).map _) <|
      .cons rfl (by simp) ((reads_boolean primary).map _) .nil
  exact members.reads rfl

theorem Account.reads (a : Account) : Reads reader a.toJson a := by
  have members : ReadsFields fields ⟨⟨.github, ""⟩, []⟩
      [("provider", a.provider.toJson), ("external_id", .string a.externalId)]
      ⟨a, ["external_id", "provider"]⟩ :=
    .cons rfl (by simp) ((Provider.reads a.provider).map _) <|
      .cons rfl (by simp) ((reads_string a.externalId).map _) .nil
  exact members.reads rfl

theorem Account.reads_optional (a : Account) : Reads (optional reader) a.toJson (some a) :=
  (reads a).optional (encodeChars_object _) (by decide) (by decide)

theorem Email.reads_list (es : List Email) :
    Reads (list reader) (.array (es.map toJson)) es :=
  Json.reads_list fun e _ => ⟨starts_object _, reads e⟩

theorem Identity.reads (i : Identity) : Reads reader i.toJson i := by
  obtain ⟨id, fullName, imageUrl, emails, external⟩ := i
  have members (external : Option Account) (seen : List String) {ms : List (String × Value)}
      (tail : ReadsFields fields
        ⟨⟨id, fullName, imageUrl, emails, none⟩, ["emails", "image_url", "full_name", "_id"]⟩ ms
        ⟨⟨id, fullName, imageUrl, emails, external⟩, seen⟩) :
      ReadsFields fields ⟨⟨.nil, "", "", [], none⟩, []⟩
        ([("_id", id.toJson), ("full_name", .string fullName), ("image_url", .string imageUrl),
          ("emails", .array (emails.map Email.toJson))] ++ ms)
        ⟨⟨id, fullName, imageUrl, emails, external⟩, seen⟩ :=
    .cons rfl (by simp) ((Uuid.reads id).map _) <|
      .cons rfl (by simp) ((reads_string fullName).map _) <|
      .cons rfl (by simp) ((reads_string imageUrl).map _) <|
      .cons rfl (by simp) ((Email.reads_list emails).map _) tail
  cases external with
  | none => exact (members none _ .nil).reads rfl
  | some a =>
    refine (members (some a) ["external", "emails", "image_url", "full_name", "_id"] ?_).reads rfl
    exact .cons rfl (by simp) (a.reads_optional.map _) .nil

/-! ### Users -/

theorem User.reads {u : User} (h : u.createdAt.InYears) : Reads reader u.toJson u := by
  obtain ⟨id, identityId, provider, externalId, username, email, createdAt⟩ := u
  have members (email : Option String) (seen : List String) {ms : List (String × Value)}
      (tail : ReadsFields fields
        ⟨⟨id, identityId, provider, externalId, username, none, .epoch⟩,
          ["username", "external_id", "provider", "identity_id", "_id"]⟩ ms
        ⟨⟨id, identityId, provider, externalId, username, email, createdAt⟩, seen⟩) :
      ReadsFields fields ⟨⟨.nil, .nil, .github, "", "", none, .epoch⟩, []⟩
        ([("_id", id.toJson), ("identity_id", identityId.toJson), ("provider", provider.toJson),
          ("external_id", .string externalId), ("username", .string username)] ++ ms)
        ⟨⟨id, identityId, provider, externalId, username, email, createdAt⟩, seen⟩ :=
    .cons rfl (by simp) ((Uuid.reads id).map _) <|
      .cons rfl (by simp) ((Uuid.reads identityId).map _) <|
      .cons rfl (by simp) ((Provider.reads provider).map _) <|
      .cons rfl (by simp) ((reads_string externalId).map _) <|
      .cons rfl (by simp) ((reads_string username).map _) tail
  have created := Timestamp.reads h
  cases email with
  | none =>
    refine (members none ["created_at", "username", "external_id", "provider", "identity_id", "_id"]
      ?_).reads rfl
    exact .cons rfl (by simp) (created.map _) .nil
  | some text =>
    refine (members (some text) ["created_at", "email", "username", "external_id", "provider",
      "identity_id", "_id"] ?_).reads rfl
    exact .cons rfl (by simp) ((reads_optional_string text).map _) <|
      .cons rfl (by simp) (created.map _) .nil

/-! ### Texts -/

/-- Records of people, of sign-ons on their way and of tokens are read back from their texts. Their
times lie in years that can be read, which are the years 0 to 9999 and many more, and the seconds of
claims are words of 64 bits. -/
theorem records_read_back (i : Identity) {u : User} (created : u.createdAt.InYears)
    {p : Login.Pending} (begun : p.createdAt.InYears) {c : Token.Claims} (inRange : c.InRange) :
    parse? Identity.reader (encode i.toJson.text) = some i ∧
    parse? User.reader (encode u.toJson.text) = some u ∧
    parse? Login.Pending.reader (encode p.toJson.text) = some p ∧
    parse? Token.Claims.reader (encode c.toJson.text) = some c :=
  ⟨(Identity.reads i).parse?, (User.reads created).parse?, (Login.Pending.reads begun).parse?,
    (Token.Claims.reads inRange).parse?⟩

def samplePerson : Identity := ⟨.nil, "\u2028", "", [⟨"a@b", true, false⟩], some ⟨.github, "7"⟩⟩

/-- A user without an address, of the first nanosecond of 1970. -/
def sampleUser : User := ⟨.nil, .nil, .github, "7", "\x00\"é😀", none, .ofMoment ⟨1⟩⟩

def sampleSignOn : Login.Pending := ⟨"https://a.example/?b=\\", .ofMoment ⟨-1⟩⟩

def sampleClaims : Token.Claims := ⟨"", "\n", "", -1, some (2 ^ 63 - 1)⟩

theorem records_read_back_sample :
    parse? Identity.reader (encode samplePerson.toJson.text) = some samplePerson ∧
    parse? User.reader (encode sampleUser.toJson.text) = some sampleUser ∧
    parse? Login.Pending.reader (encode sampleSignOn.toJson.text) = some sampleSignOn ∧
    parse? Token.Claims.reader (encode sampleClaims.toJson.text) = some sampleClaims := by
  have inRange : sampleClaims.InRange :=
    ⟨by decide, fun e he => by obtain rfl := Option.some.inj he; decide⟩
  have created : sampleUser.createdAt.InYears := ⟨by decide +kernel, by decide +kernel⟩
  have begun : sampleSignOn.createdAt.InYears := ⟨by decide +kernel, by decide +kernel⟩
  exact records_read_back samplePerson created begun inRange

end SignOn
