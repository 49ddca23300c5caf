import SignOn.Documents.Users
import SignOn.Proofs.Store.Accounts
import SignOn.Proofs.Timestamp
import SignOn.Proofs.Uuid

/-!
Records as the documents that are stored for them. An upsert puts the fields of a record's key
before the others; together they are the fields of the record, so it is read as what it was. Only a
record with the same identifier or the same account has a document that a filter or an index takes
for it.
-/
namespace SignOn

theorem Provider.name_injective : Function.Injective name := fun p q h =>
  Option.some.inj ((ofName?_name p).symm.trans ((congrArg ofName? h).trans (ofName?_name q)))

namespace Documents

/-! ### Fields -/

/-- A document without the fields of some names. -/
def without (names : List String) (d : Document) : Document := d.filter fun m => m.1 ∉ names

/-- Where fields have different names, the one of a name is found. -/
theorem lookup_eq_some_iff {α : Type} {ms : List (String × α)} (h : (ms.map (·.1)).Nodup)
    {name : String} {a : α} : ms.lookup name = some a ↔ (name, a) ∈ ms := by
  induction ms with
  | nil => simp
  | cons m ms ih =>
    obtain ⟨field, b⟩ := m
    obtain ⟨hfield, hms⟩ := List.nodup_cons.mp h
    by_cases hname : name = field
    · subst hname
      have hother : (name, a) ∉ ms := fun hmem => hfield (List.mem_map.mpr ⟨_, hmem, rfl⟩)
      simp [hother, eq_comm]
    · have hskip : ((field, b) :: ms).lookup name = ms.lookup name := by
        simp only [List.lookup_cons, beq_eq_false_iff_ne.mpr hname]
      simp [hskip, ih hms, hname]

/-- The order of the fields makes no difference. -/
theorem lookup_perm {α : Type} {ms ns : List (String × α)} (h : ms.Perm ns)
    (hnames : (ns.map (·.1)).Nodup) (name : String) : ms.lookup name = ns.lookup name :=
  Option.ext fun a => by
    rw [lookup_eq_some_iff hnames, lookup_eq_some_iff ((h.map (·.1)).nodup_iff.mpr hnames),
      h.mem_iff]

theorem textField?_of_lookup {d : Document} {name : String} {text? : Option String}
    (h : d.lookup name = text?.map .string) : textField? d name = text? := by
  rw [textField?, h]
  cases text? <;> rfl

theorem Index.clash_iff (i : Index) {d e : Document} : i.clash d e = true ↔
    i.unique = true ∧ i.covers d = true ∧ i.covers e = true ∧
      ∀ name ∈ i.fields, textField? d name = textField? e name := by
  simp [Index.clash, and_assoc]

/-! ### What tells documents apart -/

/-- What a document says of the identifier and of the account of its record. -/
structure Names (d : Document) (id : Uuid) (account : Option Account) : Prop where
  id : d.lookup "_id" = some (.string id.text)
  provider : d.lookup "provider" = account.map fun a => .string a.provider.name
  externalId : d.lookup "external_id" = account.map fun a => .string a.externalId

/-- Accounts are told apart by their two texts. -/
theorem account_of_texts {a? b? : Option Account}
    (hprovider : a?.map (·.provider.name) = b?.map (·.provider.name))
    (hid : a?.map (·.externalId) = b?.map (·.externalId)) : a? = b? := by
  cases a? <;> cases b?
  case none.none => rfl
  case none.some => cases hid
  case some.none => cases hid
  case some.some a b =>
    obtain ⟨p, x⟩ := a
    obtain ⟨q, y⟩ := b
    obtain rfl : p = q := Provider.name_injective (Option.some.inj hprovider)
    obtain rfl : x = y := Option.some.inj hid
    rfl

namespace Names

variable {d e : Document} {u v : Uuid} {a? b? : Option Account} {a : Account}

theorem textField?_id (h : Names d u a?) : textField? d "_id" = some u.text :=
  textField?_of_lookup h.id

theorem textField?_provider (h : Names d u a?) :
    textField? d "provider" = a?.map (·.provider.name) :=
  textField?_of_lookup (by rw [h.provider, Option.map_map]; rfl)

theorem textField?_externalId (h : Names d u a?) :
    textField? d "external_id" = a?.map (·.externalId) :=
  textField?_of_lookup (by rw [h.externalId, Option.map_map]; rfl)

theorem accepts_id (h : Names d u a?) : Filter.accepts [("_id", v.text)] d = true ↔ u = v := by
  simp [Filter.accepts, h.textField?_id, Uuid.text_injective.eq_iff]

theorem accepts_account (h : Names d u a?) :
    (accountFilter a).accepts d = true ↔ a? = some a := by
  simp only [accountFilter, Filter.accepts, List.all_cons, List.all_nil, Bool.and_true,
    Bool.and_eq_true, beq_iff_eq, h.textField?_provider, h.textField?_externalId]
  constructor
  · rintro ⟨hprovider, hid⟩
    exact account_of_texts hprovider hid
  · rintro rfl
    exact ⟨rfl, rfl⟩

theorem id_eq (h : Names d u a?) (h' : Names e v b?)
    (hid : textField? d "_id" = textField? e "_id") : u = v := by
  rw [h.textField?_id, h'.textField?_id] at hid
  exact Uuid.text_injective (Option.some.inj hid)

theorem account_eq (h : Names d u a?) (h' : Names e v b?)
    (hprovider : textField? d "provider" = textField? e "provider")
    (hid : textField? d "external_id" = textField? e "external_id") : a? = b? := by
  rw [h.textField?_provider, h'.textField?_provider] at hprovider
  rw [h.textField?_externalId, h'.textField?_externalId] at hid
  exact account_of_texts hprovider hid

/-- What is unique about identities: the identifier, and the account where there is one. -/
theorem clash_identities (h : Names d u a?) (h' : Names e v b?) {i : Index}
    (hi : i ∈ identifierIndex :: identityIndexes) (hclash : i.clash d e = true) :
    u = v ∨ ∃ a, a? = some a ∧ b? = some a := by
  obtain ⟨-, hcovers, -, hagree⟩ := i.clash_iff.mp hclash
  rcases List.mem_pair.mp hi with rfl | rfl
  · exact .inl (h.id_eq h' (hagree "_id" (by decide)))
  · have heq := h.account_eq h' (hagree "provider" (by decide)) (hagree "external_id" (by decide))
    have hsome : (d.lookup "external_id").isSome = true := hcovers
    rw [h.externalId, Option.isSome_map] at hsome
    obtain ⟨a, ha⟩ := Option.isSome_iff_exists.mp hsome
    exact .inr ⟨a, ha, heq.symm.trans ha⟩

/-- What is unique about users: the identifier and the account. -/
theorem clash_users (h : Names d u a?) (h' : Names e v b?) {i : Index}
    (hi : i ∈ identifierIndex :: userIndexes) (hclash : i.clash d e = true) : u = v ∨ a? = b? := by
  obtain ⟨hunique, -, -, hagree⟩ := i.clash_iff.mp hclash
  simp only [userIndexes, List.mem_cons, List.not_mem_nil, or_false] at hi
  rcases hi with rfl | rfl | rfl
  · exact .inl (h.id_eq h' (hagree "_id" (by decide)))
  · exact .inr (h.account_eq h' (hagree "provider" (by decide)) (hagree "external_id" (by decide)))
  · cases hunique

end Names

/-! ### Records -/

namespace Kind

variable {α : Type} (k : Kind α) {a : α}

/-- The document that a server adds for a record. -/
def stored (a : α) : Document := (k.key a).document ++ k.insert a

/-- The fields of a record's key are among those of its document. -/
structure Keyed (a : α) : Prop where
  mem : ∀ p ∈ k.key a, (p.1, Json.Value.string p.2) ∈ k.document a
  nodup_key : ((k.key a).map (·.1)).Nodup
  nodup : ((k.document a).map (·.1)).Nodup

theorem insert_eq (a : α) : k.insert a = without ((k.key a).map (·.1)) (k.document a) := by
  refine List.filter_congr fun m _ => ?_
  rw [Bool.eq_iff_iff, Option.isNone_iff_eq_none, List.lookup_eq_none_iff, decide_eq_true_iff]
  simp only [List.mem_map, not_exists, not_and, bne_iff_ne]
  exact forall₂_congr fun p _ => ne_comm

variable {k}

theorem Keyed.key_perm (h : k.Keyed a) : (k.key a).document.Perm
    ((k.document a).filter fun m => m.1 ∈ (k.key a).map (·.1)) := by
  have hleft : (k.key a).document.Nodup := by
    refine List.Nodup.of_map (·.1) ?_
    rw [Filter.document, List.map_map]
    exact h.nodup_key
  have hright := (List.Nodup.of_map _ h.nodup).filter fun m => m.1 ∈ (k.key a).map (·.1)
  refine (List.perm_ext_iff_of_nodup hleft hright).mpr fun m => ?_
  simp only [Filter.document, List.mem_map, List.mem_filter, decide_eq_true_eq]
  constructor
  · rintro ⟨p, hp, rfl⟩
    exact ⟨h.mem p hp, p, hp, rfl⟩
  · rintro ⟨hm, p, hp, hname⟩
    -- the document has one field of this name
    have hvalue := (lookup_eq_some_iff h.nodup).mpr (h.mem p hp)
    rw [hname, (lookup_eq_some_iff h.nodup).mpr hm] at hvalue
    exact ⟨p, hp, Prod.ext hname (Option.some.inj hvalue).symm⟩

/-- What is left out of the fields that are sent comes back with the key. -/
theorem Keyed.stored_perm (h : k.Keyed a) : (k.stored a).Perm (k.document a) := by
  have hsplit := List.filter_append_perm (fun m => decide (m.1 ∈ (k.key a).map (·.1)))
    (k.document a)
  rw [stored, insert_eq]
  refine (h.key_perm.append_right _).trans ?_
  simpa [without] using hsplit

theorem Keyed.lookup_stored (h : k.Keyed a) (name : String) :
    (k.stored a).lookup name = (k.document a).lookup name := lookup_perm h.stored_perm h.nodup name

end Kind

/-! ### Identities -/

theorem mapM_email?_toJson (es : List Email) : (es.map Email.toJson).mapM email? = some es := by
  rw [List.mapM_map, show email? ∘ Email.toJson = fun e => pure e from rfl, List.mapM_pure,
    List.map_id']
  rfl

namespace IdentityRecord

theorem ofDocument?_congr {d e : Document} (h : ∀ name, d.lookup name = e.lookup name) :
    ofDocument? d = ofDocument? e := by
  simp only [ofDocument?, textField?, emails?, optional?, h]

theorem ofDocument?_document (r : IdentityRecord) : ofDocument? r.document = some r := by
  obtain ⟨id, fullName, imageUrl, emails, provider, externalId⟩ := r
  have hemails : emails? (document ⟨id, fullName, imageUrl, emails, provider, externalId⟩) =
      some emails := mapM_email?_toJson emails
  rw [ofDocument?, hemails]
  cases provider <;> cases externalId <;>
    simp [document, textField?, optional?, Json.member?, List.lookup_cons, Provider.toJson]

theorem toIdentity_ofIdentity (i : Identity) : (ofIdentity i).toIdentity = .ok i := by
  obtain ⟨id, fullName, imageUrl, emails, external⟩ := i
  simp only [toIdentity, ofIdentity, Uuid.parse_text]
  cases external <;> rfl

end IdentityRecord

theorem IdentityRecord.nodup_names (r : IdentityRecord) : (r.document.map (·.1)).Nodup := by
  obtain ⟨id, fullName, imageUrl, emails, provider, externalId⟩ := r
  cases provider <;> cases externalId <;> simp [document, Json.member?]

theorem keyed_identity (i : Identity) : identities.Keyed i where
  mem p hp := by
    obtain ⟨id, fullName, imageUrl, emails, external⟩ := i
    cases external with
    | none =>
      obtain rfl := List.mem_singleton.mp hp
      exact List.mem_cons_self
    | some a =>
      change _ ∈ (IdentityRecord.ofIdentity ⟨id, fullName, imageUrl, emails, some a⟩).document
      rcases List.mem_pair.mp hp with rfl | rfl
      · simp [IdentityRecord.document, IdentityRecord.ofIdentity, Json.member?, Provider.toJson]
      · simp [IdentityRecord.document, IdentityRecord.ofIdentity, Json.member?]
  nodup_key := by
    obtain ⟨id, fullName, imageUrl, emails, external⟩ := i
    cases external <;> simp [identities, accountFilter]
  nodup := IdentityRecord.nodup_names _

/-- The fields of an identity are read in any order. -/
theorem read?_of_perm_identity {i : Identity} {d : Document}
    (h : d.Perm (IdentityRecord.ofIdentity i).document) : identities.read? d = some (.ok i) := by
  change (IdentityRecord.ofDocument? d).map IdentityRecord.toIdentity = _
  rw [IdentityRecord.ofDocument?_congr (lookup_perm h (IdentityRecord.nodup_names _)),
    IdentityRecord.ofDocument?_document, Option.map_some, IdentityRecord.toIdentity_ofIdentity]

theorem read?_identity (i : Identity) : identities.read? (identities.stored i) = some (.ok i) :=
  read?_of_perm_identity (keyed_identity i).stored_perm

theorem names_identity (i : Identity) : Names (identities.stored i) i.id i.external := by
  constructor <;> rw [(keyed_identity i).lookup_stored] <;>
    obtain ⟨id, fullName, imageUrl, emails, external⟩ := i
  · rfl
  · cases external <;> rfl
  · cases external <;> rfl

/-! ### Users -/

namespace UserRecord

theorem ofDocument?_congr {d e : Document} (h : ∀ name, d.lookup name = e.lookup name) :
    ofDocument? d = ofDocument? e := by
  simp only [ofDocument?, textField?, optional?, h]

theorem ofDocument?_document {r : UserRecord} (h : r.createdAt.InYears) :
    ofDocument? r.document = some r := by
  obtain ⟨id, identityId, provider, externalId, username, email, createdAt⟩ := r
  cases email <;>
    simp [ofDocument?, document, textField?, optional?, Json.member?, List.lookup_cons,
      Provider.toJson, Timestamp.toJson, Timestamp.parse?_text h]

theorem toUser_ofUser (u : User) : (ofUser u).toUser = .ok u := by
  simp only [toUser, ofUser, identifier, Uuid.parse_text]
  rfl

end UserRecord

theorem UserRecord.nodup_names (r : UserRecord) : (r.document.map (·.1)).Nodup := by
  obtain ⟨id, identityId, provider, externalId, username, email, createdAt⟩ := r
  cases email <;> simp [document, Json.member?]

theorem keyed_user (u : User) : users.Keyed u where
  mem p hp := by
    change _ ∈ (UserRecord.ofUser u).document
    rcases List.mem_pair.mp hp with rfl | rfl
    · simp [UserRecord.document, UserRecord.ofUser, Provider.toJson]
    · simp [UserRecord.document, UserRecord.ofUser]
  nodup_key := by simp [users, accountFilter]
  nodup := UserRecord.nodup_names _

/-- The fields of a user are read in any order. -/
theorem read?_of_perm_user {u : User} {d : Document} (h : d.Perm (UserRecord.ofUser u).document)
    (hyears : u.createdAt.InYears) : users.read? d = some (.ok u) := by
  change (UserRecord.ofDocument? d).map UserRecord.toUser = _
  rw [UserRecord.ofDocument?_congr (lookup_perm h (UserRecord.nodup_names _)),
    UserRecord.ofDocument?_document hyears, Option.map_some, UserRecord.toUser_ofUser]

theorem read?_user {u : User} (h : u.createdAt.InYears) :
    users.read? (users.stored u) = some (.ok u) :=
  read?_of_perm_user (keyed_user u).stored_perm h

theorem names_user (u : User) : Names (users.stored u) u.id (some u.account) := by
  constructor <;> rw [(keyed_user u).lookup_stored] <;> rfl

end Documents
end SignOn
