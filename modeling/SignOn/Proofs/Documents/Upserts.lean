import SignOn.Proofs.Documents.Stored

/-!
What is sent to have a record stored, and what is taken back for one. The fields that an upsert
looks for and those that it adds make up the document of the record, each field once, and the
document is turned into the record again. A document of the right shape is refused only where an
identifier is no text of one (`Uuid.IsText`).
-/
namespace SignOn.Documents

/-! ### Upserts -/

/-- Two parts of a document, whose fields have different names: each field is in one of the parts,
and no name is in both. -/
structure Halves (f : Filter) (insert d : Document) : Prop where
  nodup : (d.map (·.1)).Nodup
  disjoint : (f.map (·.1)).Disjoint (insert.map (·.1))
  union : (f.document ++ insert).Perm d

/-- A routine begins with an upsert that looks for the fields of some names and adds a document
without them. The two are the halves of the document. -/
def Upserts {α : Type} (c : Collection) (names : List String) (d : Document)
    (r : Routine documents α) : Prop :=
  ∃ f next, r = .ask (.upsert c f (without names d)) next ∧ f.map (·.1) = names ∧
    Halves f (without names d) d

theorem Kind.Keyed.upserts {α : Type} {k : Kind α} {a : α} (h : k.Keyed a) :
    Upserts k.collection ((k.key a).map (·.1)) (k.document a) (k.create a) := by
  rw [Upserts, ← k.insert_eq]
  refine ⟨k.key a, _, rfl, rfl, h.nodup, fun name hkey hinsert => ?_, h.stored_perm⟩
  obtain ⟨m, hm, rfl⟩ := List.mem_map.mp hinsert
  rw [k.insert_eq] at hm
  exact of_decide_eq_true (List.mem_filter.mp hm).2 hkey

/-- The names of the fields that an identity is looked for by. -/
theorem map_key_identity (i : Identity) : (identities.key i).map (·.1) =
    if i.external.isSome then ["provider", "external_id"] else ["_id"] := by
  obtain ⟨id, fullName, imageUrl, emails, external⟩ := i
  cases external <;> rfl

/-! ### Conversions -/

theorem IdentityRecord.exists_toIdentity_eq_error {r : IdentityRecord} :
    (∃ e, r.toIdentity = .error e) ↔ ¬ Uuid.IsText r.id := by
  rw [← Uuid.exists_parse_eq_error, toIdentity]
  cases Uuid.parse r.id <;> simp [failed]

theorem IdentityRecord.account?_eq_some {r : IdentityRecord} {a : Account} :
    r.account? = some a ↔ r.provider = some a.provider ∧ r.externalId = some a.externalId := by
  obtain ⟨provider, externalId⟩ := a
  unfold account?
  split
  next hp he => simp [hp, he]
  next h =>
    simp only [reduceCtorEq, false_iff]
    rintro ⟨hp, he⟩
    exact h _ _ hp he

theorem IdentityRecord.external_of_toIdentity {r : IdentityRecord} {i : Identity}
    (h : r.toIdentity = .ok i) : i.external = r.account? := by
  unfold toIdentity at h
  split at h
  next => cases h
  next => rw [← Except.ok.inj h]

theorem UserRecord.exists_identifier_eq_error (field text : String) :
    (∃ e, identifier field text = .error e) ↔ ¬ Uuid.IsText text := by
  rw [← Uuid.exists_parse_eq_error, identifier]
  cases Uuid.parse text <;> simp [failed]

theorem UserRecord.exists_toUser_eq_error {r : UserRecord} :
    (∃ e, r.toUser = .error e) ↔ ¬ Uuid.IsText r.id ∨ ¬ Uuid.IsText r.identityId := by
  rw [← exists_identifier_eq_error "_id", ← exists_identifier_eq_error "identity_id", toUser]
  cases identifier "_id" r.id with
  | error e => simp [bind, Except.bind]
  | ok id => cases identifier "identity_id" r.identityId <;> simp [bind, Except.bind]

/-! ### Records and their documents -/

/-- What is sent for a record are the two halves of its document, and the document is the record
again, in whatever order its fields stand. A document makes no record if and only if an identifier
in it is no text of one, and makes an identity with an account if and only if it has both fields of
the account. -/
theorem upserts_complete (i : Identity) (u : User) (r : IdentityRecord) (q : UserRecord) :
    Upserts .identities (if i.external.isSome then ["provider", "external_id"] else ["_id"])
      (IdentityRecord.ofIdentity i).document (createIdentity i) ∧
    Upserts .users ["provider", "external_id"] (UserRecord.ofUser u).document (createUser u) ∧
    (IdentityRecord.ofIdentity i).toIdentity = .ok i ∧ (UserRecord.ofUser u).toUser = .ok u ∧
    (∀ d : Document, d.Perm (IdentityRecord.ofIdentity i).document →
      identities.read? d = some (.ok i)) ∧
    (u.createdAt.InYears → ∀ d : Document, d.Perm (UserRecord.ofUser u).document →
      users.read? d = some (.ok u)) ∧
    ((∃ e, r.toIdentity = .error e) ↔ ¬ Uuid.IsText r.id) ∧
    (∀ j, r.toIdentity = .ok j → ∀ a, j.external = some a ↔
      r.provider = some a.provider ∧ r.externalId = some a.externalId) ∧
    ((∃ e, q.toUser = .error e) ↔ ¬ Uuid.IsText q.id ∨ ¬ Uuid.IsText q.identityId) := by
  refine ⟨?_, (keyed_user u).upserts, IdentityRecord.toIdentity_ofIdentity i,
    UserRecord.toUser_ofUser u, fun d hd => read?_of_perm_identity hd,
    fun hyears d hd => read?_of_perm_user hd hyears, IdentityRecord.exists_toIdentity_eq_error,
    fun j hj a => ?_, UserRecord.exists_toUser_eq_error⟩
  · rw [← map_key_identity]
    exact (keyed_identity i).upserts
  · rw [IdentityRecord.external_of_toIdentity hj, IdentityRecord.account?_eq_some]

/-- An identity that came from no account. -/
def sampleLoner : Identity := ⟨.nil, "Lone", "", [⟨"a@b.example", true, true⟩], none⟩

def sampleOwner : User := ⟨.nil, .nil, .github, "7", "owner", some "a@b.example", .ofMoment ⟨-1⟩⟩

/-- A document that gives half of an account. -/
def sampleHalf : IdentityRecord :=
  ⟨"{67E55044-10B1-426F-9247-BB680E5FE0C8}", "", "", [], some .github, none⟩

/-- A document whose second identifier has no hyphens where they belong. -/
def sampleCut : UserRecord :=
  ⟨Uuid.nil.text, "00000000-0000-0000-00000000000000000", .github, "7", "owner", none, .epoch⟩

theorem upserts_complete_sample :
    Upserts .identities ["_id"] (IdentityRecord.ofIdentity sampleLoner).document
      (createIdentity sampleLoner) ∧
    users.read? (UserRecord.ofUser sampleOwner).document.reverse = some (.ok sampleOwner) ∧
    (∃ i, sampleHalf.toIdentity = .ok i ∧ i.external = none) ∧
    ∃ e, sampleCut.toUser = .error e := by
  have hyears : sampleOwner.createdAt.InYears := ⟨by decide +kernel, by decide +kernel⟩
  have hhalf : sampleHalf.toIdentity =
      .ok ⟨⟨0x67e5504410b1426f9247bb680e5fe0c8⟩, "", "", [], none⟩ := by
    have digits : Uuid.IsDigits "67E5504410B1426F9247BB680E5FE0C8".toList
        ⟨0x67e5504410b1426f9247bb680e5fe0c8⟩ := by decide +kernel
    have hparse : Uuid.parse "{67E55044-10B1-426F-9247-BB680E5FE0C8}" = .ok _ :=
      Uuid.parse_eq_ok.mpr (.braces digits)
    simp only [IdentityRecord.toIdentity, sampleHalf, hparse]
    rfl
  have hcut : ¬ Uuid.IsText sampleCut.identityId := by decide +kernel
  obtain ⟨upserts, -, -, -, -, read, -, account, refused⟩ :=
    upserts_complete sampleLoner sampleOwner sampleHalf sampleCut
  refine ⟨upserts, read hyears _ (List.reverse_perm _), ⟨_, hhalf, ?_⟩, refused.mpr (.inr hcut)⟩
  refine Option.eq_none_iff_forall_ne_some.mpr fun a ha => ?_
  obtain ⟨-, hexternal⟩ := (account _ hhalf a).mp ha
  cases hexternal

end SignOn.Documents
