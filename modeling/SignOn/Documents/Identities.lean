import SignOn.Documents.Kind
import SignOn.Identity.Basic

/-! Identities as documents. The account's two fields stand among the others. -/
namespace SignOn.Documents

/-- The fields of an identity, its identifier as any text. -/
structure IdentityRecord where
  id : String
  fullName : String
  imageUrl : String
  emails : List Email
  provider : Option Provider
  externalId : Option String
  deriving DecidableEq, Repr

namespace IdentityRecord

def ofIdentity (i : Identity) : IdentityRecord :=
  ⟨i.id.text, i.fullName, i.imageUrl, i.emails, i.external.map (·.provider),
    i.external.map (·.externalId)⟩

/-- An account needs both its fields. -/
def account? (r : IdentityRecord) : Option Account :=
  match r.provider, r.externalId with
  | some p, some e => some ⟨p, e⟩
  | _, _ => none

def toIdentity (r : IdentityRecord) : Except Error Identity :=
  match Uuid.parse r.id with
  | .error f => failed s!"identity _id '{r.id}': {f.message}"
  | .ok id => .ok ⟨id, r.fullName, r.imageUrl, r.emails, r.account?⟩

def document (r : IdentityRecord) : Document :=
  [("_id", .string r.id), ("full_name", .string r.fullName), ("image_url", .string r.imageUrl),
    ("emails", .array (r.emails.map Email.toJson))] ++
  Json.member? "provider" (r.provider.map Provider.toJson) ++
  Json.member? "external_id" (r.externalId.map .string)

end IdentityRecord

def email? (v : Json.Value) : Option Email :=
  match v.member? "address", v.member? "verified", v.member? "primary" with
  | some (.string a), some (.bool b), some (.bool p) => some ⟨a, b, p⟩
  | some (.string a), some (.bool b), none => some ⟨a, b, false⟩
  | _, _, _ => none

def emails? (d : Document) : Option (List Email) :=
  match d.lookup "emails" with
  | none => some []
  | some (.array vs) => vs.mapM email?
  | some _ => none

/-- A field that may be absent or `null`. -/
def optional? {α : Type} (read? : String → Option α) (d : Document) (name : String) :
    Option (Option α) :=
  match d.lookup name with
  | none => some none
  | some .null => some none
  | some (.string s) => (read? s).map some
  | some _ => none

def IdentityRecord.ofDocument? (d : Document) : Option IdentityRecord := do
  some ⟨← textField? d "_id", ← textField? d "full_name", ← textField? d "image_url", ← emails? d,
    ← optional? Provider.ofName? d "provider", ← optional? some d "external_id"⟩

/-- The fields that name an account. -/
def accountFilter (a : Account) : Filter :=
  [("provider", a.provider.name), ("external_id", a.externalId)]

/-- No account has two identities. Identities without an account may be many. -/
def identityIndexes : List Index :=
  [⟨"provider_external_id_unique", ["provider", "external_id"], true, some "external_id"⟩]

def identities : Kind Identity where
  collection := .identities
  document i := (IdentityRecord.ofIdentity i).document
  key i := match i.external with
    | some a => accountFilter a
    | none => [("_id", i.id.text)]
  read? d := (IdentityRecord.ofDocument? d).map IdentityRecord.toIdentity
  indexes := identityIndexes

def loadIdentity (id : Uuid) : Routine documents (Except Error (Option Identity)) :=
  identities.load id.text

def findIdentity (a : Account) : Routine documents (Except Error (Option Identity)) :=
  identities.find (accountFilter a)

def createIdentity (i : Identity) : Routine documents (Except Error Identity) := identities.create i

end SignOn.Documents
