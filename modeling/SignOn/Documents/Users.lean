import SignOn.Documents.Identities
import SignOn.User

/-! Users as documents. -/
namespace SignOn.Documents

/-- The fields of a user, its identifiers as any texts. -/
structure UserRecord where
  id : String
  identityId : String
  provider : Provider
  externalId : String
  username : String
  email : Option String
  createdAt : Timestamp
  deriving DecidableEq

namespace UserRecord

def ofUser (u : User) : UserRecord :=
  ⟨u.id.text, u.identityId.text, u.provider, u.externalId, u.username, u.email, u.createdAt⟩

/-- An identifier, by the name of its field. -/
def identifier (field text : String) : Except Error Uuid :=
  match Uuid.parse text with
  | .ok u => .ok u
  | .error f => failed s!"user {field} '{text}': {f.message}"

def toUser (r : UserRecord) : Except Error User := do
  let id ← identifier "_id" r.id
  let identityId ← identifier "identity_id" r.identityId
  .ok ⟨id, identityId, r.provider, r.externalId, r.username, r.email, r.createdAt⟩

def document (r : UserRecord) : Document :=
  [("_id", .string r.id), ("identity_id", .string r.identityId), ("provider", r.provider.toJson),
    ("external_id", .string r.externalId), ("username", .string r.username)] ++
  Json.member? "email" (r.email.map .string) ++ [("created_at", r.createdAt.toJson)]

def ofDocument? (d : Document) : Option UserRecord := do
  some ⟨← textField? d "_id", ← textField? d "identity_id",
    ← (textField? d "provider").bind Provider.ofName?, ← textField? d "external_id",
    ← textField? d "username", ← optional? some d "email",
    ← (textField? d "created_at").bind Timestamp.parse?⟩

end UserRecord

/-- No account has two users; users are also looked up by their identities. -/
def userIndexes : List Index :=
  [⟨"provider_external_id_unique", ["provider", "external_id"], true, none⟩,
    ⟨"identity_id", ["identity_id"], false, none⟩]

def users : Kind User where
  collection := .users
  document u := (UserRecord.ofUser u).document
  key u := accountFilter ⟨u.provider, u.externalId⟩
  read? d := (UserRecord.ofDocument? d).map UserRecord.toUser
  indexes := userIndexes

def loadUser (id : Uuid) : Routine documents (Except Error (Option User)) := users.load id.text

def createUser (u : User) : Routine documents (Except Error User) := users.create u

end SignOn.Documents
