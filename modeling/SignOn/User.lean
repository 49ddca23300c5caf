import SignOn.Provider
import SignOn.Timestamp
import SignOn.Uuid

/-! Users: the record, beside an identity, of the first sign-on through an account. -/
namespace SignOn

structure User where
  id : Uuid
  identityId : Uuid
  provider : Provider
  externalId : String
  /-- The name by which the provider lets the person log in. -/
  username : String
  email : Option String
  createdAt : Timestamp
  deriving DecidableEq, Inhabited

namespace User

def toJson (u : User) : Json.Value :=
  .object <|
    [("_id", u.id.toJson), ("identity_id", u.identityId.toJson), ("provider", u.provider.toJson),
      ("external_id", .string u.externalId), ("username", .string u.username)] ++
    Json.member? "email" (u.email.map .string) ++ [("created_at", u.createdAt.toJson)]

def fields : List (Json.Field User) :=
  [.required "_id" Uuid.reader fun u i => { u with id := i },
   .required "identity_id" Uuid.reader fun u i => { u with identityId := i },
   .required "provider" Provider.reader fun u p => { u with provider := p },
   .required "external_id" Json.string fun u s => { u with externalId := s },
   .required "username" Json.string fun u s => { u with username := s },
   .trailing "email" Json.string fun u e => { u with email := e },
   .required "created_at" Timestamp.reader fun u t => { u with createdAt := t }]

def reader : Json.Reader User := Json.record fields ⟨.nil, .nil, .github, "", "", none, .epoch⟩

end User
end SignOn
