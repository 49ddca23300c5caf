import SignOn.Identity.Email
import SignOn.Provider
import SignOn.Uuid

/-!
Identities: the subjects that tokens speak of. An identity that came from a provider carries the
account it came from, by the provider's lasting number and not by a name that may change.
-/
namespace SignOn

/-- An account at a provider. -/
structure Account where
  provider : Provider
  externalId : String
  deriving DecidableEq, Repr, Inhabited

structure Identity where
  id : Uuid
  fullName : String
  imageUrl : String
  /-- In the order of the provider. -/
  emails : List Email
  external : Option Account
  deriving DecidableEq, Repr, Inhabited

namespace Account

def toJson (a : Account) : Json.Value :=
  .object [("provider", a.provider.toJson), ("external_id", .string a.externalId)]

def fields : List (Json.Field Account) :=
  [.required "provider" Provider.reader fun a p => { a with provider := p },
   .required "external_id" Json.string fun a s => { a with externalId := s }]

def reader : Json.Reader Account := Json.record fields ⟨.github, ""⟩

end Account

namespace Identity

def isExternal (i : Identity) (p : Provider) (externalId : String) : Bool :=
  i.external == some ⟨p, externalId⟩

def toJson (i : Identity) : Json.Value :=
  .object <|
    [("_id", i.id.toJson), ("full_name", .string i.fullName), ("image_url", .string i.imageUrl),
      ("emails", .array (i.emails.map Email.toJson))] ++
    Json.member? "external" (i.external.map Account.toJson)

def fields : List (Json.Field Identity) :=
  [.required "_id" Uuid.reader fun i u => { i with id := u },
   .required "full_name" Json.string fun i s => { i with fullName := s },
   .required "image_url" Json.string fun i s => { i with imageUrl := s },
   .defaulted "emails" (Json.list Email.reader) fun i es => { i with emails := es },
   .trailing "external" Account.reader fun i a => { i with external := a }]

def reader : Json.Reader Identity := Json.record fields ⟨.nil, "", "", [], none⟩

/-- What a person may see of an identity: all but the account's number. -/
def publicJson (i : Identity) : Json.Value :=
  .object <|
    [("id", i.id.toJson), ("full_name", .string i.fullName), ("image_url", .string i.imageUrl),
      ("emails", .array (i.emails.map Email.toJson))] ++
    Json.member? "provider" (i.external.map fun a => a.provider.toJson)

end Identity
end SignOn
