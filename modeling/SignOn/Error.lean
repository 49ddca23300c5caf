import SignOn.Json.Basic
import SignOn.Token.Error

/-! Errors of the service, and the HTTP status and body that tell a client of them. -/
namespace SignOn

inductive Error.Kind where
  | database
  | cache
  | notFound
  | authentication
  | externalService
  | configuration
  | internal
  deriving DecidableEq, Repr

structure Error where
  kind : Error.Kind
  detail : String
  deriving DecidableEq, Repr

namespace Error

def Kind.label : Kind → String
  | database => "Database error"
  | cache => "Redis error"
  | notFound => "Not found"
  | authentication => "Authentication error"
  | externalService => "External service error"
  | configuration => "Configuration error"
  | internal => "Internal server error"

/-- A missing thing and a failed authentication are the client's affair, all else is the
service's. -/
def Kind.status : Kind → Nat
  | notFound => 404
  | authentication => 401
  | _ => 500

def message (e : Error) : String := s!"{e.kind.label}: {e.detail}"

def status (e : Error) : Nat := e.kind.status

def toJson (e : Error) : Json.Value := .object [("error", .string e.message)]

/-- An error told with what was being done. -/
def inContext (doing cause : String) : Error := ⟨.internal, s!"{doing}: {cause}"⟩

/-- Keys and signing are the service's affair, a bad token is the client's. -/
def ofToken (e : Token.Error) : Error :=
  match e with
  | .keyMaterialInvalid _ | .signing _ => ⟨.internal, e.message⟩
  | _ => ⟨.authentication, e.message⟩

end Error
end SignOn
