import SignOn.Json.Record
import SignOn.Text.Utf8
import SignOn.Url.Form

/-!
The query of a visit to the sign-on page. A visit with a state, a code or an error comes back from
the provider; any other begins a sign-on. A name that comes twice makes the query unreadable.
-/
namespace SignOn.Login

structure Query where
  state : Option String
  code : Option String
  error : Option String
  errorDescription : Option String
  deriving DecidableEq, Repr, Inhabited

namespace Query

/-- A name that came twice. -/
structure Fault where
  name : String
  deriving DecidableEq, Repr

def Fault.message (f : Fault) : String :=
  s!"Query deserialize error: duplicate field `{f.name}`"

def empty : Query := ⟨none, none, none, none⟩

def get? (q : Query) (name : String) : Option String :=
  if name = "state" then q.state
  else if name = "code" then q.code
  else if name = "error" then q.error
  else if name = "error_description" then q.errorDescription
  else none

/-- Sets the value of a name; names that mean nothing here are passed over. -/
def set (q : Query) (name value : String) : Query :=
  if name = "state" then { q with state := some value }
  else if name = "code" then { q with code := some value }
  else if name = "error" then { q with error := some value }
  else if name = "error_description" then { q with errorDescription := some value }
  else q

def addPairs (q : Query) : List (String × String) → Except Fault Query
  | [] => .ok q
  | (name, value) :: ps =>
    if (q.get? name).isSome then .error ⟨name⟩ else (q.set name value).addPairs ps

def ofPairs (ps : List (String × String)) : Except Fault Query := empty.addPairs ps

/-- Reads the text after the question mark. -/
def parse (s : String) : Except Fault Query := ofPairs (Url.Form.decodeBytes (Text.Utf8.encode s))

def isCallback (q : Query) : Bool := q.state.isSome || q.code.isSome || q.error.isSome

def fields : List (Json.Field Query) :=
  [.trailing "state" Json.string fun q s => { q with state := s },
   .trailing "code" Json.string fun q s => { q with code := s },
   .trailing "error" Json.string fun q s => { q with error := s },
   .trailing "error_description" Json.string fun q s => { q with errorDescription := s }]

def reader : Json.Reader Query := Json.record fields empty

end Query
end SignOn.Login
