import SignOn.Json.Record

/-! The account providers that people sign on with. -/
namespace SignOn

inductive Provider where
  | github
  deriving DecidableEq, Repr, Inhabited

namespace Provider

def name : Provider → String
  | github => "github"

def ofName? (s : String) : Option Provider := if s = "github" then some github else none

def toJson (p : Provider) : Json.Value := .string p.name

def reader : Json.Reader Provider := Json.enum ofName?

@[simp] theorem ofName?_name (p : Provider) : ofName? p.name = some p := by cases p; rfl

end Provider
end SignOn
