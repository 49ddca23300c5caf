import SignOn.Error
import SignOn.Text.Blank
import SignOn.Text.Utf8

/-!
Environment variables. A value counts without the white space around it; a blank value and one that
is not UTF-8 count as none.
-/
namespace SignOn.Config

/-- The bytes that each variable is set to. -/
abbrev Variables := String → Option (List UInt8)

namespace Variables

def ofList (vs : List (String × List UInt8)) : Variables := fun name => vs.lookup name

/-- The setting that a value makes. -/
def setting? (bytes : List UInt8) : Option String := do
  let s ← Text.Utf8.decode? bytes
  let t := Text.trim s
  if t.isEmpty then none else some t

def get? (vs : Variables) (name : String) : Option String := (vs name).bind setting?

def getD (vs : Variables) (name default : String) : String := (vs.get? name).getD default

def require (vs : Variables) (name : String) : Except Error String :=
  match vs.get? name with
  | some s => .ok s
  | none => .error ⟨.configuration, s!"{name} must be set"⟩

/-- A setting in a form of its own, the default where it cannot be read. -/
def readD {α : Type} (vs : Variables) (name : String) (read? : String → Option α) (default : α) :
    α :=
  ((vs.get? name).bind read?).getD default

end Variables

/-- The parts between separators. -/
def splitChars (sep : Char) : List Char → List (List Char)
  | [] => [[]]
  | c :: r =>
    if c = sep then [] :: splitChars sep r
    else match splitChars sep r with
      | [] => [[c]]
      | p :: ps => (c :: p) :: ps

/-- The items of a list with commas, without the white space around them and without blank ones. -/
def splitList (s : String) : List String :=
  ((splitChars ',' s.toList).map fun p => String.ofList (Text.trimChars p)).filter
    fun s => !s.isEmpty

example : splitList " a, ,b," = ["a", "b"] := by decide

end SignOn.Config
