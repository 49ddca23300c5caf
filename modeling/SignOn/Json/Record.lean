import SignOn.Json.Reader
import SignOn.Json.Writer

/-!
Records with named fields. A record is read from an object, its members in any order and unknown
ones passed over, or from a list, its items in the order of the fields. A field that comes twice is
refused.
-/
namespace SignOn.Json

/-- What a missing field means: nothing else can be done, or the field keeps its value, in an object
alone or in a list that ends before it too. -/
inductive Presence where
  | required
  | optional
  | defaulted
  deriving DecidableEq, Repr

/-- A field of a record that is being read. -/
structure Field (α : Type) where
  name : String
  presence : Presence
  read : α → Reader α

namespace Field

variable {α β : Type}

def required (name : String) (r : Reader β) (set : α → β → α) : Field α :=
  ⟨name, .required, fun a bs => (r bs).map (set a)⟩

/-- A field that may be absent or `null`. -/
def optional (name : String) (r : Reader β) (set : α → Option β → α) : Field α :=
  ⟨name, .optional, fun a bs => (Json.optional r bs).map (set a)⟩

def defaulted (name : String) (r : Reader β) (set : α → β → α) : Field α :=
  ⟨name, .defaulted, fun a bs => (r bs).map (set a)⟩

/-- A field that may be absent or `null`, and that a list may end before. -/
def trailing (name : String) (r : Reader β) (set : α → Option β → α) : Field α :=
  ⟨name, .defaulted, fun a bs => (Json.optional r bs).map (set a)⟩

end Field

/-- A record that is being read and the names of the fields that have been. -/
structure Draft (α : Type) where
  value : α
  seen : List String

/-- Reads one member into a draft. -/
def readMember {α : Type} (fields : List (Field α)) (name : String) (d : Draft α) :
    Reader (Draft α) := fun bs =>
  match fields.find? (·.name = name) with
  | none => (skipValue bs).map fun _ => d
  | some f =>
    if name ∈ d.seen then .stopped bs
    else (f.read d.value bs).map fun a => ⟨a, name :: d.seen⟩

/-- Reads the items of a list into the fields in their order; a list may end before a field that
has a default and must end after the last. -/
def readPlaces {α : Type} (a : α) (first : Bool) (bs : List UInt8) : List (Field α) → Read α
  | [] =>
    match skipSpace bs with
    | 0x5d :: r => .got a r
    | r => .stopped r
  | f :: fields =>
    let item (r : List UInt8) : Read α :=
      match f.read a r with
      | .got a r => readPlaces a false r fields
      | .stopped r => stopInside 0x5d r
    match skipSpace bs with
    | [] => .stopped []
    | 0x5d :: r => if f.presence = .defaulted then readPlaces a false (0x5d :: r) fields
      else .stopped r
    | 0x2c :: r =>
      if first then item (0x2c :: r)
      else match skipSpace r with
        | [] => .stopped []
        | 0x5d :: r => .stopped r
        | b :: r => item (b :: r)
    | b :: r => if first then item (b :: r) else .stopped (b :: r)

/-- Reads a record, beginning with what it holds where nothing is said. -/
def record {α : Type} (fields : List (Field α)) (blank : α) : Reader α := fun bs =>
  match skipSpace bs with
  | 0x7b :: r =>
    (foldMembers (readMember fields) (r.length + 1) true ⟨blank, []⟩ r).filterMap fun d =>
      if fields.all (fun f => f.presence ≠ .required || d.seen.contains f.name) then some d.value
      else none
  | 0x5b :: r => readPlaces blank true r fields
  | r => .stopped r

/-! ### Writing records -/

/-- The member of a field that is left out where it has no value. -/
def member? (name : String) (v : Option Value) : List (String × Value) :=
  match v with
  | some v => [(name, v)]
  | none => []

end SignOn.Json
