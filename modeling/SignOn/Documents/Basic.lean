import SignOn.Json.Basic

/-!
A server that keeps documents in collections, seen from the commands that it is sent. An upsert looks
for a document with given fields and adds one if there is none: those fields together with others.
-/
namespace SignOn.Documents

abbrev Document := List (String × Json.Value)

/-- Fields that a document has to have, with their texts. -/
abbrev Filter := List (String × String)

inductive Collection where
  | identities
  | users
  deriving DecidableEq, Repr

def Collection.name : Collection → String
  | identities => "identities"
  | users => "users"

/-- An index over some fields, in ascending order. -/
structure Index where
  name : String
  fields : List String
  unique : Bool
  /-- Documents without this field are left out. -/
  having : Option String
  deriving DecidableEq, Repr

inductive Command where
  | find (c : Collection) (filter : Filter)
  | upsert (c : Collection) (filter : Filter) (insert : Document)
  | createIndexes (c : Collection) (indexes : List Index)

/-- A command can fail; the text tells why. -/
abbrev Command.Answer : Command → Type
  | find _ _ => Except String (Option Document)
  | upsert _ _ _ => Except String (Option Document)
  | createIndexes _ _ => Except String Unit

/-- The text of a field. -/
def textField? (d : Document) (name : String) : Option String :=
  match d.lookup name with
  | some (.string s) => some s
  | _ => none

def Filter.accepts (f : Filter) (d : Document) : Bool :=
  f.all fun p => textField? d p.1 == some p.2

def Filter.document (f : Filter) : Document := f.map fun p => (p.1, .string p.2)

def Index.covers (i : Index) (d : Document) : Bool :=
  match i.having with
  | some name => (d.lookup name).isSome
  | none => true

/-- Whether two documents agree on all fields of a unique index. -/
def Index.clash (i : Index) (d e : Document) : Bool :=
  i.unique && i.covers d && i.covers e && i.fields.all fun n => textField? d n == textField? e n

/-- Documents are told apart by their identifiers. -/
def identifierIndex : Index := ⟨"_id_", ["_id"], true, none⟩

/-- A server that answers every command. -/
structure Server where
  rows : Collection → List Document
  indexes : Collection → List Index

namespace Server

def empty : Server := ⟨fun _ => [], fun _ => [identifierIndex]⟩

def withRows (s : Server) (c : Collection) (rows : List Document) : Server :=
  { s with rows := fun d => if d = c then rows else s.rows d }

def answer (c : Command) (s : Server) : c.Answer × Server :=
  match c with
  | .find c f => (.ok ((s.rows c).find? f.accepts), s)
  | .upsert c f insert =>
    match (s.rows c).find? f.accepts with
    | some d => (.ok (some d), s)
    | none =>
      let d := f.document ++ insert
      if (s.indexes c).any fun i => (s.rows c).any (i.clash d) then
        (.error "E11000 duplicate key error", s)
      else (.ok (some d), s.withRows c (s.rows c ++ [d]))
  | .createIndexes c is =>
    (.ok (), { s with indexes := fun d => if d = c then s.indexes d ++ is else s.indexes d })

end Server
end SignOn.Documents
