import SignOn.Documents.Basic
import SignOn.Error
import SignOn.Routine

/-!
Records of one kind that are kept as documents. Adding a record is one upsert. If the server refuses
it, another client may have added a record with the same key meanwhile: that one is then looked for.
-/
namespace SignOn.Documents

abbrev documents : Interface := ⟨Command, Command.Answer⟩

def ask (c : Command) : Routine documents c.Answer := @Routine.call documents c

def failed {α : Type} (cause : String) : Except Error α := .error ⟨.database, cause⟩

def connectionFailed (cause : String) : Error := ⟨.database, s!"MongoDB 연결 실패: {cause}"⟩

structure Kind (α : Type) where
  collection : Collection
  document : α → Document
  /-- The fields that no two records share. -/
  key : α → Filter
  /-- Nothing if the document has not the fields of a record; an error if one cannot be read. -/
  read? : Document → Option (Except Error α)
  indexes : List Index

namespace Kind

variable {α : Type}

/-- The fields of a record beside those of its key. -/
def insert (k : Kind α) (a : α) : Document :=
  (k.document a).filter fun m => ((k.key a).lookup m.1).isNone

/-- The record that a server answers with; its own failures stay texts. -/
def received (k : Kind α) (answer : Except String (Option Document)) :
    Except String (Option (Except Error α)) :=
  match answer with
  | .error e => .error e
  | .ok none => .ok none
  | .ok (some d) =>
    match k.read? d with
    | some r => .ok (some r)
    | none => .error "invalid document"

def find (k : Kind α) (f : Filter) : Routine documents (Except Error (Option α)) := do
  match k.received (← ask (.find k.collection f)) with
  | .error e => return failed e
  | .ok none => return .ok none
  | .ok (some r) => return r.map some

def load (k : Kind α) (id : String) : Routine documents (Except Error (Option α)) :=
  k.find [("_id", id)]

/-- Adds a record unless there is one with its key, and answers the one that is stored. -/
def create (k : Kind α) (a : α) : Routine documents (Except Error α) := do
  match k.received (← ask (.upsert k.collection (k.key a) (k.insert a))) with
  | .ok (some r) => return r
  | .ok none => return failed "upsert returned no document"
  | .error e =>
    match ← k.find (k.key a) with
    | .error e => return .error e
    | .ok none => return failed e
    | .ok (some b) => return .ok b

def createIndexes (k : Kind α) : Routine documents (Except Error Unit) := do
  match ← ask (.createIndexes k.collection k.indexes) with
  | .ok () => return .ok ()
  | .error e => return failed e

end Kind
end SignOn.Documents
