import SignOn.Identity.Basic
import SignOn.Store.Table

/-! Identities kept in memory. An identity is added only if its account has none so far. -/
namespace SignOn.Store

structure Identities where
  rows : List Identity
  deriving DecidableEq, Repr, Inhabited

namespace Identities

def empty : Identities := ⟨[]⟩

def load (s : Identities) (id : Uuid) : Option Identity := get? (·.id) id s.rows

def find (s : Identities) (a : Account) : Option Identity :=
  s.rows.find? fun i => i.isExternal a.provider a.externalId

/-- The identity that stands in the way of a new one: that of its account, or that of its identifier
where it has no account. -/
def existing? (s : Identities) (i : Identity) : Option Identity :=
  match i.external with
  | some a => s.find a
  | none => s.load i.id

/-- The identity that is stored afterwards. -/
def create (s : Identities) (i : Identity) : Identity × Identities :=
  match s.existing? i with
  | some e => (e, s)
  | none => (i, ⟨put (·.id) i s.rows⟩)

end Identities
end SignOn.Store
