import SignOn.Store.Table
import SignOn.User

/-! Users kept in memory. A user is added only if its account has none so far. -/
namespace SignOn.Store

structure Users where
  rows : List User
  deriving DecidableEq, Inhabited

namespace Users

def empty : Users := ⟨[]⟩

def load (s : Users) (id : Uuid) : Option User := get? (·.id) id s.rows

/-- The user of the same account. -/
def existing? (s : Users) (u : User) : Option User :=
  s.rows.find? fun v => v.provider == u.provider && v.externalId == u.externalId

/-- The user that is stored afterwards. -/
def create (s : Users) (u : User) : User × Users :=
  match s.existing? u with
  | some e => (e, s)
  | none => (u, ⟨put (·.id) u s.rows⟩)

end Users
end SignOn.Store
