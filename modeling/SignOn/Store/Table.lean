import SignOn.Uuid

/-!
Records that each stand under an identifier. A record put under an identifier that is taken stands
in the stead of the one before it; otherwise it comes last.
-/
namespace SignOn.Store

variable {α : Type}

def put (id : α → Uuid) (a : α) : List α → List α
  | [] => [a]
  | b :: r => if id b = id a then a :: r else b :: put id a r

def get? (id : α → Uuid) (u : Uuid) (rows : List α) : Option α := rows.find? fun a => id a == u

@[simp] theorem get?_put (id : α → Uuid) (a : α) (u : Uuid) (rows : List α) :
    get? id u (put id a rows) = if id a = u then some a else get? id u rows := by
  induction rows with
  | nil => by_cases h : id a = u <;> simp [get?, put, h]
  | cons b r ih =>
    unfold get? at ih
    by_cases h : id b = id a <;> by_cases hu : id a = u <;> by_cases hb : id b = u <;>
      simp_all [get?, put]

end SignOn.Store
