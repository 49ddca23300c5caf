import SignOn.Json.Binary64

/-!
JSON values. Members of an object stand in order of first appearance, each name once; `put` keeps
both.
-/
namespace SignOn.Json

/-- A number is whole, between -2^63 and 2^64, or a floating-point number. -/
inductive Number where
  | whole (i : Int)
  | double (x : Binary64)
  deriving DecidableEq, Repr, Inhabited

inductive Value where
  | null
  | bool (b : Bool)
  | number (n : Number)
  | string (s : String)
  | array (items : List Value)
  | object (members : List (String × Value))
  deriving Repr, Inhabited

/-- Sets a member: in its place if the name is there, else at the end. -/
def put {α : Type} (name : String) (v : α) : List (String × α) → List (String × α)
  | [] => [(name, v)]
  | (k, w) :: r => if k = name then (k, v) :: r else (k, w) :: put name v r

/-- Of members with one name the last gives the value and the first the place. -/
def lastWins {α : Type} (members : List (String × α)) : List (String × α) :=
  members.foldl (fun acc m => put m.1 m.2 acc) []

namespace Value

def int (i : Int) : Value := .number (.whole i)

def member? (name : String) : Value → Option Value
  | .object ms => ms.lookup name
  | _ => none

end Value

@[simp] theorem lookup_put {α : Type} (name k : String) (v : α) (ms : List (String × α)) :
    (put name v ms).lookup k = if k = name then some v else ms.lookup k := by
  induction ms with
  | nil => simp [put, List.lookup_cons, List.lookup_nil]; split <;> simp_all
  | cons m r ih =>
    obtain ⟨a, w⟩ := m
    by_cases h : a = name <;> by_cases hk : k = name <;> by_cases ha : k = a <;>
      simp_all [put, List.lookup_cons]
    all_goals grind

example : lastWins [("a", 1), ("b", 2), ("a", 3)] = [("a", 3), ("b", 2)] := by decide

end SignOn.Json
