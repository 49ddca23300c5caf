import SignOn.Json.Record

/-!
Addresses of a person, and which of several is the one to use: the first that is marked primary,
else the first verified one, else the first.
-/
namespace SignOn

structure Email where
  address : String
  verified : Bool
  primary : Bool
  deriving DecidableEq, Repr, Inhabited

namespace Email

def toJson (e : Email) : Json.Value :=
  .object [("address", .string e.address), ("verified", .bool e.verified),
    ("primary", .bool e.primary)]

def fields : List (Json.Field Email) :=
  [.required "address" Json.string fun e a => { e with address := a },
   .required "verified" Json.boolean fun e b => { e with verified := b },
   .defaulted "primary" Json.boolean fun e b => { e with primary := b }]

def reader : Json.Reader Email := Json.record fields ⟨"", false, false⟩

/-- The place of the address to use. -/
def primaryIndex? (es : List Email) : Option Nat :=
  (es.findIdx? (·.primary)).orElse fun _ =>
    (es.findIdx? (·.verified)).orElse fun _ => if es.isEmpty then none else some 0

def primary? (es : List Email) : Option Email :=
  (es.find? (·.primary)).orElse fun _ => (es.find? (·.verified)).orElse fun _ => es.head?

end Email
end SignOn
