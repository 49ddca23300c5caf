import SignOn.Json.Record

/-!
The time until which a token is valid. The registered claims are read a second time for it, and
leniently: a value of a wrong kind counts as none, if the reader can go on after it.
-/
namespace SignOn.Token.Validity

/-- What a reader found, or nothing where it stopped. -/
def leniently {α : Type} (r : Json.Reader (Option α)) : Json.Reader (Option α) := fun bs =>
  match r bs with
  | .got a rest => .got a rest
  | .stopped rest => .got none rest

/-- A number of seconds; a fraction is rounded. -/
def secondsOf : Json.Number → Option Nat
  | .whole i => if 0 ≤ i then some i.toNat else none
  | .double x =>
    if x.isFinite && (!x.isNegative || x.magnitude == 0) && x.magnitude < 0x43f0000000000000 then
      some x.round
    else none

/-- A value that is passed over, save for a number. A list or an object is entered, and left again
only if it is empty. -/
def seconds : Json.Reader (Option Nat) := fun bs =>
  match Json.skipSpace bs with
  | [] => .stopped []
  | b :: r =>
    if b = Json.ascii 'n' then Json.nullWord none r
    else if b = Json.ascii 't' then Json.trueWord none r
    else if b = Json.ascii 'f' then Json.falseWord none r
    else if b = 0x22 then (Json.stringBody r).map fun _ => none
    else if b = 0x5b then Json.stopInside 0x5d r
    else if b = 0x7b then Json.stopInside 0x7d r
    else (Json.number (b :: r)).map secondsOf

/-- A text; other values are passed over, save for lists and objects. -/
def text : Json.Reader (Option Unit) := fun bs =>
  match Json.skipSpace bs with
  | [] => .stopped []
  | b :: r =>
    if b = Json.ascii 'n' then Json.nullWord none r
    else if b = Json.ascii 't' then Json.trueWord none r
    else if b = Json.ascii 'f' then Json.falseWord none r
    else if b = 0x22 then (Json.stringBody r).map fun _ => none
    else if b = 0x5b ∨ b = 0x7b then .stopped (b :: r)
    else (Json.number (b :: r)).map fun _ => none

/-- Any value. -/
def anything : Json.Reader (Option Unit) := fun bs =>
  (Json.rawValue (Json.maxDepth - 1) bs).map fun _ => none

def fields : List (Json.Field (Option Nat)) :=
  let claim {β : Type} (name : String) (r : Json.Reader (Option β))
      (set : Option Nat → Option β → Option Nat) : Json.Field (Option Nat) :=
    ⟨name, .optional, fun a bs => (leniently r bs).map (set a)⟩
  [claim "exp" seconds fun _ e => e,
   claim "nbf" seconds fun a _ => a,
   claim "sub" text fun a _ => a,
   claim "iss" anything fun a _ => a,
   claim "aud" anything fun a _ => a]

/-- The second at which a token ends, if its claims say so; nothing if they cannot be read. -/
def expiry? (payload : List UInt8) : Option (Option Nat) :=
  Json.parse? (Json.record fields none) payload

end SignOn.Token.Validity
