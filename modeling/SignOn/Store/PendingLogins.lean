import SignOn.Error
import SignOn.Login.Pending

/-!
Pending sign-ons kept in memory, each under its state, for a time. A record is taken once, and only
before its time is over. Records whose time is over are swept out when another is saved. A save that
no clock can tell the end of stops while it holds the lock of the store, and after it the store
answers every call with an error.
-/
namespace SignOn.Store

structure Entry where
  pending : Login.Pending
  /-- The moment from which the record counts as gone. -/
  expiry : Moment
  deriving DecidableEq, Inhabited

def Entry.isLive (e : Entry) (now : Moment) : Bool := now.nanos < e.expiry.nanos

structure PendingLogins where
  entries : List (String × Entry)
  deriving DecidableEq, Inhabited

namespace PendingLogins

def empty : PendingLogins := ⟨[]⟩

/-- The greatest number of seconds that a clock can tell. -/
def maxSeconds : Int := 2 ^ 63 - 1

/-- Whether a clock can tell the end of a time, given in nanoseconds, that begins now. -/
def CanKeep (life : Nat) (now : Moment) : Prop := (now.nanos + life) / 10 ^ 9 ≤ maxSeconds

instance (life : Nat) (now : Moment) : Decidable (CanKeep life now) :=
  inferInstanceAs (Decidable (_ ≤ _))

/-- Keeps a record for a time in nanoseconds. -/
def save (s : PendingLogins) (life : Nat) (now : Moment) (state : String) (p : Login.Pending) :
    PendingLogins :=
  ⟨(state, ⟨p, ⟨now.nanos + life⟩⟩) :: s.entries.filter fun e => e.1 != state && e.2.isLive now⟩

/-- Keeps a record, which can only be done if a clock can tell the end of its time. -/
def save? (s : PendingLogins) (life : Nat) (now : Moment) (state : String) (p : Login.Pending) :
    Option PendingLogins :=
  if CanKeep life now then some (s.save life now state p) else none

/-- Takes a record away. -/
def take (s : PendingLogins) (now : Moment) (state : String) :
    Option Login.Pending × PendingLogins :=
  (((s.entries.lookup state).filter (·.isLive now)).map (·.pending),
    ⟨s.entries.filter fun e => e.1 != state⟩)

end PendingLogins

/-- A store behind its lock. -/
inductive LockedLogins where
  | sound (s : PendingLogins)
  /-- A save stopped while it held the lock. -/
  | poisoned
  deriving DecidableEq, Inhabited

namespace LockedLogins

def empty : LockedLogins := sound .empty

/-- The records that can still be reached. -/
def records : LockedLogins → PendingLogins
  | sound s => s
  | poisoned => .empty

/-- What every call is told once the lock is poisoned. -/
def poison : Error :=
  .inContext "state store lock poisoned" "poisoned lock: another task failed inside"

/-- Keeps a record for a time in nanoseconds; no answer where the save stops. -/
def save (x : LockedLogins) (life : Nat) (now : Moment) (state : String) (p : Login.Pending) :
    Option (Except Error Unit) × LockedLogins :=
  match x with
  | poisoned => (some (.error poison), poisoned)
  | sound s =>
    match s.save? life now state p with
    | some s' => (some (.ok ()), sound s')
    | none => (none, poisoned)

/-- Takes a record away. -/
def take (x : LockedLogins) (now : Moment) (state : String) :
    Except Error (Option Login.Pending) × LockedLogins :=
  match x with
  | poisoned => (.error poison, poisoned)
  | sound s => (.ok (s.take now state).1, sound (s.take now state).2)

end LockedLogins
end SignOn.Store
