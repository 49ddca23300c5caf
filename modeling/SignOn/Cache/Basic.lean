import SignOn.Timestamp

/-!
A cache that keeps texts under keys for some seconds, seen from the commands that it is sent.
-/
namespace SignOn.Cache

inductive Command where
  /-- Keeps a value for a number of seconds. -/
  | set (key value : String) (seconds : Nat)
  /-- Takes a value away. -/
  | take (key : String)
  deriving DecidableEq, Repr

/-- A command can fail; the text tells why. -/
abbrev Command.Answer : Command → Type
  | set _ _ _ => Except String Unit
  | take _ => Except String (Option String)

structure Entry where
  value : String
  /-- The moment from which the value counts as gone. -/
  expiry : Moment
  deriving DecidableEq, Repr

/-- A cache that answers every command. -/
structure Server where
  entries : List (String × Entry)
  deriving DecidableEq, Repr

namespace Server

def empty : Server := ⟨[]⟩

def answer (now : Moment) (c : Command) (s : Server) : c.Answer × Server :=
  match c with
  | .set key value seconds =>
    (.ok (), ⟨(key, ⟨value, now.addSeconds seconds⟩) :: s.entries.filter fun e => e.1 != key⟩)
  | .take key =>
    let live := (s.entries.lookup key).filter fun e => now.nanos < e.expiry.nanos
    (.ok (live.map (·.value)), ⟨s.entries.filter fun e => e.1 != key⟩)

end Server
end SignOn.Cache
