import SignOn.Cache.Basic
import SignOn.Digest.Sha256
import SignOn.Error
import SignOn.Login.Pending
import SignOn.Routine
import SignOn.Text.Hex

/-!
Pending sign-ons kept in a cache, as JSON texts. The key is a digest of the state, so that a look
into the cache does not give states away.
-/
namespace SignOn.Cache

abbrev cache : Interface := ⟨Command, Command.Answer⟩

def ask (c : Command) : Routine cache c.Answer := @Routine.call cache c

def key (state : String) : String :=
  "oauth_state:" ++ String.ofList (Text.Hex.ofBytes (Digest.Sha256.digest (Text.Utf8.encode state)))

/-- The whole seconds of a time in nanoseconds, but no less than the one that a cache accepts. -/
def seconds (life : Nat) : Nat := max (life / 10 ^ 9) 1

def failed {α : Type} (cause : String) : Except Error α := .error ⟨.cache, cause⟩

def connectionFailed (cause : String) : Error := ⟨.cache, s!"Redis 연결 실패: {cause}"⟩

/-- Keeps a record under a state for a time in nanoseconds. -/
def save (life : Nat) (state : String) (p : Login.Pending) : Routine cache (Except Error Unit) := do
  match ← ask (.set (key state) p.toJson.text (seconds life)) with
  | .ok () => return .ok ()
  | .error e => return failed e

/-- Takes the record of a state away. -/
def take (state : String) : Routine cache (Except Error (Option Login.Pending)) := do
  match ← ask (.take (key state)) with
  | .error e => return failed e
  | .ok none => return .ok none
  | .ok (some text) =>
    match Json.parse? Login.Pending.reader (Text.Utf8.encode text) with
    | some p => return .ok (some p)
    | none => return failed "Deserialization failed"

end SignOn.Cache
