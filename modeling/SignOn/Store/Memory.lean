import SignOn.GitHub.Client
import SignOn.Login.Services
import SignOn.Store.Identities
import SignOn.Store.PendingLogins
import SignOn.Store.Users

/-!
The surroundings of a service that keeps all its records in memory: a clock, chance, and the answers
that the provider gives.
-/
namespace SignOn.Store

structure Memory where
  pendings : LockedLogins
  identities : Identities
  users : Users
  /-- How often something was drawn at random. -/
  draws : Nat
  deriving DecidableEq, Inhabited

structure Surroundings where
  now : Moment
  /-- The nanoseconds for which a pending sign-on is kept. -/
  life : Nat
  registration : Config.Registration
  carry : GitHub.Carrier
  randomState : Nat → List UInt8
  randomId : Nat → Uuid

namespace Memory

def empty : Memory := ⟨.empty, .empty, .empty, 0⟩

def drawn (m : Memory) : Memory := { m with draws := m.draws + 1 }

/-- Answers a call. -/
def answer (s : Surroundings) (c : Login.Call) (m : Memory) : c.Answer × Memory :=
  match c with
  | .now => (s.now, m)
  | .drawState => (s.randomState m.draws, m.drawn)
  | .drawId => (s.randomId m.draws, m.drawn)
  | .savePending state p =>
    let (saved, pendings) := m.pendings.save s.life s.now state p
    (saved, { m with pendings := pendings })
  | .takePending state =>
    let (taken, pendings) := m.pendings.take s.now state
    (taken, { m with pendings := pendings })
  | .exchange code => ((GitHub.exchange s.registration code).ask s.carry, m)
  | .profile token => ((GitHub.profile s.registration token).ask s.carry, m)
  | .addresses token => ((GitHub.addresses s.registration token).ask s.carry, m)
  | .loadIdentity id => (.ok (m.identities.load id), m)
  | .findIdentity a => (.ok (m.identities.find a), m)
  | .createIdentity i =>
    let (stored, identities) := m.identities.create i
    (.ok stored, { m with identities := identities })
  | .createUser u =>
    let (stored, users) := m.users.create u
    (.ok stored, { m with users := users })

end Memory
end SignOn.Store
