import SignOn.Cache.PendingLogins
import SignOn.Documents.Users
import SignOn.Store.Memory

/-!
The surroundings of a service that keeps identities and users as documents and pending sign-ons in a
cache.
-/
namespace SignOn.Store

structure Remote where
  documents : Documents.Server
  cache : Cache.Server
  draws : Nat

namespace Remote

/-- Runs work on the document server. -/
def onDocuments {α : Type} (r : Routine Documents.documents α) (m : Remote) : α × Remote :=
  let (a, server) := r.run Documents.Server.answer m.documents
  (a, { m with documents := server })

/-- Runs work on the cache. -/
def onCache {α : Type} (now : Moment) (r : Routine Cache.cache α) (m : Remote) : α × Remote :=
  let (a, server) := r.run (Cache.Server.answer now) m.cache
  (a, { m with cache := server })

def drawn (m : Remote) : Remote := { m with draws := m.draws + 1 }

/-- A server with the indexes that the records need. -/
def empty : Remote :=
  let bare : Remote := ⟨.empty, .empty, 0⟩
  let indexed := (bare.onDocuments Documents.identities.createIndexes).2
  (indexed.onDocuments Documents.users.createIndexes).2

/-- Answers a call. -/
def answer (s : Surroundings) (c : Login.Call) (m : Remote) : c.Answer × Remote :=
  match c with
  | .now => (s.now, m)
  | .drawState => (s.randomState m.draws, m.drawn)
  | .drawId => (s.randomId m.draws, m.drawn)
  | .savePending state p =>
    let (saved, m) := m.onCache s.now (Cache.save s.life state p)
    (some saved, m)
  | .takePending state => m.onCache s.now (Cache.take state)
  | .exchange code => ((GitHub.exchange s.registration code).ask s.carry, m)
  | .profile token => ((GitHub.profile s.registration token).ask s.carry, m)
  | .addresses token => ((GitHub.addresses s.registration token).ask s.carry, m)
  | .loadIdentity id => m.onDocuments (Documents.loadIdentity id)
  | .findIdentity a => m.onDocuments (Documents.findIdentity a)
  | .createIdentity i => m.onDocuments (Documents.createIdentity i)
  | .createUser u => m.onDocuments (Documents.createUser u)

end Remote
end SignOn.Store
