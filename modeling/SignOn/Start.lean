import SignOn.Config.Basic
import SignOn.KeyFiles.Loading
import SignOn.Login.Flow

/-! Starting the service: its settings and its keys. -/
namespace SignOn.Service

/-- The manager of tokens that two keys and the settings for them make; nothing where tokens would
live longer than a duration can last. -/
def manager (keys : Config.TokenKeys) (pair : KeyFiles.Pair) :
    Except Token.Error (Option Token.Manager) := do
  let m ← Token.Manager.of pair.publicKey pair.privateKey
  .ok (keys.lifetime?.map fun l => { m with keyId := keys.keyId, lifetime := l })

/-- The files afterwards and the service. -/
def start (files : KeyFiles.FileTree) (c : Config) (draw : Nat → Nat) :
    KeyFiles.FileTree × Except Error (Option Service) :=
  let (files, pair) := KeyFiles.load files c.tokenKeys c.deployment draw
  (files, match pair.bind (manager c.tokenKeys) with
    | .ok m => .ok (m.map fun m => ⟨c.registration, c.redirects, m⟩)
    | .error e => .error (.ofToken e))

end SignOn.Service
