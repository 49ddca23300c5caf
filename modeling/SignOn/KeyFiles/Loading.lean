import SignOn.Config.Server
import SignOn.Config.TokenKeys
import SignOn.KeyFiles.FileTree
import SignOn.Rsa.Encoding
import SignOn.Rsa.Generate

/-!
Loading the signing keys. In development a missing file has both keys made anew and written; in every
other deployment it is an error, and nothing is written.
-/
namespace SignOn.KeyFiles

structure Pair where
  publicKey : Rsa.PublicKey
  privateKey : Rsa.PrivateKey
  deriving DecidableEq, Repr

/-- The number of binary digits of new keys. -/
def newKeyBits : Nat := 2048

def invalid (e : FileError) : Token.Error := .keyMaterialInvalid e.message

/-- Makes two new keys and writes them, the private one for the owner's eyes only. A step that fails
leaves the files as the steps before it have made them. -/
def create (t : FileTree) (keys : Config.TokenKeys) (draw : Nat → Nat) :
    FileTree × Except Token.Error Unit :=
  match t.makeParents keys.privatePath with
  | .error e => (t, .error (invalid e))
  | .ok t =>
    match t.makeParents keys.publicPath with
    | .error e => (t, .error (invalid e))
    | .ok t =>
      match Rsa.generate? newKeyBits draw with
      | none => (t, .error (.keyMaterialInvalid "no key found"))
      | some k =>
        match k.pem? with
        | none => (t, .error (.keyMaterialInvalid "PKCS#8 cryptographic key data malformed"))
        | some pem =>
          match t.write keys.privatePath (Text.Utf8.encode pem) 0o600 with
          | .error e => (t, .error (invalid e))
          | .ok t =>
            match t.write keys.publicPath (Text.Utf8.encode k.publicKey.pem) 0o644 with
            | .error e => (t, .error (invalid e))
            | .ok t => (t, .ok ())

/-- The contents of the file of one kind of key. -/
def readKeyFile (t : FileTree) (kind path : String) : Except Token.Error (List UInt8) :=
  match t.read path with
  | .ok bytes => .ok bytes
  | .error e =>
    .error (.keyMaterialInvalid s!"failed to read {kind} key file '{path}': {e.message}")

/-- The two keys that the files hold. -/
def readPair (t : FileTree) (keys : Config.TokenKeys) : Except Token.Error Pair := do
  let privatePem ← readKeyFile t "private" keys.privatePath
  let publicPem ← readKeyFile t "public" keys.publicPath
  let publicKey ← Rsa.PublicKey.parse publicPem
  let privateKey ← Rsa.PrivateKey.parse privatePem
  .ok ⟨publicKey, privateKey⟩

/-- The files afterwards and the keys. -/
def load (t : FileTree) (keys : Config.TokenKeys) (deployment : Config.Deployment)
    (draw : Nat → Nat) : FileTree × Except Token.Error Pair :=
  if t.contains keys.privatePath ∧ t.contains keys.publicPath then (t, readPair t keys)
  else if deployment = .development then
    match create t keys draw with
    | (t, .ok ()) => (t, readPair t keys)
    | (t, .error e) => (t, .error e)
  else (t, .error (.keyMaterialInvalid
    s!"key files not found: '{keys.privatePath}', '{keys.publicPath}'"))

end SignOn.KeyFiles
