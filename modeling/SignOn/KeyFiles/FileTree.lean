import SignOn.Text.Utf8

/-!
A tree of files and directories below a working directory, as far as keeping keys needs one. `.` and
empty names in a path stand for the directory itself and `..` for the one above, which above the
working directory is that directory again. The working directory is also where absolute paths start:
a leading slash is one more empty name, and `/keys/a` and `keys/a` are the same path. There are no
symbolic links, and directories have no modes: every one may be searched and changed. The process
owns the files and may do with them what their modes give to owners.
-/
namespace SignOn.KeyFiles

inductive Node where
  | directory
  | file (contents : List UInt8) (mode : Nat)
  deriving DecidableEq, Repr

/-- Whether a mode lets the owner read. -/
def letsRead (mode : Nat) : Bool := mode.testBit 8

/-- Whether a mode lets the owner write. -/
def letsWrite (mode : Nat) : Bool := mode.testBit 7

/-- The nodes below the working directory by the names that lead to them. -/
structure FileTree where
  nodes : List (List String × Node)
  deriving Repr

/-- Why a file cannot be used. -/
inductive FileError where
  | missing
  | notDirectory
  | isDirectory
  | nameTooLong
  | nullInName
  | notPermitted
  deriving DecidableEq, Repr

def FileError.message : FileError → String
  | .missing => "No such file or directory (os error 2)"
  | .notDirectory => "Not a directory (os error 20)"
  | .isDirectory => "Is a directory (os error 21)"
  | .nameTooLong => "File name too long (os error 36)"
  | .nullInName => "file name contained an unexpected NUL byte"
  | .notPermitted => "Permission denied (os error 13)"

/-- The names of a path, and whether it ends in a way that only a directory can. -/
structure Path where
  names : List String
  needsDirectory : Bool
  deriving DecidableEq, Repr

/-- The parts of a text between slashes. -/
def splitSlashes : List Char → List (List Char)
  | [] => [[]]
  | '/' :: r => [] :: splitSlashes r
  | c :: r =>
    match splitSlashes r with
    | [] => [[c]]
    | p :: ps => (c :: p) :: ps

def Path.ofText (s : String) : Path :=
  let parts := (splitSlashes s.toList).map String.ofList
  ⟨parts.filter fun p => p ≠ "" && p ≠ ".",
    parts.getLast? = some "" || parts.getLast? = some "." || parts.getLast? = some ".."⟩

/-- The path to what holds the last name. -/
def Path.parent (p : Path) : Path := ⟨p.names.dropLast, true⟩

namespace FileTree

def node? (t : FileTree) (names : List String) : Option Node :=
  if names.isEmpty then some .directory else t.nodes.lookup names

/-- Follows names from a directory; the last need not exist. -/
def follow (t : FileTree) (here : List String) : List String → Except FileError (List String)
  | [] => .ok here
  | name :: rest =>
    match t.node? here with
    | none => .error .missing
    | some (.file _ _) => .error .notDirectory
    | some .directory =>
      if name = ".." then t.follow here.dropLast rest
      else if 255 < name.utf8ByteSize then .error .nameTooLong
      else t.follow (here ++ [name]) rest

/-- The place that a path written as text leads to, and what stands there. -/
def find (t : FileTree) (path : String) : Except FileError (List String × Option Node) := do
  if path.isEmpty then .error .missing
  else if path.toList.any (fun c => c.toNat = 0) then .error .nullInName
  else if 4095 < path.utf8ByteSize then .error .nameTooLong
  else
    let p := Path.ofText path
    let place ← t.follow [] p.names
    match t.node? place with
    | some (.file _ _) =>
      if p.needsDirectory then .error .notDirectory else .ok (place, t.node? place)
    | n => .ok (place, n)

def contains (t : FileTree) (path : String) : Bool :=
  match t.find path with
  | .ok (_, some _) => true
  | _ => false

def read (t : FileTree) (path : String) : Except FileError (List UInt8) := do
  match ← t.find path with
  | (_, some (.file bytes mode)) => if letsRead mode then .ok bytes else .error .notPermitted
  | (_, some .directory) => .error .isDirectory
  | (_, none) => .error .missing

/-- Puts a node at a place, in the stead of what is there. -/
def put (t : FileTree) (names : List String) (n : Node) : FileTree :=
  ⟨if (t.nodes.lookup names).isSome then
      t.nodes.map fun m => if m.1 = names then (names, n) else m
    else t.nodes ++ [(names, n)]⟩

/-- Makes the directories along names from a directory. -/
def makeAlong (t : FileTree) (here : List String) : List String → Except FileError FileTree
  | [] =>
    match t.node? here with
    | some .directory => .ok t
    | _ => .error .notDirectory
  | name :: rest =>
    if name = ".." then t.makeAlong here.dropLast rest
    else if 255 < name.utf8ByteSize then .error .nameTooLong
    else
      let place := here ++ [name]
      match t.node? place with
      | some .directory => t.makeAlong place rest
      | some (.file _ _) => .error .notDirectory
      | none => (t.put place .directory).makeAlong place rest

/-- Makes the directories above what a path leads to. -/
def makeParents (t : FileTree) (path : String) : Except FileError FileTree :=
  if path.toList.any (fun c => c.toNat = 0) then .error .nullInName
  else t.makeAlong [] (Path.ofText path).parent.names

/-- Writes a file, new or in the stead of another, with a mode. -/
def write (t : FileTree) (path : String) (bytes : List UInt8) (mode : Nat) :
    Except FileError FileTree := do
  let (place, n) ← t.find path
  if (Path.ofText path).needsDirectory then .error .isDirectory
  else match n with
    | some .directory => .error .isDirectory
    | some (.file _ old) =>
      if letsWrite old then .ok (t.put place (.file bytes mode)) else .error .notPermitted
    | none =>
      match t.node? place.dropLast with
      | some .directory => .ok (t.put place (.file bytes mode))
      | some (.file _ _) => .error .notDirectory
      | none => .error .missing

end FileTree
end SignOn.KeyFiles
