import SignOn.Url.Host
import SignOn.Url.Path

/-!
Reading URLs. Blanks and controls at the ends are dropped, tabs and line ends everywhere. There has to
be a scheme; what follows it depends on whether the scheme is special.
-/
namespace SignOn.Url

def isControlOrSpace (c : Char) : Bool := c.toNat ≤ 0x20

def isTabOrLineEnd (c : Char) : Bool := c = '\t' || c = '\n' || c = '\r'

/-- The characters that are read. -/
def cleaned (cs : List Char) : List Char :=
  ((cs.dropWhile isControlOrSpace).reverse.dropWhile isControlOrSpace).reverse.filter
    fun c => !isTabOrLineEnd c

def isSchemeChar (c : Char) : Bool :=
  isLetter c || ('0' ≤ c && c ≤ '9') || c = '+' || c = '-' || c = '.'

/-- The scheme in lower case and what follows its colon. -/
def scheme? (cs : List Char) : Option (List Char × List Char) :=
  match cs with
  | [] => none
  | c :: _ =>
    if !isLetter c then none
    else match cs.dropWhile isSchemeChar with
      | ':' :: r => some ((cs.takeWhile isSchemeChar).map Char.toLower, r)
      | _ => none

/-- The characters that end an authority. -/
def endsAuthority (special : Bool) (c : Char) : Bool :=
  c = '/' || c = '?' || c = '#' || (special && c = '\\')

/-- What stands before the last `@` and after it. -/
def lastAt? (cs : List Char) : Option (List Char × List Char) :=
  let tail := cs.reverse.takeWhile (· ≠ '@')
  match cs.reverse.dropWhile (· ≠ '@') with
  | [] => none
  | _ :: head => some (head.reverse, tail.reverse)

/-- The name and the password of a user; an empty password is none. -/
def userinfo (cs : List Char) : List Char × Option (List Char) :=
  let name := cs.takeWhile (· ≠ ':')
  let secret := (cs.dropWhile (· ≠ ':')).drop 1
  (percentEncode .userinfo name,
    if secret.isEmpty then none else some (percentEncode .userinfo secret))

/-- The text of a host, up to a colon outside brackets. -/
def hostText (inBrackets : Bool) : List Char → List Char × List Char
  | [] => ([], [])
  | c :: r =>
    if c = ':' ∧ !inBrackets then ([], c :: r)
    else
      let inside := if c = '[' then true else if c = ']' then false else inBrackets
      let (h, rest) := hostText inside r
      (c :: h, rest)

/-- The number of a port after its colon, and what follows it. A port that the scheme implies is
none. -/
def port (scheme : List Char) (cs : List Char) : Except Fault (Option Nat × List Char) :=
  let digits := cs.takeWhile fun c => (Text.Decimal.digit? c).isSome
  let rest := cs.drop digits.length
  let n := digits.foldl (fun n c => n * 10 + (Text.Decimal.digit? c).getD 0) 0
  let ends := match rest with
    | [] => true
    | c :: _ => c = '/' || c = '\\' || c = '?' || c = '#'
  if 65535 < n ∨ !ends then .error .port
  else if digits.isEmpty ∨ defaultPort? scheme = some n then .ok (none, rest)
  else .ok (some n, rest)

/-- The query up to a fragment, and the fragment. -/
def queryAndFragment (special : Bool) (cs : List Char) :
    Option (List Char) × Option (List Char) :=
  let set : EncodeSet := if special then .specialQuery else .query
  let fragment (cs : List Char) : Option (List Char) :=
    match cs with
    | '#' :: r => some (percentEncode .fragment r)
    | _ => none
  match cs with
  | '?' :: r => (some (percentEncode set (r.takeWhile (· ≠ '#'))), fragment (r.dropWhile (· ≠ '#')))
  | _ => (none, fragment cs)

/-- Reads what follows two slashes. -/
def afterSlashes (scheme : List Char) (cs : List Char) : Except Fault Url := do
  let special := isSpecial scheme
  let before := cs.takeWhile fun c => !endsAuthority special c
  let tail := cs.drop before.length
  let (user, secret, text) ← match lastAt? before with
    | none => .ok ([], none, before)
    | some (info, host) =>
      if info.isEmpty ∧ host.isEmpty ∧ !tail.isEmpty then .error .emptyHost
      else .ok ((userinfo info).1, (userinfo info).2, host)
  let (hostChars, rest) := hostText false text
  if special ∧ hostChars.isEmpty then .error .emptyHost
  else
    let host ← if special then Host.ofDomain hostChars else Host.ofOpaque hostChars
    if hostChars.isEmpty ∧ rest.head? = some ':' then .error .emptyHost
    else
      let (portNumber, rest) ← match rest with
        | _ :: r => port scheme (r ++ tail)
        | [] => .ok (none, tail)
      if hostChars.isEmpty ∧ (!user.isEmpty ∨ secret.isSome) then .error .emptyHost
      else
        let r := readPathStart (if special then .special else .plain) rest
        let (q, f) := queryAndFragment special r.rest
        .ok ⟨scheme, some ⟨user, secret, host, portNumber⟩, r.path, q, f⟩

/-- A host that is not there. -/
def noHost : Authority := ⟨[], none, .name [], none⟩

/-- Reads what follows `file:`. -/
def file (scheme : List Char) (cs : List Char) : Except Fault Url := do
  let isSlash (c : Char) : Bool := c = '/' || c = '\\'
  let finish (a : Authority) (r : PathRead) : Except Fault Url :=
    let (q, f) := queryAndFragment true r.rest
    .ok ⟨scheme, some (if r.drive then noHost else a), r.path, q, f⟩
  match cs with
  | c :: d :: r =>
    if isSlash c && isSlash d then
      let text := r.takeWhile fun c => !endsAuthority true c
      if isDrive text then finish noHost (readPath .file ['/'] r)
      else if text.isEmpty then finish noHost (readPath .file ['/'] r)
      else
        match ← Host.ofDomain text with
        | .name ['l', 'o', 'c', 'a', 'l', 'h', 'o', 's', 't'] =>
          finish noHost (readPath .file ['/'] (r.drop text.length))
        | h => finish ⟨[], none, h, none⟩ (readPathStart .file (r.drop text.length))
    else if isSlash c then finish noHost (readPath .file [] cs)
    else finish noHost (readPath .file ['/'] cs)
  | _ =>
    if cs.any isSlash then finish noHost (readPath .file [] cs)
    else finish noHost (readPath .file ['/'] cs)

/-- Reads what follows a scheme that is not special. -/
def plain (scheme : List Char) (cs : List Char) : Except Fault Url :=
  match cs with
  | '/' :: '/' :: r => afterSlashes scheme r
  | '/' :: r =>
    let p := readPath .plain ['/'] r
    let (q, f) := queryAndFragment false p.rest
    .ok ⟨scheme, none, p.path, q, f⟩
  | _ =>
    let path := cs.takeWhile fun c => c ≠ '?' && c ≠ '#'
    let (q, f) := queryAndFragment false (cs.drop path.length)
    .ok ⟨scheme, none, percentEncode .controls path, q, f⟩

def ofChars (cs : List Char) : Except Fault Url :=
  match scheme? (cleaned cs) with
  | none => .error .noScheme
  | some (scheme, rest) =>
    if scheme = "file".toList then file scheme rest
    else if isSpecial scheme then afterSlashes scheme (rest.dropWhile fun c => c = '/' || c = '\\')
    else plain scheme rest

def parse (s : String) : Except Fault Url := ofChars s.toList

def parse? (s : String) : Option Url := (parse s).toOption

/-! ### Origins -/

/-- The scheme, host and port of a URL, for schemes that have them in common with other URLs; `null`
for the rest. The origin of a `blob` is that of the URL which its path spells. -/
def originOf (depth : Nat) (u : Url) : List Char :=
  if u.scheme = "blob".toList then
    match depth with
    | 0 => "null".toList
    | depth + 1 =>
      match ofChars u.path with
      | .ok inner => originOf depth inner
      | .error _ => "null".toList
  else
    match u.authority with
    | some a =>
      if u.scheme ≠ "file".toList && isSpecial u.scheme then
        u.scheme ++ "://".toList ++ a.host.chars ++ Authority.portChars a.port
      else "null".toList
    | none => "null".toList

def originChars (u : Url) : List Char := originOf u.path.length u

def origin (u : Url) : String := String.ofList u.originChars

/-- Whether a URL is one that browsers are sent to. -/
def isWeb (u : Url) : Bool := u.scheme = "http".toList || u.scheme = "https".toList

end SignOn.Url
