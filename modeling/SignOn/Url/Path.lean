import SignOn.Url.Percent

/-!
Reading paths. Segments are percent-encoded as they are read; a segment of one point is dropped, and
one of two points takes the segment before it along. Under the scheme `file` a drive letter with a
colon stays where it is.
-/
namespace SignOn.Url

/-- The kinds of schemes as far as paths differ by them. -/
inductive PathKind where
  | plain
  | special
  | file
  deriving DecidableEq, Repr

def isLetter (c : Char) : Bool := ('a' ≤ c && c ≤ 'z') || ('A' ≤ c && c ≤ 'Z')

/-- A letter with a colon or a bar. -/
def isDrive : List Char → Bool
  | [c, d] => isLetter c && (d = ':' || d = '|')
  | _ => false

/-- A letter with a colon. -/
def isPlainDrive : List Char → Bool
  | [c, ':'] => isLetter c
  | _ => false

/-- The number of points that a segment stands for, percent-encoded or not. -/
def points? : List Char → Option Nat
  | [] => some 0
  | '.' :: r => (points? r).map (· + 1)
  | '%' :: '2' :: e :: r => if e = 'e' ∨ e = 'E' then (points? r).map (· + 1) else none
  | _ => none

/-- The last segment of a path that is written backwards. -/
def lastSegment (back : List Char) : List Char := (back.takeWhile (· ≠ '/')).reverse

/-- Takes the last segment off a path that is written backwards. -/
def dropSegment (kind : PathKind) (back : List Char) : List Char :=
  let back := match back with
    | '/' :: r => if r.contains '/' && !isDrive (lastSegment r) then r else '/' :: r
    | r => r
  if kind = .file && isPlainDrive (lastSegment back) then back
  else back.dropWhile (· ≠ '/')

/-- Closes a segment behind the path so far, both written backwards, and says whether it is a drive
letter that begins a path. -/
def closeSegment (kind : PathKind) (done segment : List Char) (slash : Bool) : List Char × Bool :=
  let text := segment.reverse
  let withSlash (back : List Char) : List Char :=
    if back.head? = some '/' then back else '/' :: back
  match points? text with
  | some 2 =>
    let back := dropSegment kind done
    (if slash then withSlash back else back, false)
  | some 1 => (withSlash done, false)
  | _ =>
    let isFirstDrive := kind = .file && done.length == 1 && isDrive text
    let back := if isFirstDrive then ':' :: text.take 1 ++ done else segment ++ done
    (if slash then '/' :: back else back, isFirstDrive)

structure PathRead where
  path : List Char
  /-- A drive letter begins the path. -/
  drive : Bool
  rest : List Char
  deriving Repr

/-- Reads segments up to a query, a fragment or the end; the path so far and the segment that is being
read are written backwards. -/
def readSegments (kind : PathKind) (done segment : List Char) (drive : Bool) :
    List Char → PathRead
  | [] =>
    let (back, d) := closeSegment kind done segment false
    ⟨back.reverse, drive || d, []⟩
  | c :: r =>
    if c = '/' ∨ (c = '\\' ∧ kind ≠ .plain) then
      let (back, d) := closeSegment kind done segment true
      readSegments kind back [] (drive || d) r
    else if c = '?' ∨ c = '#' then
      let (back, d) := closeSegment kind done segment false
      ⟨back.reverse, drive || d, c :: r⟩
    else
      let encoded := (percentChar .path c).reverse
      -- a character right after a drive letter stands behind a slash
      if kind = .file ∧ isPlainDrive ((segment ++ done).reverse.drop 1) then
        let whole := '/' :: (segment ++ done)
        let start := done.length + 1
        readSegments kind (whole.drop (whole.length - start))
          (encoded ++ whole.take (whole.length - start)) drive r
      else readSegments kind done (encoded ++ segment) drive r

/-- Reads a path behind what it begins with. -/
def readPath (kind : PathKind) (begun : List Char) (cs : List Char) : PathRead :=
  let r := readSegments kind begun.reverse [] false cs
  if kind = .file then { r with path := '/' :: r.path.dropWhile (· = '/') } else r

/-- Reads the path after an authority: under a special scheme there always is one. -/
def readPathStart (kind : PathKind) (cs : List Char) : PathRead :=
  match cs with
  | [] => if kind = .plain then ⟨[], false, []⟩ else readPath kind ['/'] []
  | c :: r =>
    if kind ≠ .plain then
      if c = '/' ∨ c = '\\' then readPath kind ['/'] r else readPath kind ['/'] (c :: r)
    else if c = '?' ∨ c = '#' then ⟨[], false, c :: r⟩
    else if c = '/' then readPath kind [] (c :: r)
    else readPath kind ['/'] (c :: r)

example : (readPath .special ['/'] "a/./b/../c?x".toList).path = "/a/c".toList := by decide
example : (readPath .special ['/'] "%2e%2E/b c".toList).path = "/b%20c".toList := by decide

end SignOn.Url
