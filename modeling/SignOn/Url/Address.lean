import SignOn.Text.Decimal
import SignOn.Text.Hex

/-!
Numeric addresses of hosts. Addresses of four bytes are read from one to four numbers, each decimal,
octal or hexadecimal; those of eight words from words with at most one gap, and written with their
longest run of zeros left out.
-/
namespace SignOn.Url

/-! ### Four bytes -/

/-- The parts between points. -/
def splitPoints : List Char → List (List Char)
  | [] => [[]]
  | c :: r =>
    if c = '.' then [] :: splitPoints r
    else match splitPoints r with
      | [] => [[c]]
      | p :: ps => (c :: p) :: ps

def digits? (base : Nat) (cs : List Char) : Option Nat :=
  cs.foldlM (fun n c => do
    let d ← Text.Hex.value? c
    if d < base then some (n * base + d) else none) 0

/-- A number with the marks of its base. -/
def number? : List Char → Option Nat
  | [] => none
  | '0' :: 'x' :: r => digits? 16 r
  | '0' :: 'X' :: r => digits? 16 r
  | '0' :: c :: r => digits? 8 (c :: r)
  | cs => digits? 10 cs

/-- Whether a host's last part makes it an address. -/
def endsInNumber (cs : List Char) : Bool :=
  let last? := match (splitPoints cs).reverse with
    | [] :: p :: _ => some p
    | [[]] => none
    | p :: _ => some p
    | [] => none
  match last? with
  | none => false
  | some p => (!p.isEmpty && p.all fun c => (Text.Decimal.digit? c).isSome) || (number? p).isSome

/-- All numbers but the last are bytes; the last fills what is left. -/
def joinNumbers? (place : Nat) : List Nat → Option Nat
  | [] => none
  | [n] => if n < 256 ^ (4 - place) then some n else none
  | n :: r =>
    if n < 256 then (joinNumbers? (place + 1) r).map (n * 256 ^ (3 - place) + ·) else none

def ipv4? (cs : List Char) : Option Nat := do
  let parts := splitPoints cs
  let parts := if parts.getLast? = some [] then parts.dropLast else parts
  if 4 < parts.length then none
  else
    let ns ← parts.mapM number?
    if ns.all (· < 2 ^ 32) then joinNumbers? 0 ns else none

def ipv4Chars (n : Nat) : List Char :=
  let byte (i : Nat) := Nat.toDigits 10 (n / 256 ^ i % 256)
  byte 3 ++ '.' :: byte 2 ++ '.' :: byte 1 ++ '.' :: byte 0

/-! ### Eight words -/

/-- Words that have been read, latest first, and how many stood before the gap. -/
structure Words where
  words : List Nat
  gap : Option Nat
  deriving Repr

/-- The places that are taken; a gap takes one. -/
def Words.size (w : Words) : Nat := w.words.length + if w.gap.isSome then 1 else 0

/-- Up to `limit` hexadecimal digits and what follows them. -/
def hexWord (limit n : Nat) : List Char → Nat × List Char
  | [] => (n, [])
  | c :: r =>
    match limit, Text.Hex.value? c with
    | limit + 1, some d => hexWord limit (n * 16 + d) r
    | _, _ => (n, c :: r)

/-- A byte in decimal without leading zeros. -/
def decimalByte? (cs : List Char) : Option Nat :=
  match cs with
  | [] => none
  | ['0'] => some 0
  | '0' :: _ => none
  | cs => if 3 < cs.length then none
    else (Text.Decimal.digits? cs).bind fun n => if n ≤ 255 then some n else none

/-- Two words in the form of four bytes. -/
def dottedWords? (cs : List Char) : Option (Nat × Nat) := do
  match ← (splitPoints cs).mapM decimalByte? with
  | [a, b, c, d] => some (a * 256 + b, c * 256 + d)
  | _ => none

/-- Reads words up to the end of the text. -/
def words? : Nat → Words → List Char → Option Words
  | 0, _, _ => none
  | _ + 1, w, [] => some w
  | fuel + 1, w, c :: r =>
    if w.size = 8 then none
    else if c = ':' then
      if w.gap.isSome then none else words? fuel ⟨w.words, some w.words.length⟩ r
    else
      let (n, rest) := hexWord 4 0 (c :: r)
      match rest with
      | [] => some ⟨n :: w.words, w.gap⟩
      | ':' :: [] => none
      | ':' :: rest => words? fuel ⟨n :: w.words, w.gap⟩ rest
      | '.' :: _ =>
        if rest.length = (c :: r).length ∨ 6 < w.size then none
        else (dottedWords? (c :: r)).map fun (a, b) => ⟨b :: a :: w.words, w.gap⟩
      | _ => none

/-- The eight words of an address. -/
def ipv6? (cs : List Char) : Option (List Nat) := do
  let w ← match cs with
    | ':' :: ':' :: r => words? (cs.length + 1) ⟨[], some 0⟩ r
    | ':' :: _ => none
    | [] => none
    | [_] => none
    | _ => words? (cs.length + 1) ⟨[], none⟩ cs
  let ws := w.words.reverse
  match w.gap with
  | some g =>
    if ws.length ≤ 7 then some (ws.take g ++ List.replicate (8 - ws.length) 0 ++ ws.drop g)
    else none
  | none => if ws.length = 8 then some ws else none

/-- The number of zeros that a list begins with. -/
def leadingZeros (ws : List Nat) : Nat := (ws.takeWhile (· = 0)).length

/-- The place and the length of the first of the longest runs of two zeros or more. -/
def longestRun (ws : List Nat) : Option (Nat × Nat) :=
  (List.range ws.length).foldl (fun best i =>
    let n := leadingZeros (ws.drop i)
    match best with
    | some (_, m) => if m < n then some (i, n) else best
    | none => if 2 ≤ n then some (i, n) else none) none

def colonChars (ws : List Nat) : List Char :=
  (ws.map fun w => Nat.toDigits 16 w).intersperse [':'] |>.flatten

def ipv6Chars (ws : List Nat) : List Char :=
  match longestRun ws with
  | some (i, n) => colonChars (ws.take i) ++ [':', ':'] ++ colonChars (ws.drop (i + n))
  | none => colonChars ws

example : ipv4? "0x7f.1".toList = some 0x7f000001 := by decide
example : (ipv6? "::ffff:1.2.3.4".toList).map ipv6Chars = some "::ffff:102:304".toList := by decide
example : (ipv6? "0:0:1::1:0".toList).map ipv6Chars = some "0:0:1::1:0".toList := by decide

end SignOn.Url
