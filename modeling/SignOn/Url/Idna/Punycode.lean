import SignOn.Power

/-!
Labels beyond ASCII in ASCII digits. The characters of a label that are not ASCII are written in
ascending order as the distances from each to the next, each distance in base 36 with thresholds that
adapt to the distances before it.
-/
namespace SignOn.Url.Idna.Punycode

def digit (n : Nat) : Char := if n < 26 then .ofNat (0x61 + n) else .ofNat (0x30 + (n - 26))

def value? (c : Char) : Option Nat :=
  if 'a' ≤ c && c ≤ 'z' then some (c.toNat - 0x61)
  else if 'A' ≤ c && c ≤ 'Z' then some (c.toNat - 0x41)
  else if '0' ≤ c && c ≤ '9' then some (c.toNat - 0x30 + 26)
  else none

/-- The least digit that does not end a number, at a place. -/
def threshold (place bias : Nat) : Nat :=
  if place ≤ bias then 1 else if bias + 26 ≤ place then 26 else place - bias

def scaleDown : Nat → Nat → Nat → Nat × Nat
  | 0, delta, k => (delta, k)
  | fuel + 1, delta, k => if 455 < delta then scaleDown fuel (delta / 35) (k + 36) else (delta, k)

def adapt (delta count : Nat) (first : Bool) : Nat :=
  let d := if first then delta / 700 else delta / 2
  let (d, k) := scaleDown 16 (d + d / count) 0
  k + 36 * d / (d + 38)

/-- The digits of a number, the lowest first. -/
def digits (bias : Nat) : Nat → Nat → Nat → List Char
  | 0, _, _ => []
  | fuel + 1, place, q =>
    let t := threshold place bias
    if q < t then [digit q]
    else digit (t + (q - t) % (36 - t)) :: digits bias fuel (place + 36) ((q - t) / (36 - t))

structure Progress where
  /-- What has been written, latest first. -/
  out : List Char
  delta : Nat
  bias : Nat
  /-- How many characters of the label have been dealt with. -/
  handled : Nat

/-- Looks at a character of the label while those of one code are written. -/
def Progress.scan (basic code : Nat) (p : Progress) (c : Char) : Progress :=
  if c.toNat < code then { p with delta := p.delta + 1 }
  else if c.toNat = code then
    ⟨(digits p.bias 32 36 p.delta).reverse ++ p.out, 0,
      adapt p.delta (p.handled + 1) (p.handled == basic), p.handled + 1⟩
  else p

/-- Writes the characters of the codes, which are in ascending order. -/
def encodeCodes (label : List Char) (basic : Nat) : List Nat → Nat → Progress → List Char
  | [], _, p => p.out.reverse
  | code :: codes, from_, p =>
    let p := { p with delta := p.delta + (code - from_) * (p.handled + 1) }
    let p := label.foldl (Progress.scan basic code) p
    encodeCodes label basic codes (code + 1) { p with delta := p.delta + 1 }

def insert (n : Nat) : List Nat → List Nat
  | [] => [n]
  | m :: r => if n < m then n :: m :: r else if n = m then m :: r else m :: insert n r

/-- The digits for a label, its ASCII characters in front. -/
def encode (label : List Char) : List Char :=
  let basic := label.filter fun c => c.toNat < 0x80
  let codes := (label.filter fun c => 0x80 ≤ c.toNat).foldl (fun acc c => insert c.toNat acc) []
  basic ++ (if basic.isEmpty then [] else ['-']) ++
    encodeCodes label basic.length codes 0x80 ⟨[], 0, 72, basic.length⟩

/-- Reads a number: what it adds to `i`, and what follows it. -/
def number? (bias : Nat) (place weight i : Nat) : List Char → Option (Nat × List Char)
  | [] => none
  | c :: r =>
    match value? c with
    | none => none
    | some d =>
      let t := threshold place bias
      let i := i + d * weight
      if 2 ^ 32 ≤ i then none
      else if d < t then some (i, r)
      else number? bias (place + 36) (weight * (36 - t)) i r

/-- Reads numbers and inserts the characters that they tell of. -/
def decodeNumbers : Nat → List Nat → Nat → Nat → Nat → List Char → Option (List Nat)
  | _, out, _, _, _, [] => some out
  | 0, _, _, _, _, _ => none
  | fuel + 1, out, code, i, bias, cs => do
    let (next, rest) ← number? bias 36 1 i cs
    let count := out.length + 1
    let code := code + next / count
    let place := next % count
    if 0x10ffff < code ∨ (0xd800 ≤ code ∧ code ≤ 0xdfff) then none
    else
      decodeNumbers fuel (out.take place ++ code :: out.drop place) code (place + 1)
        (adapt (next - i) count (i = 0)) rest

/-- The label that digits stand for. -/
def decode? (cs : List Char) : Option (List Char) := do
  let tail := cs.reverse.takeWhile (· ≠ '-')
  let (basic, rest) := if tail.length = cs.length then ([], cs)
    else (cs.take (cs.length - tail.length - 1), tail.reverse)
  if basic.all fun c => c.toNat < 0x80 then
    (← decodeNumbers (rest.length + 1) (basic.map Char.toNat) 0x80 0 72 rest).map Char.ofNat
  else none

example : encode "bücher".toList = "bcher-kva".toList := by decide
example : decode? "bcher-kva".toList = some "bücher".toList := by decide

end SignOn.Url.Idna.Punycode
