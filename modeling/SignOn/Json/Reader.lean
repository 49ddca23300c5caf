import SignOn.Json.Basic
import SignOn.Text.Hex
import SignOn.Text.Utf8

/-!
Reading JSON from bytes. Every reader takes the bytes from the place where it starts and says either
what it read and what is left, or where it stopped. Some callers go on after a stop, so a stop is
told to the byte.
-/
namespace SignOn.Json

inductive Read (α : Type) where
  | got (value : α) (rest : List UInt8)
  | stopped (rest : List UInt8)
  deriving Repr

abbrev Reader (α : Type) := List UInt8 → Read α

namespace Read

variable {α β : Type}

def map (f : α → β) : Read α → Read β
  | got a rest => got (f a) rest
  | stopped rest => stopped rest

/-- Goes on from what is left. -/
def andThen (r : Read α) (f : α → List UInt8 → Read β) : Read β :=
  match r with
  | got a rest => f a rest
  | stopped rest => stopped rest

/-- Stops after a value that is not wanted. -/
def filterMap (f : α → Option β) : Read α → Read β
  | got a rest => match f a with
    | some b => got b rest
    | none => stopped rest
  | stopped rest => stopped rest

/-- What was read, if blanks alone follow it. -/
def complete (r : Read α) : Option α :=
  match r with
  | got a rest => if rest.all (fun b => b == 0x20 || b == 0x0a || b == 0x0d || b == 0x09) then some a
    else none
  | stopped _ => none

end Read

/-- The four characters that JSON counts as white space. -/
def isSpace (b : UInt8) : Bool := b == 0x20 || b == 0x0a || b == 0x0d || b == 0x09

def skipSpace (bs : List UInt8) : List UInt8 := bs.dropWhile isSpace

/-- The byte of an ASCII character. -/
def ascii (c : Char) : UInt8 := .ofNat c.toNat

def isDigit (b : UInt8) : Bool := 0x30 ≤ b && b ≤ 0x39

/-- Reads the letters of a word; the first wrong byte is passed over before the stop. -/
def word {α : Type} (a : α) : List UInt8 → Reader α
  | [], rest => .got a rest
  | _ :: _, [] => .stopped []
  | w :: ws, b :: rest => if b = w then word a ws rest else .stopped rest

def nullWord {α : Type} (a : α) : Reader α := word a [0x75, 0x6c, 0x6c]
def trueWord {α : Type} (a : α) : Reader α := word a [0x72, 0x75, 0x65]
def falseWord {α : Type} (a : α) : Reader α := word a [0x61, 0x6c, 0x73, 0x65]

/-! ### Strings -/

/-- The number that four hexadecimal digits stand for. -/
def hex4? (a b c d : UInt8) : Option Nat := do
  let v (x : UInt8) : Option Nat := Text.Hex.value? (.ofNat x.toNat)
  some ((((← v a) * 16 + (← v b)) * 16 + (← v c)) * 16 + (← v d))

/-- The byte that a letter after a backslash stands for. -/
def simpleEscape? (b : UInt8) : Option UInt8 :=
  if b = ascii '"' then some b
  else if b = ascii '\\' then some b
  else if b = ascii '/' then some b
  else if b = ascii 'b' then some 0x08
  else if b = ascii 'f' then some 0x0c
  else if b = ascii 'n' then some 0x0a
  else if b = ascii 'r' then some 0x0d
  else if b = ascii 't' then some 0x09
  else none

/-- The bytes of a string up to its closing quotation mark, after bytes already read (the last of
them first). Escapes above U+FFFF are pairs of surrogates; a surrogate without its partner stops the
reader, after the byte that should have begun the partner. -/
def stringBytes (done : List UInt8) : Reader (List UInt8)
  | [] => .stopped []
  | 0x22 :: r => .got done.reverse r
  | 0x5c :: 0x75 :: a :: b :: c :: d :: r =>
    match hex4? a b c d with
    | none => .stopped r
    | some n =>
      if 0xdc00 ≤ n ∧ n ≤ 0xdfff then .stopped r
      else if 0xd800 ≤ n ∧ n ≤ 0xdbff then
        match r with
        | 0x5c :: 0x75 :: a' :: b' :: c' :: d' :: r' =>
          match hex4? a' b' c' d' with
          | none => .stopped r'
          | some m =>
            if 0xdc00 ≤ m ∧ m ≤ 0xdfff then
              let e := Text.Utf8.encodeChar (.ofNat ((n - 0xd800) * 0x400 + (m - 0xdc00) + 0x10000))
              stringBytes (e.reverse ++ done) r'
            else .stopped r'
        | 0x5c :: 0x75 :: _ => .stopped []
        | 0x5c :: _ :: r' => .stopped r'
        | [0x5c] => .stopped []
        | _ :: r' => .stopped r'
        | [] => .stopped []
      else stringBytes ((Text.Utf8.encodeChar (.ofNat n)).reverse ++ done) r
  | 0x5c :: 0x75 :: _ => .stopped []
  | 0x5c :: b :: r =>
    match simpleEscape? b with
    | some e => stringBytes (e :: done) r
    | none => .stopped r
  | [0x5c] => .stopped []
  | b :: r => if b < 0x20 then .stopped r else stringBytes (b :: done) r

/-- A string after its opening quotation mark. -/
def stringBody (bs : List UInt8) : Read String :=
  (stringBytes [] bs).filterMap Text.Utf8.decode?

/-- Passes over a string without looking at what its bytes and escapes stand for. -/
def skipString : Reader Unit
  | [] => .stopped []
  | 0x22 :: r => .got () r
  | 0x5c :: 0x75 :: a :: b :: c :: d :: r =>
    match hex4? a b c d with
    | none => .stopped r
    | some _ => skipString r
  | 0x5c :: 0x75 :: _ => .stopped []
  | 0x5c :: b :: r =>
    match simpleEscape? b with
    | some _ => skipString r
    | none => .stopped r
  | [0x5c] => .stopped []
  | b :: r => if b < 0x20 then .stopped r else skipString r

/-! ### Numbers -/

/-- Digits go into the significand as long as it stays a word of 64 bits; from the first one that
does not fit they only move the point. -/
def wholeDigits (n : Nat) (moved : Nat) : List UInt8 → Nat × Nat × List UInt8
  | [] => (n, moved, [])
  | b :: r =>
    if isDigit b then
      if moved = 0 ∧ n * 10 + (b.toNat - 0x30) < 2 ^ 64 then
        wholeDigits (n * 10 + (b.toNat - 0x30)) 0 r
      else wholeDigits n (moved + 1) r
    else (n, moved, b :: r)

/-- Digits after the point, up to the first that does not fit; those after it say nothing. -/
def fractionDigits (full : Bool) (n : Nat) (places : Nat) : List UInt8 → Nat × Nat × List UInt8
  | [] => (n, places, [])
  | b :: r =>
    if isDigit b then
      if !full && n * 10 + (b.toNat - 0x30) < 2 ^ 64 then
        fractionDigits false (n * 10 + (b.toNat - 0x30)) (places + 1) r
      else fractionDigits true n places r
    else (n, places, b :: r)

/-- Exponent digits up to a word of 31 bits; beyond it there is none. -/
def exponentDigits (n : Nat) : List UInt8 → Option Nat × List UInt8
  | [] => (some n, [])
  | b :: r =>
    if isDigit b then
      if n * 10 + (b.toNat - 0x30) < 2 ^ 31 then exponentDigits (n * 10 + (b.toNat - 0x30)) r
      else (none, r)
    else (some n, b :: r)

def signed (negative : Bool) (x : Binary64) : Binary64 := if negative then x.negate else x

/-- The floating-point number of digits and a decimal exponent. -/
def float (negative : Bool) (significand : Nat) (exponent : Int) (rest : List UInt8) :
    Read Number :=
  match (Binary64.ofNat significand).ofDecimal? 8 exponent with
  | some x => .got (.double (signed negative x)) rest
  | none => .stopped rest

/-- A number from its exponent letter on. -/
def exponentPart (negative : Bool) (significand : Nat) (exponent : Int) (bs : List UInt8) :
    Read Number :=
  let (down, bs) := match bs with
    | 0x2b :: r => (false, r)
    | 0x2d :: r => (true, r)
    | r => (false, r)
  match bs with
  | [] => .stopped []
  | b :: r =>
    if !isDigit b then .stopped r
    else match exponentDigits (b.toNat - 0x30) r with
      | (some e, rest) =>
        float negative significand (if down then exponent - e else exponent + e) rest
      | (none, rest) =>
        if significand ≠ 0 ∧ !down then .stopped rest
        else .got (.double (signed negative .zero)) (rest.dropWhile isDigit)

def isExponentLetter (b : UInt8) : Bool := b == 0x65 || b == 0x45

/-- A number without fraction and exponent: a word of 64 bits, with or without sign, else the
floating-point number nearest to it. Minus zero is a floating-point number. -/
def wholeNumber (negative : Bool) (n : Nat) : Number :=
  if !negative then .whole n
  else if n = 0 ∨ 2 ^ 63 < n then .double (Binary64.ofNat n).negate
  else .whole (-(n : Int))

/-- A number after its sign. -/
def unsigned (negative : Bool) : Reader Number
  | [] => .stopped []
  | b :: r =>
    if !isDigit b then .stopped r
    else
      let (n, moved, rest) := if b = 0x30 then (0, 0, r) else wholeDigits (b.toNat - 0x30) 0 r
      match rest with
      | [] => if moved = 0 then .got (wholeNumber negative n) [] else float negative n moved []
      | c :: r =>
        if b = 0x30 ∧ isDigit c then .stopped (c :: r)
        else if c = 0x2e then
          match r with
          | [] => .stopped []
          | d :: _ =>
            if !isDigit d then .stopped r
            else
              let (m, places, rest) := fractionDigits false n 0 r
              let e : Int := moved - places
              match rest with
              | [] => float negative m e []
              | x :: r => if isExponentLetter x then exponentPart negative m e r
                else float negative m e (x :: r)
        else if isExponentLetter c then exponentPart negative n moved r
        else if moved = 0 then .got (wholeNumber negative n) (c :: r)
        else float negative n moved (c :: r)

/-- Reads a number, if one stands here. -/
def number : Reader Number
  | 0x2d :: r => unsigned true r
  | b :: r => if isDigit b then unsigned false (b :: r) else .stopped (b :: r)
  | [] => .stopped []

/-- Passes over an exponent after its letter. -/
def skipExponent (bs : List UInt8) : Read Unit :=
  let bs := match bs with
    | 0x2b :: r => r
    | 0x2d :: r => r
    | r => r
  match bs with
  | [] => .stopped []
  | b :: r => if isDigit b then .got () (r.dropWhile isDigit) else .stopped r

/-- Passes over a number after its sign, whatever its size. -/
def skipUnsigned : Reader Unit
  | [] => .stopped []
  | b :: r =>
    if !isDigit b then .stopped r
    else
      let rest := if b = 0x30 then r else r.dropWhile isDigit
      match rest with
      | [] => .got () []
      | c :: r =>
        if b = 0x30 ∧ isDigit c then .stopped (c :: r)
        else if c = 0x2e then
          match r with
          | [] => .stopped []
          | d :: r =>
            if !isDigit d then .stopped (d :: r)
            else match r.dropWhile isDigit with
              | [] => .got () []
              | x :: r => if isExponentLetter x then skipExponent r else .got () (x :: r)
        else if isExponentLetter c then skipExponent r
        else .got () (c :: r)

/-! ### Containers -/

/-- After a stop inside a container its closing bracket is still taken, if it comes next. -/
def stopInside {α : Type} (close : UInt8) (rest : List UInt8) : Read α :=
  match skipSpace rest with
  | b :: r => if b = close then .stopped r else .stopped (b :: r)
  | [] => .stopped []

/-- Runs a reader over the items up to the closing bracket of a list, each with what came of those
before it. The bound on the number of items is the length of the input. -/
def foldItems {σ : Type} (step : σ → Reader σ) (bound : Nat) (first : Bool) (s : σ)
    (bs : List UInt8) : Read σ :=
  match bound with
  | 0 => .stopped bs
  | bound + 1 =>
    let item (r : List UInt8) : Read σ :=
      match step s r with
      | .got s r => foldItems step bound false s r
      | .stopped r => stopInside 0x5d r
    match skipSpace bs with
    | [] => .stopped []
    | 0x5d :: r => .got s r
    | 0x2c :: r =>
      if first then item (0x2c :: r)
      else match skipSpace r with
        | [] => .stopped []
        | 0x5d :: r => .stopped r
        | b :: r => item (b :: r)
    | b :: r => if first then item (b :: r) else .stopped (b :: r)

/-- Runs a reader over the members up to the closing bracket of an object. -/
def foldMembers {σ : Type} (step : String → σ → Reader σ) (bound : Nat) (first : Bool) (s : σ)
    (bs : List UInt8) : Read σ :=
  match bound with
  | 0 => .stopped bs
  | bound + 1 =>
    let member (r : List UInt8) : Read σ :=
      match stringBody r with
      | .stopped r => stopInside 0x7d r
      | .got name r =>
        match skipSpace r with
        | 0x3a :: r =>
          match step name s r with
          | .got s r => foldMembers step bound false s r
          | .stopped r => stopInside 0x7d r
        | r => .stopped r
    match skipSpace bs with
    | [] => .stopped []
    | 0x7d :: r => .got s r
    | 0x2c :: r =>
      if first then .stopped (0x2c :: r)
      else match skipSpace r with
        | 0x22 :: r => member r
        | 0x7d :: r => .stopped r
        | r => .stopped r
    | 0x22 :: r => if first then member r else .stopped (0x22 :: r)
    | b :: r => .stopped (b :: r)

/-- A list after its opening bracket. -/
def items {α : Type} (item : Reader α) (bs : List UInt8) : Read (List α) :=
  (foldItems (fun acc r => (item r).map (· :: acc)) (bs.length + 1) true [] bs).map List.reverse

/-- The members of an object after its opening bracket, in the order of the text, repeated names
included. -/
def members {α : Type} (item : Reader α) (bs : List UInt8) : Read (List (String × α)) :=
  let step (name : String) (acc : List (String × α)) (r : List UInt8) :=
    (item r).map fun v => (name, v) :: acc
  (foldMembers step (bs.length + 1) true [] bs).map List.reverse

/-- Any value with at most `depth` containers inside one another. Objects keep repeated names. -/
def rawValue : Nat → Reader Value
  | depth, bs =>
    match skipSpace bs with
    | [] => .stopped []
    | b :: r =>
      if b = ascii 'n' then nullWord .null r
      else if b = ascii 't' then trueWord (.bool true) r
      else if b = ascii 'f' then falseWord (.bool false) r
      else if b = 0x22 then (stringBody r).map .string
      else if b = 0x5b then
        match depth with
        | 0 => .stopped (b :: r)
        | depth + 1 => (items (rawValue depth) r).map .array
      else if b = 0x7b then
        match depth with
        | 0 => .stopped (b :: r)
        | depth + 1 => (members (rawValue depth) r).map .object
      else (number (b :: r)).map .number

mutual

/-- Of members with one name the last counts, in the place of the first. -/
def Value.settle : Value → Value
  | .array vs => .array (settleItems vs)
  | .object ms => .object (lastWins (settleMembers ms))
  | v => v

def settleItems : List Value → List Value
  | [] => []
  | v :: r => v.settle :: settleItems r

def settleMembers : List (String × Value) → List (String × Value)
  | [] => []
  | (k, v) :: r => (k, v.settle) :: settleMembers r

end

/-- How many containers may stand inside one another in a text. -/
def maxDepth : Nat := 127

def value : Reader Value := fun bs => (rawValue maxDepth bs).map Value.settle

/-- What surrounds the place in a text that is passed over. -/
inductive Nesting where
  | list
  | object
  deriving DecidableEq, Repr

/-- Passes over values: `atValue` says whether a value or the text after one comes next. -/
def skipNested (bound : Nat) (open_ : List Nesting) (atValue : Bool) (bs : List UInt8) :
    Read Unit :=
  match bound with
  | 0 => .stopped bs
  | bound + 1 =>
    let after (r : Read Unit) : Read Unit :=
      match r with
      | .got () rest => skipNested bound open_ false rest
      | .stopped rest => .stopped rest
    let key (r : List UInt8) : Read Unit :=
      match skipString r with
      | .stopped r => .stopped r
      | .got () r =>
        match skipSpace r with
        | 0x3a :: r => skipNested bound open_ true r
        | r => .stopped r
    if atValue then
      match skipSpace bs with
      | [] => .stopped []
      | b :: r =>
        if b = ascii 'n' then after (nullWord () r)
        else if b = ascii 't' then after (trueWord () r)
        else if b = ascii 'f' then after (falseWord () r)
        else if b = 0x22 then after (skipString r)
        else if b = 0x2d then after (skipUnsigned r)
        else if isDigit b then after (skipUnsigned (b :: r))
        else if b = 0x5b then
          match skipSpace r with
          | 0x5d :: r => skipNested bound open_ false r
          | r => skipNested bound (.list :: open_) true r
        else if b = 0x7b then
          match skipSpace r with
          | 0x7d :: r => skipNested bound open_ false r
          | 0x22 :: r =>
            match skipString r with
            | .stopped r => .stopped r
            | .got () r =>
              match skipSpace r with
              | 0x3a :: r => skipNested bound (.object :: open_) true r
              | r => .stopped r
          | r => .stopped r
        else .stopped (b :: r)
    else
      match open_ with
      | [] => .got () bs
      | .list :: outer =>
        match skipSpace bs with
        | 0x2c :: r => skipNested bound open_ true r
        | 0x5d :: r => skipNested bound outer false r
        | r => .stopped r
      | .object :: outer =>
        match skipSpace bs with
        | 0x2c :: r =>
          match skipSpace r with
          | 0x22 :: r => key r
          | r => .stopped r
        | 0x7d :: r => skipNested bound outer false r
        | r => .stopped r

/-- Passes over one value of any depth: its text is checked, its meaning is not. -/
def skipValue (bs : List UInt8) : Read Unit := skipNested (2 * bs.length + 2) [] true bs

/-! ### Typed values -/

def string (bs : List UInt8) : Read String :=
  match skipSpace bs with
  | 0x22 :: r => stringBody r
  | r => .stopped r

def boolean (bs : List UInt8) : Read Bool :=
  match skipSpace bs with
  | [] => .stopped []
  | b :: r =>
    if b = ascii 't' then trueWord true r
    else if b = ascii 'f' then falseWord false r
    else .stopped (b :: r)

/-- A whole number within bounds. -/
def whole (low high : Int) (bs : List UInt8) : Read Int :=
  (number (skipSpace bs)).filterMap fun
    | .whole i => if low ≤ i ∧ i < high then some i else none
    | .double _ => none

/-- A value, or `null` for none. -/
def optional {α : Type} (r : Reader α) (bs : List UInt8) : Read (Option α) :=
  match skipSpace bs with
  | 0x6e :: rest => nullWord none rest
  | rest => (r rest).map some

def list {α : Type} (item : Reader α) (bs : List UInt8) : Read (List α) :=
  match skipSpace bs with
  | 0x5b :: r => items item r
  | r => .stopped r

/-- A name from a fixed set, alone or as the only member, with `null`, of an object. -/
def enum {α : Type} (ofName : String → Option α) (bs : List UInt8) : Read α :=
  match skipSpace bs with
  | 0x22 :: r => (stringBody r).filterMap ofName
  | 0x7b :: r =>
    ((string r).filterMap ofName).andThen fun a r =>
      match skipSpace r with
      | 0x3a :: r =>
        match skipSpace r with
        | 0x6e :: r =>
          (nullWord a r).andThen fun a r =>
            match skipSpace r with
            | 0x7d :: r => .got a r
            | r => .stopped r
        | r => .stopped r
      | r => .stopped r
  | r => .stopped r

/-- Reads a whole text. -/
def parse? {α : Type} (r : Reader α) (bs : List UInt8) : Option α := (r bs).complete

def parseValue? (s : String) : Option Value := parse? value (Text.Utf8.encode s)

end SignOn.Json
