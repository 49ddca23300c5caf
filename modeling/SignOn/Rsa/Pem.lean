import SignOn.Text.Base64

/-!
Textual armour for keys: a label between a `BEGIN` and an `END` line, and base64 in lines of 64
characters between them. Text before the first line is passed over.
-/
namespace SignOn.Rsa.Pem

def dashes : List Char := ['-', '-', '-', '-', '-']
def beginMark : List Char := dashes ++ "BEGIN ".toList
def endMark : List Char := dashes ++ "END ".toList

/-! ### Writing -/

/-- Cuts a text into lines of 64 characters. -/
def wrap : Nat → List Char → List Char
  | 0, cs => cs
  | fuel + 1, cs =>
    if cs.length ≤ 64 then cs ++ ['\n'] else cs.take 64 ++ '\n' :: wrap fuel (cs.drop 64)

/-- The base64 text with its last group filled up by `=`. -/
def base64 (bytes : List UInt8) : List Char :=
  let ds := (Text.Base64.encode Text.Base64.standard bytes).map fun b => Char.ofNat b.toNat
  ds ++ List.replicate ((4 - ds.length % 4) % 4) '='

def encode (label : String) (bytes : List UInt8) : String :=
  let body := base64 bytes
  String.ofList (beginMark ++ label.toList ++ dashes ++ '\n' :: wrap body.length body ++
    endMark ++ label.toList ++ dashes ++ ['\n'])

/-! ### Reading -/

/-- The text after a given start. -/
def after? : List Char → List Char → Option (List Char)
  | [], cs => some cs
  | _ :: _, [] => none
  | p :: ps, c :: cs => if p = c then after? ps cs else none

/-- The text from the first line that begins with the mark; no null character stands before it. -/
def fromBegin? (lineStart : Bool) : List Char → Option (List Char)
  | [] => none
  | c :: r =>
    match if lineStart then after? beginMark (c :: r) else none with
    | some body => some body
    | none => if c.toNat = 0 then none else fromBegin? (c = '\n') r

/-- Characters of labels that are neither blanks nor hyphens. -/
def isLabelChar (c : Char) : Bool := 0x21 ≤ c.toNat && c.toNat ≤ 0x7e && c ≠ '-'

/-- A label: words with single blanks between them, up to a hyphen. -/
def label? (begun blank : Bool) : List Char → Option (List Char × List Char)
  | [] => some ([], [])
  | c :: r =>
    if c = '-' then some ([], c :: r)
    else if isLabelChar c then (label? true false r).map fun (l, r) => (c :: l, r)
    else if begun && !blank && (c = ' ' || c = '\t') then
      (label? true true r).map fun (l, r) => (c :: l, r)
    else none

/-- The text after a line's end. -/
def afterLineEnd? : List Char → Option (List Char)
  | '\r' :: '\n' :: r => some r
  | '\n' :: r => some r
  | '\r' :: r => some r
  | _ => none

/-- The text before the line's end that closes it. -/
def beforeLineEnd? (cs : List Char) : Option (List Char) :=
  match cs.reverse with
  | '\n' :: '\r' :: r => some r.reverse
  | '\n' :: r => some r.reverse
  | '\r' :: r => some r.reverse
  | _ => none

/-- The text before a given end. -/
def before? (tail cs : List Char) : Option (List Char) :=
  (after? tail.reverse cs.reverse).map List.reverse

/-- The base64 text of lines that all but the last hold 64 characters. -/
def unwrap? : Nat → List Char → Option (List Char)
  | 0, _ => none
  | fuel + 1, cs =>
    if cs.length ≤ 64 then some ((beforeLineEnd? cs).getD cs)
    else match afterLineEnd? (cs.drop 64) with
      | none => none
      | some rest => (unwrap? fuel rest).map (cs.take 64 ++ ·)

/-- Takes off the signs that fill the last group. -/
def unfilled? (cs : List Char) : Option (List Char) :=
  if cs.length % 4 ≠ 0 then none
  else match cs.reverse with
    | '=' :: '=' :: r => some r.reverse
    | '=' :: r => some r.reverse
    | _ => some cs

def base64Bytes? (cs : List Char) : Option (List UInt8) := do
  let ds ← unfilled? cs
  if ds.all fun c => c.toNat < 0x80 then
    Text.Base64.decode? Text.Base64.standard (ds.map fun c => .ofNat c.toNat)
  else none

/-- The label and the bytes of a text. -/
def decode? (cs : List Char) : Option (List Char × List UInt8) := do
  let body ← fromBegin? true cs
  let (label, body) ← label? false false body
  let body ← after? dashes body
  let body ← afterLineEnd? body
  let body := (beforeLineEnd? body).getD body
  let body ← before? dashes body
  let body ← before? label body
  let body ← before? endMark body
  let body ← beforeLineEnd? body
  let text ← unwrap? (body.length + 1) body
  let bytes ← base64Bytes? text
  some (label, bytes)

end SignOn.Rsa.Pem
