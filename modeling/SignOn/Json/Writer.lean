import SignOn.Json.Basic
import SignOn.Json.Shortest
import SignOn.Text.Hex

/-! The compact text of a value: no blanks, and in strings only the escapes that JSON asks for. -/
namespace SignOn.Json

/-- A quotation mark, a backslash and the control characters are escaped, all else stands as it
is. -/
def escapeChar (c : Char) : List Char :=
  if c = '"' then ['\\', '"']
  else if c = '\\' then ['\\', '\\']
  else if c = '\n' then ['\\', 'n']
  else if c = '\r' then ['\\', 'r']
  else if c = '\t' then ['\\', 't']
  else if c.toNat = 8 then ['\\', 'b']
  else if c.toNat = 12 then ['\\', 'f']
  else if c.toNat < 0x20 then
    ['\\', 'u', '0', '0', Text.Hex.digit (c.toNat / 16), Text.Hex.digit (c.toNat % 16)]
  else [c]

def quoteChars (cs : List Char) : List Char := '"' :: cs.flatMap escapeChar ++ ['"']

def quote (s : String) : List Char := quoteChars s.toList

def Number.text : Number → String
  | .whole i => Text.Decimal.ofInt i
  | .double x => if x.isFinite then x.text else "null"

/-- Texts with a comma between each two. -/
def commaed : List (List Char) → List Char
  | [] => []
  | [x] => x
  | x :: r => x ++ ',' :: commaed r

mutual

def Value.chars : Value → List Char
  | .null => ['n', 'u', 'l', 'l']
  | .bool true => ['t', 'r', 'u', 'e']
  | .bool false => ['f', 'a', 'l', 's', 'e']
  | .number n => n.text.toList
  | .string s => quote s
  | .array items => '[' :: commaed (itemChars items) ++ [']']
  | .object members => '{' :: commaed (memberChars members) ++ ['}']

def itemChars : List Value → List (List Char)
  | [] => []
  | v :: r => v.chars :: itemChars r

def memberChars : List (String × Value) → List (List Char)
  | [] => []
  | (k, v) :: r => (quote k ++ ':' :: v.chars) :: memberChars r

end

def Value.text (v : Value) : String := String.ofList v.chars

end SignOn.Json
