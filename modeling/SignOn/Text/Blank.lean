/-! White space as the Unicode property White_Space, and trimming by it. -/
namespace SignOn.Text

/-- The characters with the property White_Space. -/
def isBlank (c : Char) : Bool :=
  let n := c.toNat
  (0x9 ≤ n && n ≤ 0xd) || n == 0x20 || n == 0x85 || n == 0xa0 || n == 0x1680 ||
    (0x2000 ≤ n && n ≤ 0x200a) || n == 0x2028 || n == 0x2029 || n == 0x202f || n == 0x205f ||
    n == 0x3000

/-- The text between the first and the last character that is not blank. -/
def trimChars (cs : List Char) : List Char :=
  ((cs.dropWhile isBlank).reverse.dropWhile isBlank).reverse

/-- Takes the white space off both ends. -/
def trim (s : String) : String := String.ofList (trimChars s.toList)

/-- A text without a character that may stand at its end, once or more often. -/
def trimEnd (c : Char) (s : String) : String :=
  String.ofList (s.toList.reverse.dropWhile (· = c)).reverse

/-- Holds of the texts that consist of white space alone, the empty one included. -/
def isBlankText (s : String) : Bool := s.toList.all isBlank

@[simp] theorem trimChars_nil : trimChars [] = [] := rfl

example : trim "\u3000 a b\u0085\n" = "a b" := by decide
example : trim "\u200ba" = "\u200ba" := by decide

end SignOn.Text
