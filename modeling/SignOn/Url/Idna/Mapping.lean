import SignOn.Url.Idna.MappingTable
import SignOn.Url.Idna.Row

/-! The mapping of characters in names of hosts. -/
namespace SignOn.Url.Idna

def mappingTable : Table := .ofText mappingText

/-- What a character becomes, if it may not stand for itself. -/
def mapped? (c : Char) : Option (List Char) :=
  match mappingTable.find? c.toNat with
  | none => none
  | some row =>
    let offset := c.toNat - row.span.first
    if offset % (row.get? '/').getD 1 = 0 then
      some ((row.numbers '>').map fun n => .ofNat (n + offset))
    else none

def isIgnored (c : Char) : Bool := Text.Spans.contains ignoredSpans c.toNat

def isDisallowed (c : Char) : Bool := Text.Spans.contains disallowedSpans c.toNat

/-- The characters that may stand in a name as they are. -/
def isValid (c : Char) : Bool := !isDisallowed c && !isIgnored c && (mapped? c).isNone

/-- A name with every character mapped; nothing if one is refused. -/
def mapName (cs : List Char) : Option (List Char) :=
  (cs.mapM fun c =>
    if isDisallowed c then none
    else if isIgnored c then some []
    else some ((mapped? c).getD [c])).map List.flatten

end SignOn.Url.Idna
