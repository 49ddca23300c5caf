import SignOn.Url.Basic
import SignOn.Url.Idna.Domain
import SignOn.Url.Percent

/-!
Reading hosts. Under a special scheme a host is an address or the name of a domain; under others it is
kept as it is written, save for addresses in brackets.
-/
namespace SignOn.Url.Host

/-- The address in brackets. -/
def inBrackets (cs : List Char) : Except Fault Host :=
  match cs.reverse with
  | ']' :: inner =>
    match ipv6? (inner.reverse.drop 1) with
    | some ws => .ok (.ipv6 ws)
    | none => .error .ipv6
  | _ => .error .ipv6

def ofDomain (cs : List Char) : Except Fault Host :=
  if cs.head? = some '[' then inBrackets cs
  else
    match Idna.toAscii? (percentDecode (Text.Utf8.encodeChars cs)) with
    | none => .error .name
    | some domain =>
      if domain.isEmpty then .error .emptyHost
      else if endsInNumber domain then
        match ipv4? domain with
        | some n => .ok (.ipv4 n)
        | none => .error .ipv4
      else .ok (.name domain)

/-- Characters that a host under a scheme that is not special does not hold. -/
def isForbidden (c : Char) : Bool :=
  c.toNat = 0 || c ∈ ['\t', '\n', '\r', ' ', '#', '/', ':', '<', '>', '?', '@', '[', '\\', ']', '^',
    '|']

def ofOpaque (cs : List Char) : Except Fault Host :=
  if cs.head? = some '[' then inBrackets cs
  else if cs.any isForbidden then .error .hostCharacter
  else .ok (.name (percentEncode .controls cs))

end SignOn.Url.Host
