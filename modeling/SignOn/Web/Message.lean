import SignOn.Json.Writer
import SignOn.Text.Utf8
import SignOn.Url.Percent
import SignOn.Url.Basic

/-! Requests to the service and its responses. -/
namespace SignOn.Web

structure Request where
  method : String
  /-- The path and, after a question mark, the query. -/
  target : String
  headers : List (String × List UInt8)
  deriving DecidableEq, Repr

namespace Request

/-- The target without a fragment. -/
def resource (r : Request) : List Char := r.target.toList.takeWhile (· ≠ '#')

/-- Octets that stay encoded in a path: the percent sign, the slash and the plus sign. -/
def staysEncoded (b : UInt8) : Bool := b = 0x25 || b = 0x2f || b = 0x2b

/-- Decodes a path but for the octets that stay encoded. -/
def decodePath : List UInt8 → List UInt8
  | 0x25 :: a :: b :: r =>
    match Url.hexValue? a, Url.hexValue? b with
    | some x, some y =>
      let octet := UInt8.ofNat (16 * x + y)
      if staysEncoded octet then 0x25 :: decodePath (a :: b :: r) else octet :: decodePath r
    | _, _ => 0x25 :: decodePath (a :: b :: r)
  | b :: r => b :: decodePath r
  | [] => []

def path (r : Request) : List UInt8 :=
  decodePath (Text.Utf8.encodeChars (r.resource.takeWhile (· ≠ '?')))

def query (r : Request) : String :=
  String.ofList ((r.resource.dropWhile (· ≠ '?')).drop 1)

/-- Whether an octet can stand in the text of a header. -/
def isPrintable (b : UInt8) : Bool := b = 0x09 || (0x20 ≤ b && b < 0x7f)

/-- The text of the first header of a name, whose case does not count. -/
def header? (r : Request) (name : String) : Option String :=
  match r.headers.find? fun h => h.1.map Char.toLower == name.map Char.toLower with
  | some h => if h.2.all isPrintable then Text.Utf8.decode? h.2 else none
  | none => none

/-- Whether a request reads the page of a path. -/
def gets (r : Request) (path : String) : Bool :=
  r.method = "GET" && r.path = Text.Utf8.encode path

/-- Whether a path is the given one or lies below it. -/
def isWithin (r : Request) (path : String) : Bool :=
  r.path = Text.Utf8.encode path || (Text.Utf8.encode (path ++ "/")).isPrefixOf r.path

end Request

structure Response where
  status : Nat
  location : Option Url
  body : Option Json.Value

namespace Response

def ofJson (status : Nat) (v : Json.Value) : Response := ⟨status, none, some v⟩

def redirect (u : Url) : Response := ⟨307, some u, none⟩

def notFound : Response := ⟨404, none, none⟩

/-- A refusal with a word for programs and a message for people. -/
def unauthorized (word message : String) : Response :=
  .ofJson 401 (.object [("error", .string word), ("message", .string message)])

end Response
end SignOn.Web
