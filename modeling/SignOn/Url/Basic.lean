import SignOn.Url.Address

/-!
URLs by their parts, each in its written form: ASCII, with percent-encoding where it is needed. The
text of a URL is its parts with the marks between them.
-/
namespace SignOn

/-- Why a text is not a URL. -/
inductive Url.Fault where
  | emptyHost
  | name
  | port
  | ipv4
  | ipv6
  | hostCharacter
  | noScheme
  deriving DecidableEq, Repr

def Url.Fault.message : Url.Fault → String
  | .emptyHost => "empty host"
  | .name => "invalid international domain name"
  | .port => "invalid port number"
  | .ipv4 => "invalid IPv4 address"
  | .ipv6 => "invalid IPv6 address"
  | .hostCharacter => "invalid domain character"
  | .noScheme => "relative URL without a base"

inductive Url.Host where
  | name (cs : List Char)
  | ipv4 (n : Nat)
  | ipv6 (words : List Nat)
  deriving DecidableEq, Repr

def Url.Host.chars : Url.Host → List Char
  | .name cs => cs
  | .ipv4 n => ipv4Chars n
  | .ipv6 ws => '[' :: ipv6Chars ws ++ [']']

/-- Where a URL's resource is, and as whom to ask for it. -/
structure Url.Authority where
  username : List Char
  password : Option (List Char)
  host : Url.Host
  port : Option Nat
  deriving DecidableEq, Repr

def Url.Authority.portChars (port : Option Nat) : List Char :=
  match port with
  | some n => ':' :: Nat.toDigits 10 n
  | none => []

def Url.Authority.chars (a : Url.Authority) : List Char :=
  let secret := match a.password with
    | some p => ':' :: p
    | none => []
  let user := a.username ++ secret
  (if user.isEmpty then [] else user ++ ['@']) ++ a.host.chars ++ portChars a.port

structure Url where
  scheme : List Char
  authority : Option Url.Authority
  path : List Char
  query : Option (List Char)
  fragment : Option (List Char)
  deriving DecidableEq, Repr

namespace Url

/-- Schemes of URLs that always have a host, with their ports. -/
def specialSchemes : List (String × Option Nat) :=
  [("http", some 80), ("https", some 443), ("ws", some 80), ("wss", some 443), ("ftp", some 21),
    ("file", none)]

def isSpecial (scheme : List Char) : Bool := specialSchemes.any fun s => s.1.toList == scheme

def defaultPort? (scheme : List Char) : Option Nat :=
  (specialSchemes.find? fun s => s.1.toList == scheme).bind (·.2)

/-- A path that begins with two slashes is kept apart from an authority by `/.`. -/
def hierarchyChars (u : Url) : List Char :=
  match u.authority with
  | some a => '/' :: '/' :: a.chars
  | none =>
    match u.path with
    | '/' :: '/' :: _ => ['/', '.']
    | _ => []

def queryChars (q : Option (List Char)) : List Char :=
  match q with
  | some q => '?' :: q
  | none => []

def fragmentChars (f : Option (List Char)) : List Char :=
  match f with
  | some f => '#' :: f
  | none => []

def chars (u : Url) : List Char :=
  u.scheme ++ ':' :: u.hierarchyChars ++ u.path ++ queryChars u.query ++ fragmentChars u.fragment

def text (u : Url) : String := String.ofList u.chars

end Url
end SignOn
