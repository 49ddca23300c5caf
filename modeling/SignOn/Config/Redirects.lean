import SignOn.Config.Variables
import SignOn.Text.Decimal
import SignOn.Url.Parser

/-!
Where people are sent back to after a sign-on: a page of their own choice if its origin is allowed,
the default page if not. The default page's own origin is always allowed.
-/
namespace SignOn.Config

/-- What a build does where a product is too big for a word of 64 bits: it stops, or it goes on
with the low bits. -/
inductive Overflow where
  | stops
  | wraps
  deriving DecidableEq, Repr

/-- The product of two words of 64 bits. -/
def Overflow.mul? : Overflow → Nat → Nat → Option Nat
  | stops, m, n => if m * n < 2 ^ 64 then some (m * n) else none
  | wraps, m, n => some (m * n % 2 ^ 64)

structure Redirects where
  default : Url
  origins : List String
  /-- The seconds within which a sign-on has to come back from the provider. -/
  patience : Nat
  deriving DecidableEq

namespace Redirects

/-- Origins are configured with or without slashes at their ends. -/
def of (default : Url) (allowed : List String) (patience : Nat) : Redirects :=
  let origins := allowed.map (Text.trimEnd '/')
  let own := default.origin
  ⟨default, if own ∈ origins then origins else origins ++ [own], patience⟩

def allows (r : Redirects) (u : Url) : Bool := u.isWeb && r.origins.contains u.origin

/-- Where to send a person who came from a page, given as the text of its address. -/
def resolve (r : Redirects) (referrer : Option String) : Url :=
  match referrer.bind fun s => Url.parse? (Text.trim s) with
  | some u => if r.allows u then u else r.default
  | none => r.default

/-- The minutes within which a sign-on has to come back, as they are configured. -/
def minutes (vs : Variables) : Nat :=
  vs.readD "OAUTH_SESSION_TIMEOUT_MINUTES" (Text.Decimal.below? (2 ^ 64)) 10

/-- Reads the settings; nothing where the build stops at minutes of too many seconds. -/
def ofVariables (overflow : Overflow) (vs : Variables) : Except Error (Option Redirects) :=
  let page := vs.getD "LOGIN_DEFAULT_REDIRECT" "http://localhost:3000/"
  match Url.parse page with
  | .error e => .error ⟨.configuration, s!"LOGIN_DEFAULT_REDIRECT '{page}': {e.message}"⟩
  | .ok u =>
    let allowed := match vs.get? "LOGIN_ALLOWED_REDIRECT_ORIGINS" with
      | some s => splitList s
      | none => []
    .ok ((overflow.mul? (minutes vs) 60).map (of u allowed))

end Redirects
end SignOn.Config
