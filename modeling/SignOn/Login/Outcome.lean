import SignOn.Url.Parser
import SignOn.Url.Query

/-!
How a sign-on ends. A person who is known to have begun it is sent back to where they came from,
with a token or the word for what went wrong in the query of the address.
-/
namespace SignOn.Login

inductive Failure where
  /-- The person did not agree at the provider. -/
  | accessDenied
  | invalidCode
  | profileUnavailable
  | loginFailed
  deriving DecidableEq, Repr

def Failure.word : Failure → String
  | accessDenied => "access_denied"
  | invalidCode => "invalid_code"
  | profileUnavailable => "profile_unavailable"
  | loginFailed => "login_failed"

inductive Ending where
  | token (text : String)
  | failure (f : Failure)
  /-- The service stops without an answer: a token would have to end when no date exists. -/
  | undated
  deriving DecidableEq, Repr

inductive Outcome where
  /-- Nobody is known to have begun this sign-on. -/
  | rejected
  | redirect (location : Url)
  /-- The service stops without an answer: a token, or the record of a sign-on, would have to end
  when no date exists or no clock tells the time. -/
  | undated
  deriving DecidableEq

namespace Outcome

def location? : Outcome → Option Url
  | redirect u => some u
  | _ => none

/-- A first visit ends where it leads to. -/
def ofDeparture : Option Url → Outcome
  | some u => redirect u
  | none => undated

@[simp] theorem location?_ofDeparture (d : Option Url) : (ofDeparture d).location? = d := by
  cases d <;> rfl

def ofEnding (referrer : Url) : Ending → Outcome
  | .token t => redirect (referrer.withOutcome "token" t)
  | .failure f => redirect (referrer.withOutcome "error" f.word)
  | .undated => undated

end Outcome
end SignOn.Login
