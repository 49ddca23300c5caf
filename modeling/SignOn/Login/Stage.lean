/-! The steps of a sign-on, as they are named in the log. -/
namespace SignOn.Login

inductive Stage where
  | start
  | redirectedToProvider
  | stateValidated
  | stateRejected
  | codeExchanged
  | codeExchangeFailed
  | identityResolved
  | tokenIssued
  | finalRedirect
  deriving DecidableEq, Repr

namespace Stage

def name : Stage → String
  | start => "START"
  | redirectedToProvider => "REDIRECTED_TO_PROVIDER"
  | stateValidated => "STATE_VALIDATED"
  | stateRejected => "STATE_REJECTED"
  | codeExchanged => "CODE_EXCHANGED"
  | codeExchangeFailed => "CODE_EXCHANGE_FAILED"
  | identityResolved => "IDENTITY_RESOLVED"
  | tokenIssued => "TOKEN_ISSUED"
  | finalRedirect => "FINAL_REDIRECT"

def all : List Stage :=
  [start, redirectedToProvider, stateValidated, stateRejected, codeExchanged, codeExchangeFailed,
    identityResolved, tokenIssued, finalRedirect]

end Stage
end SignOn.Login
