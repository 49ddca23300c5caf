import SignOn.Timestamp
import SignOn.Url.Parser

/-! What is kept of a sign-on while a person is away at the provider. -/
namespace SignOn.Login

structure Pending where
  /-- The text of the address to send the person back to. -/
  referrer : String
  createdAt : Timestamp
  deriving DecidableEq, Inhabited

namespace Pending

def of (referrer : Url) (now : Moment) : Pending := ⟨referrer.text, .ofMoment now⟩

def referrerUrl? (p : Pending) : Option Url := Url.parse? p.referrer

def toJson (p : Pending) : Json.Value :=
  .object [("referrer", .string p.referrer), ("created_at", p.createdAt.toJson)]

def fields : List (Json.Field Pending) :=
  [.required "referrer" Json.string fun p s => { p with referrer := s },
   .required "created_at" Timestamp.reader fun p t => { p with createdAt := t }]

def reader : Json.Reader Pending := Json.record fields ⟨"", .epoch⟩

end Pending
end SignOn.Login
