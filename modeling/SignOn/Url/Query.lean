import SignOn.Url.Basic
import SignOn.Url.Form

/-! The query of a URL as the pairs of a form. Nothing else of the URL changes with them. -/
namespace SignOn.Url

def queryPairs (u : Url) : List (String × String) := Form.decode (u.query.getD [])

def withQuery (u : Url) (query : List Char) : Url := { u with query := some query }

/-- Adds pairs behind the query as it is written. -/
def appendPairs (u : Url) (ps : List (String × String)) : Url :=
  u.withQuery (Form.append (u.query.getD []) ps)

/-- Writes a query anew. -/
def setPairs (u : Url) (ps : List (String × String)) : Url := u.withQuery (Form.encode ps)

/-- The names that tell how a sign-on ended. -/
def isOutcome (name : String) : Bool := name = "token" || name = "error"

/-- Puts how a sign-on ended into the query, in the stead of what it says about that so far. -/
def withOutcome (u : Url) (name value : String) : Url :=
  u.setPairs ((u.queryPairs.filter fun p => !isOutcome p.1) ++ [(name, value)])

end SignOn.Url
