import SignOn.Proofs.Url.Form
import SignOn.Url.Parser
import SignOn.Url.Query

/-!
The query of a URL can be written anew and added to, and nothing else of the URL changes with it.
-/
namespace SignOn.Url

/-- The text of a URL is read as the URL again. -/
def ReadsBack (u : Url) : Prop := Url.parse? u.text = some u

/-- The values of the parameter `state` in a URL's query. -/
def states (u : Url) : List String := (u.queryPairs.filter fun p => p.1 = "state").map (·.2)

/-- Two URLs that are the same up to their queries. -/
structure SameButQuery (u v : Url) : Prop where
  scheme : u.scheme = v.scheme
  authority : u.authority = v.authority
  path : u.path = v.path
  fragment : u.fragment = v.fragment

theorem sameButQuery_appendPairs (u : Url) (ps : List (String × String)) :
    (u.appendPairs ps).SameButQuery u := ⟨rfl, rfl, rfl, rfl⟩

theorem sameButQuery_withOutcome (u : Url) (name value : String) :
    (u.withOutcome name value).SameButQuery u := ⟨rfl, rfl, rfl, rfl⟩

@[simp] theorem queryPairs_appendPairs (u : Url) (ps : List (String × String)) :
    (u.appendPairs ps).queryPairs = u.queryPairs ++ ps := Form.decode_append _ ps

theorem states_appendPairs (u : Url) (ps : List (String × String)) :
    (u.appendPairs ps).states =
      u.states ++ (ps.filter fun p => p.1 = "state").map (·.2) := by
  simp [states]

@[simp] theorem queryPairs_setPairs (u : Url) (ps : List (String × String)) :
    (u.setPairs ps).queryPairs = ps := Form.decode_encode ps

/-- How a sign-on ended comes last, and is said only once. -/
@[simp] theorem queryPairs_withOutcome (u : Url) (name value : String) :
    (u.withOutcome name value).queryPairs =
      (u.queryPairs.filter fun p => !isOutcome p.1) ++ [(name, value)] :=
  queryPairs_setPairs u _

end SignOn.Url
