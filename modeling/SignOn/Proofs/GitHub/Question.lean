import Mathlib.Tactic.Common
import SignOn.GitHub.Question

/-!
When a request can be made, and what the answer to a question depends on: the address has to be one
of a web page and the headers have to be texts, and of a carrier only its answer to the one request
counts.
-/
namespace SignOn.GitHub

theorem request?_eq_some {method url : String} {headers : List (String × String)}
    {body : Option (List Char)} {q : Request} :
    request? method url headers body = some q ↔
      Url.parse? url = some q.url ∧ q.url.isWeb = true ∧ (∀ h ∈ headers, isHeaderText h.2 = true) ∧
        q = ⟨method, q.url, headers, body⟩ := by
  unfold request?
  cases hu : Url.parse? url with
  | none => simp
  | some u =>
    simp only [Bool.and_eq_true, List.all_eq_true, Option.ite_none_right_eq_some, Option.some.injEq]
    constructor
    · rintro ⟨⟨web, texts⟩, rfl⟩
      exact ⟨rfl, web, texts, rfl⟩
    · rintro ⟨rfl, web, texts, hq⟩
      exact ⟨⟨web, texts⟩, hq.symm⟩

theorem ask_congr {α : Type} {q : Question α} {carry carry' : Carrier}
    (h : ∀ r, q.request? = some r → carry' r = carry r) : q.ask carry' = q.ask carry := by
  unfold Question.ask
  cases hr : q.request? with
  | none => rfl
  | some r => rw [Option.bind_some, Option.bind_some, h r hr]

end SignOn.GitHub
