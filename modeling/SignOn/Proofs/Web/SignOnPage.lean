import SignOn.Proofs.Login.Course
import SignOn.Proofs.Login.Query
import SignOn.Proofs.Web.Session

/-!
What the sign-on page answers. Whatever fails in the stores or at the provider, and at whichever
call, a visit is redirected or refused. It is refused only if nobody is known to have begun it, and
a second visit is redirected to an address that says once, and last, how the sign-on ended. Which of
the two visits it is, its query says; one that could mean either is refused at once.
-/
namespace SignOn

open Login Web

section
variable {σ : Type}

/-- Nobody is known to have begun the sign-on that a query ends: it has no state, or one under which
no record is answered. -/
def Unbegun (answer : (c : Call) → σ → c.Answer × σ) (q : Query) (x : σ) : Prop :=
  ∀ state, q.state = some state → state = "" ∨ Gone answer state x

/-- The query of an address says once how a sign-on ended, as the last thing that it says. -/
def Url.SaysLast (u : Url) : Prop :=
  ∃ ps name value, u.queryPairs = ps ++ [(name, value)] ∧ (name = "token" ∨ name = "error") ∧
    ∀ p ∈ ps, p.1 ≠ "token" ∧ p.1 ≠ "error"

theorem Url.saysLast_withOutcome (u : Url) {name : String} (h : Url.isOutcome name = true)
    (value : String) : (u.withOutcome name value).SaysLast := by
  refine ⟨_, name, value, Url.queryPairs_withOutcome .., by simpa [Url.isOutcome] using h, ?_⟩
  intro p hp
  simpa [Url.isOutcome] using (List.mem_filter.mp hp).2

namespace Service

variable {s : Service} {q : Query} {l : List (Reply services)}

/-! ### The second visit -/

/-- A sign-on whose record was taken ends without an answer only at a time without a date. -/
theorem Finishes.undated {e : Ending} (h : s.Finishes q l e) (he : e = .undated) :
    ∃ m, ⟨.now, m⟩ ∈ l ∧ ¬ s.tokens.CanDate m := by
  cases h with
  | resolved offers inner issues =>
    cases issues with
    | unstored => cases he
    | @stored i m recorded now =>
      refine ⟨m, by simp [List.mem_of_getLast? now], fun dated => ?_⟩
      rw [issued, if_pos dated] at he
      split at he <;> cases he
  | _ => cases he

theorem outcome_cases (page : Url) (e : Ending) : e = .undated ∨
    ∃ u : Url, u.SaysLast ∧ Outcome.ofEnding page e = .redirect u := by
  cases e with
  | undated => exact .inl rfl
  | token text => exact .inr ⟨_, Url.saysLast_withOutcome page rfl text, rfl⟩
  | failure f => exact .inr ⟨_, Url.saysLast_withOutcome page rfl f.word, rfl⟩

variable (answer : (c : Call) → σ → c.Answer × σ) (s q) (x : σ)

/-- A second visit is rejected if nobody is known to have begun it, and redirected if not. -/
theorem callback_cases (dated : ∀ y, s.tokens.CanDate (answer .now y).1) :
    (Unbegun answer q x ∧ ((s.callback q).run answer x).1 = .rejected) ∨
      ¬ Unbegun answer q x ∧
        ∃ u : Url, u.SaysLast ∧ ((s.callback q).run answer x).1 = .redirect u := by
  have course := course_of_answered ((s.callback q).answered_run answer x)
  generalize hl : (s.callback q).transcript answer x = l at course
  generalize ((s.callback q).run answer x).1 = o at course ⊢
  cases course with
  | stateless h => exact .inl ⟨fun state hstate => .inl (h state hstate), rfl⟩
  | unknown h hne htaken =>
    refine .inl ⟨fun state hstate => .inr fun p hp => ?_, rfl⟩
    cases h.symm.trans hstate
    exact htaken p ((Routine.answer_of_transcript hl).trans hp)
  | @taken state p l e h hne finishes =>
    have begun : ¬ Unbegun answer q x := fun hun =>
      (hun state h).elim hne fun hgone => hgone p (Routine.answer_of_transcript hl).symm
    rcases outcome_cases (s.origin p) e with rfl | hredirect
    · obtain ⟨m, hm, hdate⟩ := finishes.undated rfl
      obtain ⟨y, hy⟩ := Routine.answer_of_mem (hl ▸ List.mem_cons_of_mem _ hm)
      rw [show m = (answer .now y).1 from hy] at hdate
      exact absurd (dated y) hdate
    · exact .inr ⟨begun, hredirect⟩

/-- A first visit leads somewhere if the store stops at no record. -/
theorem departs (keeps : ∀ state p y, (answer (.savePending state p) y).1 ≠ none)
    (referrer : Option String) : ∃ u, ((s.authorize referrer).run answer x).1 = some u := by
  obtain ⟨saved, hsaved⟩ := Option.ne_none_iff_exists'.mp (keeps _ _ _)
  exact ⟨_, congrArg (Option.map _) hsaved⟩

/-! ### The page -/

theorem respond_login {r : Request} (login : r.gets "/api/login/authorize" = true) :
    s.respond r = s.signOnPage r := by
  rw [respond, Request.gets_of_ne login (by decide), login]
  simp only [Bool.false_eq_true, if_false, if_true]

/-- The page of a sign-on always answers, where the clock tells times from which a token ends at a
date and the store stops at no record: it redirects, or refuses and redirects nowhere. It refuses
just those visits whose query cannot be read, and those that end a sign-on which nobody is known to
have begun. Where it redirects a visit that ends a sign-on, the address says once, and last, how it
ended. -/
theorem sign_on_page_answers {r : Request} (login : r.gets "/api/login/authorize" = true)
    (dated : ∀ y, s.tokens.CanDate (answer .now y).1)
    (keeps : ∀ state p y, (answer (.savePending state p) y).1 ≠ none) :
    ∃ response, ((s.respond r).run answer x).1 = some response ∧
      ((response.status = 307 ∧ ∃ u, response.location = some u) ∨
        (response.status = 401 ∧ response.location = none)) ∧
      (response.status = 401 ↔ (∃ e, Query.parse r.query = .error e) ∨
        ∃ q, Query.parse r.query = .ok q ∧ q.isCallback = true ∧ Unbegun answer q x) ∧
      ∀ q u, Query.parse r.query = .ok q → q.isCallback = true → response.location = some u →
        u.SaysLast := by
  rw [respond_login s login, signOnPage]
  cases hq : Query.parse r.query with
  | error e =>
    refine ⟨invalidState, rfl, .inr ⟨rfl, rfl⟩, iff_of_true rfl (.inl ⟨e, rfl⟩), ?_⟩
    intro q u hq'
    cases hq'
  | ok q =>
    cases hcallback : q.isCallback with
    | false =>
      obtain ⟨u, hu⟩ := departs s answer x keeps (r.header? "referer")
      refine ⟨.redirect u, ?_, ?_, ?_, ?_⟩
      · simp only [hcallback, Bool.false_eq_true, if_false, Routine.run_bind, Routine.run_pure, hu]
        rfl
      · exact .inl ⟨rfl, _, rfl⟩
      · simp [Response.redirect, hcallback]
      · intro q' u hq' hc
        cases hq'
        cases hcallback.symm.trans hc
    | true =>
      have hrun : ((do return ofOutcome (← s.callback q) : Routine services _).run answer x).1 =
        ofOutcome ((s.callback q).run answer x).1 := by rw [Routine.run_bind]; rfl
      simp only [hcallback, if_true]
      rw [hrun]
      rcases callback_cases s q answer x dated with ⟨unbegun, h⟩ | ⟨begun, u, hlast, h⟩
      · rw [h]
        refine ⟨invalidState, rfl, .inr ⟨rfl, rfl⟩, ?_, ?_⟩
        · exact iff_of_true rfl (.inr ⟨q, rfl, hcallback, unbegun⟩)
        · intro q' u _ _ hu
          cases hu
      · rw [h]
        refine ⟨.redirect u, rfl, .inl ⟨rfl, u, rfl⟩, ?_, ?_⟩
        · refine iff_of_false (by simp [Response.redirect]) ?_
          rintro (⟨e, he⟩ | ⟨q', hq', -, unbegun⟩)
          · cases he
          · cases hq'
            exact begun unbegun
        · intro q' v _ _ hv
          cases hv
          exact hlast

/-- A person who did not agree comes back. -/
def sampleReturn : Request := ⟨"GET",
  "/api/login/authorize?state=AAAAAAAAAAAAAAAAAAAAAAAAAAAAAAAAAAAAAAAAAAA&error=access_denied", []⟩

theorem parse_sampleReturn : Query.parse sampleReturn.query = .ok sampleQuery := by
  decide +kernel

/-- The machine's clock can tell the end of every record. -/
theorem canKeep_sample :
    Store.PendingLogins.CanKeep sampleSurroundings.life sampleSurroundings.now := by decide

theorem sign_on_page_answers_sample : ∃ response u,
    ((sample.respond sampleReturn).run (Store.Memory.answer sampleSurroundings) sampleKept).1 =
      some response ∧ response.status = 307 ∧ response.location = some u ∧ u.SaysLast := by
  obtain ⟨response, hresponse, hstatus, hrefused, hlast⟩ :=
    sign_on_page_answers sample (Store.Memory.answer sampleSurroundings) sampleKept
      (r := sampleReturn) (by decide) (fun _ => trivial)
      fun state p y => Store.LockedLogins.save_ne_none canKeep_sample y.pendings state p
  have begun : ¬ Unbegun (Store.Memory.answer sampleSurroundings) sampleQuery sampleKept :=
    fun unbegun => (unbegun _ rfl).elim (stateText_ne_empty (by decide))
      fun hgone => hgone _ take_sampleKept
  rcases hstatus with ⟨hstatus, u, hu⟩ | ⟨hstatus, -⟩
  · exact ⟨response, u, hresponse, hstatus, hu, hlast _ u parse_sampleReturn rfl hu⟩
  · exfalso
    rcases hrefused.mp hstatus with ⟨e, he⟩ | ⟨q, hq, -, unbegun⟩
    · cases parse_sampleReturn.symm.trans he
    · cases parse_sampleReturn.symm.trans hq
      exact begun unbegun

end Service
end

/-! ### Which visit it is -/

/-- The pairs of a request's query. -/
def Web.Request.pairs (r : Request) : List (String × String) :=
  Url.Form.decodeBytes (Text.Utf8.encode r.query)

namespace Service

/-- A visit is told by the names in its query alone, as they are once decoded. If a name that means
something comes twice, it is refused, and nobody is asked anything. If not, it begins a sign-on when
there is no state, no code and no error, whatever else there is; and it ends one when there is any of
them, with the values that come with the three names. -/
theorem visit_by_query (s : Service) (r : Request) :
    ((∃ name ∈ Query.names, 2 ≤ (Query.values name r.pairs).length) →
      ∃ response, response.status = 401 ∧ response.location = none ∧
        ∀ {σ : Type} (answer : (c : Call) → σ → c.Answer × σ) (x : σ),
          (s.signOnPage r).run answer x = (some response, x) ∧
          (s.signOnPage r).transcript answer x = []) ∧
    ((∀ name ∈ Query.names, (Query.values name r.pairs).length ≤ 1) →
      ((∀ name ∈ ["state", "code", "error"], name ∉ r.pairs.map (·.1)) →
        s.signOnPage r = do return ofOutcome (.ofDeparture (← s.authorize (r.header? "referer")))) ∧
      ((∃ name ∈ ["state", "code", "error"], name ∈ r.pairs.map (·.1)) →
        ∃ q : Query, q.state.toList = Query.values "state" r.pairs ∧
          q.code.toList = Query.values "code" r.pairs ∧
          q.error.toList = Query.values "error" r.pairs ∧
          s.signOnPage r = do return ofOutcome (← s.callback q))) := by
  have hparse : Query.parse r.query = Query.ofPairs r.pairs := rfl
  constructor
  · intro twice
    obtain ⟨f, hf⟩ := Query.ofPairs_eq_error.mpr twice
    refine ⟨invalidState, rfl, rfl, fun answer x => ?_⟩
    rw [signOnPage, hparse, hf]
    exact ⟨rfl, rfl⟩
  · intro once
    cases hq : Query.ofPairs r.pairs with
    | error f =>
      obtain ⟨name, meant, twice⟩ := Query.ofPairs_eq_error.mp ⟨f, hq⟩
      have := once name meant
      omega
    | ok q =>
      have hcallback := Query.isCallback_of_ofPairs hq
      rw [signOnPage, hparse, hq]
      constructor
      · intro absent
        have hno : q.isCallback = false := by
          rw [← Bool.not_eq_true, hcallback]
          rintro ⟨name, hname, hmem⟩
          exact absent name hname hmem
        simp only [hno, Bool.false_eq_true, if_false]
      · intro present
        refine ⟨q, ?_, ?_, ?_, ?_⟩
        · exact Query.get?_of_ofPairs hq (by decide : "state" ∈ Query.names)
        · exact Query.get?_of_ofPairs hq (by decide : "code" ∈ Query.names)
        · exact Query.get?_of_ofPairs hq (by decide : "error" ∈ Query.names)
        · simp only [hcallback.mpr present, if_true]

/-- Three visits: one with two states, the second of them spelled with an escape, one whose only name
means nothing, and one that brings back a code. -/
def sampleVisit (query : String) : Request := ⟨"GET", "/api/login/authorize?" ++ query, []⟩

theorem visit_by_query_sample :
    (∃ response, response.status = 401 ∧
      ∀ x, (sample.signOnPage (sampleVisit "state=a&x&st%61te=b")).run
        (Store.Memory.answer sampleSurroundings) x = (some response, x)) ∧
    (sample.signOnPage (sampleVisit "tab=1&tab=2") =
      do return ofOutcome (.ofDeparture (← sample.authorize none))) ∧
    ∃ q : Query, q.state = some "a+b" ∧ q.code = some "" ∧ q.error = none ∧
      sample.signOnPage (sampleVisit "c%6Fde&state=a%2Bb&tab=1") =
        do return ofOutcome (← sample.callback q) := by
  refine ⟨?_, ?_, ?_⟩
  · have pairs : (sampleVisit "state=a&x&st%61te=b").pairs =
        [("state", "a"), ("x", ""), ("state", "b")] := by decide +kernel
    have page := (visit_by_query sample (sampleVisit "state=a&x&st%61te=b")).1
    obtain ⟨response, status, -, run⟩ := page ⟨"state", by decide, by rw [pairs]; decide⟩
    exact ⟨response, status, fun x => (run _ x).1⟩
  · have pairs : (sampleVisit "tab=1&tab=2").pairs = [("tab", "1"), ("tab", "2")] := by
      decide +kernel
    have page := (visit_by_query sample (sampleVisit "tab=1&tab=2")).2
    exact (page (by rw [pairs]; decide)).1 (by rw [pairs]; decide)
  · have pairs : (sampleVisit "c%6Fde&state=a%2Bb&tab=1").pairs =
        [("code", ""), ("state", "a+b"), ("tab", "1")] := by decide +kernel
    have page := (visit_by_query sample (sampleVisit "c%6Fde&state=a%2Bb&tab=1")).2
    obtain ⟨q, state, code, error, run⟩ := (page (by rw [pairs]; decide)).2 (by rw [pairs]; decide)
    rw [pairs] at state code error
    refine ⟨q, ?_, ?_, ?_, run⟩
    · exact Option.toList_eq_singleton_iff.mp state
    · exact Option.toList_eq_singleton_iff.mp code
    · exact Option.toList_eq_nil_iff.mp error

end Service
end SignOn
