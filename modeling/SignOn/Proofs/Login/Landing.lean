import SignOn.Proofs.Config.Redirects
import SignOn.Proofs.Store.PendingLogins
import SignOn.Proofs.Url.Query
import SignOn.Proofs.Visits
import SignOn.Store.Memory

/-!
Where visits end. A person is sent to the provider's page or to a page that is allowed, and to no
other, whatever the store of pending sign-ons loses or refuses. The second visit does not look at
origins again: it rests on what first visits saved.
-/
namespace SignOn

open Login

/-- A store of pending sign-ons that may refuse every call and lose records at any time. What it
hands out was saved under that state. -/
def Lossy : Rule services (List (String × Pending))
  | _, .savePending state p, _, held, held' => held' ⊆ (state, p) :: held
  | _, .takePending state, .ok (some p), held, held' => (state, p) ∈ held ∧ held' ⊆ held
  | _, _, _, held, held' => held' ⊆ held

section
variable {t : Moment} {c : Call} {a : c.Answer} {held held' : List (String × Pending)}

theorem Lossy.saved (h : Lossy t c a held held') {x : String × Pending} (hx : x ∈ held') :
    x ∈ held ∨ c = .savePending x.1 x.2 := by
  cases c with
  | savePending state p =>
    rcases List.mem_cons.mp (h hx) with rfl | hx
    · exact .inr rfl
    · exact .inl hx
  | takePending state =>
    match a, h with
    | .ok (some p), h => exact .inl (h.2 hx)
    | .ok none, h => exact .inl (h hx)
    | .error e, h => exact .inl (h hx)
  | _ => exact .inl (h hx)

theorem Lossy.handed {state : String} {p : Pending}
    (h : Lossy t (.takePending state) (.ok (some p)) held held') : (state, p) ∈ held := h.1

end

/-- The records that are kept in memory, whether their time is over or not. -/
def Store.Memory.records (m : Memory) : List (String × Pending) :=
  m.pendings.records.entries.map fun e => (e.1, e.2.pending)

/-- Memory is such a store. -/
theorem lossy_answer (x : Store.Surroundings) (c : Call) (m : Store.Memory) :
    Lossy x.now c (m.answer x c).1 m.records (m.answer x c).2.records := by
  cases c with
  | savePending state p =>
    exact List.map_subset _ Store.LockedLogins.records_save_subset
  | takePending state =>
    have kept : (m.answer x (.takePending state)).2.records ⊆ m.records :=
      List.map_subset _ Store.LockedLogins.records_take_subset
    change Lossy x.now (.takePending state) (m.pendings.take x.now state).1 _ _
    match h : (m.pendings.take x.now state).1 with
    | .error e => exact kept
    | .ok none => exact kept
    | .ok (some p) =>
      obtain ⟨e, he, -, rfl⟩ :=
        Store.PendingLogins.take_eq_some.mp (Store.LockedLogins.take_eq_some.mp h)
      exact ⟨List.mem_map_of_mem (f := fun e => (e.1, e.2.pending)) (Store.mem_of_lookup he), kept⟩
  | _ => exact List.Subset.refl _

/-! ### Pages -/

variable {ι : Type}

/-- A page that people may be sent back to: the default page, or a page on the web that one of the
visitors came from, whose origin is on the list or is the default page's own. -/
def Welcome (default : Url) (allowed : List String) (visits : ι → Visit) (page : Url) : Prop :=
  page = default ∨ ∃ k text, visits k = .authorize (some text) ∧
    Url.parse? (Text.trim text) = some page ∧ page.isWeb ∧
    (page.origin ∈ allowed.map (Text.trimEnd '/') ∨ page.origin = default.origin)

/-- The page that a first visit resolves is one that people may be sent back to. -/
theorem welcome_resolve {default : Url} {allowed : List String} {patience : Nat}
    {visits : ι → Visit} {k : ι} {referrer : Option String} (hk : visits k = .authorize referrer) :
    Welcome default allowed visits
      ((Config.Redirects.of default allowed patience).resolve referrer) := by
  rcases Config.Redirects.resolve_cases (.of default allowed patience) referrer with
    h | ⟨text, rfl, hu, ha⟩
  · exact .inl h
  · exact .inr ⟨k, text, hk, hu, Config.Redirects.allows_of.mp ha⟩

/-! ### Runs -/

namespace Service

variable {s : Service} {visits : ι → Visit} {es : List (Event services ι)}

/-- A record of the page that one of the first visits resolved. -/
def IsOf (s : Service) (visits : ι → Visit) (p : Pending) : Prop :=
  ∃ k referrer m, visits k = .authorize referrer ∧ p = .of (s.redirects.resolve referrer) m

/-- A person is sent to the provider only where its address can be read and the record was saved. -/
theorem departure_cases (s : Service) (referrer : Url) (state : String)
    (saved : Except Error Unit) :
    (∃ a ps, Url.parse? s.registration.authUri = some a ∧
      s.departure referrer state saved = a.appendPairs ps) ∨
    s.departure referrer state saved = referrer.withOutcome "error" Failure.loginFailed.word := by
  unfold departure
  split
  next u hu =>
    unfold GitHub.authorizeUrl at hu
    cases ha : Url.parse s.registration.authUri with
    | error e => simp [ha] at hu
    | ok a =>
      simp only [ha, Except.ok.injEq] at hu
      exact .inl ⟨a, _, by simp [Url.parse?, ha, Except.toOption], hu.symm⟩
  next => exact .inr rfl

/-- A record that was taken leads back to a page that people may be sent to. -/
theorem welcome_origin {default : Url} {allowed : List String} {patience : Nat}
    (configured : s.redirects = .of default allowed patience)
    (reads : ∀ k referrer, visits k = .authorize referrer →
      (s.redirects.resolve referrer).ReadsBack)
    {p : Pending} (hp : s.IsOf visits p) : Welcome default allowed visits (s.origin p) := by
  obtain ⟨k, referrer, m, hk, rfl⟩ := hp
  rw [s.origin_of (reads k referrer hk), configured]
  exact welcome_resolve hk

/-- Every record that is kept, and every one that was ever taken, is of a first visit's page. -/
structure Honest (s : Service) (visits : ι → Visit) (es : List (Event services ι))
    (held : List (String × Pending)) : Prop where
  held : ∀ x ∈ held, s.IsOf visits x.2
  taken : ∀ k state p, Took k es state p → s.IsOf visits p

variable [DecidableEq ι] {held held' : List (String × Pending)} {k : ι} {t : Moment} {c : Call}
  {a : c.Answer}

theorem Honest.step (h : s.Honest visits es held)
    (asks : s.visitAsks k (visits k) (history k es) c) (answered : Lossy t c a held held') :
    s.Honest visits (es ++ [⟨k, t, c, a⟩]) held' where
  held x hx := by
    rcases answered.saved hx with hx | rfl
    · exact h.held x hx
    · obtain ⟨referrer, _, _, _, m, hk, -, -, hp⟩ := s.visit_of_save k asks
      exact ⟨k, referrer, m, hk, hp⟩
  taken j state p := by
    rintro ⟨t', he⟩
    rcases List.mem_append.mp he with he | he
    · exact h.taken j state p ⟨t', he⟩
    · obtain ⟨rfl, rfl, rfl, rfl⟩ := List.mem_singleton.mp he
      exact h.held _ answered.handed

variable {now : ι → Routine services Outcome}

theorem honest_of_run (run : Run Lossy (fun k => s.visit (visits k)) [] es now held) :
    s.Honest visits es held :=
  run.invariant (fun k => s.visit_obeys k (visits k)) ⟨by simp, by simp [Took]⟩
    fun _ _ _ _ _ _ _ asks answered h => h.step asks answered

/-- No open redirect. Wherever a visit ends, it ends at the provider's page or at a welcome one, but
for the query; and what a second visit has to tell, a token too, is put into the query of a welcome
page. -/
theorem no_open_redirect {default : Url} {allowed : List String} {patience : Nat}
    (configured : s.redirects = .of default allowed patience)
    (reads : ∀ k referrer, visits k = .authorize referrer →
      (s.redirects.resolve referrer).ReadsBack)
    (run : Run Lossy (fun k => s.visit (visits k)) [] es now held) {k : ι} {o : Outcome}
    (ended : now k = .done o) :
    (∀ u, o.location? = some u →
      (∃ a, Url.parse? s.registration.authUri = some a ∧ u.SameButQuery a) ∨
      ∃ page, Welcome default allowed visits page ∧ u.SameButQuery page) ∧
    ∀ q, visits k = .callback q →
      o = .rejected ∨ ∃ page e, Welcome default allowed visits page ∧ o = .ofEnding page e := by
  have hends := run.ended (fun k => s.visit_obeys k (visits k)) ended
  have honest := honest_of_run run
  cases hv : visits k with
  | authorize referrer =>
    rw [hv] at hends
    obtain ⟨_, _, _, d, _, saved, -, rfl⟩ := hends
    refine ⟨fun u hu => ?_, fun q hq => by cases hq⟩
    rw [Outcome.location?_ofDeparture] at hu
    obtain ⟨answered, -, rfl⟩ := Option.map_eq_some_iff.mp hu
    rcases s.departure_cases (s.redirects.resolve referrer) (stateText d) answered with
      ⟨a, ps, ha, h⟩ | h
    · exact .inl ⟨a, ha, h ▸ Url.sameButQuery_appendPairs a ps⟩
    · refine .inr ⟨s.redirects.resolve referrer, ?_, h ▸ Url.sameButQuery_withOutcome ..⟩
      rw [configured]
      exact welcome_resolve hv
  | callback q =>
    rw [hv] at hends
    rcases hends with ⟨rfl, -⟩ | ⟨state, p, e, ⟨t, hp⟩, -, rfl⟩
    · exact ⟨nofun, fun _ _ => .inl rfl⟩
    · have hpage := welcome_origin configured reads
        (honest.taken k state p ⟨t, (mem_history.mp hp).1⟩)
      refine ⟨fun u hu => .inr ⟨s.origin p, hpage, ?_⟩, fun _ _ => .inr ⟨s.origin p, e, hpage, rfl⟩⟩
      cases e with
      | token text => obtain rfl := Option.some.inj hu; exact Url.sameButQuery_withOutcome ..
      | failure f => obtain rfl := Option.some.inj hu; exact Url.sameButQuery_withOutcome ..
      | undated => cases hu

theorem no_open_redirect_sample :
    (∃ a, Url.parse? sample.registration.authUri = some a ∧
      ((samplePage "/home").withOutcome "error" "access_denied").SameButQuery a) ∨
    ∃ page, Welcome (samplePage "/") [] sampleVisits page ∧
      ((samplePage "/home").withOutcome "error" "access_denied").SameButQuery page := by
  obtain ⟨now, run, ended⟩ := run_sample Lossy (x := []) (List.Subset.refl _)
    (List.Subset.refl _) (List.Subset.refl _) ⟨List.mem_cons_self, List.Subset.refl _⟩
  exact (no_open_redirect rfl readsBack_sample run ended).1 _ rfl

end Service
end SignOn
