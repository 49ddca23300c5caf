import SignOn.Proofs.Login.Accounts
import SignOn.Proofs.Store.PendingLogins
import SignOn.Proofs.Transcript
import SignOn.Store.Remote

/-!
The course of a second visit: which calls it makes and in which order, and how it ends, for every
way in which it may be answered. Whatever it is answered, the provider is asked nothing before a
record was taken, and nothing is stored before the provider told the profile.
-/
namespace SignOn

open Login

/-! ### Calls -/

/-- A call to the stores of identities and users that failed. -/
def Reply.Failed : Reply services → Prop
  | ⟨.findIdentity _, .error _⟩ => True
  | ⟨.createIdentity _, .error _⟩ => True
  | ⟨.createUser _, .error _⟩ => True
  | _ => False

/-- The calls that are neither for the provider nor for the pending sign-ons. -/
def Login.Call.isInner : Call → Bool
  | .now | .drawId | .findIdentity _ | .createIdentity _ | .createUser _ => true
  | _ => false

/-- The calls for the pending sign-ons. -/
def Login.Call.isPending : Call → Bool
  | .savePending _ _ | .takePending _ => true
  | _ => false

/-- The calls that may store an identity or a user. -/
def Login.Call.creates : Call → Bool
  | .createIdentity _ | .createUser _ => true
  | _ => false

/-! ### The reference -/

/-- A person comes back with a code, and without an error. -/
structure Login.Query.Offers (q : Query) (code : String) : Prop where
  agreed : q.error = none
  given : q.code = some code
  notBlank : Text.isBlankText code = false

/-- The identity that a call for an account was answered with. -/
def Reply.identity? (b : Account) : Reply services → Option Identity
  | ⟨.findIdentity a, .ok found⟩ => if a = b then found else none
  | ⟨.createIdentity j, .ok i⟩ => if j.external = some b then some i else none
  | _ => none

/-- Nothing failed in the stores: the identity of a profile's account was found or stored, and then
its user was. -/
structure Recorded (p : GitHub.Profile) (l : List (Reply services)) (i : Identity) : Prop where
  sound : ∀ a ∈ l, ¬ a.Failed
  identity : l.findSome? (Reply.identity? p.account) = some i
  user : ∃ u v, u.account = p.account ∧ u.identityId = i.id ∧ ⟨.createUser u, .ok v⟩ ∈ l

namespace Service

variable (s : Service) (q : Query)

/-- How a sign-on ends for an identity at a time: with a token, unless it cannot be signed. -/
def issued (i : Identity) (m : Moment) : Ending :=
  if s.tokens.CanDate m then
    match s.tokens.generate i m with
    | .ok text => .token text
    | .error _ => .failure .loginFailed
  else .undated

/-- How a sign-on ends for a profile, after the calls that it takes to store it. -/
inductive Issues (p : GitHub.Profile) (l : List (Reply services)) : Ending → Prop
  | unstored (failed : ∃ a ∈ l, a.Failed) : Issues p l (.failure .loginFailed)
  | stored {i : Identity} {m : Moment} (recorded : Recorded p l i)
      (now : l.getLast? = some ⟨.now, m⟩) : Issues p l (s.issued i m)

/-- What follows once the record of the state was taken. The provider is asked for the token, the
profile and the addresses, each once and in this order, up to the first that fails; only the
addresses may fail without an end to it. -/
inductive Finishes : List (Reply services) → Ending → Prop
  | denied (h : q.error.isSome) : Finishes [] (.failure .accessDenied)
  | codeless (herror : q.error = none) (hcode : ∀ code, q.code = some code → Text.isBlankText code) :
      Finishes [] (.failure .invalidCode)
  | refused {code : String} {e : Error} (offers : q.Offers code) :
      Finishes [⟨.exchange code, .error e⟩] (.failure .invalidCode)
  | unavailable {code accessToken : String} {e : Error} (offers : q.Offers code) :
      Finishes [⟨.exchange code, .ok accessToken⟩, ⟨.profile accessToken, .error e⟩]
        (.failure .profileUnavailable)
  | resolved {code accessToken : String} {p : GitHub.Profile}
      {addresses : Except Error (List GitHub.Address)} {l : List (Reply services)} {e : Ending}
      (offers : q.Offers code) (inner : ∀ a ∈ l, a.call.isInner) (issues : s.Issues p l e) :
      Finishes (⟨.exchange code, .ok accessToken⟩ :: ⟨.profile accessToken, .ok p⟩ ::
        ⟨.addresses accessToken, addresses⟩ :: l) e

/-- The course of a second visit. The state comes before all else: without one whose record is
taken, nothing but that is asked. -/
inductive Course : List (Reply services) → Outcome → Prop
  | stateless (h : ∀ state, q.state = some state → state = "") : Course [] .rejected
  | unknown {state : String} {taken : Except Error (Option Pending)} (h : q.state = some state)
      (hne : state ≠ "") (htaken : ∀ p, taken ≠ .ok (some p)) :
      Course [⟨.takePending state, taken⟩] .rejected
  | taken {state : String} {p : Pending} {l : List (Reply services)} {e : Ending}
      (h : q.state = some state) (hne : state ≠ "") (finishes : s.Finishes q l e) :
      Course (⟨.takePending state, .ok (some p)⟩ :: l) (.ofEnding (s.origin p) e)

/-! ### The visit takes that course -/

variable {s q} {p : GitHub.Profile} {i : Identity} {l : List (Reply services)}

theorem recordUser_answered {r : Except Error Identity} (h : (recordUser p i).Answered l r) :
    ∃ id m u stored, l = [⟨.drawId, id⟩, ⟨.now, m⟩, ⟨.createUser u, stored⟩] ∧
      (u.account = p.account ∧ u.identityId = i.id) ∧ r = stored.map fun _ => i := by
  simp only [recordUser, ask, Routine.call, Routine.bind_eq, Routine.bind, Routine.Answered] at h
  obtain ⟨id, l, rfl, m, l, rfl, stored, l, rfl, h⟩ := h
  cases stored with
  | error e =>
    obtain ⟨rfl, rfl⟩ := h
    exact ⟨id, m, _, _, rfl, ⟨rfl, rfl⟩, rfl⟩
  | ok v =>
    obtain ⟨rfl, rfl⟩ := h
    exact ⟨id, m, _, _, rfl, ⟨rfl, rfl⟩, rfl⟩

/-- What becomes of a profile in the stores: what is answered is recorded, or something failed. -/
def Settled (p : GitHub.Profile) (l : List (Reply services)) : Except Error Identity → Prop
  | .error _ => ∃ a ∈ l, a.Failed
  | .ok i => Recorded p l i

/-- Once the identity was answered, all hangs on its user. -/
theorem settled_of_user {r : Except Error Identity} (l₁ : List (Reply services))
    {l₂ : List (Reply services)} (sound : ∀ a ∈ l₁, ¬ a.Failed)
    (identity : l₁.findSome? (Reply.identity? p.account) = some i)
    (inner : ∀ a ∈ l₁, a.call.isInner) (h : (recordUser p i).Answered l₂ r) :
    (∀ a ∈ l₁ ++ l₂, a.call.isInner) ∧ Settled p (l₁ ++ l₂) r := by
  obtain ⟨id, m, u, stored, rfl, hu, rfl⟩ := recordUser_answered h
  refine ⟨List.forall_mem_append.mpr ⟨inner, by simp [Call.isInner]⟩, ?_⟩
  cases stored with
  | error e => exact ⟨⟨.createUser u, .error e⟩, by simp, trivial⟩
  | ok v =>
    refine ⟨List.forall_mem_append.mpr ⟨sound, by simp [Reply.Failed]⟩, ?_,
      u, v, hu.1, hu.2, by simp⟩
    rw [List.findSome?_append, identity, Option.some_or]

theorem settled_of_answered {emails : List Email} {r : Except Error Identity}
    (h : (resolveIdentity p emails).Answered l r) : (∀ a ∈ l, a.call.isInner) ∧ Settled p l r := by
  simp only [resolveIdentity, ask, Routine.call, Routine.bind_eq, Routine.bind,
    Routine.Answered] at h
  obtain ⟨found, l, rfl, h⟩ := h
  cases found with
  | error e =>
    obtain ⟨rfl, rfl⟩ := h
    exact ⟨by simp [Call.isInner], _, List.mem_cons_self, trivial⟩
  | ok found =>
    cases found with
    | some i =>
      have user : (recordUser p i).Answered l r := h
      exact settled_of_user [_] (by simp [Reply.Failed]) (by simp [Reply.identity?])
        (by simp [Call.isInner]) user
    | none =>
      simp only [Routine.Answered] at h
      obtain ⟨id, l, rfl, stored, l, rfl, h⟩ := h
      cases stored with
      | error e =>
        obtain ⟨rfl, rfl⟩ := h
        exact ⟨by simp [Call.isInner], ⟨.createIdentity (candidate p emails id), .error e⟩, by simp,
          trivial⟩
      | ok i =>
        have user : (recordUser p i).Answered l r := h
        have hfind : Reply.identity? p.account ⟨.findIdentity p.account, .ok none⟩ = none :=
          if_pos rfl
        have hdraw : Reply.identity? p.account ⟨.drawId, id⟩ = none := rfl
        have hcreate : Reply.identity? p.account
            ⟨.createIdentity (candidate p emails id), .ok i⟩ = some i := if_pos rfl
        exact settled_of_user [_, _, _] (by simp [Reply.Failed])
          (by simp only [List.findSome?_cons, hfind, hdraw, hcreate]) (by simp [Call.isInner]) user

theorem issue_answered {e : Ending} (h : (s.issue i).Answered l e) :
    ∃ m, l = [⟨.now, m⟩] ∧ e = s.issued i m := by
  simp only [issue, ask, Routine.call, Routine.bind_eq, Routine.bind, Routine.Answered] at h
  obtain ⟨m, l, rfl, h⟩ := h
  refine ⟨m, ?_⟩
  rw [issued]
  split at h
  next hd =>
    rw [if_pos hd]
    cases hg : s.tokens.generate i m with
    | ok text =>
      rw [hg] at h
      obtain ⟨rfl, rfl⟩ := h
      exact ⟨rfl, rfl⟩
    | error e =>
      rw [hg] at h
      obtain ⟨rfl, rfl⟩ := h
      exact ⟨rfl, rfl⟩
  next hd =>
    obtain ⟨rfl, rfl⟩ := h
    rw [if_neg hd]
    exact ⟨rfl, rfl⟩

theorem issues_of_answered {r : Except Error Identity} {l₁ l₂ : List (Reply services)} {e : Ending}
    (h : (match r with
      | .error _ => pure (.failure .loginFailed)
      | .ok i => s.issue i : Routine services Ending).Answered l₂ e) (settled : Settled p l₁ r) :
    (∀ a ∈ l₂, a.call.isInner) ∧ s.Issues p (l₁ ++ l₂) e := by
  cases r with
  | error _ =>
    obtain ⟨rfl, rfl⟩ := h
    rw [List.append_nil]
    exact ⟨by simp, .unstored settled⟩
  | ok i =>
    obtain ⟨m, rfl, rfl⟩ := issue_answered h
    obtain ⟨sound, identity, u, v, haccount, hid, hm⟩ := settled
    have recorded : Recorded p (l₁ ++ [⟨.now, m⟩]) i := by
      refine ⟨List.forall_mem_append.mpr ⟨sound, by simp [Reply.Failed]⟩, ?_,
        u, v, haccount, hid, List.mem_append_left _ hm⟩
      rw [List.findSome?_append, identity, Option.some_or]
    exact ⟨by simp [Call.isInner], .stored recorded (by simp)⟩

theorem finishes_of_answered {e : Ending} (h : (s.finish q).Answered l e) :
    s.Finishes q l e := by
  unfold finish at h
  split at h
  next herror =>
    obtain ⟨rfl, rfl⟩ := h
    exact .denied herror
  next herror =>
    have agreed : q.error = none := by simpa using herror
    simp only at h
    split at h
    next hblank =>
      obtain ⟨rfl, rfl⟩ := h
      exact .codeless agreed fun code hcode => by rwa [hcode] at hblank
    next hblank =>
      have offers : q.Offers (q.code.getD "") := by
        refine ⟨agreed, ?_, by simpa using hblank⟩
        cases hcode : q.code with
        | none => exact absurd (by rw [hcode]; rfl) hblank
        | some code => rfl
      simp only [ask, Routine.call, Routine.bind_eq, Routine.bind, Routine.Answered] at h
      obtain ⟨exchanged, l, rfl, h⟩ := h
      cases exchanged with
      | error e =>
        obtain ⟨rfl, rfl⟩ := h
        exact .refused offers
      | ok accessToken =>
        simp only [signOnWith, ask, Routine.call, Routine.bind_eq, Routine.bind,
          Routine.Answered] at h
        obtain ⟨profile, l, rfl, h⟩ := h
        cases profile with
        | error e =>
          obtain ⟨rfl, rfl⟩ := h
          exact .unavailable offers
        | ok p =>
          obtain ⟨addresses, l, rfl, h⟩ := h
          obtain ⟨r, l₁, l₂, rfl, hresolve, hissue⟩ := Routine.answered_bind.mp h
          obtain ⟨inner, settled⟩ := settled_of_answered hresolve
          obtain ⟨inner', issues⟩ := issues_of_answered hissue settled
          exact .resolved offers (List.forall_mem_append.mpr ⟨inner, inner'⟩) issues

theorem course_of_answered {o : Outcome} (h : (s.callback q).Answered l o) : s.Course q l o := by
  simp only [callback] at h
  split at h
  next hstate =>
    obtain ⟨rfl, rfl⟩ := h
    exact .stateless fun state hq => by rwa [hq] at hstate
  next hne =>
    have hstate : q.state = some (q.state.getD "") := by
      cases hq : q.state with
      | none => simp [hq] at hne
      | some state => rfl
    simp only [ask, Routine.call, Routine.bind_eq, Routine.bind, Routine.Answered] at h
    obtain ⟨taken, l, rfl, h⟩ := h
    cases taken with
    | error e =>
      obtain ⟨rfl, rfl⟩ := h
      exact .unknown hstate hne (by simp)
    | ok kept =>
      cases kept with
      | none =>
        obtain ⟨rfl, rfl⟩ := h
        exact .unknown hstate hne (by simp)
      | some p =>
        obtain ⟨e, l, _, rfl, hfinish, rfl, rfl⟩ := Routine.answered_bind.mp h
        rw [List.append_nil]
        exact .taken hstate hne (finishes_of_answered hfinish)

/-! ### The answers decide how it ends -/

theorem Issues.unique {e e' : Ending} (h : s.Issues p l e) (h' : s.Issues p l e') : e = e' := by
  cases h with
  | unstored failed =>
    obtain ⟨a, ha, failed⟩ := failed
    cases h' with
    | unstored => rfl
    | stored recorded => exact absurd failed (recorded.sound a ha)
  | stored recorded now =>
    cases h' with
    | unstored failed =>
      obtain ⟨a, ha, failed⟩ := failed
      exact absurd failed (recorded.sound a ha)
    | stored recorded' now' =>
      obtain rfl := Option.some.inj (recorded.identity.symm.trans recorded'.identity)
      cases now.symm.trans now'
      rfl

theorem Finishes.unique {e e' : Ending} (h : s.Finishes q l e) (h' : s.Finishes q l e') :
    e = e' := by
  cases h with
  | denied herror =>
    cases h' with
    | denied => rfl
    | codeless agreed => simp [agreed] at herror
  | codeless agreed =>
    cases h' with
    | denied herror => simp [agreed] at herror
    | codeless => rfl
  | refused => cases h' with | refused => rfl
  | unavailable => cases h' with | unavailable => rfl
  | resolved offers inner issues =>
    cases h' with
    | resolved offers' inner' issues' => exact issues.unique issues'

theorem Course.unique {o o' : Outcome} (h : s.Course q l o) (h' : s.Course q l o') : o = o' := by
  cases h with
  | stateless => cases h' with | stateless => rfl
  | unknown h hne htaken =>
    cases h' with
    | unknown => rfl
    | taken => exact absurd rfl (htaken _)
  | taken h hne finishes =>
    cases h' with
    | unknown h hne htaken => exact absurd rfl (htaken _)
    | taken h' hne' finishes' => rw [finishes.unique finishes']

end Service

/-! ### What it leaves behind -/

section
variable {σ β : Type} {answer : (c : Call) → σ → c.Answer × σ} {accounts : σ → β}

/-- No record is kept under a state. -/
def Gone (answer : (c : Call) → σ → c.Answer × σ) (state : String) (x : σ) : Prop :=
  ∀ p, (answer (.takePending state) x).1 ≠ .ok (some p)

/-- Surroundings where a record is gone once it was taken and stays so as long as nothing else is
saved or taken, and where what `accounts` tells of the identities and users changes only when one
is to be stored. -/
structure Keeping (answer : (c : Call) → σ → c.Answer × σ) (accounts : σ → β) : Prop where
  taken : ∀ state x p, (answer (.takePending state) x).1 = .ok (some p) →
    Gone answer state (answer (.takePending state) x).2
  gone : ∀ c state x, c.isPending = false → Gone answer state x → Gone answer state (answer c x).2
  accounts : ∀ c x, c.creates = false → accounts (answer c x).2 = accounts x

/-- The answer of a call that failed, if it can fail. -/
def Login.Call.failure? (e : Error) : (c : Call) → Option c.Answer
  | .now | .drawState | .drawId => none
  | .savePending _ _ => some (some (.error e))
  | .takePending _ | .exchange _ | .profile _ | .addresses _ | .loadIdentity _
  | .findIdentity _ | .createIdentity _ | .createUser _ => some (.error e)

/-- The same surroundings, but some calls fail without effect. -/
def failing (fails : Call → Option Error) (answer : (c : Call) → σ → c.Answer × σ) (c : Call)
    (x : σ) : c.Answer × σ :=
  match (fails c).bind fun e => c.failure? e with
  | some r => (r, x)
  | none => answer c x

theorem failing_cases (answer : (c : Call) → σ → c.Answer × σ) (fails : Call → Option Error)
    (c : Call) (x : σ) :
    failing fails answer c x = answer c x ∨ (failing fails answer c x).2 = x := by
  unfold failing
  split
  · exact .inr rfl
  · exact .inl rfl

theorem gone_failing (fails : Call → Option Error) {state : String} {x : σ} :
    Gone (failing fails answer) state x ↔
      (fails (.takePending state)).isSome ∨ Gone answer state x := by
  unfold Gone failing
  cases hf : fails (.takePending state) <;> simp [Call.failure?]

/-- Records stay gone, and identities and users as they are, also where calls fail. -/
theorem keeping_failing (h : Keeping answer accounts) (fails : Call → Option Error) :
    Keeping (failing fails answer) accounts where
  taken state x p hp := by
    rw [gone_failing]
    cases hf : fails (.takePending state) with
    | some e => exact .inl rfl
    | none =>
      have hsame : failing fails answer (.takePending state) x = answer (.takePending state) x := by
        rw [failing, hf]
        rfl
      rw [hsame] at hp ⊢
      exact .inr (h.taken state x p hp)
  gone c state x hc hx := by
    rw [gone_failing] at hx ⊢
    refine hx.imp_right fun hgone => ?_
    rcases failing_cases answer fails c x with hsame | hsame
    · rw [hsame]
      exact h.gone c state x hc hgone
    · rwa [hsame]
  accounts c x hc := by
    rcases failing_cases answer fails c x with hsame | hsame
    · rw [hsame, h.accounts c x hc]
    · rw [hsame]

namespace Store

theorem keeping_memory (s : Surroundings) : Keeping (Memory.answer s) Memory.accounts where
  taken state m p _ q h := by
    exact LockedLogins.take_take s.now s.now q h
  gone c state m hc h := by
    cases c with
    | savePending | takePending => cases hc
    | _ => exact h
  accounts c m hc := by
    cases c with
    | createIdentity | createUser => cases hc
    | _ => rfl

/-- Looking for a document changes nothing. -/
theorem run_find {α : Type} (k : Documents.Kind α) (f : Documents.Filter) (m : Documents.Server) :
    ((k.find f).run Documents.Server.answer m).2 = m := by
  unfold Documents.Kind.find
  rw [Routine.run_bind]
  split <;> rfl

theorem take_cache (state : String) (now : Moment) (m : Cache.Server) (p : Pending) :
    ((Cache.take state).run (Cache.Server.answer now)
      ((Cache.take state).run (Cache.Server.answer now) m).2).1 ≠ .ok (some p) := by
  have hcommand (m : Cache.Server) : (Cache.ask (.take (Cache.key state))).run
      (Cache.Server.answer now) m = Cache.Server.answer now (.take (Cache.key state)) m := rfl
  have hafter : ((Cache.take state).run (Cache.Server.answer now) m).2 =
      (Cache.Server.answer now (.take (Cache.key state)) m).2 := by
    rw [Cache.take, Routine.run_bind, hcommand]
    split
    · rfl
    · rfl
    · split <;> rfl
  have hnone : (Cache.Server.answer now (.take (Cache.key state))
      (Cache.Server.answer now (.take (Cache.key state)) m).2).1 = .ok none := by
    simp only [Cache.Server.answer, lookup_filter_ne]
    rfl
  rw [hafter, Cache.take, Routine.run_bind, hcommand, hnone]
  exact fun h => by cases h

theorem keeping_remote (s : Surroundings) : Keeping (Remote.answer s) Remote.documents where
  taken state m p _ q h := take_cache state s.now m.cache q h
  gone c state m hc h := by
    cases c with
    | savePending | takePending => cases hc
    | _ => exact h
  accounts c m hc := by
    cases c with
    | createIdentity | createUser => cases hc
    | loadIdentity id => exact run_find _ _ m.documents
    | findIdentity a => exact run_find _ _ m.documents
    | _ => rfl

end Store

namespace Service

variable {s : Service} {q : Query} {l : List (Reply services)}

theorem Finishes.isPending {e : Ending} (h : s.Finishes q l e) :
    ∀ a ∈ l, a.call.isPending = false := by
  cases h with
  | resolved offers inner issues =>
    intro a ha
    simp only [List.mem_cons] at ha
    rcases ha with rfl | rfl | rfl | ha
    · rfl
    · rfl
    · rfl
    · have := inner a ha
      obtain ⟨c, r⟩ := a
      cases c with
      | savePending | takePending => cases this
      | _ => rfl
  | _ => simp [Call.isPending]

/-- Nothing is stored unless the provider gave a token and told the profile. -/
theorem Finishes.creates {e : Ending} (h : s.Finishes q l e) :
    (∀ a ∈ l, a.call.creates = false) ∨ ∃ code accessToken p,
      ⟨.exchange code, .ok accessToken⟩ ∈ l ∧ ⟨.profile accessToken, .ok p⟩ ∈ l := by
  cases h with
  | @resolved code accessToken p => exact .inr ⟨code, accessToken, p, by simp, by simp⟩
  | _ => exact .inl (by simp [Call.creates])

theorem Course.creates {o : Outcome} (h : s.Course q l o) :
    (∀ a ∈ l, a.call.creates = false) ∨ ∃ code accessToken p,
      ⟨.exchange code, .ok accessToken⟩ ∈ l ∧ ⟨.profile accessToken, .ok p⟩ ∈ l := by
  cases h with
  | stateless => exact .inl (by simp)
  | unknown => exact .inl (by simp [Call.creates])
  | taken h hne finishes =>
    rcases finishes.creates with hnone | ⟨code, accessToken, p, hexchange, hprofile⟩
    · exact .inl (List.forall_mem_cons.mpr ⟨rfl, hnone⟩)
    · exact .inr ⟨code, accessToken, p, List.mem_cons_of_mem _ hexchange,
        List.mem_cons_of_mem _ hprofile⟩

/-- A second visit takes its course, whoever answers it, and ends in the one way that its answers
decide. Where records that were taken are gone, the one that it took is gone afterwards; and
identities and users change only if the provider gave a token and told the profile. -/
theorem callback_takes_course (answer : (c : Call) → σ → c.Answer × σ) (x : σ) :
    (∀ o, s.Course q ((s.callback q).transcript answer x) o ↔
      o = ((s.callback q).run answer x).1) ∧
    ∀ (β : Type) (accounts : σ → β), Keeping answer accounts →
      (∀ state p, ⟨.takePending state, .ok (some p)⟩ ∈ (s.callback q).transcript answer x →
        Gone answer state ((s.callback q).run answer x).2) ∧
      (accounts ((s.callback q).run answer x).2 ≠ accounts x → ∃ code accessToken p,
        ⟨.exchange code, .ok accessToken⟩ ∈ (s.callback q).transcript answer x ∧
          ⟨.profile accessToken, .ok p⟩ ∈ (s.callback q).transcript answer x) := by
  have course := course_of_answered ((s.callback q).answered_run answer x)
  refine ⟨fun o => ⟨fun h => h.unique course, fun h => h ▸ course⟩,
    fun β accounts keeping => ⟨fun state p hm => ?_, fun hne => ?_⟩⟩
  · rw [← Routine.after_transcript]
    generalize hl : (s.callback q).transcript answer x = l at course hm
    generalize ((s.callback q).run answer x).1 = o at course
    cases course with
    | stateless => cases hm
    | unknown h hne htaken =>
      cases List.mem_singleton.mp hm
      exact absurd rfl (htaken p)
    | taken h hne finishes =>
      rcases List.mem_cons.mp hm with heq | hm
      · cases heq
        have taken := (Routine.answer_of_transcript hl).symm
        change Gone answer state (Routine.after (I := services) answer _
          (answer (.takePending state) x).2)
        exact Routine.after_keeps (Gone answer state) (keeping.taken state x p taken)
          fun a ha y => keeping.gone a.call state y (finishes.isPending a ha)
      · cases finishes.isPending _ hm
  · refine course.creates.resolve_left fun hcalls => hne ?_
    rw [← Routine.after_transcript]
    exact Routine.after_keeps (fun y => accounts y = accounts x) rfl
      fun a ha y hy => (keeping.accounts _ _ (hcalls a ha)).trans hy

/-- A machine that kept the record of a person's state. -/
def sampleKept : Store.Memory :=
  { Store.Memory.empty with pendings := .sound ⟨[(stateText sampleState,
    ⟨.of (samplePage "/") (.ofSeconds 0), .ofSeconds 600⟩)]⟩ }

theorem take_sampleKept : (Store.Memory.answer sampleSurroundings
    (.takePending (stateText sampleState)) sampleKept).1 =
      .ok (some (.of (samplePage "/") (.ofSeconds 0))) := by
  have htake : (sampleKept.pendings.records.take (.ofSeconds 60) (stateText sampleState)).1 =
      some (.of (samplePage "/") (.ofSeconds 0)) :=
    Store.PendingLogins.take_eq_some.mpr
      ⟨⟨.of (samplePage "/") (.ofSeconds 0), .ofSeconds 600⟩, List.lookup_cons_self, by decide, rfl⟩
  exact Store.LockedLogins.take_eq_some.mpr htake

/-- A provider that knows one person, and does not answer about addresses. -/
def sampleGitHub : GitHub.Carrier := fun r =>
  if r.url.path = "/api/user/emails".toList then none
  else if r.method = "POST" then
    some ⟨200, Text.Utf8.encode "\x7b\"access_token\":\"t\"\x7d"⟩
  else some ⟨200, Text.Utf8.encode "\x7b\"id\":42,\"login\":\"newcomer\"\x7d"⟩

def sampleOnline : Store.Surroundings := { sampleSurroundings with carry := sampleGitHub }

/-- The person whose record was kept comes back with a code. -/
def sampleCoded : Query := ⟨some (stateText sampleState), some "code", none, none⟩

theorem stored_sampleCoded :
    ((sample.callback sampleCoded).run (Store.Memory.answer sampleOnline)
      sampleKept).2.accounts ≠ sampleKept.accounts := by
  intro h
  have hrows := congrArg (fun a => a.identities.rows.length) h
  revert hrows
  decide +kernel

/-- A person whom nobody knows yet is asked about all along, and a user of theirs is stored. -/
theorem callback_takes_course_sample : ∃ (pending : Pending) (accessToken : String)
    (p : GitHub.Profile) (addresses : Except Error (List GitHub.Address))
    (l : List (Reply services)) (e : Ending),
    (sample.callback sampleCoded).transcript (Store.Memory.answer sampleOnline) sampleKept =
        ⟨.takePending (stateText sampleState), .ok (some pending)⟩ ::
          ⟨.exchange "code", .ok accessToken⟩ :: ⟨.profile accessToken, .ok p⟩ ::
          ⟨.addresses accessToken, addresses⟩ :: l ∧
      (∀ a ∈ l, a.call.isInner) ∧ sample.Issues p l e ∧
      ((sample.callback sampleCoded).run (Store.Memory.answer sampleOnline) sampleKept).1 =
        .ofEnding (sample.origin pending) e ∧
      Gone (Store.Memory.answer sampleOnline) (stateText sampleState)
        ((sample.callback sampleCoded).run (Store.Memory.answer sampleOnline) sampleKept).2 := by
  obtain ⟨course, kept⟩ := callback_takes_course (s := sample) (q := sampleCoded)
    (Store.Memory.answer sampleOnline) sampleKept
  have course := (course _).mpr rfl
  obtain ⟨gone, stored⟩ := kept _ _ (Store.keeping_memory sampleOnline)
  obtain ⟨-, accessToken, p, -, hprofile⟩ := stored stored_sampleCoded
  generalize hl : (sample.callback sampleCoded).transcript
    (Store.Memory.answer sampleOnline) sampleKept = l at course gone hprofile
  generalize ((sample.callback sampleCoded).run
    (Store.Memory.answer sampleOnline) sampleKept).1 = o at course
  -- only one course stores anything
  cases course with
  | stateless => cases hprofile
  | unknown => cases List.mem_singleton.mp hprofile
  | taken h hne finishes =>
    cases h
    have hprofile := (List.mem_cons.mp hprofile).resolve_left (by simp)
    cases finishes with
    | denied | codeless => cases hprofile
    | refused => cases List.mem_singleton.mp hprofile
    | unavailable => simp at hprofile
    | resolved offers inner issues =>
      cases offers.given
      exact ⟨_, _, _, _, _, _, rfl, inner, issues, rfl, gone _ _ List.mem_cons_self⟩

end Service
end
end SignOn
