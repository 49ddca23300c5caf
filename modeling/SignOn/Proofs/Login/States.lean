import SignOn.Proofs.Store.PendingLogins
import SignOn.Proofs.Url.Query
import SignOn.Proofs.Visits
import SignOn.Store.Memory

/-!
States bind the two visits of a sign-on together. A second visit gets past its state only if a first
visit saved that state, and was sent to the provider with it, less than the life of a record before;
it gets past it once; and the first that comes in time does get past it, whoever else signs on in
between, as long as a clock can tell the end of every record. A save of which no clock can tell the
end stops and poisons the store: from then on nobody gets past a state.
-/
namespace SignOn

open Login Store

/-- The store of pending sign-ons in memory, which keeps each for a life in nanoseconds. All else
may be answered in any way. -/
def KeptFor (life : Nat) : Rule services LockedLogins
  | t, .savePending state p, a, x, x' =>
    a = (x.save life t state p).1 ∧ x' = (x.save life t state p).2
  | t, .takePending state, a, x, x' => a = (x.take t state).1 ∧ x' = (x.take t state).2
  | _, _, _, x, x' => x' = x

theorem keptFor_answer (x : Surroundings) (c : Call) (m : Memory) :
    KeptFor x.life x.now c (m.answer x c).1 m.pendings (m.answer x c).2.pendings := by
  cases c with
  | savePending state p => exact ⟨rfl, rfl⟩
  | takePending state => exact ⟨rfl, rfl⟩
  | _ => exact rfl

variable {ι : Type}

/-! ### What an event does to states -/

def drawn? : Event services ι → Option (List UInt8)
  | ⟨_, _, .drawState, d⟩ => some d
  | _ => none

/-- The state that a record was to be saved under, whether it was or the save stopped. -/
def saved? : Event services ι → Option String
  | ⟨_, _, .savePending state _, _⟩ => some state
  | _ => none

/-- The state that a second visit got past. -/
def passed? : Event services ι → Option String
  | ⟨_, _, .takePending state, .ok (some _)⟩ => some state
  | _ => none

@[simp] theorem saved?_savePending (k : ι) (t : Moment) (state : String) (p : Pending)
    (a : Option (Except Error Unit)) :
    saved? (⟨k, t, .savePending state p, a⟩ : Event services ι) = some state := rfl

theorem saved?_eq_some {e : Event services ι} {state : String} :
    saved? e = some state ↔ ∃ p, e.call = .savePending state p := by
  obtain ⟨k, t, c, a⟩ := e
  cases c <;> simp [saved?]

/-- A save reads the clock before it comes to the store, and a take afterwards: of a save and a
later take, the take has the later time. -/
def Timely (es : List (Event services ι)) : Prop :=
  es.Pairwise fun e f => (saved? e).isSome → (∃ state, f.call = .takePending state) →
    e.time.nanos ≤ f.time.nanos

/-- A clock can tell the end of every record that was to be saved. -/
def CanKeepSaves (life : Nat) (es : List (Event services ι)) : Prop :=
  ∀ e ∈ es, (saved? e).isSome → PendingLogins.CanKeep life e.time

@[simp] theorem canKeepSaves_nil (life : Nat) : CanKeepSaves life ([] : List (Event services ι)) :=
  List.forall_mem_nil _

@[simp] theorem canKeepSaves_cons {life : Nat} {e : Event services ι}
    {es : List (Event services ι)} : CanKeepSaves life (e :: es) ↔
      ((saved? e).isSome → PendingLogins.CanKeep life e.time) ∧ CanKeepSaves life es :=
  List.forall_mem_cons

@[simp] theorem canKeepSaves_append {life : Nat} {es fs : List (Event services ι)} :
    CanKeepSaves life (es ++ fs) ↔ CanKeepSaves life es ∧ CanKeepSaves life fs :=
  List.forall_mem_append

/-! ### What is kept -/

theorem filterMap_concat {α β : Type} (f : α → Option β) (l : List α) (a : α) :
    (l ++ [a]).filterMap f = l.filterMap f ++ (f a).toList := by
  rw [List.filterMap_append]
  cases h : f a <;> simp [h]

/-- Every entry was saved, under a state that nobody has got past yet. -/
structure Tracked (life : Nat) (es : List (Event services ι)) (x : PendingLogins) : Prop where
  saved : ∀ y ∈ x.entries, ∃ k t, ⟨k, t, .savePending y.1 y.2.pending, some (.ok ())⟩ ∈ es ∧
    y.2.expiry = ⟨t.nanos + life⟩
  fresh : ∀ y ∈ x.entries, y.1 ∉ es.filterMap passed?
  passed : es.filterMap passed? ⊆ es.filterMap saved?
  once : (es.filterMap passed?).Nodup

namespace Tracked

variable {life : Nat} {es : List (Event services ι)} {x x' : PendingLogins} {k : ι} {t : Moment}
  {state : String} {p : Pending}

theorem empty : Tracked life ([] : List (Event services ι)) .empty :=
  ⟨by simp [PendingLogins.empty], by simp, by simp, by simp⟩

/-- An event that keeps no new record and gets past no state. -/
theorem idle {e : Event services ι} (h : Tracked life es x) (hp : passed? e = none)
    (hx : x'.entries ⊆ x.entries) : Tracked life (es ++ [e]) x' where
  saved y hy := by
    obtain ⟨k, t, hm, ht⟩ := h.saved y (hx hy)
    exact ⟨k, t, List.mem_append_left _ hm, ht⟩
  fresh y hy := by simpa [filterMap_concat, hp] using h.fresh y (hx hy)
  passed := by
    rw [filterMap_concat, filterMap_concat, hp, Option.toList_none, List.append_nil]
    exact List.Subset.trans h.passed (List.subset_append_left _ _)
  once := by simpa [filterMap_concat, hp] using h.once

theorem save (h : Tracked life es x) (hnew : state ∉ es.filterMap saved?) :
    Tracked life (es ++ [⟨k, t, .savePending state p, some (.ok ())⟩]) (x.save life t state p) := by
  have hp : passed? (⟨k, t, .savePending state p, some (.ok ())⟩ : Event services ι) = none := rfl
  constructor
  case saved =>
    intro y hy
    rcases PendingLogins.mem_save hy with rfl | hy
    · exact ⟨k, t, by simp, rfl⟩
    · obtain ⟨k', t', hm, ht⟩ := h.saved y hy
      exact ⟨k', t', List.mem_append_left _ hm, ht⟩
  case fresh =>
    intro y hy
    rw [filterMap_concat, hp, Option.toList_none, List.append_nil]
    rcases PendingLogins.mem_save hy with rfl | hy
    · exact fun hp => hnew (h.passed hp)
    · exact h.fresh y hy
  case passed =>
    rw [filterMap_concat, filterMap_concat, hp, Option.toList_none, List.append_nil]
    exact List.Subset.trans h.passed (List.subset_append_left _ _)
  case once =>
    rw [filterMap_concat, hp, Option.toList_none, List.append_nil]
    exact h.once

theorem take (h : Tracked life es x) {a : Except Error (Option Pending)}
    (ha : ∀ p, a = .ok (some p) → (x.take t state).1 = some p) :
    Tracked life (es ++ [⟨k, t, .takePending state, a⟩]) (x.take t state).2 := by
  have kept : (x.take t state).2.entries ⊆ x.entries := List.filter_subset_self _
  match a with
  | .error e => exact h.idle rfl kept
  | .ok none => exact h.idle rfl kept
  | .ok (some p) =>
    have hp := ha p rfl
    obtain ⟨e, he, -, rfl⟩ := PendingLogins.take_eq_some.mp hp
    have hy := mem_of_lookup he
    obtain ⟨k', t', hm, -⟩ := h.saved _ hy
    have hs : saved? (⟨k, t, .takePending state, .ok (some e.pending)⟩ : Event services ι) = none :=
      rfl
    have hp : passed? (⟨k, t, .takePending state, .ok (some e.pending)⟩ : Event services ι) =
        some state := rfl
    constructor
    case saved =>
      intro y hy
      obtain ⟨k', t', hm, ht⟩ := h.saved y (kept hy)
      exact ⟨k', t', List.mem_append_left _ hm, ht⟩
    case fresh =>
      intro y hy
      have hne := (PendingLogins.mem_take.mp hy).2
      simpa [filterMap_concat, hp, hne] using h.fresh y (kept hy)
    case passed =>
      rw [filterMap_concat, filterMap_concat, hs, hp, Option.toList_none, List.append_nil]
      refine List.append_subset.mpr ⟨h.passed, List.cons_subset.mpr ⟨?_, List.nil_subset _⟩⟩
      exact List.mem_filterMap.mpr ⟨_, hm, rfl⟩
    case once =>
      rw [filterMap_concat, hp]
      exact h.once.append (List.nodup_singleton _) (List.disjoint_singleton.mpr (h.fresh _ hy))

end Tracked

namespace Service

variable {s : Service} {visits : ι → Visit} {es : List (Event services ι)}

/-! ### Each state is saved once -/

variable [DecidableEq ι] {σ : Type} {rule : Rule services σ} {first y : σ}
  {now : ι → Routine services Outcome}

/-- Who saves a state has drawn it and asked the time, and done nothing else so far. -/
theorem history_of_save {pre post : List (Event services ι)} {e : Event services ι}
    {state : String} (run : Run rule (fun k => s.visit (visits k)) first (pre ++ e :: post) now y)
    (he : saved? e = some state) :
    ∃ t t' d m, history e.who pre = [⟨e.who, t, .drawState, d⟩, ⟨e.who, t', .now, m⟩] ∧
      state = stateText d := by
  obtain ⟨p, hc⟩ := saved?_eq_some.mp he
  have asks := run.asked fun k => s.visit_obeys k (visits k)
  rw [hc] at asks
  obtain ⟨_, t, t', d, m, -, h, hstate, -⟩ := s.visit_of_save e.who asks
  exact ⟨t, t', d, m, h, hstate⟩

theorem saved_once {pre post : List (Event services ι)} {e : Event services ι} {state : String}
    (run : Run rule (fun k => s.visit (visits k)) first (pre ++ e :: post) now y)
    (drawn : ((pre ++ e :: post).filterMap drawn?).Nodup) (he : saved? e = some state) :
    state ∉ pre.filterMap saved? := by
  intro hmem
  obtain ⟨f, hf, hsaved⟩ := List.mem_filterMap.mp hmem
  obtain ⟨t, t', d, m, h, rfl⟩ := history_of_save run he
  have hd : ⟨e.who, t, .drawState, d⟩ ∈ history e.who pre := by simp [h]
  obtain ⟨pre', post', rfl⟩ := List.append_of_mem hf
  rw [List.append_assoc] at run
  obtain ⟨u, u', d', m', h', hstate⟩ := history_of_save run hsaved
  have hd' : ⟨f.who, u, .drawState, d'⟩ ∈ history f.who pre' := by simp [h']
  obtain rfl := stateText_injective hstate
  have hwho : (⟨e.who, t, .drawState, d⟩ : Event services ι) = ⟨f.who, u, .drawState, d⟩ :=
    eq_of_drew drawn (List.mem_append_left _ (mem_history.mp hd).1)
      (by simp [(mem_history.mp hd').1]) rfl rfl
  have hmem : f ∈ history e.who (pre' ++ f :: post') :=
    mem_history.mpr ⟨hf, (congrArg Event.who hwho).symm⟩
  rw [h] at hmem
  rcases List.mem_pair.mp hmem with rfl | rfl <;> cases hsaved

theorem saved_nodup (run : Run rule (fun k => s.visit (visits k)) first es now y)
    (drawn : (es.filterMap drawn?).Nodup) : (es.filterMap saved?).Nodup := by
  induction run with
  | nothing => exact List.nodup_nil
  | @step es now y y' k t c next a before asks answered ih =>
    have ih := ih (nodup_left drawn)
    rw [filterMap_concat]
    cases h : saved? (⟨k, t, c, a⟩ : Event services ι) with
    | none => simpa using ih
    | some state =>
      exact ih.append (List.nodup_singleton _)
        (List.disjoint_singleton.mpr (saved_once (before.step asks answered) drawn h))

/-- Who saved a record made a first visit. -/
theorem authorize_of_save (run : Run rule (fun k => s.visit (visits k)) first es now y) {k : ι}
    {t : Moment} {state : String} {p : Pending} {a : Option (Except Error Unit)}
    (h : ⟨k, t, .savePending state p, a⟩ ∈ es) :
    ∃ referrer m, visits k = .authorize referrer ∧ p = .of (s.redirects.resolve referrer) m := by
  obtain ⟨pre, post, rfl⟩ := List.append_of_mem h
  obtain ⟨referrer, _, _, _, m, hk, -, -, hp⟩ :=
    s.visit_of_save k (run.asked fun k => s.visit_obeys k (visits k))
  exact ⟨referrer, m, hk, hp⟩

/-- Who took a record made a second visit with its state. -/
theorem callback_of_take (run : Run rule (fun k => s.visit (visits k)) first es now y) {k : ι}
    {t : Moment} {state : String} {a : Except Error (Option Pending)}
    (h : ⟨k, t, .takePending state, a⟩ ∈ es) :
    ∃ q, visits k = .callback q ∧ q.state = some state := by
  obtain ⟨pre, post, rfl⟩ := List.append_of_mem h
  exact (s.visit_of_take k (run.asked fun k => s.visit_obeys k (visits k))).2

/-- A second visit takes a record before all else, and once. -/
theorem history_of_take {pre post : List (Event services ι)} {e : Event services ι}
    {state : String} (run : Run rule (fun k => s.visit (visits k)) first (pre ++ e :: post) now y)
    (he : e.call = .takePending state) : history e.who pre = [] := by
  have asks := run.asked fun k => s.visit_obeys k (visits k)
  rw [he] at asks
  exact (s.visit_of_take e.who asks).1

theorem took_once (run : Run rule (fun k => s.visit (visits k)) first es now y) {k : ι}
    {e f : Event services ι} (he : e ∈ es) (hf : f ∈ es)
    (hek : e.who = k ∧ ∃ state, e.call = .takePending state)
    (hfk : f.who = k ∧ ∃ state, f.call = .takePending state) : e = f := by
  refine eq_of_never_again (fun e => e.who = k ∧ ∃ state, e.call = .takePending state)
    (fun pre g post hes hg d hd hdk => ?_) he hf hek hfk
  subst hes
  obtain ⟨rfl, state, hc⟩ := hg
  have hmem := mem_history.mpr ⟨hd, hdk.1⟩
  rw [history_of_take run hc] at hmem
  cases hmem

/-- A visit that took a record ends at the page of the record. -/
theorem ended_of_take (run : Run rule (fun k => s.visit (visits k)) first es now y) {k : ι}
    {t : Moment} {state : String} {p : Pending} {o : Outcome}
    (htake : ⟨k, t, .takePending state, .ok (some p)⟩ ∈ es) (ended : now k = .done o) :
    ∃ e, o = .ofEnding (s.origin p) e ∧
      (e = .undated → ∃ t m, ⟨k, t, .now, m⟩ ∈ es ∧ ¬ s.tokens.CanDate m) := by
  obtain ⟨q, hk, -⟩ := callback_of_take run htake
  have ends := run.ended (fun k => s.visit_obeys k (visits k)) ended
  rw [hk] at ends
  rcases ends with ⟨-, hnone⟩ | ⟨state', p', e, ⟨t', hp⟩, hwarrants, rfl⟩
  · exact (hnone state p ⟨t, mem_history.mpr ⟨htake, rfl⟩⟩).elim
  · cases took_once run htake (mem_history.mp hp).1 ⟨rfl, state, rfl⟩ ⟨rfl, state', rfl⟩
    refine ⟨e, rfl, fun he => ?_⟩
    subst he
    obtain ⟨t', m, hm, hdate⟩ := hwarrants
    exact ⟨t', m, (mem_history.mp hm).1, hdate⟩

/-- A visit that was handed no record is rejected. -/
theorem rejected_of_take (run : Run rule (fun k => s.visit (visits k)) first es now y) {k : ι}
    {t : Moment} {state : String} {taken : Except Error (Option Pending)} {o : Outcome}
    (htake : ⟨k, t, .takePending state, taken⟩ ∈ es) (hnone : ∀ p, taken ≠ .ok (some p))
    (ended : now k = .done o) : o = .rejected := by
  obtain ⟨q, hk, -⟩ := callback_of_take run htake
  have ends := run.ended (fun k => s.visit_obeys k (visits k)) ended
  rw [hk] at ends
  rcases ends with ⟨rfl, -⟩ | ⟨state', p, e, ⟨t', hp⟩, -, -⟩
  · rfl
  · cases took_once run htake (mem_history.mp hp).1 ⟨rfl, state, rfl⟩ ⟨rfl, state', rfl⟩
    exact absurd rfl (hnone p)

/-! ### Runs -/

variable {life : Nat} {x x' : LockedLogins}

theorem tracked_of_run (run : Run (KeptFor life) (fun k => s.visit (visits k)) .empty es now x)
    (drawn : (es.filterMap drawn?).Nodup) : Tracked life es x.records := by
  induction run with
  | nothing => exact .empty
  | @step es now x x' k t c next a before asks answered ih =>
    have ih := ih (nodup_left drawn)
    cases c with
    | savePending state p =>
      have hnew := saved_once (before.step asks answered) drawn rfl
      obtain ⟨rfl, rfl⟩ := answered
      rcases x.save_cases life t state p with ⟨-, h⟩ | ⟨-, h⟩
      · rw [h]
        exact ih.save hnew
      · rw [h]
        exact ih.idle rfl (List.nil_subset _)
    | takePending state =>
      obtain ⟨rfl, rfl⟩ := answered
      rw [x.records_take]
      exact ih.take fun p hp => LockedLogins.take_eq_some.mp hp
    | _ =>
      obtain rfl := answered
      exact ih.idle rfl (List.Subset.refl _)

omit [DecidableEq ι] in
/-- Only a save of which no clock can tell the end poisons the store. -/
theorem poisoned_step {k : ι} {t : Moment} {c : Call} {a : c.Answer}
    (answered : KeptFor life t c a x x') : x' = .poisoned ↔
      x = .poisoned ∨ ¬ ((saved? (⟨k, t, c, a⟩ : Event services ι)).isSome →
        PendingLogins.CanKeep life t) := by
  cases c with
  | savePending state p =>
    obtain ⟨-, rfl⟩ := answered
    cases x with
    | poisoned => exact iff_of_true rfl (.inl rfl)
    | sound kept =>
      by_cases h : PendingLogins.CanKeep life t
      · simp [LockedLogins.save_of_canKeep kept h, h]
      · simp [LockedLogins.save_of_not_canKeep kept h, h]
  | takePending state =>
    obtain ⟨-, rfl⟩ := answered
    cases x <;> simp [LockedLogins.take, saved?]
  | _ =>
    obtain rfl := answered
    simp [saved?]

/-- The store is poisoned once a save was asked for of which no clock can tell the end. -/
theorem poisoned_iff {start : ι → Routine services Outcome}
    (run : Run (KeptFor life) start .empty es now x) : x = .poisoned ↔ ¬ CanKeepSaves life es := by
  induction run with
  | nothing => simp [LockedLogins.empty, CanKeepSaves]
  | @step es now x x' k t c next a before asks answered ih =>
    rw [poisoned_step (k := k) answered, canKeepSaves_append, canKeepSaves_cons,
      and_iff_left (canKeepSaves_nil life), not_and_or, ih]

/-- An entry outlives all events that neither take its state nor save it again, if no save has a
time that is past the entry's, and a clock can tell the end of each. -/
theorem lookup_of_run {start : ι → Routine services Outcome}
    (run : Run (KeptFor life) start x es now x') {state : String} {e : Entry}
    (h : x.records.entries.lookup state = some e) (keeps : CanKeepSaves life es)
    (hes : ∀ f ∈ es, f.call ≠ .takePending state ∧ saved? f ≠ some state ∧
      ((saved? f).isSome → f.time.nanos < e.expiry.nanos)) :
    x'.records.entries.lookup state = some e := by
  induction run with
  | nothing => exact h
  | @step es now x x' k t c next a before asks answered ih =>
    obtain ⟨earlier, keeps⟩ := canKeepSaves_append.mp keeps
    have keeps := (canKeepSaves_cons.mp keeps).1
    have ih := ih earlier fun f hf => hes f (List.mem_append_left _ hf)
    obtain ⟨htake, hsave, htime⟩ := hes ⟨k, t, c, a⟩ (List.mem_append_right _ List.mem_cons_self)
    cases c with
    | savePending other p =>
      have hne : state ≠ other := fun he => hsave (he ▸ rfl)
      cases x with
      | poisoned => cases ih
      | sound kept =>
        obtain ⟨-, rfl⟩ := answered
        rw [LockedLogins.save_of_canKeep kept (keeps rfl)]
        exact PendingLogins.lookup_save_of_ne ih ((Entry.isLive_iff e t).mpr (htime rfl)) hne
    | takePending other =>
      have hne : state ≠ other := fun he => htake (he ▸ rfl)
      obtain ⟨-, rfl⟩ := answered
      rw [x.records_take]
      exact PendingLogins.lookup_take_of_ne ih hne
    | _ =>
      obtain rfl := answered
      exact ih

/-! ### The two visits -/

/-- Where a person is sent whose record was saved: to the provider, with the state. -/
theorem states_departure {a : Url} (ha : Url.parse? s.registration.authUri = some a)
    (hno : a.states = []) (referrer : Url) (state : String) :
    (s.departure referrer state (.ok ())).SameButQuery a ∧
      (s.departure referrer state (.ok ())).states = [state] := by
  have hparse : Url.parse s.registration.authUri = .ok a := by
    unfold Url.parse? at ha
    cases h : Url.parse s.registration.authUri with
    | error e => simp [h, Except.toOption] at ha
    | ok b => simpa [h, Except.toOption] using ha
  have hurl : s.departure referrer state (.ok ()) = a.appendPairs
      ([("client_id", s.registration.clientId), ("scope", s.registration.scopes), ("state", state),
        ("allow_signup", "true")] ++
        (s.registration.redirectUri.map fun uri => ("redirect_uri", uri)).toList) := by
    simp only [departure, GitHub.authorizeUrl, hparse]
  rw [hurl]
  refine ⟨Url.sameButQuery_appendPairs .., ?_⟩
  rw [Url.states_appendPairs, hno]
  cases s.registration.redirectUri <;> rfl

/-- Who gets past a state came with it, and it is the one with which a first visit, that saved it
before, was sent to the provider. -/
theorem saved_of_passed {a : Url} (ha : Url.parse? s.registration.authUri = some a)
    (hno : a.states = []) {pre post : List (Event services ι)} {k : ι} {t : Moment}
    {state : String} {p : Pending}
    (run : Run (KeptFor life) (fun k => s.visit (visits k)) .empty
      (pre ++ ⟨k, t, .takePending state, .ok (some p)⟩ :: post) now x)
    (drawn : ((pre ++ ⟨k, t, .takePending state, .ok (some p)⟩ :: post).filterMap drawn?).Nodup) :
    (∃ q, visits k = .callback q ∧ q.state = some state) ∧
      ∃ j referrer t₀ u, visits j = .authorize referrer ∧
        ⟨j, t₀, .savePending state p, some (.ok ())⟩ ∈ pre ∧ t.nanos < t₀.nanos + life ∧
        now j = .done (.redirect u) ∧ u.SameButQuery a ∧ u.states = [state] := by
  refine ⟨callback_of_take run (List.mem_append_right _ List.mem_cons_self), ?_⟩
  obtain ⟨mid, next, x₁, x₂, before, -, answered, -⟩ := run.cut
  have tracked := tracked_of_run before (nodup_left drawn)
  obtain ⟨e, he, hlive, rfl⟩ :=
    PendingLogins.take_eq_some.mp (LockedLogins.take_eq_some.mp answered.1.symm)
  obtain ⟨j, t₀, hsave, hexpiry⟩ := tracked.saved _ (mem_of_lookup he)
  rw [Entry.isLive_iff, hexpiry] at hlive
  have hmem : ⟨j, t₀, .savePending state e.pending, some (.ok ())⟩ ∈
      history j (pre ++ ⟨k, t, .takePending state, .ok (some e.pending)⟩ :: post) :=
    mem_history.mpr ⟨List.mem_append_left _ hsave, rfl⟩
  obtain ⟨referrer, m, hj, -⟩ := authorize_of_save before hsave
  have obeys := run.obeys (fun k => s.visit_obeys k (visits k)) j
  rw [hj] at obeys
  obtain ⟨hsame, hstates⟩ := states_departure ha hno (s.redirects.resolve referrer) state
  exact ⟨j, referrer, t₀, _, hj, hsave, hlive, authorize_saved obeys hmem, hsame, hstates⟩

/-- The first who comes with a state in time gets past it, and back to the page that was resolved
when the state was saved. -/
theorem passed_of_saved
    (reads : ∀ k referrer, visits k = .authorize referrer →
      (s.redirects.resolve referrer).ReadsBack)
    {pre mid post : List (Event services ι)} {j k : ι} {t₀ t : Moment} {state : String}
    {p : Pending} {saved : Option (Except Error Unit)} {taken : Except Error (Option Pending)}
    (run : Run (KeptFor life) (fun k => s.visit (visits k)) .empty es now x)
    (drawn : (es.filterMap drawn?).Nodup) (timely : Timely es)
    (hes : es = pre ++ ⟨j, t₀, .savePending state p, saved⟩ ::
      (mid ++ ⟨k, t, .takePending state, taken⟩ :: post))
    (hfirst : ∀ e ∈ mid, e.call ≠ .takePending state) (hlife : t.nanos < t₀.nanos + life)
    (keeps : CanKeepSaves life (pre ++ ⟨j, t₀, .savePending state p, saved⟩ :: mid)) :
    taken = .ok (some p) ∧ ∃ referrer, visits j = .authorize referrer ∧
      ∀ o, now k = .done o → ∃ e, o = .ofEnding (s.redirects.resolve referrer) e ∧
        (e = .undated → ∃ t m, ⟨k, t, .now, m⟩ ∈ es ∧ ¬ s.tokens.CanDate m) := by
  have hsave : ⟨j, t₀, .savePending state p, saved⟩ ∈ es := by simp [hes]
  have htake : ⟨k, t, .takePending state, taken⟩ ∈ es := by simp [hes]
  obtain ⟨referrer, m, hj, rfl⟩ := authorize_of_save run hsave
  -- nobody saves the state again, and no save in between comes after the entry's time
  have hnew : state ∉ mid.filterMap saved? := by
    have h := saved_nodup run drawn
    rw [hes, List.filterMap_append, List.filterMap_cons_some (saved?_savePending ..),
      List.filterMap_append] at h
    exact fun hm => (List.nodup_cons.mp (List.nodup_append.mp h).2.1).1 (List.mem_append_left _ hm)
  have htime : ∀ f ∈ mid, (saved? f).isSome → f.time.nanos ≤ t.nanos := by
    intro f hf hsaved
    rw [hes] at timely
    have after := (List.pairwise_cons.mp (List.pairwise_append.mp timely).2.1).2
    exact (List.pairwise_append.mp after).2.2 f hf _ List.mem_cons_self hsaved ⟨state, rfl⟩
  have hrun := run
  rw [hes] at hrun
  obtain ⟨_, _, x₁, x₂, before, -, ⟨-, rfl⟩, rest⟩ := hrun.cut
  obtain ⟨_, _, x₃, x₄, between, -, ⟨htaken, -⟩, -⟩ := rest.cut
  obtain ⟨hpre, hrest⟩ := canKeepSaves_append.mp keeps
  obtain ⟨hcan, hmid⟩ := canKeepSaves_cons.mp hrest
  -- the store is sound when it comes to the save, which therefore does not stop
  obtain ⟨kept, rfl⟩ : ∃ kept, x₁ = .sound kept := by
    cases x₁ with
    | poisoned => exact absurd hpre ((poisoned_iff before).mp rfl)
    | sound kept => exact ⟨kept, rfl⟩
  have hlookup := lookup_of_run between (LockedLogins.lookup_save kept (hcan rfl)) hmid fun f hf =>
    ⟨hfirst f hf, fun hs => hnew (List.mem_filterMap.mpr ⟨f, hf, hs⟩),
      fun hs => Int.lt_of_le_of_lt (htime f hf hs) hlife⟩
  have hpassed : (x₃.take t state).1 = .ok (some (.of (s.redirects.resolve referrer) m)) :=
    LockedLogins.take_eq_some.mpr (PendingLogins.take_eq_some.mpr
      ⟨_, hlookup, (Entry.isLive_iff _ _).mpr hlife, rfl⟩)
  obtain rfl : taken = .ok (some (.of (s.redirects.resolve referrer) m)) := htaken.trans hpassed
  refine ⟨rfl, referrer, hj, fun o ho => ?_⟩
  obtain ⟨e, he, hdate⟩ := ended_of_take run htake ho
  exact ⟨e, he.trans (by rw [s.origin_of (reads j referrer hj)]), hdate⟩

/-- Once a save stopped nobody gets past a state. -/
theorem refused_of_stopped {pre post : List (Event services ι)} {k : ι} {t : Moment}
    {state : String} {taken : Except Error (Option Pending)}
    (run : Run (KeptFor life) (fun k => s.visit (visits k)) .empty
      (pre ++ ⟨k, t, .takePending state, taken⟩ :: post) now x)
    (stopped : ¬ CanKeepSaves life pre) :
    taken = .error LockedLogins.poison ∧ ∀ o, now k = .done o → o = .rejected := by
  obtain ⟨_, _, x₁, x₂, before, -, ⟨htaken, -⟩, -⟩ := run.cut
  obtain rfl := (poisoned_iff before).mpr stopped
  obtain rfl : taken = .error LockedLogins.poison := htaken
  exact ⟨rfl, fun o => rejected_of_take run (List.mem_append_right _ List.mem_cons_self) nofun⟩

/-- State binding and single use, where states are drawn that all differ and the address of the
provider names none. A second visit gets past its state only if a first visit saved that state less
than a record's life before and was sent to the provider with it; and a state lets pass at most
once. As long as a clock can tell the end of every record that is to be saved, a state does let pass
the first that comes in time, and sends it back where the first visit was told to; from the first
save that stops on, every second visit is refused. -/
theorem state_binding {a : Url} (ha : Url.parse? s.registration.authUri = some a)
    (hno : a.states = [])
    (reads : ∀ k referrer, visits k = .authorize referrer →
      (s.redirects.resolve referrer).ReadsBack)
    (run : Run (KeptFor life) (fun k => s.visit (visits k)) .empty es now x)
    (drawn : (es.filterMap drawn?).Nodup) (timely : Timely es) :
    (∀ (pre post : List (Event services ι)) (k : ι) (t : Moment) (state : String) (p : Pending),
      es = pre ++ ⟨k, t, .takePending state, .ok (some p)⟩ :: post →
      (∃ q, visits k = .callback q ∧ q.state = some state) ∧
      ∃ (j : ι) (referrer : Option String) (t₀ : Moment) (u : Url), visits j = .authorize referrer ∧
        ⟨j, t₀, .savePending state p, some (.ok ())⟩ ∈ pre ∧ t.nanos < t₀.nanos + life ∧
        now j = .done (.redirect u) ∧ u.SameButQuery a ∧ u.states = [state]) ∧
    (es.filterMap passed?).Nodup ∧
    (∀ (pre mid post : List (Event services ι)) (j k : ι) (t₀ t : Moment) (state : String)
      (p : Pending) (saved : Option (Except Error Unit)) (taken : Except Error (Option Pending)),
      es = pre ++ ⟨j, t₀, .savePending state p, saved⟩ ::
        (mid ++ ⟨k, t, .takePending state, taken⟩ :: post) →
      (∀ e ∈ mid, e.call ≠ .takePending state) → t.nanos < t₀.nanos + life →
      CanKeepSaves life (pre ++ ⟨j, t₀, .savePending state p, saved⟩ :: mid) →
      taken = .ok (some p) ∧ ∃ referrer, visits j = .authorize referrer ∧
        ∀ o, now k = .done o → ∃ e, o = .ofEnding (s.redirects.resolve referrer) e ∧
          (e = .undated → ∃ t m, ⟨k, t, .now, m⟩ ∈ es ∧ ¬ s.tokens.CanDate m)) ∧
    ∀ (pre post : List (Event services ι)) (k : ι) (t : Moment) (state : String)
      (taken : Except Error (Option Pending)),
      es = pre ++ ⟨k, t, .takePending state, taken⟩ :: post → ¬ CanKeepSaves life pre →
      taken = .error LockedLogins.poison ∧ ∀ o, now k = .done o → o = .rejected := by
  refine ⟨?_, (tracked_of_run run drawn).once, ?_, ?_⟩
  · intro pre post k t state p hes
    subst hes
    exact saved_of_passed ha hno run drawn
  · intro pre mid post j k t₀ t state p saved taken hes hfirst hlife keeps
    exact passed_of_saved reads run drawn timely hes hfirst hlife keeps
  · intro pre post k t state taken hes stopped
    subst hes
    exact refused_of_stopped run stopped

set_option maxRecDepth 100000 in
theorem parse_authUri_sample : ∃ a, Url.parse? sample.registration.authUri = some a ∧
    a.states = [] :=
  ⟨⟨"http".toList, some ⟨[], none, .ipv6 [0, 0, 0, 0, 0, 0, 0, 1], some 8000⟩, "/agree".toList,
    none, none⟩, by decide +kernel, rfl⟩

/-- While a person is away at the provider, another sets out. -/
def sampleCrowd : Fin 3 → Visit
  | 0 => .authorize (some "http://[::1]:3000/home")
  | 1 => .authorize none
  | 2 => .callback sampleQuery

theorem readsBack_sampleCrowd (k : Fin 3) (referrer : Option String)
    (hk : sampleCrowd k = .authorize referrer) : (sample.redirects.resolve referrer).ReadsBack := by
  match k with
  | 0 => cases hk; rw [resolve_sample]; exact readsBack_samplePage "/home" (by decide)
  | 1 => cases hk; exact readsBack_samplePage "/" (by decide)
  | 2 => cases hk

/-- The state of the person who sets out second. -/
def sampleOther : List UInt8 := List.replicate 32 1

/-- The events of the three visits. One record is saved at a given second and the other 28 seconds
later; two seconds after it the first person is back. -/
def crowdEvents (second : Int) (saved : Option (Except Error Unit))
    (taken : Except Error (Option Pending)) : List (Event services (Fin 3)) :=
  [⟨0, .ofSeconds second, .drawState, sampleState⟩,
    ⟨0, .ofSeconds second, .now, .ofSeconds 1⟩,
    ⟨0, .ofSeconds second,
      .savePending (stateText sampleState) (.of (samplePage "/home") (.ofSeconds 1)),
      some (.ok ())⟩,
    ⟨1, .ofSeconds (second + 28), .drawState, sampleOther⟩,
    ⟨1, .ofSeconds (second + 28), .now, .ofSeconds 1⟩,
    ⟨1, .ofSeconds (second + 28),
      .savePending (stateText sampleOther) (.of (samplePage "/") (.ofSeconds 1)), saved⟩,
    ⟨2, .ofSeconds (second + 30), .takePending (stateText sampleState), taken⟩]

theorem drawn_crowd (second : Int) (saved : Option (Except Error Unit))
    (taken : Except Error (Option Pending)) :
    ((crowdEvents second saved taken).filterMap drawn?).Nodup :=
  show [sampleState, sampleOther].Nodup by decide

theorem timely_crowd (second : Int) (saved : Option (Except Error Unit))
    (taken : Except Error (Option Pending)) : Timely (crowdEvents second saved taken) := by
  have timely : (crowdEvents second saved taken).Pairwise
      fun e f => e.time.nanos ≤ f.time.nanos := by
    simp only [crowdEvents, Moment.ofSeconds, List.pairwise_cons, List.forall_mem_cons,
      List.not_mem_nil, false_implies, implies_true, List.Pairwise.nil, and_true]
    omega
  exact timely.imp fun h _ _ => h

/-- The three visits come about wherever a clock can tell the end of the first record. -/
theorem run_crowd (life : Nat) (second : Int)
    (keeps : PendingLogins.CanKeep life (.ofSeconds second)) :
    ∃ saved taken now x, Run (KeptFor life) (fun k => sample.visit (sampleCrowd k)) .empty
        (crowdEvents second saved taken) now x ∧
      now 0 = .done (.redirect (sample.departure (samplePage "/home") (stateText sampleState)
        (.ok ()))) ∧
      now 2 = .done (sample.denied taken) := by
  have draw (t : Moment) (d : List UInt8) (x : LockedLogins) :
      KeptFor life t .drawState d x x := rfl
  have clock (t m : Moment) (x : LockedLogins) : KeptFor life t .now m x x := rfl
  have save (t : Moment) (state : String) (p : Pending) (x : LockedLogins) :
      KeptFor life t (.savePending state p) (x.save life t state p).1 x (x.save life t state p).2 :=
    ⟨rfl, rfl⟩
  have take (t : Moment) (state : String) (x : LockedLogins) :
      KeptFor life t (.takePending state) (x.take t state).1 x (x.take t state).2 := ⟨rfl, rfl⟩
  have start : Run (KeptFor life) (fun k => sample.visit (sampleCrowd k)) .empty [] _ .empty :=
    .nothing
  have out := run_authorize start (k := 0) rfl (draw (.ofSeconds second) sampleState _)
    (clock (.ofSeconds second) (.ofSeconds 1) _) (save (.ofSeconds second) _ _ _)
  have other := run_authorize out (k := 1) rfl (draw (.ofSeconds (second + 28)) sampleOther _)
    (clock (.ofSeconds (second + 28)) (.ofSeconds 1) _) (save (.ofSeconds (second + 28)) _ _ _)
  have back := run_denied other (k := 2) (q := sampleQuery) rfl rfl (stateText_ne_empty (by decide))
    rfl (take (.ofSeconds (second + 30)) _ _)
  rw [resolve_sample, LockedLogins.empty, LockedLogins.save_of_canKeep .empty keeps] at back
  exact ⟨_, _, _, _, back, rfl, rfl⟩

/-- Whoever set out in between, the person who is back goes on to their page. -/
theorem state_binding_sample : ∃ (es : List (Event services (Fin 3)))
    (now : Fin 3 → Routine services Outcome) (x : LockedLogins),
    Run (KeptFor (600 * 10 ^ 9)) (fun k => sample.visit (sampleCrowd k)) .empty es now x ∧
      es.filterMap saved? = [stateText sampleState, stateText sampleOther] ∧
      (es.filterMap passed?).Nodup ∧
      ∃ o e, now 2 = .done o ∧ o = .ofEnding (samplePage "/home") e := by
  obtain ⟨a, ha, hno⟩ := parse_authUri_sample
  obtain ⟨saved, taken, now, x, run, -, ended⟩ := run_crowd (600 * 10 ^ 9) 0 (by decide)
  have keeps : CanKeepSaves (600 * 10 ^ 9) ((crowdEvents 0 saved taken).take 6) := by
    simp [crowdEvents, saved?, PendingLogins.CanKeep, PendingLogins.maxSeconds, Moment.ofSeconds]
  obtain ⟨-, once, passes, -⟩ := state_binding ha hno readsBack_sampleCrowd run
    (drawn_crowd 0 saved taken) (timely_crowd 0 saved taken)
  obtain ⟨-, referrer, hk, back⟩ := passes [_, _] [_, _, _] [] 0 2 _ _ _ _ _ _ rfl (by simp)
    (by decide) keeps
  cases hk
  obtain ⟨e, he, -⟩ := back _ ended
  rw [resolve_sample] at he
  exact ⟨_, now, x, run, rfl, once, _, e, ended, he⟩

/-- A person who was sent to the provider, and is back in time, is refused: the record of another,
saved in between, would have to end when no clock can tell the time. -/
theorem refused_within_life : ∃ (life : Nat) (es : List (Event services (Fin 3)))
    (now : Fin 3 → Routine services Outcome) (x : LockedLogins),
    Run (KeptFor life) (fun k => sample.visit (sampleCrowd k)) .empty es now x ∧
      (es.filterMap drawn?).Nodup ∧ Timely es ∧
      (∃ (pre mid post : List (Event services (Fin 3))) (t₀ t : Moment) (state : String)
          (p : Pending) (taken : Except Error (Option Pending)) (u : Url),
        es = pre ++ ⟨0, t₀, .savePending state p, some (.ok ())⟩ ::
          (mid ++ ⟨2, t, .takePending state, taken⟩ :: post) ∧
        (∀ e ∈ mid, e.call ≠ .takePending state) ∧ t.nanos < t₀.nanos + life ∧
        now 0 = .done (.redirect u) ∧ u.states = [state]) ∧
      now 2 = .done .rejected := by
  obtain ⟨a, ha, hno⟩ := parse_authUri_sample
  obtain ⟨saved, taken, now, x, run, out, ended⟩ :=
    run_crowd (9223372036854675780 * 10 ^ 9) 100000 (by decide)
  have states := (states_departure ha hno (samplePage "/home") (stateText sampleState)).2
  refine ⟨_, _, now, x, run, drawn_crowd _ _ _, timely_crowd _ _ _,
    ⟨[_, _], [_, _, _], [], _, _, _, _, taken, _, rfl, by simp, by decide, out, states⟩, ?_⟩
  have stopped : ¬ CanKeepSaves (9223372036854675780 * 10 ^ 9)
      ((crowdEvents 100000 saved taken).take 6) := by
    simp [crowdEvents, saved?, PendingLogins.CanKeep, PendingLogins.maxSeconds, Moment.ofSeconds]
  have refused := refused_of_stopped (show Run _ _ _ (_ ++ _ :: []) _ _ from run) stopped
  exact ended.trans (congrArg Routine.done (refused.2 _ ended))

end Service
end SignOn
