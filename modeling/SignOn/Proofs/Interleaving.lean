import Mathlib.Data.List.Induction
import Mathlib.Data.List.Nodup
import Mathlib.Data.List.Pairwise
import Mathlib.Logic.Function.Basic
import SignOn.Routine
import SignOn.Timestamp

/-!
Routines that run side by side on one shared state. A run is the list of the calls that were
answered, in the order of the answers, whoever asked: every interleaving is one. What a single
routine lives up to under all answers (`Obeys`) holds of it in every run.
-/
namespace SignOn

/-- A call that one of several routines asked, with the moment and the answer. -/
structure Event (I : Interface) (ι : Type) where
  who : ι
  time : Moment
  call : I.Call
  answer : I.Answer call

/-- The answers that a call may get at a moment, and what then becomes of the shared state. -/
abbrev Rule (I : Interface) (σ : Type) := Moment → (c : I.Call) → I.Answer c → σ → σ → Prop

variable {I : Interface} {ι σ α β : Type}

/-! ### What a routine lives up to -/

namespace Routine

/-- Whatever a routine is answered, it asks only what `asks` allows after the events of its own so
far, and it ends only as `ends` allows after them. -/
def Obeys (k : ι) (asks : List (Event I ι) → I.Call → Prop)
    (ends : List (Event I ι) → α → Prop) : Routine I α → List (Event I ι) → Prop
  | .done a, h => ends h a
  | .ask c next, h => asks h c ∧ ∀ t a, (next a).Obeys k asks ends (h ++ [⟨k, t, c, a⟩])

variable {k : ι} {asks : List (Event I ι) → I.Call → Prop}
  {ends ends' : List (Event I ι) → α → Prop}

@[simp] theorem obeys_pure (a : α) (h : List (Event I ι)) :
    (pure a : Routine I α).Obeys k asks ends h ↔ ends h a := Iff.rfl

/-- A routine with another behind it lives up to what both do, one after the other. -/
@[simp] theorem obeys_bind (r : Routine I α) (f : α → Routine I β)
    (ends : List (Event I ι) → β → Prop) (h : List (Event I ι)) :
    (r >>= f).Obeys k asks ends h ↔
      r.Obeys k asks (fun h a => (f a).Obeys k asks ends h) h := by
  change (r.bind f).Obeys k asks ends h ↔ _
  induction r generalizing h with
  | done a => rfl
  | ask c next ih =>
    simp only [bind, Obeys, ih]

theorem Obeys.mono {r : Routine I α} {h : List (Event I ι)} (hr : r.Obeys k asks ends h)
    (hends : ∀ h a, ends h a → ends' h a) : r.Obeys k asks ends' h := by
  induction r generalizing h with
  | done a => exact hends h a hr
  | ask c next ih => exact ⟨hr.1, fun t a => ih a (hr.2 t a)⟩

end Routine

/-! ### Runs -/

/-- What routines do side by side: from where they start and a first state to where each of them is
after some events, and the state then. -/
inductive Run [DecidableEq ι] (rule : Rule I σ) (start : ι → Routine I α) (first : σ) :
    List (Event I ι) → (ι → Routine I α) → σ → Prop
  | nothing : Run rule start first [] start first
  | step {es : List (Event I ι)} {now : ι → Routine I α} {s s' : σ} {k : ι} {t : Moment}
      {c : I.Call} {next : I.Answer c → Routine I α} {a : I.Answer c}
      (before : Run rule start first es now s) (asks : now k = .ask c next)
      (answered : rule t c a s s') :
      Run rule start first (es ++ [⟨k, t, c, a⟩]) (Function.update now k (next a)) s'

/-- The events of one routine. -/
def history [DecidableEq ι] (k : ι) (es : List (Event I ι)) : List (Event I ι) :=
  es.filter fun e => e.who = k

section
variable [DecidableEq ι]

@[simp] theorem history_append (k : ι) (es fs : List (Event I ι)) :
    history k (es ++ fs) = history k es ++ history k fs := List.filter_append ..

@[simp] theorem history_singleton (k : ι) (e : Event I ι) :
    history k [e] = if e.who = k then [e] else [] := by
  simp [history, List.filter_singleton]

theorem mem_history {k : ι} {e : Event I ι} {es : List (Event I ι)} :
    e ∈ history k es ↔ e ∈ es ∧ e.who = k := by simp [history]

end

namespace Run

variable [DecidableEq ι] {rule : Rule I σ} {start now : ι → Routine I α} {first s : σ}
  {es : List (Event I ι)}

/-- One run after another is a run. -/
theorem trans (run : Run rule start first es now s) {es' : List (Event I ι)}
    {now' : ι → Routine I α} {s' : σ} (later : Run rule now s es' now' s') :
    Run rule start first (es ++ es') now' s' := by
  induction later with
  | nothing => simpa using run
  | step _ asks answered ih =>
    rw [← List.append_assoc]
    exact .step ih asks answered

/-- The routine whose call was answered last goes on. -/
theorem again {k : ι} {c : I.Call} {next : I.Answer c → Routine I α} {s' : σ}
    (run : Run rule start first es (Function.update now k (.ask c next)) s) (t : Moment)
    (a : I.Answer c) (answered : rule t c a s s') :
    Run rule start first (es ++ [⟨k, t, c, a⟩]) (Function.update now k (next a)) s' := by
  have := run.step (Function.update_self ..) answered
  rwa [Function.update_idem] at this

/-- What a routine does alone is a run of it, where its answers keep to the rule. -/
theorem alone {τ : Type} {answer : (c : I.Call) → τ → I.Answer c × τ} {rule : Rule I σ}
    {view : τ → σ} (h : ∀ c y, ∃ t, rule t c (answer c y).1 (view y) (view (answer c y).2))
    (r : Routine I α) (y : τ) : ∃ es, Run rule (fun _ : Unit => r) (view y) es
      (fun _ => .done (r.run answer y).1) (view (r.run answer y).2) := by
  induction r generalizing y with
  | done a => exact ⟨[], .nothing⟩
  | ask c next ih =>
    obtain ⟨t, answered⟩ := h c y
    obtain ⟨es, later⟩ := ih (answer c y).1 (answer c y).2
    have first : Run rule (fun _ : Unit => .ask c next) (view y) [] _ (view y) := .nothing
    have first := first.step (k := ()) rfl answered
    have hnow : Function.update (fun _ : Unit => .ask c next) () (next (answer c y).1) =
        fun _ => next (answer c y).1 := funext fun _ => Function.update_self ..
    rw [hnow] at first
    exact ⟨_, first.trans later⟩

/-- A run can be cut anywhere. -/
theorem split {es fs : List (Event I ι)} (run : Run rule start first (es ++ fs) now s) :
    ∃ mid s', Run rule start first es mid s' ∧ Run rule mid s' fs now s := by
  generalize he : es ++ fs = all at run
  induction run generalizing fs with
  | nothing =>
    obtain ⟨rfl, rfl⟩ := List.append_eq_nil_iff.mp he
    exact ⟨_, _, .nothing, .nothing⟩
  | @step all mid s s' k t c next a before asks answered ih =>
    rcases List.eq_nil_or_concat' fs with rfl | ⟨gs, g, rfl⟩
    · rw [List.append_nil] at he
      subst he
      exact ⟨_, _, .step before asks answered, .nothing⟩
    · rw [← List.append_assoc] at he
      obtain ⟨rfl, hg⟩ := List.append_inj' he rfl
      obtain rfl := List.singleton_inj.mp hg
      obtain ⟨m, s₁, hl, hr⟩ := ih rfl
      exact ⟨m, s₁, hl, .step hr asks answered⟩

/-- The last event of a run is the answer to what its routine asked then. -/
theorem last {e : Event I ι} (run : Run rule start first (es ++ [e]) now s) :
    ∃ mid next s₁, Run rule start first es mid s₁ ∧ mid e.who = .ask e.call next ∧
      rule e.time e.call e.answer s₁ s ∧ now = Function.update mid e.who (next e.answer) := by
  generalize he : es ++ [e] = all at run
  cases run with
  | nothing => simp at he
  | step before hasks answered =>
    obtain ⟨rfl, hg⟩ := List.append_inj' he rfl
    obtain rfl := List.singleton_inj.mp hg
    exact ⟨_, _, _, before, hasks, answered, rfl⟩

/-- Any event of a run is the answer to what its routine asked then. -/
theorem cut {pre post : List (Event I ι)} {e : Event I ι}
    (run : Run rule start first (pre ++ e :: post) now s) :
    ∃ mid next s₁ s₂, Run rule start first pre mid s₁ ∧ mid e.who = .ask e.call next ∧
      rule e.time e.call e.answer s₁ s₂ ∧
      Run rule (Function.update mid e.who (next e.answer)) s₂ post now s := by
  rw [List.append_cons] at run
  obtain ⟨_, s₂, run, rest⟩ := run.split
  obtain ⟨mid, next, s₁, before, hasks, answered, rfl⟩ := run.last
  exact ⟨mid, next, s₁, s₂, before, hasks, answered, rest⟩

section
variable {asks : ι → List (Event I ι) → I.Call → Prop} {ends : ι → List (Event I ι) → α → Prop}

/-- Each routine of a run still lives up to what it did at the start. -/
theorem obeys (h : ∀ k, (start k).Obeys k (asks k) (ends k) [])
    (run : Run rule start first es now s) (k : ι) :
    (now k).Obeys k (asks k) (ends k) (history k es) := by
  induction run with
  | nothing => exact h k
  | @step es now s s' j t c next a _ hasks _ ih =>
    by_cases hk : j = k
    · subst hk
      rw [hasks] at ih
      simpa using ih.2 t a
    · simpa [hk, Ne.symm hk] using ih

/-- What a routine of a run asks next is allowed to it. -/
theorem allowed (h : ∀ k, (start k).Obeys k (asks k) (ends k) [])
    (run : Run rule start first es now s) {k : ι} {c : I.Call} {next : I.Answer c → Routine I α}
    (hk : now k = .ask c next) : asks k (history k es) c := by
  have := run.obeys h k
  rw [hk] at this
  exact this.1

/-- Every call of a run was allowed to its routine when it was asked. -/
theorem asked (h : ∀ k, (start k).Obeys k (asks k) (ends k) []) {pre post : List (Event I ι)}
    {e : Event I ι} (run : Run rule start first (pre ++ e :: post) now s) :
    asks e.who (history e.who pre) e.call := by
  obtain ⟨_, _, _, _, before, hasks, _, _⟩ := run.cut
  exact before.allowed h hasks

/-- What holds at the start and is kept by every answer to a call that was allowed holds of every
run. -/
theorem invariant {good : List (Event I ι) → σ → Prop}
    (h : ∀ k, (start k).Obeys k (asks k) (ends k) []) (hfirst : good [] first)
    (hstep : ∀ es k t c a s s', asks k (history k es) c → rule t c a s s' → good es s →
      good (es ++ [⟨k, t, c, a⟩]) s')
    (run : Run rule start first es now s) : good es s := by
  induction run with
  | nothing => exact hfirst
  | @step es now s s' k t c next a before hasks answered ih =>
    exact hstep _ _ _ _ _ _ _ (before.allowed h hasks) answered ih

/-- A routine that ended did so as it is allowed to. -/
theorem ended (h : ∀ k, (start k).Obeys k (asks k) (ends k) [])
    (run : Run rule start first es now s) {k : ι} {a : α} (hk : now k = .done a) :
    ends k (history k es) a := by
  have := run.obeys h k
  rwa [hk] at this

end

end Run

/-! ### What happens once -/

/-- What never happens again after it happened has happened once. -/
theorem eq_of_never_again {β : Type} {l : List β} (good : β → Prop)
    (h : ∀ pre b post, l = pre ++ b :: post → good b → ∀ a ∈ pre, ¬ good a) {a b : β} (ha : a ∈ l)
    (hb : b ∈ l) (hga : good a) (hgb : good b) : a = b := by
  obtain ⟨pre, post, rfl⟩ := List.append_of_mem ha
  rcases List.mem_append.mp hb with hb | hb
  · exact absurd hgb (h pre a post rfl hga b hb)
  · rcases List.mem_cons.mp hb with rfl | hb
    · rfl
    · obtain ⟨l₁, l₂, rfl⟩ := List.append_of_mem hb
      exact absurd hga (h (pre ++ a :: l₁) b l₂ (by simp) hgb a (by simp))

/-- Values that are drawn once in a whole run are drawn once up to any moment of it. -/
theorem nodup_left {β γ : Type} {f : β → Option γ} {l l' : List β}
    (h : ((l ++ l').filterMap f).Nodup) : (l.filterMap f).Nodup :=
  h.sublist ((List.sublist_append_left l l').filterMap f)

/-- Of events that each draw another value, only one drew a given value. -/
theorem eq_of_drew {β γ : Type} {f : β → Option γ} {l : List β} (h : (l.filterMap f).Nodup)
    {a b : β} {x : γ} (ha : a ∈ l) (hb : b ∈ l) (hfa : f a = some x) (hfb : f b = some x) :
    a = b := by
  by_contra hne
  rw [List.Nodup, List.pairwise_filterMap] at h
  have : Std.Symm fun a b => ∀ x, f a = some x → ∀ y, f b = some y → x ≠ y :=
    ⟨fun a b hab x hx y hy => (hab y hy x hx).symm⟩
  exact h.forall ha hb hne x hfa x hfb rfl

/-! ### What order does not matter for -/

section
variable {β γ : Type} {kind : β → γ} {good : List β → Prop}

/-- What may go before its neighbour of another kind may go before all that are. -/
theorem good_front
    (swap : ∀ pre a b post, kind a ≠ kind b → good (pre ++ a :: b :: post) →
      good (pre ++ b :: a :: post)) {pre mid post : List β} {b : β}
    (hmid : ∀ a ∈ mid, kind a ≠ kind b) (h : good (pre ++ (mid ++ b :: post))) :
    good (pre ++ b :: (mid ++ post)) := by
  induction mid using List.reverseRecOn generalizing post with
  | nil => exact h
  | append_singleton mid a ih =>
    have hswap := swap (pre ++ mid) a b post (hmid a (by simp)) (by simpa using h)
    have hfront : good (pre ++ b :: (mid ++ a :: post)) :=
      ih (fun c hc => hmid c (by simp [hc])) (by simpa using hswap)
    simpa using hfront

/-- Where neighbours of different kinds may change places, only the order within each kind
matters. -/
theorem good_of_same_order [DecidableEq γ]
    (swap : ∀ pre a b post, kind a ≠ kind b → good (pre ++ a :: b :: post) →
      good (pre ++ b :: a :: post)) {pre l l' : List β}
    (same : ∀ k, l'.filter (kind · = k) = l.filter (kind · = k)) (h : good (pre ++ l)) :
    good (pre ++ l') := by
  induction l' generalizing pre l with
  | nil =>
    have hl : l = [] := by
      refine List.eq_nil_iff_forall_not_mem.mpr fun b hb => ?_
      have hm : b ∈ l.filter (kind · = kind b) := List.mem_filter.mpr ⟨hb, decide_eq_true rfl⟩
      rw [← same] at hm
      cases hm
    rwa [hl] at h
  | cons b l' ih =>
    have hb := same (kind b)
    rw [List.filter_cons_of_pos (p := (kind · = kind b)) (decide_eq_true rfl)] at hb
    obtain ⟨mid, post, rfl, hmid, -, -⟩ := List.filter_eq_cons_iff.mp hb.symm
    have hmid : ∀ a ∈ mid, kind a ≠ kind b := by simpa using hmid
    have hfront := good_front swap hmid h
    rw [List.append_cons] at hfront ⊢
    refine ih (fun k => ?_) hfront
    have hk := same k
    rw [List.filter_append] at hk ⊢
    by_cases hbk : kind b = k
    · have hnone : mid.filter (kind · = k) = [] :=
        List.filter_eq_nil_iff.mpr fun a ha => by simpa using hbk ▸ hmid a ha
      simpa [List.filter_cons, hbk, hnone] using hk
    · simpa [List.filter_cons, hbk] using hk

end

end SignOn
