import Mathlib.Data.List.Induction
import SignOn.Proofs.Store.PendingLogins

/-!
Values that are kept under keys for a time. What such a store hands out is told by what was done to
it alone: a value is there if the last act on its key keeps it and its time is not over (`Held`). A
store may drop other values early only when their time is over (`Tracks`), so nobody sees when it
does; the store of pending sign-ons in memory is one of these (`taken_iff_kept_last`).
-/
namespace SignOn.Store

variable {α β ε : Type}

/-! ### What was done -/

/-- Keeps a value under a key at a moment, or takes the value of a key away. -/
structure Act (α : Type) where
  time : Moment
  key : String
  /-- Nothing where a value is taken. -/
  value? : Option α

/-- No act is earlier than one before it. -/
def Chronological (acts : List (Act α)) : Prop :=
  acts.Pairwise fun a b => a.time.nanos ≤ b.time.nanos

/-- The last act on a key keeps a value, from some moment on. -/
def LastKept (acts : List (Act α)) (key : String) (a : α) (start : Moment) : Prop :=
  ∃ before after, acts = before ++ ⟨start, key, some a⟩ :: after ∧ ∀ b ∈ after, b.key ≠ key

/-- A value that is kept for a time, in nanoseconds, and is there at a moment. -/
def Held (life : Nat) (acts : List (Act α)) (key : String) (a : α) (now : Moment) : Prop :=
  ∃ start, LastKept acts key a start ∧ now.nanos < start.nanos + life

variable {life : Nat} {acts : List (Act α)} {key : String} {a : α} {start now : Moment}

theorem lastKept_nil : ¬ LastKept [] key a start := by
  rintro ⟨before, after, h, -⟩
  cases before <;> cases h

theorem lastKept_concat {c : Act α} : LastKept (acts ++ [c]) key a start ↔
    c = ⟨start, key, some a⟩ ∨ c.key ≠ key ∧ LastKept acts key a start := by
  constructor
  · rintro ⟨before, after, h, hafter⟩
    rcases List.eq_nil_or_concat' after with rfl | ⟨after, d, rfl⟩
    · exact .inl (List.singleton_inj.mp (List.append_inj' h rfl).2)
    · rw [← List.cons_append, ← List.append_assoc] at h
      obtain ⟨rfl, hd⟩ := List.append_inj' h rfl
      obtain rfl := List.singleton_inj.mp hd
      exact .inr ⟨hafter c (by simp), before, after, rfl,
        fun b hb => hafter b (List.mem_append_left _ hb)⟩
  · rintro (rfl | ⟨hne, before, after, rfl, hafter⟩)
    · exact ⟨acts, [], rfl, by simp⟩
    · refine ⟨before, after ++ [c], by simp, fun b hb => ?_⟩
      rcases List.mem_append.mp hb with hb | hb
      · exact hafter b hb
      · exact List.mem_singleton.mp hb ▸ hne

theorem LastKept.mem (h : LastKept acts key a start) : ⟨start, key, some a⟩ ∈ acts := by
  obtain ⟨before, after, rfl, -⟩ := h
  exact List.mem_append_right _ List.mem_cons_self

/-- Where keys are told apart by other keys, and values are written as others, the last act on a key
keeps what is written of the value that was kept. -/
theorem lastKept_map {f : Act α → Act β} {g : String → String} {w : α → β} {b : β}
    (hf : ∀ c, f c = ⟨c.time, g c.key, c.value?.map w⟩)
    (hg : ∀ c ∈ acts, g c.key = g key → c.key = key) :
    LastKept (acts.map f) (g key) b start ↔ ∃ a, LastKept acts key a start ∧ w a = b := by
  induction acts using List.reverseRecOn with
  | nil => exact iff_of_false lastKept_nil fun ⟨_, h, _⟩ => lastKept_nil h
  | append_singleton acts c ih =>
    have hc : g c.key = g key ↔ c.key = key := ⟨hg c (by simp), fun h => h ▸ rfl⟩
    obtain ⟨time, key', value?⟩ := c
    simp only [List.map_append, List.map_singleton, lastKept_concat, hf, Act.mk.injEq,
      Option.map_eq_some_iff, ne_eq, hc, ih fun c hm => hg c (List.mem_append_left _ hm)]
    grind

/-! ### Stores -/

/-- The entries of a store agree with what was done to it: each is of the last act on its key, and
of the values that were there at every moment so far none is missing. -/
structure Tracks (life : Nat) (value : ε → α) (expiry : ε → Moment) (acts : List (Act α))
    (entries : List (String × ε)) : Prop where
  sound : ∀ x ∈ entries, ∃ start, LastKept acts x.1 (value x.2) start ∧
    expiry x.2 = ⟨start.nanos + life⟩
  complete : ∀ key a start, LastKept acts key a start →
    (∀ c ∈ acts, c.time.nanos < start.nanos + life) →
    ∃ e, entries.lookup key = some e ∧ value e = a ∧ expiry e = ⟨start.nanos + life⟩

namespace Tracks

variable {value : ε → α} {expiry : ε → Moment} {entries : List (String × ε)}

theorem empty : Tracks life value expiry [] [] :=
  ⟨by simp, fun _ _ _ h => absurd h lastKept_nil⟩

/-- A value comes in; entries of other keys may go if their time is over. -/
theorem keep (h : Tracks life value expiry acts entries) {e : ε}
    (he : expiry e = ⟨now.nanos + life⟩) (keeps : String × ε → Bool)
    (hkey : ∀ x, keeps x = true → x.1 ≠ key)
    (hlive : ∀ x, x.1 ≠ key → now.nanos < (expiry x.2).nanos → keeps x = true) :
    Tracks life value expiry (acts ++ [⟨now, key, some (value e)⟩])
      ((key, e) :: entries.filter keeps) where
  sound x hx := by
    rcases List.mem_cons.mp hx with rfl | hx
    · exact ⟨now, lastKept_concat.mpr (.inl rfl), he⟩
    · obtain ⟨hx, hkeeps⟩ := List.mem_filter.mp hx
      obtain ⟨start, hlast, hexpiry⟩ := h.sound x hx
      exact ⟨start, lastKept_concat.mpr (.inr ⟨(hkey x hkeeps).symm, hlast⟩), hexpiry⟩
  complete k a start hlast htimes := by
    rcases lastKept_concat.mp hlast with hc | ⟨hne, hlast⟩
    · obtain ⟨rfl, rfl, ha⟩ := Act.mk.inj hc
      exact ⟨e, by simp, Option.some.inj ha, he⟩
    · obtain ⟨e', hlookup, hvalue, hexpiry⟩ :=
        h.complete k a start hlast fun c hc => htimes c (List.mem_append_left _ hc)
      -- `htimes` speaks of this act too, so the entry is none of those that may go
      have hnow : now.nanos < (expiry e').nanos := by
        rw [hexpiry]
        exact htimes _ (List.mem_append_right _ List.mem_cons_self)
      have hbeq : (k == key) = false := by simpa using Ne.symm hne
      refine ⟨e', ?_, hvalue, hexpiry⟩
      simp only [List.lookup_cons, hbeq]
      exact lookup_filter hlookup (hlive (k, e') (Ne.symm hne) hnow)

/-- The value of a key goes, whether its time is over or not. -/
theorem take (h : Tracks life value expiry acts entries) (now : Moment) (key : String) :
    Tracks life value expiry (acts ++ [⟨now, key, none⟩])
      (entries.filter fun x => x.1 != key) where
  sound x hx := by
    obtain ⟨hx, hne⟩ := List.mem_filter.mp hx
    obtain ⟨start, hlast, hexpiry⟩ := h.sound x hx
    exact ⟨start, lastKept_concat.mpr (.inr ⟨(bne_iff_ne.mp hne).symm, hlast⟩), hexpiry⟩
  complete k a start hlast htimes := by
    rcases lastKept_concat.mp hlast with hc | ⟨hne, hlast⟩
    · cases hc
    · obtain ⟨e, hlookup, hvalue, hexpiry⟩ :=
        h.complete k a start hlast fun c hc => htimes c (List.mem_append_left _ hc)
      exact ⟨e, lookup_filter hlookup (bne_iff_ne.mpr (Ne.symm hne)), hvalue, hexpiry⟩

/-- An entry is found before its time is over just where its value is there. -/
theorem found_iff (h : Tracks life value expiry acts entries)
    (hnow : ∀ c ∈ acts, c.time.nanos ≤ now.nanos) :
    (∃ e, entries.lookup key = some e ∧ now.nanos < (expiry e).nanos ∧ value e = a) ↔
      Held life acts key a now := by
  constructor
  · rintro ⟨e, hlookup, hlive, rfl⟩
    obtain ⟨start, hlast, hexpiry⟩ := h.sound _ (mem_of_lookup hlookup)
    rw [hexpiry] at hlive
    exact ⟨start, hlast, hlive⟩
  · rintro ⟨start, hlast, hlive⟩
    obtain ⟨e, hlookup, hvalue, hexpiry⟩ :=
      h.complete key a start hlast fun c hc => Int.lt_of_le_of_lt (hnow c hc) hlive
    exact ⟨e, hlookup, by rw [hexpiry]; exact hlive, hvalue⟩

end Tracks

theorem Chronological.le_of_concat {c : Act α} (h : Chronological (acts ++ [c])) :
    ∀ b ∈ acts, b.time.nanos ≤ c.time.nanos :=
  fun b hb => (List.pairwise_append.mp h).2.2 b hb c List.mem_cons_self

/-- What was done up to some act was done one after the other. -/
theorem Chronological.until {before after : List (Act α)} {c : Act α}
    (h : Chronological (before ++ c :: after)) : Chronological (before ++ [c]) := by
  rw [List.append_cons] at h
  exact h.sublist (List.sublist_append_left _ _)

/-! ### Pending sign-ons in memory -/

namespace PendingLogins

/-- Does what an act says; what is handed out is a record that was taken. Nothing comes of keeping a
record where a clock cannot tell the end of its time. -/
def act (life : Nat) (c : Act Login.Pending) (s : PendingLogins) :
    Option (Option Login.Pending × PendingLogins) :=
  match c.value? with
  | some p => (s.save? life c.time c.key p).map fun s => (none, s)
  | none => some (s.take c.time c.key)

/-- The store after acts, which begins empty, if it gets through them. -/
def after (life : Nat) (acts : List (Act Login.Pending)) : Option PendingLogins :=
  acts.foldlM (fun s c => (s.act life c).map (·.2)) empty

/-- A clock can tell the end of all that acts keep. -/
def CanKeepAll (life : Nat) (acts : List (Act Login.Pending)) : Prop :=
  ∀ c ∈ acts, c.value? ≠ none → CanKeep life c.time

section
variable {s s' : PendingLogins} {acts : List (Act Login.Pending)} {state : String}
  {p : Login.Pending}

theorem save?_eq_some :
    s.save? life now state p = some s' ↔ CanKeep life now ∧ s.save life now state p = s' := by
  simp [save?]

theorem after_concat (life : Nat) (acts : List (Act Login.Pending)) (c : Act Login.Pending) :
    after life (acts ++ [c]) = (after life acts).bind fun s => (s.act life c).map (·.2) := by
  simp [after, List.foldlM_append]

theorem canKeepAll_concat {c : Act Login.Pending} : CanKeepAll life (acts ++ [c]) ↔
    CanKeepAll life acts ∧ (c.value? ≠ none → CanKeep life c.time) := by
  simp [CanKeepAll, or_imp, forall_and]

theorem act_eq_none {c : Act Login.Pending} :
    s.act life c = none ↔ ¬ (c.value? ≠ none → CanKeep life c.time) := by
  rw [act]
  cases c.value? with
  | none => simp
  | some p => simp [save?]

theorem exists_act (s : PendingLogins) {c : Act Login.Pending}
    (h : c.value? ≠ none → CanKeep life c.time) : ∃ r, s.act life c = some r :=
  Option.ne_none_iff_exists'.mp fun hnone => act_eq_none.mp hnone h

theorem exists_after_iff : (∃ s, after life acts = some s) ↔ CanKeepAll life acts := by
  rw [← Option.ne_none_iff_exists', ne_eq]
  induction acts using List.reverseRecOn with
  | nil => simp [after, CanKeepAll]
  | append_singleton acts c ih =>
    rw [after_concat, canKeepAll_concat, ← ih]
    cases after life acts with
    | none => simp
    | some s =>
      rw [Option.bind_some, Option.map_eq_none_iff, act_eq_none, not_not]
      exact (and_iff_right (by simp)).symm

theorem tracks_after (h : after life acts = some s) :
    Tracks life (·.pending) (·.expiry) acts s.entries := by
  induction acts using List.reverseRecOn generalizing s with
  | nil =>
    cases h
    exact .empty
  | append_singleton acts c ih =>
    obtain ⟨now, key, value?⟩ := c
    rw [after_concat] at h
    obtain ⟨before, hbefore, h⟩ := Option.bind_eq_some_iff.mp h
    obtain ⟨⟨_, _⟩, hact, rfl⟩ := Option.map_eq_some_iff.mp h
    cases value? with
    | none =>
      cases hact
      exact (ih hbefore).take now key
    | some p =>
      obtain ⟨_, hsave, heq⟩ := Option.map_eq_some_iff.mp hact
      obtain ⟨-, rfl⟩ := save?_eq_some.mp hsave
      cases heq
      refine (ih hbefore).keep (e := ⟨p, ⟨now.nanos + life⟩⟩) rfl
        (fun e => e.1 != key && e.2.isLive now) ?_ ?_
      · intro x hx
        exact bne_iff_ne.mp (Bool.and_eq_true_iff.mp hx).1
      · intro x hne hlive
        exact Bool.and_eq_true_iff.mpr ⟨bne_iff_ne.mpr hne, (Entry.isLive_iff ..).mpr hlive⟩

theorem take_after (hs : after life acts = some s)
    (h : Chronological (acts ++ [⟨now, state, none⟩])) (p : Login.Pending) :
    (s.take now state).1 = some p ↔ Held life acts state p now := by
  rw [← (tracks_after hs).found_iff h.le_of_concat]
  simp only [take_eq_some, Entry.isLive_iff]

theorem live_of_mem_save {x : String × Entry} (hx : x ∈ (s.save life now state p).entries)
    (hne : x ≠ (state, ⟨p, ⟨now.nanos + life⟩⟩)) : now.nanos < x.2.expiry.nanos := by
  rcases List.mem_cons.mp hx with rfl | hx
  · exact absurd rfl hne
  · have hkeeps := Bool.and_eq_true_iff.mp (List.mem_filter.mp hx).2
    exact (Entry.isLive_iff ..).mp hkeeps.2

/-- Where a clock can tell the end of all that is kept, and only there, a store gets through what is
done to it. Of what was done one after the other, a take hands out a record if and only if the last
act on its state before saved that record and its time is not over. And after a save, whatever else
is kept ends later than that moment. -/
theorem taken_iff_kept_last (h : Chronological acts) :
    ((∃ s, after life acts = some s) ↔ CanKeepAll life acts) ∧
    (∀ before now state rest s, acts = before ++ ⟨now, state, none⟩ :: rest →
      after life before = some s →
        ∀ p, (s.take now state).1 = some p ↔ Held life before state p now) ∧
    ∀ before now state p rest s, acts = before ++ ⟨now, state, some p⟩ :: rest →
      after life (before ++ [⟨now, state, some p⟩]) = some s →
        ∀ x ∈ s.entries, x ≠ (state, ⟨p, ⟨now.nanos + life⟩⟩) →
          now.nanos < x.2.expiry.nanos := by
  refine ⟨exists_after_iff, ?_, ?_⟩
  · rintro before now state rest s rfl hs
    exact take_after hs h.until
  · rintro before now state p rest s rfl hs x hx
    rw [after_concat] at hs
    obtain ⟨s', -, hs⟩ := Option.bind_eq_some_iff.mp hs
    obtain ⟨_, hact, rfl⟩ := Option.map_eq_some_iff.mp hs
    obtain ⟨_, hsave, rfl⟩ := Option.map_eq_some_iff.mp hact
    obtain ⟨-, rfl⟩ := save?_eq_some.mp hsave
    exact live_of_mem_save hx

end

/-- A record that is kept for ten nanoseconds, while another is saved. -/
def sampleActs (taken : Int) : List (Act Login.Pending) :=
  [⟨⟨0⟩, "a", some default⟩, ⟨⟨5⟩, "b", some default⟩, ⟨⟨taken⟩, "a", none⟩]

theorem taken_iff_kept_last_sample :
    ∃ s, after 10 ((sampleActs 9).take 2) = some s ∧ (s.take ⟨9⟩ "a").1 = some default ∧
      (s.take ⟨10⟩ "a").1 = none := by
  have last : LastKept ((sampleActs 9).take 2) "a" default ⟨0⟩ := ⟨[], [_], rfl, by simp⟩
  have h : Chronological ((sampleActs 9).take 2) := by simp [Chronological, sampleActs]
  have h9 : Chronological (sampleActs 9) := by simp [Chronological, sampleActs]
  have h10 : Chronological (sampleActs 10) := by simp [Chronological, sampleActs]
  have all : CanKeepAll 10 ((sampleActs 9).take 2) := by
    simp [CanKeepAll, sampleActs, CanKeep, maxSeconds]
  obtain ⟨s, hs⟩ := (taken_iff_kept_last h).1.mpr all
  refine ⟨s, hs, ?_, ?_⟩
  · have taken := (taken_iff_kept_last h9).2.1 _ ⟨9⟩ "a" [] s rfl hs default
    exact taken.mpr ⟨⟨0⟩, last, by decide⟩
  · refine Option.eq_none_iff_forall_ne_some.mpr fun p hp => ?_
    have taken := (taken_iff_kept_last h10).2.1 _ ⟨10⟩ "a" [] s rfl hs p
    obtain ⟨start, hlast, hlive⟩ := taken.mp hp
    have hmem : ⟨start, "a", some p⟩ ∈ (sampleActs 10).take 2 := hlast.mem
    obtain ⟨rfl, -⟩ : start = ⟨0⟩ ∧ p = default := by simpa [sampleActs] using hmem
    exact absurd hlive (by decide)

/-- A store gives up where a clock cannot tell the end, though the record would be there. -/
theorem gives_up_without_end : ∃ (life : Nat) (acts : List (Act Login.Pending)),
    Chronological (acts ++ [⟨.ofSeconds 1, "a", none⟩]) ∧
    Held life acts "a" default (.ofSeconds 1) ∧ after life acts = none := by
  refine ⟨(2 ^ 63 - 1) * 10 ^ 9, [⟨.ofSeconds 1, "a", some default⟩], ?_, ?_, rfl⟩
  · simp [Chronological]
  · exact ⟨.ofSeconds 1, ⟨[], [], rfl, by simp⟩, by decide⟩

end PendingLogins
end SignOn.Store
