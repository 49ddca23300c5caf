import SignOn.Routine

/-!
What a routine asks and is answered. What it makes of its answers does not depend on who gives
them, so its calls and its end are known from the answers alone (`Answered`); where it runs alone,
its transcript tells which they were.
-/
namespace SignOn

/-- A call with its answer. -/
structure Reply (I : Interface) where
  call : I.Call
  answer : I.Answer call

namespace Routine

variable {I : Interface} {σ α β : Type}

theorem bind_eq (r : Routine I α) (f : α → Routine I β) : r >>= f = r.bind f := rfl

/-! ### Given the answers -/

/-- A routine ends in a way after it made the calls of a list, one after the other, and was answered
as in the list. -/
def Answered : Routine I α → List (Reply I) → α → Prop
  | .done a, l, o => l = [] ∧ o = a
  | .ask c next, l, o => ∃ a l', l = ⟨c, a⟩ :: l' ∧ (next a).Answered l' o

variable {l : List (Reply I)}

/-- Of a routine with another behind it the calls of both are made, one after the other. -/
theorem answered_bind {r : Routine I α} {f : α → Routine I β} {o : β} :
    (r.bind f).Answered l o ↔
      ∃ a l₁ l₂, l = l₁ ++ l₂ ∧ r.Answered l₁ a ∧ (f a).Answered l₂ o := by
  induction r generalizing l with
  | done a =>
    constructor
    · exact fun h => ⟨a, [], l, rfl, ⟨rfl, rfl⟩, h⟩
    · rintro ⟨_, _, l₂, rfl, ⟨rfl, rfl⟩, h⟩
      exact h
  | ask c next ih =>
    simp only [bind, Answered, ih]
    constructor
    · rintro ⟨r, _, rfl, a, l₁, l₂, rfl, h₁, h₂⟩
      exact ⟨a, ⟨c, r⟩ :: l₁, l₂, rfl, ⟨r, l₁, rfl, h₁⟩, h₂⟩
    · rintro ⟨a, _, l₂, rfl, ⟨r, l₁, rfl, h₁⟩, h₂⟩
      exact ⟨r, l₁ ++ l₂, rfl, a, l₁, l₂, rfl, h₁, h₂⟩

/-! ### Alone -/

variable (answer : (c : I.Call) → σ → I.Answer c × σ)

/-- The calls that a routine makes when it runs alone, with their answers. -/
def transcript : Routine I α → σ → List (Reply I)
  | .done _, _ => []
  | .ask c next, s => ⟨c, (answer c s).1⟩ :: (next (answer c s).1).transcript (answer c s).2

variable (r : Routine I α) (s : σ)

theorem answered_run : r.Answered (r.transcript answer s) (r.run answer s).1 := by
  induction r generalizing s with
  | done a => exact ⟨rfl, rfl⟩
  | ask c next ih => exact ⟨_, _, rfl, ih (answer c s).1 (answer c s).2⟩

/-- The state after calls. -/
def after (l : List (Reply I)) (s : σ) : σ := l.foldl (fun s a => (answer a.call s).2) s

theorem after_transcript : after answer (r.transcript answer s) s = (r.run answer s).2 := by
  induction r generalizing s with
  | done a => rfl
  | ask c next ih => exact ih (answer c s).1 (answer c s).2

variable {answer r s}

/-- What a transcript begins with was answered at once. -/
theorem answer_of_transcript {a : Reply I} (h : r.transcript answer s = a :: l) :
    a.answer = (answer a.call s).1 := by
  cases r with
  | done o => cases h
  | ask c next =>
    obtain ⟨rfl, -⟩ := List.cons.inj h
    rfl

theorem answer_of_mem {a : Reply I} (h : a ∈ r.transcript answer s) :
    ∃ s, a.answer = (answer a.call s).1 := by
  induction r generalizing s with
  | done o => cases h
  | ask c next ih =>
    rcases List.mem_cons.mp h with rfl | h
    · exact ⟨s, rfl⟩
    · exact ih (answer c s).1 h

/-- What every call of a list keeps holds after them. -/
theorem after_keeps (good : σ → Prop) (h : good s)
    (step : ∀ a ∈ l, ∀ s, good s → good (answer a.call s).2) : good (after answer l s) := by
  induction l generalizing s with
  | nil => exact h
  | cons a l ih =>
    exact ih (step a List.mem_cons_self s h) fun b hb => step b (List.mem_cons_of_mem a hb)

end Routine
end SignOn
