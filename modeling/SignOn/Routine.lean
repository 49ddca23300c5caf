/-!
Work that calls on what lies outside it, one call at a time. Other work may come between any two
calls, so several routines can be run in any order of their calls; `run` is the order in which one
runs alone.
-/
namespace SignOn

/-- What can be asked for, and what is answered to it. -/
structure Interface where
  Call : Type
  Answer : Call → Type

inductive Routine (I : Interface) (α : Type) where
  | done (a : α)
  | ask (c : I.Call) (next : I.Answer c → Routine I α)

namespace Routine

variable {I : Interface} {σ α β : Type}

def call (c : I.Call) : Routine I (I.Answer c) := .ask c .done

def bind : Routine I α → (α → Routine I β) → Routine I β
  | .done a, f => f a
  | .ask c next, f => .ask c fun r => (next r).bind f

instance : Monad (Routine I) where
  pure := .done
  bind := .bind

/-- Runs a routine by a rule that answers calls and may change a state with each. -/
def run (answer : (c : I.Call) → σ → I.Answer c × σ) : Routine I α → σ → α × σ
  | .done a, s => (a, s)
  | .ask c next, s => (next (answer c s).1).run answer (answer c s).2

@[simp] theorem run_pure (answer : (c : I.Call) → σ → I.Answer c × σ) (a : α) (s : σ) :
    (pure a : Routine I α).run answer s = (a, s) := rfl

@[simp] theorem run_bind (answer : (c : I.Call) → σ → I.Answer c × σ) (r : Routine I α)
    (f : α → Routine I β) (s : σ) :
    (r >>= f).run answer s = (f (r.run answer s).1).run answer (r.run answer s).2 := by
  change (r.bind f).run answer s = _
  induction r generalizing s with
  | done a => rfl
  | ask c next ih => exact ih (answer c s).1 (answer c s).2

@[simp] theorem run_call (answer : (c : I.Call) → σ → I.Answer c × σ) (c : I.Call) (s : σ) :
    (call c).run answer s = answer c s := rfl

end Routine
end SignOn
