import Mathlib.Data.List.Basic
import Mathlib.Logic.Relation

/-! Runs of a deterministic machine that answers every input. A trace keeps the
inputs with their answers, most recent first, so that a statement about the
past of a state is a statement about the tail of a list. -/
namespace Transition

universe u v w

/-- Every input is answered, in every state, and the answer is determined. -/
structure Machine (State : Type u) (Input : Type v) (Output : Type w) where
  initial : State
  step : State → Input → State × Output

variable {State : Type u} {Input : Type v} {Output : Type w}

/-- Inputs with their answers, the most recent first. -/
abbrev Trace (Input : Type v) (Output : Type w) := List (Input × Output)

/-- The machine goes from the first state to the last, answering the inputs of
the trace in order. Nothing is skipped: an input that changes no state is recorded too. -/
inductive Steps (M : Machine State Input Output) :
    State → Trace Input Output → State → Prop where
  | zero (s : State) : Steps M s [] s
  | succ {s m t : State} {trace : Trace Input Output} {input : Input} {output : Output}
      (prior : Steps M s trace m) (last : M.step m input = (t, output)) :
      Steps M s ((input, output) :: trace) t

/-- A run is a sequence of steps from the initial state. -/
abbrev Run (M : Machine State Input Output) (trace : Trace Input Output) (s : State) : Prop :=
  Steps M M.initial trace s

variable {M : Machine State Input Output}

/-- The last step of a nonempty trace, with the state it was taken in. -/
theorem Steps.last_step {s t : State} {trace : Trace Input Output} {input : Input}
    {output : Output} (steps : Steps M s ((input, output) :: trace) t) :
    ∃ m, Steps M s trace m ∧ M.step m input = (t, output) := by
  cases steps with
  | succ prior last => exact ⟨_, prior, last⟩

/-- Steps split at every point of their trace. -/
theorem Steps.split {s t : State} {before : Trace Input Output} (after : Trace Input Output)
    (steps : Steps M s (after ++ before) t) :
    ∃ m, Steps M s before m ∧ Steps M m after t := by
  induction after generalizing t with
  | nil => exact ⟨t, steps, .zero t⟩
  | cons event after ih =>
      obtain ⟨m, hPrior, hLast⟩ := Steps.last_step steps
      obtain ⟨n, hBefore, hAfter⟩ := ih hPrior
      exact ⟨n, hBefore, hAfter.succ hLast⟩

/-- Steps after steps. -/
theorem Steps.append {s m t : State} {before after : Trace Input Output} (prior : Steps M s before m)
    (steps : Steps M m after t) : Steps M s (after ++ before) t := by
  induction steps with
  | zero => exact prior
  | succ _ last ih => exact ih.succ last

/-- A recorded answer was given in some state on the way. -/
theorem Steps.split_at {s t : State} {after before : Trace Input Output} {input : Input}
    {output : Output} (steps : Steps M s (after ++ (input, output) :: before) t) :
    ∃ m n, Steps M s before m ∧ M.step m input = (n, output) ∧ Steps M n after t := by
  obtain ⟨n, hBefore, hAfter⟩ := steps.split after
  obtain ⟨m, hPrior, hStep⟩ := hBefore.last_step
  exact ⟨m, n, hPrior, hStep, hAfter⟩

theorem Steps.split_of_mem {s t : State} {trace : Trace Input Output} {input : Input}
    {output : Output} (steps : Steps M s trace t) (h : (input, output) ∈ trace) :
    ∃ before after m n, trace = after ++ (input, output) :: before ∧ Steps M s before m ∧
      M.step m input = (n, output) ∧ Steps M n after t := by
  obtain ⟨after, before, rfl⟩ := List.append_of_mem h
  obtain ⟨m, n, hBefore, hStep, hAfter⟩ := steps.split_at
  exact ⟨before, after, m, n, rfl, hBefore, hStep, hAfter⟩

/-- A property of the past and the present state that every step carries over
holds after any number of steps. -/
theorem Steps.invariant {s t : State} {trace : Trace Input Output}
    (P : Trace Input Output → State → Prop) (steps : Steps M s trace t) (hZero : P [] s)
    (hStep : ∀ trace m input output t, P trace m → M.step m input = (t, output) →
      P ((input, output) :: trace) t) : P trace t := by
  induction steps with
  | zero => exact hZero
  | succ prior last ih => exact hStep _ _ _ _ _ ih last

/-- A simulation of single steps lifts to all of them. The relation sees the
past, so the abstract state can account for what was answered before. -/
theorem Steps.simulate {Abstract : Type*} {s t : State} {past trace : Trace Input Output}
    {a : Abstract} (Represents : Trace Input Output → State → Abstract → Prop)
    (next : Abstract → Abstract → Prop) (steps : Steps M s trace t) (hStart : Represents past s a)
    (hStep : ∀ trace m input output t a, Represents trace m a → M.step m input = (t, output) →
      ∃ a', Relation.ReflTransGen next a a' ∧ Represents ((input, output) :: trace) t a') :
    ∃ a', Relation.ReflTransGen next a a' ∧ Represents (trace ++ past) t a' := by
  induction steps with
  | zero => exact ⟨a, .refl, hStart⟩
  | succ prior last ih =>
      obtain ⟨b, hPrior, hMiddle⟩ := ih
      obtain ⟨c, hLast, hNext⟩ := hStep _ _ _ _ _ _ hMiddle last
      exact ⟨c, hPrior.trans hLast, hNext⟩

end Transition
