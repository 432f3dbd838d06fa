import Mathlib.Data.List.Forall2
import Mathlib.Logic.Basic

/-! Results of code that either returns a value, returns an error, or aborts.
An abort is kept apart from an error: the caller of the code can handle an
error, but nothing runs after an abort. -/

/-- An error is handed to the caller. An abort ends the program that runs the code. -/
inductive Failure (ε : Type) where
  | error (reason : ε)
  | abort (message : String)
  deriving DecidableEq, Repr

/-- The result of code that can fail in either way. -/
abbrev Outcome (ε α : Type) := Except (Failure ε) α

namespace Outcome

variable {ε δ α β : Type}

/-- Lift a fallible step of other code, wrapping its error in the caller's own. -/
def lift (wrap : δ → ε) : Except δ α → Outcome ε α
  | .ok a => .ok a
  | .error e => .error (.error (wrap e))

/-- The value of an option, or the given error when it is absent. -/
def okOr (reason : ε) : Option α → Outcome ε α
  | some a => .ok a
  | none => .error (.error reason)

/-- An early return with an error, taken exactly when the condition holds. -/
def rejectIf (condition : Prop) [Decidable condition] (reason : ε) : Outcome ε Unit :=
  if condition then .error (.error reason) else .ok ()

/-- The value of a fallible step that the code relies on. A failure aborts. -/
def expect (message : String) (debug : δ → String) : Except δ α → Outcome ε α
  | .ok a => .ok a
  | .error e => .error (.abort s!"{message}: {debug e}")

@[simp] theorem expect_ok (message : String) (debug : δ → String) (a : α) :
    (expect message debug (.ok a) : Outcome ε α) = .ok a := rfl

/-- Sequential composition succeeds exactly when both parts do. -/
theorem bind_eq_ok {x : Outcome ε α} {f : α → Outcome ε β} {b : β} :
    (x >>= f) = .ok b ↔ ∃ a, x = .ok a ∧ f a = .ok b := by
  cases x with
  | error e => simp [bind, Except.bind]
  | ok a => simp [bind, Except.bind]

/-- It fails with the failure of the first part that fails. -/
theorem bind_eq_error {x : Outcome ε α} {f : α → Outcome ε β} {failure : Failure ε} :
    (x >>= f) = .error failure ↔ x = .error failure ∨ ∃ a, x = .ok a ∧ f a = .error failure := by
  cases x with
  | error e => simp [bind, Except.bind]
  | ok a => simp [bind, Except.bind]

@[simp] theorem pure_ne_error {a : α} {failure : Failure ε} :
    (pure a : Outcome ε α) ≠ .error failure := by
  simp [pure, Except.pure]

@[simp] theorem pure_eq_ok {a b : α} : (pure a : Outcome ε α) = .ok b ↔ a = b := by
  simp [pure, Except.pure]

/-- A loop over a list succeeds exactly when each of its rounds does. -/
theorem mapM_eq_ok {f : α → Outcome ε β} {as : List α} {bs : List β} :
    as.mapM f = .ok bs ↔ List.Forall₂ (fun a b => f a = .ok b) as bs := by
  induction as generalizing bs with
  | nil =>
      rw [List.mapM_nil, pure_eq_ok, List.forall₂_nil_left_iff]
      exact eq_comm
  | cons a as ih =>
      simp only [List.mapM_cons, bind_eq_ok, pure_eq_ok, ih, List.forall₂_cons_left_iff]
      constructor
      · rintro ⟨b, hFirst, rest, hRest, rfl⟩
        exact ⟨b, rest, hFirst, hRest, rfl⟩
      · rintro ⟨b, rest, hFirst, hRest, rfl⟩
        exact ⟨b, hFirst, rest, hRest, rfl⟩

@[simp] theorem ok_bind (a : α) (f : α → Outcome ε β) : ((.ok a : Outcome ε α) >>= f) = f a := rfl

@[simp] theorem lift_ok (wrap : δ → ε) (a : α) : lift wrap (.ok a) = .ok a := rfl

@[simp] theorem lift_eq_ok {wrap : δ → ε} {x : Except δ α} {a : α} :
    lift wrap x = .ok a ↔ x = .ok a := by
  cases x <;> simp [lift]

@[simp] theorem okOr_some (reason : ε) (a : α) : okOr reason (some a) = .ok a := rfl

@[simp] theorem okOr_eq_ok {reason : ε} {x : Option α} {a : α} :
    okOr reason x = .ok a ↔ x = some a := by
  cases x <;> simp [okOr]

/-- The caller sees one of its own errors exactly when the other code failed with an
error that is wrapped in it. Wrapping never makes an abort. -/
theorem lift_eq_error {wrap : δ → ε} {x : Except δ α} {reason : ε} :
    lift wrap x = .error (.error reason) ↔ ∃ e, x = .error e ∧ wrap e = reason := by
  cases x <;> simp [lift]

theorem okOr_eq_error {reason reason' : ε} {x : Option α} :
    okOr reason x = .error (.error reason') ↔ x = none ∧ reason = reason' := by
  cases x <;> simp [okOr]

theorem rejectIf_eq_ok {condition : Prop} [Decidable condition] {reason : ε} {u : Unit} :
    rejectIf condition reason = .ok u ↔ ¬condition := by
  by_cases h : condition <;> simp [rejectIf, h]

/-- One branch of a chain of checks that end in an error. -/
theorem ite_error_eq_ok {condition : Prop} [Decidable condition] {reason : Failure ε}
    {x : Outcome ε α} {a : α} :
    (if condition then .error reason else x) = .ok a ↔ ¬condition ∧ x = .ok a := by
  by_cases h : condition <;> simp [h]

theorem rejectIf_of_not {condition : Prop} [Decidable condition] (reason : ε) (h : ¬condition) :
    rejectIf condition reason = .ok () := rejectIf_eq_ok.mpr h

theorem rejectIf_of {condition : Prop} [Decidable condition] (reason : ε) (h : condition) :
    rejectIf condition reason = .error (.error reason) := if_pos h

/-- The code returns an error to its caller. -/
def IsError (x : Outcome ε α) : Prop := ∃ reason, x = .error (.error reason)

/-- The code returns to its caller, with a value or with an error. -/
def Returns (x : Outcome ε α) : Prop := ∀ message, x ≠ .error (.abort message)

theorem returns_ok (a : α) : Returns (.ok a : Outcome ε α) := by
  intro message h
  cases h

theorem returns_error (reason : ε) : Returns (.error (.error reason) : Outcome ε α) := by
  intro message h
  cases h

theorem IsError.returns {x : Outcome ε α} (h : IsError x) : Returns x := by
  obtain ⟨reason, rfl⟩ := h
  exact returns_error reason

/-- Other code that does not abort still does not when its errors are wrapped. -/
theorem returns_lift (wrap : δ → ε) (x : Except δ α) : Returns (lift wrap x) := by
  cases x with
  | ok a => exact returns_ok a
  | error e => exact returns_error (wrap e)

theorem returns_okOr (reason : ε) (x : Option α) : Returns (okOr reason x) := by
  cases x with
  | some a => exact returns_ok a
  | none => exact returns_error reason

theorem returns_rejectIf (condition : Prop) [Decidable condition] (reason : ε) :
    Returns (rejectIf condition reason) := by
  by_cases h : condition
  · rw [rejectIf_of reason h]
    exact returns_error reason
  · rw [rejectIf_of_not reason h]
    exact returns_ok ()

/-- One branch of a chain of checks that end in an error. -/
theorem returns_ite_error {condition : Prop} [Decidable condition] {reason : ε} {x : Outcome ε α}
    (h : Returns x) : Returns (if condition then .error (.error reason) else x) := by
  by_cases hCondition : condition
  · rw [if_pos hCondition]
    exact returns_error reason
  · rw [if_neg hCondition]
    exact h

/-- Code that returns, but not with a value, returns an error. -/
theorem Returns.isError {x : Outcome ε α} (h : Returns x) (hNot : ∀ a, x ≠ .ok a) : IsError x := by
  cases x with
  | ok a => exact absurd rfl (hNot a)
  | error failure =>
      cases failure with
      | error reason => exact ⟨reason, rfl⟩
      | abort message => exact absurd rfl (h message)

/-- Code returns when its first part does, and its second part does for every value
that the first one hands on. -/
theorem Returns.bind {x : Outcome ε α} {f : α → Outcome ε β} (hx : Returns x)
    (hf : ∀ a, x = .ok a → Returns (f a)) : Returns (x >>= f) := by
  cases x with
  | ok a => exact hf a rfl
  | error failure =>
      cases failure with
      | error reason => exact returns_error reason
      | abort message => exact absurd rfl (hx message)

/-- A loop whose rounds all return does so too, also when a round ends it early. -/
theorem returns_mapM {f : α → Outcome ε β} (h : ∀ a, Returns (f a)) (as : List α) :
    Returns (as.mapM f) := by
  induction as with
  | nil => exact returns_ok []
  | cons a as ih =>
      rw [List.mapM_cons]
      exact (h a).bind fun b _ => ih.bind fun bs _ => returns_ok (b :: bs)

/-- A step that always returns hands on to one that fails, or fails itself. -/
theorem IsError.bind {x : Outcome ε α} {f : α → Outcome ε β} (hx : Returns x)
    (hf : ∀ a, x = .ok a → IsError (f a)) : IsError (x >>= f) := by
  cases x with
  | ok a => exact hf a rfl
  | error failure =>
      cases failure with
      | error reason => exact ⟨reason, rfl⟩
      | abort message => exact absurd rfl (hx message)

end Outcome
