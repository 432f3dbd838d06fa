import EthereumElc.General.Transition
import Mathlib.Data.List.Pairwise

/-! Runs compared with other runs of the same machine: without the steps that an
observer does not depend on, and with independent steps in another order. -/
namespace Transition

universe u v w x

variable {State : Type u} {Input : Type v} {Output : Type w} {M : Machine State Input Output}

/-- An observer that keeps some events and compares states in its own way. What
it keeps is answered alike in states that agree, and what it drops changes
nothing that it compares. -/
structure Unwinding (M : Machine State Input Output) (keep : Input × Output → Bool)
    (Agree : State → State → Prop) : Prop where
  kept : ∀ s s' input t output, Agree s s' → M.step s input = (t, output) →
    keep (input, output) = true → ∃ t', M.step s' input = (t', output) ∧ Agree t t'
  dropped : ∀ s s' input t output, Agree s s' → M.step s input = (t, output) →
    keep (input, output) = false → Agree t s'

/-- The kept events of any run are a run of their own, with the same answers, to
a state that the observer does not tell from the old one. -/
theorem Unwinding.purge {keep : Input × Output → Bool} {Agree : State → State → Prop}
    (h : Unwinding M keep Agree) {s s' t : State} {trace : Trace Input Output}
    (steps : Steps M s trace t) (hAgree : Agree s s') :
    ∃ t', Steps M s' (trace.filter keep) t' ∧ Agree t t' := by
  induction steps with
  | zero => exact ⟨s', .zero s', hAgree⟩
  | @succ m t trace input output prior last ih =>
      obtain ⟨m', hPrior, hMiddle⟩ := ih
      cases hKeep : keep (input, output) with
      | true =>
          obtain ⟨t', hLast, hEnd⟩ := h.kept _ _ _ _ _ hMiddle last hKeep
          rw [List.filter_cons_of_pos hKeep]
          exact ⟨t', hPrior.succ hLast, hEnd⟩
      | false =>
          rw [List.filter_cons_of_neg (by simp [hKeep])]
          exact ⟨m', hPrior, h.dropped _ _ _ _ _ hMiddle last hKeep⟩

/-- A search that finds nothing in the dropped events finds the same without them. -/
theorem findSome?_filter_of_dropped {Found : Type*} {keep : Input × Output → Bool}
    {search : Input × Output → Option Found}
    (hDropped : ∀ event, keep event = false → search event = none) (trace : Trace Input Output) :
    (trace.filter keep).findSome? search = trace.findSome? search := by
  induction trace with
  | nil => rfl
  | cons event trace ih =>
      cases hKeep : keep event with
      | true => rw [List.filter_cons_of_pos hKeep, List.findSome?_cons, List.findSome?_cons, ih]
      | false =>
          rw [List.filter_cons_of_neg (by simp [hKeep]), List.findSome?_cons, hDropped event hKeep,
            ih]

variable {Seen : Type x} {view : Output → Option Seen}

/-- Two traces of the same inputs, whose outputs are seen alike. -/
def SeenAlike (view : Output → Option Seen) (trace trace' : Trace Input Output) : Prop :=
  trace.map (fun event => (event.1, view event.2)) =
    trace'.map (fun event => (event.1, view event.2))

/-- Traces that are seen alike still are after one more input, when its two outputs are. -/
theorem SeenAlike.cons {trace trace' : Trace Input Output} {output output' : Output}
    (h : SeenAlike view trace trace') (input : Input) (hView : view output = view output') :
    SeenAlike view ((input, output) :: trace) ((input, output') :: trace') := by
  unfold SeenAlike at h ⊢
  rw [List.map_cons, List.map_cons, h, hView]

/-- A search that reads only what is seen finds the same in both traces. -/
theorem SeenAlike.findSome?_eq {Found : Type*} {trace trace' : Trace Input Output}
    (h : SeenAlike view trace trace') {search : Input × Output → Option Found}
    (seen : Input × Option Seen → Option Found)
    (hSearch : ∀ event, search event = seen (event.1, view event.2)) :
    trace.findSome? search = trace'.findSome? search := by
  have hMap (trace : Trace Input Output) : trace.findSome? search =
      (trace.map fun event => (event.1, view event.2)).findSome? seen := by
    rw [List.findSome?_map]
    exact congrArg (List.findSome? · trace) (funext hSearch)
  rw [hMap, hMap, h]

/-- An input is answered in a state with an output that is seen as the given value. -/
def Accepts (M : Machine State Input Output) (view : Output → Option Seen) (s : State)
    (event : Input × Seen) : Prop :=
  ∃ t output, M.step s event.1 = (t, output) ∧ view output = some event.2

/-- Inputs that are given one after the other, the first one first, with what is
seen of their answers. -/
inductive Answers (M : Machine State Input Output) (view : Output → Option Seen) :
    State → List (Input × Seen) → State → Prop where
  | nil (s : State) : Answers M view s [] s
  | cons {s m t : State} {input : Input} {output : Output} {seen : Seen}
      {rest : List (Input × Seen)} (first : M.step s input = (m, output))
      (view_output : view output = some seen) (others : Answers M view m rest t) :
      Answers M view s ((input, seen) :: rest) t

/-- Two independent inputs that are both accepted in a state are accepted one
after the other, seen alike, and lead to one state in both orders. -/
structure Diamond (M : Machine State Input Output) (view : Output → Option Seen)
    (Independent : Input → Input → Prop) : Prop where
  symm : ∀ i j, Independent i j → Independent j i
  commute : ∀ s i j t u output output' seen seen', Independent i j →
    M.step s i = (t, output) → view output = some seen →
    M.step s j = (u, output') → view output' = some seen' →
    ∃ last later later', M.step t j = (last, later') ∧ view later' = some seen' ∧
      M.step u i = (last, later) ∧ view later = some seen

namespace Diamond

variable {Independent : Input → Input → Prop}

/-- Any two inputs of the batch are independent. -/
abbrev PairwiseIndependent (Independent : Input → Input → Prop) (batch : List (Input × Seen)) :
    Prop :=
  batch.Pairwise fun event event' => Independent event.1 event'.1

/-- What is accepted stays accepted after an independent input. -/
theorem accepts_after (h : Diamond M view Independent) {s t : State} {input : Input}
    {output : Output} {seen : Seen} (hStep : M.step s input = (t, output))
    (hSeen : view output = some seen) {event : Input × Seen}
    (hIndependent : Independent input event.1) (hAccepts : Accepts M view s event) :
    Accepts M view t event := by
  obtain ⟨u, output', hStep', hSeen'⟩ := hAccepts
  obtain ⟨last, -, later', hLater, hSeenLater, -⟩ :=
    h.commute _ _ _ _ _ _ _ _ _ hIndependent hStep hSeen hStep' hSeen'
  exact ⟨last, later', hLater, hSeenLater⟩

/-- A batch whose inputs are all accepted in one state, each on its own, is accepted
one after the other as well. -/
theorem answers_of_accepts (h : Diamond M view Independent) {s : State}
    {batch : List (Input × Seen)} (hPairwise : PairwiseIndependent Independent batch)
    (hAccepts : ∀ event ∈ batch, Accepts M view s event) : ∃ t, Answers M view s batch t := by
  induction batch generalizing s with
  | nil => exact ⟨s, .nil s⟩
  | cons event rest ih =>
      obtain ⟨hFirst, hRest⟩ := List.pairwise_cons.mp hPairwise
      obtain ⟨m, output, hStep, hSeen⟩ := hAccepts event List.mem_cons_self
      obtain ⟨t, hAnswers⟩ := ih hRest fun other hOther =>
        h.accepts_after hStep hSeen (hFirst other hOther)
          (hAccepts other (List.mem_cons_of_mem _ hOther))
      exact ⟨t, .cons hStep hSeen hAnswers⟩

/-- The order of a batch of independent inputs does not matter. The induction is
on the permutation; a swap of two neighbours is the diamond. -/
theorem answers_perm (h : Diamond M view Independent) {s t : State}
    {batch order : List (Input × Seen)} (hPerm : batch.Perm order)
    (hPairwise : PairwiseIndependent Independent batch)
    (hAccepts : ∀ event ∈ batch, Accepts M view s event) (hAnswers : Answers M view s batch t) :
    Answers M view s order t := by
  induction hPerm generalizing s with
  | nil => exact hAnswers
  | cons event _ ih =>
      obtain ⟨hFirst, hRest⟩ := List.pairwise_cons.mp hPairwise
      cases hAnswers with
      | cons hStep hSeen hOthers =>
          apply Answers.cons hStep hSeen
          apply ih hRest _ hOthers
          intro other hOther
          exact h.accepts_after hStep hSeen (hFirst other hOther)
            (hAccepts other (List.mem_cons_of_mem _ hOther))
  | swap second first rest =>
      obtain ⟨hFirst, -⟩ := List.pairwise_cons.mp hPairwise
      obtain ⟨u, output', hStep', hSeen'⟩ :=
        hAccepts second (List.mem_cons_of_mem _ List.mem_cons_self)
      cases hAnswers with
      | cons hStep hSeen hOthers =>
          cases hOthers with
          | cons hNext hSeenNext hRest =>
              obtain ⟨last, later, later', hLater', -, hLater, hSeenLater⟩ :=
                h.commute _ _ _ _ _ _ _ _ _ (hFirst _ List.mem_cons_self) hStep hSeen hStep'
                  hSeen'
              have hSame := hNext.symm.trans hLater'
              rw [Prod.mk.injEq] at hSame
              rw [← hSame.1] at hLater
              exact .cons hStep' hSeen' (.cons hLater hSeenLater hRest)
  | trans hFirst _ ih ih' =>
      have hSymm : ∀ {event event' : Input × Seen}, Independent event.1 event'.1 →
          Independent event'.1 event.1 := fun hPair => h.symm _ _ hPair
      apply ih' ((hFirst.pairwise_iff hSymm).mp hPairwise)
      · intro event hEvent
        exact hAccepts event (hFirst.mem_iff.mpr hEvent)
      · exact ih hPairwise hAccepts hAnswers

/-- A batch of independent inputs ends in one state, in whatever order it is given. -/
theorem batch (h : Diamond M view Independent) {s : State} {batch : List (Input × Seen)}
    (hPairwise : PairwiseIndependent Independent batch)
    (hAccepts : ∀ event ∈ batch, Accepts M view s event) :
    ∃ last, ∀ order, batch.Perm order → Answers M view s order last := by
  obtain ⟨last, hAnswers⟩ := h.answers_of_accepts hPairwise hAccepts
  exact ⟨last, fun order hPerm => h.answers_perm hPerm hPairwise hAccepts hAnswers⟩

end Diamond

end Transition
