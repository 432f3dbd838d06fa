import Mathlib.Logic.Relation
import Mathlib.Order.MinMax

/-! What a light client keeps of a chain, apart from any encoding: a fixed
configuration, a state for each height that was proved to it, the greatest of
these heights, and the mark that stops it. The two facts about the greatest
height are fields, so every tracker satisfies them. -/

/-- The state for each height, the greatest of these heights, and a mark once the
tracker is stopped. The two facts about the greatest height are part of the type. -/
structure Tracker (C H S F : Type) [LinearOrder H] where
  config : C
  states : H → Option S
  latest : H
  frozen : Option F
  latest_stored : (states latest).isSome
  le_latest : ∀ h, (states h).isSome → h ≤ latest

namespace Tracker

variable {C H S F : Type} [LinearOrder H]

/-- A tracker with one state. -/
def opened (config : C) (h : H) (s : S) : Tracker C H S F where
  config := config
  states := Function.update (fun _ => none) h (some s)
  latest := h
  frozen := none
  latest_stored := by simp
  le_latest k hk := by
    by_cases hEq : k = h
    · exact hEq.le
    · simp [Function.update_of_ne hEq] at hk

/-- Store a state at a height, in place of any state that is there. -/
def advance (t : Tracker C H S F) (h : H) (s : S) : Tracker C H S F where
  config := t.config
  states := Function.update t.states h (some s)
  latest := max t.latest h
  frozen := t.frozen
  latest_stored := by
    rcases max_choice t.latest h with hMax | hMax
    · rw [hMax]
      by_cases hEq : t.latest = h
      · simp [hEq]
      · rw [Function.update_of_ne hEq]
        exact t.latest_stored
    · simp [hMax]
  le_latest k hk := by
    by_cases hEq : k = h
    · exact hEq.le.trans (le_max_right _ _)
    · rw [Function.update_of_ne hEq] at hk
      exact (t.le_latest k hk).trans (le_max_left _ _)

/-- Stop the tracker. Its states and its greatest height stay as they are. -/
def freeze (t : Tracker C H S F) (mark : F) : Tracker C H S F :=
  { t with frozen := some mark }

@[simp] theorem opened_config (config : C) (h : H) (s : S) :
    (opened config h s : Tracker C H S F).config = config := rfl

@[simp] theorem opened_latest (config : C) (h : H) (s : S) :
    (opened config h s : Tracker C H S F).latest = h := rfl

@[simp] theorem opened_frozen (config : C) (h : H) (s : S) :
    (opened config h s : Tracker C H S F).frozen = none := rfl

theorem opened_states_eq_some {config : C} {h k : H} {s s' : S} :
    (opened config h s : Tracker C H S F).states k = some s' ↔ k = h ∧ s = s' := by
  by_cases hEq : k = h
  · simp [opened, hEq]
  · simp [opened, hEq]

@[simp] theorem advance_config (t : Tracker C H S F) (h : H) (s : S) :
    (t.advance h s).config = t.config := rfl

@[simp] theorem advance_latest (t : Tracker C H S F) (h : H) (s : S) :
    (t.advance h s).latest = max t.latest h := rfl

@[simp] theorem advance_frozen (t : Tracker C H S F) (h : H) (s : S) :
    (t.advance h s).frozen = t.frozen := rfl

/-- The stored state is found at its height, whatever was there before. -/
@[simp] theorem advance_states_self (t : Tracker C H S F) (h : H) (s : S) :
    (t.advance h s).states h = some s := by simp [advance]

theorem advance_states_of_ne (t : Tracker C H S F) {h k : H} (s : S) (hNe : k ≠ h) :
    (t.advance h s).states k = t.states k := Function.update_of_ne hNe _ _

@[simp] theorem freeze_config (t : Tracker C H S F) (mark : F) :
    (t.freeze mark).config = t.config := rfl

@[simp] theorem freeze_states (t : Tracker C H S F) (mark : F) :
    (t.freeze mark).states = t.states := rfl

@[simp] theorem freeze_latest (t : Tracker C H S F) (mark : F) :
    (t.freeze mark).latest = t.latest := rfl

@[simp] theorem freeze_frozen (t : Tracker C H S F) (mark : F) :
    (t.freeze mark).frozen = some mark := rfl

/-- What a light client accepts: a new state, given the trusted one, and
evidence against the trusted one. -/
structure Rules (C H S F : Type) where
  Advances : C → H → S → H → S → Prop
  Freezes : C → H → S → F → Prop

/-- One accepted message. A frozen tracker accepts none. -/
inductive Step (R : Rules C H S F) (t : Tracker C H S F) : Tracker C H S F → Prop where
  | advance {h h' : H} {s s' : S} (active : t.frozen = none) (trusted : t.states h = some s)
      (accepted : R.Advances t.config h s h' s') : Step R t (t.advance h' s')
  | freeze {h : H} {s : S} {mark : F} (active : t.frozen = none) (trusted : t.states h = some s)
      (accepted : R.Freezes t.config h s mark) : Step R t (t.freeze mark)

abbrev Evolves (R : Rules C H S F) : Tracker C H S F → Tracker C H S F → Prop :=
  Relation.ReflTransGen (Step R)

variable {R : Rules C H S F} {t t' : Tracker C H S F}

/-- The configuration is fixed when the tracker is opened. -/
theorem Evolves.config_eq (h : Evolves R t t') : t'.config = t.config := by
  induction h with
  | refl => rfl
  | tail _ last ih =>
      cases last with
      | advance => exact ih
      | freeze => exact ih

/-- The greatest height never falls. A state below it may still be replaced. -/
theorem Evolves.latest_le (h : Evolves R t t') : t.latest ≤ t'.latest := by
  induction h with
  | refl => exact le_rfl
  | tail _ last ih =>
      cases last with
      | advance => exact ih.trans (le_max_left _ _)
      | freeze => exact ih

/-- Nothing changes a tracker that is frozen. -/
theorem Evolves.eq_of_frozen (h : Evolves R t t') (hFrozen : t.frozen ≠ none) : t' = t := by
  induction h with
  | refl => rfl
  | tail _ last ih =>
      subst ih
      cases last with
      | advance active => exact absurd active hFrozen
      | freeze active => exact absurd active hFrozen

/-- A property of stored states that every accepted message carries from the
trusted state to the new one holds of all of them. -/
theorem Evolves.states_invariant (P : H → S → Prop) (h : Evolves R t t')
    (hStart : ∀ k s, t.states k = some s → P k s)
    (hAdvance : ∀ k s k' s', P k s → R.Advances t.config k s k' s' → P k' s') :
    ∀ k s, t'.states k = some s → P k s := by
  induction h with
  | refl => exact hStart
  | @tail m n prior last ih =>
      have hConfig := Evolves.config_eq prior
      intro k s hs
      cases last with
      | @advance k₀ k₁ s₀ s₁ active trusted accepted =>
          rw [hConfig] at accepted
          by_cases hEq : k = k₁
          · subst hEq
            rw [advance_states_self, Option.some.injEq] at hs
            subst hs
            exact hAdvance _ _ _ _ (ih _ _ trusted) accepted
          · rw [advance_states_of_ne _ _ hEq] at hs
            exact ih k s hs
      | freeze => exact ih k s hs

end Tracker
