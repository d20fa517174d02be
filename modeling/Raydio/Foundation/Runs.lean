/-
# Runs of a deterministic machine

A machine is a step function; a run is a list of events, handled in order. What
every step preserves, every run preserves, and what every step adds up, a run adds up.
-/

import Mathlib

namespace Raydio.Foundation

universe u v

namespace Runs

variable {σ : Type u} {ε : Type v}

/-- The state after the events. -/
def run (step : σ → ε → σ) (state : σ) (events : List ε) : σ := events.foldl step state

variable {step : σ → ε → σ} {state : σ} {events : List ε}

/-- One more event. -/
@[simp]
theorem run_concat (step : σ → ε → σ) (state : σ) (events : List ε) (event : ε) :
    run step state (events ++ [event]) = step (run step state events) event := by
  simp [run]

/-- What every step preserves, every run preserves. -/
theorem run_invariant (Invariant : σ → Prop)
    (preserved : ∀ state event, Invariant state → Invariant (step state event))
    (h : Invariant state) : Invariant (run step state events) := by
  induction events using List.reverseRecOn with
  | nil => exact h
  | append_singleton events event ih =>
      rw [run_concat]
      exact preserved _ _ ih

/-- The condition holds whenever an event of the run is about to be handled. -/
def Along (step : σ → ε → σ) (condition : σ → ε → Prop) (state : σ) (events : List ε) : Prop :=
  ∀ before event after, events = before ++ event :: after →
    condition (run step state before) event

theorem along_nil (step : σ → ε → σ) (condition : σ → ε → Prop) (state : σ) :
    Along step condition state [] := by
  intro before event after hsplit
  simp at hsplit

/-- The first event meets the condition, and so do the others after it. -/
theorem along_cons {condition : σ → ε → Prop} {event : ε} :
    Along step condition state (event :: events) ↔
      condition state event ∧ Along step condition (step state event) events := by
  constructor
  · intro h
    refine ⟨h [] event events rfl, ?_⟩
    intro before other after hsplit
    exact h (event :: before) other after (by rw [hsplit, List.cons_append])
  · rintro ⟨hfirst, hrest⟩ before other after hsplit
    cases before with
    | nil =>
        obtain ⟨rfl, -⟩ := List.cons.inj hsplit
        exact hfirst
    | cons first before =>
        obtain ⟨rfl, htail⟩ := List.cons.inj hsplit
        exact hrest before other after htail

/-- The last event meets the condition, and so do the others before it. -/
theorem along_concat {condition : σ → ε → Prop} {event : ε} :
    Along step condition state (events ++ [event]) ↔
      Along step condition state events ∧ condition (run step state events) event := by
  constructor
  · intro h
    constructor
    · intro before other after hsplit
      exact h before other (after ++ [event]) (by rw [hsplit]; simp)
    · exact h events event [] rfl
  · rintro ⟨hrest, hlast⟩ before other after hsplit
    rcases List.eq_nil_or_concat after with rfl | ⟨rest, last, rfl⟩
    · obtain ⟨rfl, hsingle⟩ := List.append_inj' hsplit rfl
      cases hsingle
      exact hlast
    · rw [List.concat_eq_append, ← List.cons_append, ← List.append_assoc] at hsplit
      exact hrest before other rest (List.append_inj' hsplit rfl).1

instance Along.decidable {condition : σ → ε → Prop}
    [∀ state event, Decidable (condition state event)] :
    ∀ (state : σ) (events : List ε), Decidable (Along step condition state events)
  | state, [] => isTrue (along_nil step condition state)
  | state, event :: events =>
      have : Decidable (Along step condition (step state event) events) :=
        Along.decidable _ events
      decidable_of_iff (condition state event ∧ Along step condition (step state event) events)
        along_cons.symm

/-- What every step that meets the condition preserves, every run that meets it
preserves. -/
theorem Along.invariant (Invariant : σ → Prop) {condition : σ → ε → Prop}
    (preserved : ∀ state event, condition state event → Invariant state →
      Invariant (step state event))
    (h : Along step condition state events) (hstate : Invariant state) :
    Invariant (run step state events) := by
  induction events generalizing state with
  | nil => exact hstate
  | cons event events ih =>
      obtain ⟨hfirst, hrest⟩ := along_cons.mp h
      exact ih hrest (preserved _ _ hfirst hstate)

/-- Two conditions that agree on the states with an invariant agree along its runs. -/
theorem along_congr (Invariant : σ → Prop) {condition other : σ → ε → Prop}
    (preserved : ∀ state event, Invariant state → Invariant (step state event))
    (h : Invariant state)
    (agree : ∀ state event, Invariant state → (condition state event ↔ other state event)) :
    Along step condition state events ↔ Along step other state events := by
  constructor
  · intro hcondition before event after hsplit
    exact (agree _ _ (run_invariant Invariant preserved h)).mp
      (hcondition before event after hsplit)
  · intro hother before event after hsplit
    exact (agree _ _ (run_invariant Invariant preserved h)).mpr
      (hother before event after hsplit)

/-- The condition holds when some event of the run is about to be handled. -/
def Sometime (step : σ → ε → σ) (condition : σ → ε → Prop) (state : σ) (events : List ε) : Prop :=
  ∃ before event after, events = before ++ event :: after ∧
    condition (run step state before) event

/-- What has happened stays so when the run goes on. -/
theorem Sometime.concat {condition : σ → ε → Prop} (h : Sometime step condition state events)
    (event : ε) : Sometime step condition state (events ++ [event]) := by
  obtain ⟨before, other, after, rfl, hother⟩ := h
  exact ⟨before, other, after ++ [event], by simp, hother⟩

/-- The last event meets the condition. -/
theorem sometime_last {condition : σ → ε → Prop} {event : ε}
    (h : condition (run step state events) event) :
    Sometime step condition state (events ++ [event]) :=
  ⟨events, event, [], rfl, h⟩

/-! ## Costs -/

/-- What the events of a run cost in all. -/
def total (step : σ → ε → σ) (cost : σ → ε → ℕ) (state : σ) : List ε → ℕ
  | [] => 0
  | event :: events => cost state event + total step cost (step state event) events

/-- A quantity with a largest value that every step raises by its cost is raised by a
run by the total cost. -/
theorem Along.accrues (Invariant : σ → Prop) {condition : σ → ε → Prop} {cost : σ → ε → ℕ}
    {quantity : σ → ℕ} {cap : ℕ} (bounded : ∀ state, quantity state ≤ cap)
    (preserved : ∀ state event, condition state event → Invariant state →
      Invariant (step state event))
    (raised : ∀ state event, condition state event → Invariant state →
      quantity (step state event) = min (quantity state + cost state event) cap)
    (h : Along step condition state events) (hstate : Invariant state) :
    quantity (run step state events) =
      min (quantity state + total step cost state events) cap := by
  induction events generalizing state with
  | nil => exact (min_eq_left (bounded state)).symm
  | cons event events ih =>
      obtain ⟨hfirst, hrest⟩ := along_cons.mp h
      have hlater := ih hrest (preserved _ _ hfirst hstate)
      rw [raised _ _ hfirst hstate] at hlater
      rw [total]
      show quantity (run step (step state event) events) = _
      rw [hlater]
      omega

end Runs

end Raydio.Foundation
