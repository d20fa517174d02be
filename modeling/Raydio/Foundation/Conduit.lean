/-
# What goes through a conduit

Between those who send and the one who receives there is a conduit, which keeps what it was
fed, in order, until it is taken out. What is lost, doubled or turned around can be seen
from the two ends: what the conduit held, followed by what it was fed, must be what was
taken, followed by what it still holds.
-/

import Raydio.Foundation.Runs

namespace Raydio.Foundation.Runs

universe u v w

variable {σ : Type u} {ε : Type v} {α : Type w}

/-- What the events of a run give, one after the other. -/
def gather (step : σ → ε → σ) (gives : σ → ε → List α) (state : σ) : List ε → List α
  | [] => []
  | event :: events => gives state event ++ gather step gives (step state event) events

variable {step : σ → ε → σ} {holds : σ → List α} {fed out : σ → ε → List α}
  {state : σ} {events : List ε} {event : ε}

/-- One more event. -/
theorem gather_concat (gives : σ → ε → List α) :
    gather step gives state (events ++ [event]) =
      gather step gives state events ++ gives (run step state events) event := by
  induction events generalizing state with
  | nil => exact List.append_nil _
  | cons first events ih => rw [List.cons_append, gather, gather, ih, List.append_assoc]; rfl

/-- What the events give does not depend on the state. -/
theorem gather_const (gives : ε → List α) :
    gather step (fun _ event => gives event) state events = events.flatMap gives := by
  induction events generalizing state with
  | nil => rfl
  | cons first events ih => rw [gather, ih, List.flatMap_cons]

/-- A run from its start, and from one of its events on. -/
theorem run_since (step : σ → ε → σ) (state : σ) (before : List ε) (event : ε) (since : List ε) :
    run step state (before ++ event :: since) =
      run step (run step state (before ++ [event])) since := by
  rw [List.append_cons]
  exact List.foldl_append

/-- In a run nothing is lost on the way, nothing is doubled, and the order is kept. -/
def Conserved (step : σ → ε → σ) (holds : σ → List α) (fed out : σ → ε → List α) (state : σ)
    (events : List ε) : Prop :=
  holds state ++ gather step fed state events =
    gather step out state events ++ holds (run step state events)

theorem conserved_nil : Conserved step holds fed out state [] := List.append_nil _

/-- What one more event must do. -/
theorem Conserved.concat (h : Conserved step holds fed out state events)
    (hlast : holds (run step state events) ++ fed (run step state events) event =
      out (run step state events) event ++ holds (step (run step state events) event)) :
    Conserved step holds fed out state (events ++ [event]) := by
  rw [Conserved] at h ⊢
  calc holds state ++ gather step fed state (events ++ [event])
      = gather step out state events ++ (holds (run step state events) ++
          fed (run step state events) event) := by
        rw [gather_concat, ← List.append_assoc, h, List.append_assoc]
    _ = gather step out state (events ++ [event])
          ++ holds (run step state (events ++ [event])) := by
        rw [hlast, gather_concat, run_concat, List.append_assoc]

end Raydio.Foundation.Runs
