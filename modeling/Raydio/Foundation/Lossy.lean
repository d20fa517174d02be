/-
# Calls over a network that loses messages

A client calls a service. The call may get lost on the way there, or be carried out while
its answer gets lost on the way back; the client sees a failure either way and cannot tell
which. An operation may be tried again where carrying it out once more does no harm: what
it keeps is kept however many attempts are made and whatever becomes of them.
-/

import Mathlib

namespace Raydio.Foundation

universe u

/-- A service with states `σ`, operations `ω` and answers `ρ` or failures `ε`. -/
structure Service (σ ω ε ρ : Type u) where
  /-- Carry out an operation. -/
  serve : ω → σ → Except ε ρ × σ

/-- What becomes of a call. -/
inductive Fate (ε : Type u)
  | answered
  /-- The call is carried out, and its answer gets lost. -/
  | unheard (failure : ε)
  | lost (failure : ε)
  deriving DecidableEq, Repr

/-- The call is carried out. -/
def Fate.arrives {ε : Type u} : Fate ε → Bool
  | answered => true
  | unheard _ => true
  | lost _ => false

namespace Service

variable {σ ω ε ρ : Type u} (service : Service σ ω ε ρ)

/-- One call: what the client sees, and the service after it. -/
def call (operation : ω) (fate : Fate ε) (state : σ) : Except ε ρ × σ :=
  match fate with
  | .answered => service.serve operation state
  | .unheard failure => (.error failure, (service.serve operation state).2)
  | .lost failure => (.error failure, state)

/-- Call until the client is content with what it sees, with one fate for each attempt
that it may make. -/
def retry (operation : ω) (again : Except ε ρ → Bool) :
    List (Fate ε) → σ → List (Except ε ρ) × σ
  | [], state => ([], state)
  | fate :: fates, state =>
      let called := service.call operation fate state
      if again called.1 then
        let rest := retry operation again fates called.2
        (called.1 :: rest.1, rest.2)
      else ([called.1], called.2)

theorem call_state (operation : ω) (fate : Fate ε) (state : σ) :
    (service.call operation fate state).2 =
      if fate.arrives then (service.serve operation state).2 else state := by
  cases fate with
  | answered => rfl
  | unheard failure => rfl
  | lost failure => rfl

variable {service} {operation : ω} {again : Except ε ρ → Bool} {state : σ}

/-- No more attempts are made than are allowed. -/
theorem length_retry_le (fates : List (Fate ε)) (state : σ) :
    (service.retry operation again fates state).1.length ≤ fates.length := by
  induction fates generalizing state with
  | nil => exact le_rfl
  | cons fate fates ih =>
      rw [retry]
      dsimp only
      split
      · exact Nat.succ_le_succ (ih _)
      · simp

/-- The client stops at the first attempt that it is content with, or when no more are
allowed. -/
theorem retry_exhausted {fates : List (Fate ε)} {state : σ}
    (h : ∀ outcome ∈ (service.retry operation again fates state).1, again outcome = true) :
    (service.retry operation again fates state).1.length = fates.length := by
  induction fates generalizing state with
  | nil => rfl
  | cons fate fates ih =>
      rw [retry] at h ⊢
      dsimp only at h ⊢
      split
      · rename_i hagain
        rw [if_pos hagain] at h
        rw [List.length_cons, ih fun outcome hmem => h outcome (List.mem_cons_of_mem _ hmem),
          List.length_cons]
      · rename_i hcontent
        rw [if_neg hcontent] at h
        exact absurd (h _ List.mem_cons_self) hcontent

/-- What holds after the operation whenever it held before holds after a call. -/
theorem call_keeps {motive : σ → Prop}
    (hserve : ∀ state, motive state → motive (service.serve operation state).2)
    (fate : Fate ε) (h : motive state) : motive (service.call operation fate state).2 := by
  rw [call_state]
  split
  · exact hserve state h
  · exact h

/-- So it does after any attempts. -/
theorem retry_keeps {motive : σ → Prop}
    (hserve : ∀ state, motive state → motive (service.serve operation state).2)
    (fates : List (Fate ε)) (h : motive state) :
    motive (service.retry operation again fates state).2 := by
  induction fates generalizing state with
  | nil => exact h
  | cons fate fates ih =>
      have hcalled := call_keeps hserve fate h
      rw [retry]
      dsimp only
      split
      · exact ih hcalled
      · exact hcalled

end Service

end Raydio.Foundation
