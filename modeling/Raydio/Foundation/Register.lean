/-
# Registers that hold the latest word

Some events of a trace say what a register shall hold from then on, the others say nothing
about it. The register holds what the latest of them said.
-/

import Mathlib

namespace Raydio.Foundation

namespace Register

universe u v

variable {α : Type u} {β : Type v} (word : α → Option β)

/-- The latest word of a trace. -/
def latest (trace : List α) : Option β := (trace.filterMap word).getLast?

@[simp]
theorem latest_nil : latest word [] = none := rfl

@[simp]
theorem latest_concat (trace : List α) (event : α) :
    latest word (trace ++ [event]) = (word event).or (latest word trace) := by
  rw [latest, List.filterMap_append]
  cases h : word event with
  | none => simp [h, latest]
  | some b => simp [h]

/-- A register that an event sets to its word, or leaves alone, holds the latest word. -/
theorem latest_follows {trace : List α} {event : α} {before after : β}
    (hafter : after = (word event).getD before)
    (hbefore : (word event).isSome ∨ latest word trace = some before) :
    latest word (trace ++ [event]) = some after := by
  rw [latest_concat, hafter]
  cases h : word event with
  | some b => rfl
  | none =>
      rw [h] at hbefore
      rcases hbefore with habsurd | hlatest
      · cases habsurd
      · rw [hlatest]
        rfl

end Register

end Raydio.Foundation
