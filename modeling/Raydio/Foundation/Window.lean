/-
# The last entries of a growing log

A log that keeps at most so many entries forgets its oldest one when another enters.
What it keeps of a sequence of entries is the end of the whole sequence: the bound
never has to be looked at again once a run of entries is described by `foldl_push`.
-/

import Mathlib

namespace Raydio.Foundation

universe u

namespace Window

variable {α : Type u}

/-- Enter an entry into a log that keeps at most `limit` of them. -/
def push (limit : ℕ) (log : List α) (entry : α) : List α :=
  if log.length < limit then log ++ [entry] else log.tail ++ [entry]

/-- A short list is its own end. -/
theorem rtake_of_length_le (log : List α) {count : ℕ} (h : log.length ≤ count) :
    log.rtake count = log := by
  rw [List.rtake, Nat.sub_eq_zero_of_le h, List.drop_zero]

/-- The end of a list is one of every list that it ends. -/
theorem rtake_append_of_le {front back : List α} {count : ℕ} (h : count ≤ back.length) :
    (front ++ back).rtake count = back.rtake count := by
  rw [List.rtake, List.rtake, List.drop_append, List.drop_eq_nil_of_le, List.nil_append,
    List.length_append]
  · congr 1
    omega
  · rw [List.length_append]
    omega

/-- The end of a log and more entries does not depend on what is before that end. -/
theorem rtake_rtake_append (count : ℕ) (log more : List α) :
    (log.rtake count ++ more).rtake count = (log ++ more).rtake count := by
  by_cases hle : count ≤ log.length
  · have hsplit : log ++ more = log.take (log.length - count) ++ (log.rtake count ++ more) := by
      rw [← List.append_assoc, List.rtake, List.take_append_drop]
    have hend : count ≤ (log.rtake count ++ more).length := by
      rw [List.length_append, List.rtake, List.length_drop]
      omega
    rw [hsplit]
    exact (rtake_append_of_le hend).symm
  · rw [rtake_of_length_le log (by omega)]

variable {limit : ℕ}

theorem push_eq (hlimit : 0 < limit) (log : List α) (entry : α) :
    push limit log entry = (log ++ [entry]).rtake (max limit log.length) := by
  rw [push]
  split
  · rename_i hroom
    rw [rtake_of_length_le]
    rw [List.length_append, List.length_singleton]
    omega
  · rename_i hfull
    cases log with
    | nil => exact absurd hlimit hfull
    | cons first rest =>
        have hdrop : (first :: rest ++ [entry]).length - max limit (first :: rest).length = 1 := by
          simp only [List.length_append, List.length_singleton]
          omega
        rw [List.rtake, hdrop]
        rfl

/-- A log does not outgrow its bound. -/
theorem max_length_push (hlimit : 0 < limit) (log : List α) (entry : α) :
    max limit (push limit log entry).length = max limit log.length := by
  rw [push_eq hlimit, List.rtake, List.length_drop, List.length_append, List.length_singleton]
  omega

/-- After a sequence of entries the log is the end of all that it ever held. -/
theorem foldl_push (hlimit : 0 < limit) (log entries : List α) :
    entries.foldl (push limit) log = (log ++ entries).rtake (max limit log.length) := by
  induction entries generalizing log with
  | nil => rw [List.foldl_nil, List.append_nil, rtake_of_length_le _ (le_max_right _ _)]
  | cons entry entries ih =>
      rw [List.foldl_cons, ih, max_length_push hlimit, push_eq hlimit, rtake_rtake_append]
      simp only [List.append_assoc, List.singleton_append]

end Window

end Raydio.Foundation
