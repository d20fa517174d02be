/-
# Lengths of what is written

How many UTF-16 units numbers and durations take. A position is any 64-bit number, so its
hours may have many digits; a track of bounded duration takes few.
-/

import Raydio.Foundation.Checked
import Raydio.Foundation.Utf16
import Raydio.Playback.Queue

namespace Raydio.Views

open Raydio.Foundation Raydio.Foundation.Text Raydio.Playback

@[simp] theorem units_toString_string (text : String) : units (toString text) = units text := rfl

@[simp] theorem units_toString_nat (n : ℕ) : units (toString n) = units (Nat.repr n) := rfl

theorem units_pad2 {n : ℕ} (h : n < 100) : units (pad2 n) ≤ 2 := by
  rw [pad2]
  split
  · have hdigit : units (Nat.repr n) ≤ 1 := units_repr_le (by decide) (by omega)
    have hzero : units "0" = 1 := by decide
    simp only [units_append, units_toString_string, units_toString_nat]
    omega
  · have hdigits : units (Nat.repr n) ≤ 2 := units_repr_le (by decide) (by omega)
    simpa only [units_toString_nat] using hdigits

/-- A duration is written with its hours, if there are any, its minutes and its seconds. -/
theorem units_formatDuration {ms k : ℕ} (hk : 0 < k) (h : ms / 1000 / 3600 < 10 ^ k) :
    units (formatDuration ms false) ≤ k + 6 := by
  have hcolon : units ":" = 1 := by decide
  have hminutes : units (pad2 (ms / 1000 % 3600 / 60)) ≤ 2 := units_pad2 (by omega)
  have hseconds : units (pad2 (ms / 1000 % 60)) ≤ 2 := units_pad2 (by omega)
  simp only [formatDuration, Bool.false_eq_true, if_false]
  split
  · have hhours : units (Nat.repr (ms / 1000 / 3600)) ≤ k := units_repr_le hk h
    simp only [units_append, units_toString_string, units_toString_nat]
    omega
  · have hshort : units (Nat.repr (ms / 1000 % 3600 / 60)) ≤ 2 :=
      units_repr_le (by decide) (by omega)
    simp only [units_append, units_toString_string, units_toString_nat]
    omega

/-- Any position of 64 bits. -/
theorem units_formatDuration_word {ms : ℕ} (h : ms ≤ u64Max) :
    units (formatDuration ms false) ≤ 19 := by
  have hmax : u64Max = 18446744073709551615 := by decide
  exact units_formatDuration (k := 13) (by decide) (by omega)

end Raydio.Views
