/-
# A stopwatch with a largest reading

A stopwatch keeps the reading of some instant, its mark, and counts on from there as
long as it runs. It is read at any later instant, and is switched by making the reading
of that instant the new one. Switching is no reading: what a stopwatch shows never
depends on how often it was switched, only on the time for which it ran.
-/

import Mathlib

namespace Raydio.Foundation

/-- What the stopwatch showed at its mark, and whether it runs on from there. -/
structure Stopwatch where
  base : ℕ
  mark : ℕ
  running : Bool

namespace Stopwatch

variable {self : Stopwatch} {cap now later : ℕ}

/-- The time between two instants, if the stopwatch runs. -/
def counted (self : Stopwatch) (since until' : ℕ) : ℕ :=
  if self.running then until' - since else 0

/-- The reading at an instant; it stays at the largest one. -/
def read (self : Stopwatch) (cap now : ℕ) : ℕ := min (self.base + self.counted self.mark now) cap

theorem read_le_cap (self : Stopwatch) (cap now : ℕ) : self.read cap now ≤ cap := min_le_right _ _

/-- The reading is not less than the one at the mark. -/
theorem base_le_read (h : self.base ≤ cap) : self.base ≤ self.read cap now :=
  le_min (Nat.le_add_right _ _) h

/-- At its mark the stopwatch shows its base. -/
theorem read_mark (h : self.base ≤ cap) : self.read cap self.mark = self.base := by
  have hnone : self.counted self.mark self.mark = 0 := by
    rw [counted, Nat.sub_self, ite_self]
  rw [read, hnone, Nat.add_zero, min_eq_left h]

/-- While it stands still the stopwatch shows its base. -/
theorem read_of_stopped (h : self.base ≤ cap) (hstopped : self.running = false) :
    self.read cap now = self.base := by
  rw [read, counted, if_neg (Bool.eq_false_iff.mp hstopped), Nat.add_zero, min_eq_left h]

/-- Later the stopwatch shows what it counted in between on top. -/
theorem read_later (hmark : self.mark ≤ now) (hlater : now ≤ later) :
    self.read cap later = min (self.read cap now + self.counted now later) cap := by
  have hcounted : self.counted self.mark later =
      self.counted self.mark now + self.counted now later := by
    rw [counted, counted, counted]
    split
    · omega
    · rfl
  rw [read, read, hcounted]
  omega

/-- The reading never goes back on its own. -/
theorem read_mono (hlater : now ≤ later) : self.read cap now ≤ self.read cap later := by
  have hcounted : self.counted self.mark now ≤ self.counted self.mark later := by
    rw [counted, counted]
    split
    · exact Nat.sub_le_sub_right hlater _
    · exact le_rfl
  exact min_le_min_right cap (Nat.add_le_add_left hcounted _)

/-- Switch the stopwatch at an instant. -/
def turn (self : Stopwatch) (cap now : ℕ) (running : Bool) : Stopwatch :=
  ⟨self.read cap now, now, running⟩

/-- Switching changes no reading. -/
theorem read_turn (running : Bool) :
    (self.turn cap now running).read cap now = self.read cap now :=
  read_mark (self.read_le_cap cap now)

end Stopwatch

end Raydio.Foundation
