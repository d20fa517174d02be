/-
# Following a log through its window

A log grows at its end, and a reader is shown, now and then, the last few entries of what
the log was at some time. The reader appends what lies behind the place that it has come
to. It never holds an entry twice or out of order, and it holds all of them as long as it
is shown the log often enough.
-/

import Mathlib

namespace Raydio.Foundation

universe u

/-- A reader of a log: what it holds, and how far into the log it has come. -/
structure Replica (β : Type u) where
  held : List β
  upto : ℕ

namespace Replica

variable {β : Type u}

/-- Before anything was shown. -/
def start : Replica β := ⟨[], 0⟩

/-- The reader is shown the last `limit` entries of the log as it was after `count`. -/
def receive (limit : ℕ) (log : List β) (replica : Replica β) (count : ℕ) : Replica β :=
  if count ≤ replica.upto then replica
  else
    { held := replica.held ++ (log.take count).drop (max replica.upto (count - limit))
      upto := count }

/-- What is held is from the part of the log that the reader has come to. -/
structure Follows (log : List β) (replica : Replica β) : Prop where
  within : replica.upto ≤ log.length
  held : replica.held.Sublist (log.take replica.upto)

variable {limit : ℕ} {log : List β} {replica : Replica β} {count : ℕ}

theorem follows_start (log : List β) : Follows log start :=
  ⟨Nat.zero_le _, List.nil_sublist _⟩

theorem Follows.receive (h : Follows log replica) (hcount : count ≤ log.length) :
    Follows log (replica.receive limit log count) := by
  rw [Replica.receive]
  split
  · exact h
  · refine ⟨hcount, ?_⟩
    have hsplit := List.take_append_drop (max replica.upto (count - limit)) (log.take count)
    have hfront : replica.held.Sublist
        ((log.take count).take (max replica.upto (count - limit))) := by
      rw [List.take_take]
      apply h.held.trans
      apply List.take_sublist_take_left
      omega
    show List.Sublist (_ ++ _) (log.take count)
    nth_rewrite 2 [← hsplit]
    exact hfront.append (List.Sublist.refl _)

theorem Follows.length_le (h : Follows log replica) : replica.held.length ≤ replica.upto :=
  h.held.length_le.trans (List.length_take_le _ _)

/-- A reader that is shown the log before its place has left the window misses nothing. -/
theorem receive_whole (hwhole : replica.held = log.take replica.upto)
    (hsoon : count ≤ replica.upto + limit) :
    (replica.receive limit log count).held =
      log.take (replica.receive limit log count).upto := by
  rw [receive]
  split
  · exact hwhole
  · rename_i hlater
    have hplace : max replica.upto (count - limit) = replica.upto := by omega
    have hfront : log.take replica.upto = (log.take count).take replica.upto := by
      rw [List.take_take, min_eq_left (by omega)]
    show replica.held ++ _ = log.take count
    rw [hplace, hwhole, hfront, List.take_append_drop]

/-- What the reader misses by going so far: the entries that had left the window. -/
theorem Follows.missing_receive (limit : ℕ) (h : Follows log replica)
    (hcount : count ≤ log.length) :
    (replica.receive limit log count).upto - (replica.receive limit log count).held.length =
      replica.upto - replica.held.length + (count - limit - replica.upto) := by
  have hle := h.length_le
  rw [Replica.receive]
  split
  · omega
  · have hnew : ((log.take count).drop (max replica.upto (count - limit))).length =
        count - max replica.upto (count - limit) := by
      rw [List.length_drop, List.length_take_of_le hcount]
    simp only [List.length_append, hnew]
    omega

end Replica

end Raydio.Foundation
