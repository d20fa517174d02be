/-
# What every reachable queue satisfies

Twelve operations change five coupled fields. One invariant relates them: a
queue with nothing current holds nothing, the admission limit bounds it, the
history is bounded, and the failure streak is at most its limit, strictly below
it while something is current.

The invariant is stated once and preserved operation by operation; a run of
operations then preserves it by induction, and never aborts.
-/

import Raydio.Playback.Queue

namespace Raydio.Playback

open Raydio.Foundation

namespace Queue

/-- The facts that hold of a queue under an admission limit. -/
structure Admitted (maxTracks : ℕ) (queue : Queue) : Prop where
  nothing_waits : queue.current = none → queue.upcoming = []
  len_le : queue.len ≤ maxTracks
  history_le : queue.history.length ≤ historyLimit
  failures_le : queue.consecutiveFailures ≤ failureLimit
  failures_lt : queue.current.isSome → queue.consecutiveFailures < failureLimit

variable {maxTracks : ℕ} {self : Queue}

theorem len_of_some (track : Track) (h : self.current = some track) :
    self.len = self.upcoming.length + 1 := by
  simp [len, h, Nat.add_comm]

/-- Taking the successor keeps the length of a queue that had nothing current. -/
theorem len_advance (upcoming : List Track) (history : List Track) (mode : LoopMode)
    (failures : ℕ) :
    len ⟨upcoming.head?, upcoming.tail, history, mode, failures⟩ = upcoming.length := by
  cases upcoming with
  | nil => rfl
  | cons track rest => simp [len, Nat.add_comm]

/-- If there is no successor, nothing is left behind it. -/
theorem tail_eq_nil {upcoming : List Track} (h : upcoming.head? = none) :
    upcoming.tail = [] := by
  rw [List.head?_eq_none_iff.mp h, List.tail_nil]

theorem admitted_default (maxTracks : ℕ) : Admitted maxTracks default :=
  ⟨fun _ => rfl, by simp [len, default], by simp [default], by simp [default],
    by simp [default]⟩

theorem Admitted.enqueue (h : self.Admitted maxTracks) (tracks : List Track) :
    (self.enqueue tracks maxTracks).2.Admitted maxTracks := by
  have hlen := h.len_le
  have htake : (tracks.take (maxTracks - self.len)).length ≤ maxTracks - self.len :=
    List.length_take_le _ _
  cases hc : self.current with
  | some current =>
      rw [enqueue_of_some hc]
      refine ⟨fun hnone => ?_, ?_, h.history_le, h.failures_le, h.failures_lt⟩
      · simp [hc] at hnone
      · simp only [len, List.length_append] at hlen htake ⊢
        omega
  | none =>
      have hup := h.nothing_waits hc
      cases ht : tracks.take (maxTracks - self.len) with
      | nil =>
          rw [enqueue_of_none_of_nil hc ht]
          exact h
      | cons first rest =>
          rw [enqueue_of_none_of_cons hc ht]
          refine ⟨fun hnone => ?_, ?_, h.history_le, Nat.zero_le _, fun _ => ?_⟩
          · cases hnone
          · rw [ht, List.length_cons] at htake
            rw [len_of_some first rfl]
            simp only [hup, List.nil_append]
            omega
          · simp [failureLimit]

theorem Admitted.finished (h : self.Admitted maxTracks) :
    self.finished.Admitted maxTracks := by
  rw [Queue.finished]
  cases hc : self.current with
  | none => exact h
  | some old =>
      have hlen := h.len_le
      rw [len_of_some _ hc] at hlen
      by_cases hmode : self.loopMode = .track
      · simp only [hmode, if_true]
        refine ⟨fun hnone => ?_, ?_, h.history_le, Nat.zero_le _, fun _ => ?_⟩
        · cases hnone
        · rwa [len_of_some old rfl]
        · simp [failureLimit]
      · simp only [hmode, if_false]
        refine ⟨tail_eq_nil, ?_, length_remembered h.history_le old, Nat.zero_le _,
          fun _ => ?_⟩
        · rw [len_advance]
          rw [rotated]
          split
          · simpa using hlen
          · omega
        · simp [failureLimit]

theorem Admitted.failed (h : self.Admitted maxTracks) :
    self.failed.Admitted maxTracks := by
  have hlen := h.len_le
  rw [Queue.failed]
  cases hc : self.current with
  | none => exact h
  | some old =>
      have hstreak := h.failures_lt (by simp [hc])
      rw [len_of_some _ hc] at hlen
      simp only [Option.isNone_some, Bool.false_eq_true, if_false]
      split
      · refine ⟨fun _ => rfl, Nat.zero_le _, h.history_le, ?_, fun habsurd => ?_⟩
        · simp only [failureLimit] at *
          omega
        · cases habsurd
      · rename_i hlow
        refine ⟨tail_eq_nil, ?_, h.history_le, ?_, fun _ => ?_⟩
        · rw [len_advance]
          omega
        · simp only
          omega
        · simp only
          omega

theorem Admitted.skipped (h : self.Admitted maxTracks) :
    self.skipped.Admitted maxTracks := by
  rw [Queue.skipped]
  cases hc : self.current with
  | none => exact h
  | some old =>
      have hlen := h.len_le
      rw [len_of_some _ hc] at hlen
      refine ⟨fun hnone => ?_, ?_, length_remembered h.history_le old, h.failures_le,
        fun _ => h.failures_lt (by simp [hc])⟩
      · exact tail_eq_nil hnone
      · rw [len_advance]
        omega

theorem Admitted.restored (h : self.Admitted maxTracks) :
    (self.restored maxTracks).2.Admitted maxTracks := by
  rw [Queue.restored]
  split
  · rename_i current previous hc hl
    have hlen := h.len_le
    rw [len_of_some _ hc] at hlen
    have hhistory : self.history.dropLast.length ≤ historyLimit := by
      have := h.history_le
      rw [List.length_dropLast]
      omega
    have hfailures := h.failures_lt (by simp [hc])
    split
    · split
      · exact h
      · rename_i hroom
        refine ⟨fun hnone => ?_, ?_, hhistory, h.failures_le, fun _ => hfailures⟩
        · cases hnone
        · rw [len_of_some _ hc] at hroom
          rw [len_of_some previous rfl]
          simp only [List.length_cons]
          omega
    · rename_i index hd
      refine ⟨fun hnone => ?_, ?_, hhistory, h.failures_le, fun _ => hfailures⟩
      · cases hnone
      · have hindex := duplicate_lt hd
        rw [len_of_some previous rfl]
        simp only [List.length_cons, List.length_eraseIdx_of_lt hindex]
        omega
  · exact h

theorem Admitted.removed (h : self.Admitted maxTracks) (position : ℕ) :
    (self.removed position).2.Admitted maxTracks := by
  have hlen := h.len_le
  have hle : (self.upcoming.eraseIdx (position - 1)).length ≤ self.upcoming.length :=
    List.length_eraseIdx_le _ _
  rw [Queue.removed]
  split
  · exact h
  · split
    · exact h
    · refine ⟨fun hnone => ?_, ?_, h.history_le, h.failures_le, h.failures_lt⟩
      · simp [h.nothing_waits hnone]
      · simp only [len] at hlen ⊢
        omega

theorem Admitted.jumped (h : self.Admitted maxTracks) (position : ℕ) :
    (self.jumped position).2.Admitted maxTracks := by
  rw [Queue.jumped]
  split
  · rename_i old target rest hc hr
    have hrest : rest.Admitted maxTracks := by
      have := h.removed position
      rwa [hr] at this
    have hsame : rest = { self with upcoming := rest.upcoming } := by
      have := self.removed_snd position
      rwa [hr] at this
    have hcurrent : rest.current = some old := (congrArg Queue.current hsame).trans hc
    refine ⟨fun hnone => ?_, ?_, length_remembered h.history_le old, hrest.failures_le,
      fun _ => hrest.failures_lt (by simp [hcurrent])⟩
    · cases hnone
    · have hlen := hrest.len_le
      rw [len_of_some old hcurrent] at hlen
      rwa [len_of_some target rfl]
  · exact h

theorem admitted_stop (self : Queue) (maxTracks : ℕ) : self.stop.Admitted maxTracks :=
  ⟨fun _ => rfl, by simp [Queue.stop, len], by simp [Queue.stop], by simp [Queue.stop],
    fun habsurd => by cases habsurd⟩

/-- A queue whose upcoming tracks are replaced by no more tracks, and by none if
nothing is current, stays admitted. -/
theorem Admitted.with_upcoming (h : self.Admitted maxTracks) {upcoming : List Track}
    (hle : upcoming.length ≤ self.upcoming.length) :
    ({ self with upcoming := upcoming } : Queue).Admitted maxTracks := by
  refine ⟨fun hnone => ?_, ?_, h.history_le, h.failures_le, h.failures_lt⟩
  · have hempty := h.nothing_waits hnone
    rw [hempty, List.length_nil] at hle
    exact List.length_eq_zero_iff.mp (Nat.le_zero.mp hle)
  · have hlen := h.len_le
    simp only [len] at hlen ⊢
    omega

theorem Admitted.clear (h : self.Admitted maxTracks) : self.clear.2.Admitted maxTracks :=
  h.with_upcoming (Nat.zero_le _)

theorem Admitted.shuffle (h : self.Admitted maxTracks) (draws : List ℕ) :
    (self.shuffle draws).2.Admitted maxTracks := by
  rw [Queue.shuffle]
  split
  · exact h
  · exact h.with_upcoming (le_of_eq (Vec.length_shuffle draws self.upcoming))

theorem Admitted.moved (h : self.Admitted maxTracks) (source target : ℕ) :
    (self.moved source target).2.Admitted maxTracks := by
  rw [Queue.moved]
  split
  · exact h
  · split
    · exact h
    · rename_i hrange track hget
      obtain ⟨hsource, -⟩ := List.getElem?_eq_some_iff.mp hget
      apply h.with_upcoming
      have htarget : target - 1 ≤ (self.upcoming.eraseIdx (source - 1)).length := by
        rw [List.length_eraseIdx_of_lt hsource]
        omega
      rw [List.length_insertIdx_of_le_length htarget, List.length_eraseIdx_of_lt hsource]
      omega

theorem Admitted.with_loopMode (h : self.Admitted maxTracks) (mode : LoopMode) :
    ({ self with loopMode := mode } : Queue).Admitted maxTracks :=
  ⟨h.nothing_waits, h.len_le, h.history_le, h.failures_le, h.failures_lt⟩

/-! ## Runs of operations -/

/-- One operation on a queue, with its arguments. -/
inductive Op
  | enqueue (tracks : List Track)
  | finish
  | fail
  | skip
  | previous
  | jump (position : ℕ)
  | stop
  | clear
  | shuffle (draws : List ℕ)
  | remove (position : ℕ)
  | moveTo (source target : ℕ)
  | setLoopMode (mode : LoopMode)
  deriving DecidableEq, Repr

/-- Perform one operation under an admission limit, keeping the queue. -/
def apply (maxTracks : ℕ) (self : Queue) : Op → Checked Queue
  | .enqueue tracks => .ok (self.enqueue tracks maxTracks).2
  | .finish => self.finish
  | .fail => self.fail
  | .skip => self.skip
  | .previous => (self.previous maxTracks).map Prod.snd
  | .jump position => (self.jump position).map Prod.snd
  | .stop => .ok self.stop
  | .clear => .ok self.clear.2
  | .shuffle draws => .ok (self.shuffle draws).2
  | .remove position => (self.remove position).map Prod.snd
  | .moveTo source target => (self.moveTo source target).map Prod.snd
  | .setLoopMode mode => .ok { self with loopMode := mode }

/-- Perform operations one after the other. -/
def runOps (maxTracks : ℕ) (self : Queue) (ops : List Op) : Checked Queue :=
  ops.foldlM (apply maxTracks) self

/-- One operation returns, and keeps the invariant. -/
theorem Admitted.apply (h : self.Admitted maxTracks) (op : Op) :
    ∃ after, self.apply maxTracks op = .ok after ∧ after.Admitted maxTracks := by
  cases op with
  | enqueue tracks => exact ⟨_, rfl, h.enqueue tracks⟩
  | finish => exact ⟨_, self.finish_eq, h.finished⟩
  | fail => exact ⟨_, self.fail_eq, h.failed⟩
  | skip => exact ⟨_, self.skip_eq, h.skipped⟩
  | previous =>
      exact ⟨_, congrArg (Except.map Prod.snd) (self.previous_eq maxTracks), h.restored⟩
  | jump position =>
      exact ⟨_, congrArg (Except.map Prod.snd) (self.jump_eq position), h.jumped position⟩
  | stop => exact ⟨_, rfl, admitted_stop self maxTracks⟩
  | clear => exact ⟨_, rfl, h.clear⟩
  | shuffle draws => exact ⟨_, rfl, h.shuffle draws⟩
  | remove position =>
      exact ⟨_, congrArg (Except.map Prod.snd) (self.remove_eq position), h.removed position⟩
  | moveTo source target =>
      exact ⟨_, congrArg (Except.map Prod.snd) (self.moveTo_eq source target),
        h.moved source target⟩
  | setLoopMode mode => exact ⟨_, rfl, h.with_loopMode mode⟩

/-- A run of operations returns, and keeps the invariant. -/
theorem Admitted.runOps (h : self.Admitted maxTracks) (ops : List Op) :
    ∃ after, self.runOps maxTracks ops = .ok after ∧ after.Admitted maxTracks := by
  induction ops generalizing self with
  | nil => exact ⟨self, rfl, h⟩
  | cons op ops ih =>
      obtain ⟨middle, hstep, hmiddle⟩ := h.apply op
      obtain ⟨after, hrest, hafter⟩ := ih hmiddle
      refine ⟨after, ?_, hafter⟩
      simp only [Queue.runOps, List.foldlM_cons, hstep] at hrest ⊢
      exact hrest

/-- Under one admission limit no sequence of operations aborts, and the queue it
leaves holds nothing behind an absent current track, stays within the limit,
keeps at most twenty heard tracks and a failure streak of at most three, at most
two while a track is current. -/
theorem runOps_default (maxTracks : ℕ) (ops : List Op) :
    ∃ after, default.runOps maxTracks ops = .ok after ∧
      (after.current = none → after.upcoming = []) ∧
      after.len ≤ maxTracks ∧
      after.history.length ≤ 20 ∧
      after.consecutiveFailures ≤ 3 ∧
      (after.current.isSome → after.consecutiveFailures ≤ 2) := by
  obtain ⟨after, hrun, h⟩ := (admitted_default maxTracks).runOps ops
  exact ⟨after, hrun, h.nothing_waits, h.len_le, h.history_le, h.failures_le,
    fun hsome => Nat.le_of_lt_succ (h.failures_lt hsome)⟩

end Queue

end Raydio.Playback
