/-
# The order in which tracks follow each other

A natural end makes the next track current. Run after run of natural ends, what is left
to play is the original list, rotated in queue-loop mode and shortened without a loop;
the history is the end of everything that was heard.

The track that is prepared before a natural end is the one that this end will make
current, if it has to be loaded at all.
-/

import Raydio.Foundation.Window
import Raydio.Playback.Undo

namespace Raydio.Playback

open Raydio.Foundation

namespace Queue

variable {self : Queue}

/-- The tracks are what is left to play, the first of them being current. -/
def Plays (self : Queue) (tracks : List Track) : Prop :=
  self.current = tracks.head? ∧ self.upcoming = tracks.tail

theorem plays_of_some {current : Track} (h : self.current = some current) :
    self.Plays (current :: self.upcoming) :=
  ⟨h, rfl⟩

/-! ## Preparing the successor -/

theorem finished_current {current : Track} (h : self.current = some current) :
    self.finished.current =
      if self.loopMode = .track then some current else (self.rotated current).head? := by
  rw [finished, h]
  dsimp only
  split
  · rfl
  · rfl

/-- Among the tracks that need loading, the first upcoming one is the successor. -/
theorem successor_iff {current track : Track} (h : self.current = some current)
    (hencoded : track.encoded ≠ current.encoded) :
    self.finished.current = some track ↔
      self.loopMode ≠ .track ∧ self.upcoming.head? = some track := by
  have hother : current ≠ track := by
    rintro rfl
    exact hencoded rfl
  rw [finished_current h]
  by_cases htrack : self.loopMode = .track
  · simp [htrack, hother]
  · rw [if_neg htrack, rotated]
    cases hupcoming : self.upcoming with
    | nil => by_cases hqueue : self.loopMode = .queue <;> simp [hqueue, hother]
    | cons first rest => by_cases hqueue : self.loopMode = .queue <;> simp [hqueue, htrack]

theorem preparationTarget_of_some {current : Track} (h : self.current = some current)
    (positionMs : ℕ) (track : Track) :
    self.preparationTarget positionMs = some track ↔
      (current.stream = false ∧ 0 < current.durationMs ∧ self.loopMode ≠ .track ∧
        current.durationMs - positionMs ≤ 45000) ∧
      self.upcoming.head? = some track ∧ track.stream = false ∧
        track.encoded ≠ current.encoded := by
  have hguard : (current.stream || current.durationMs == 0 || self.loopMode == .track ||
      decide (current.durationMs - positionMs > 45000)) = true ↔
        ¬ (current.stream = false ∧ 0 < current.durationMs ∧ self.loopMode ≠ .track ∧
          current.durationMs - positionMs ≤ 45000) := by
    simp only [Bool.or_eq_true, beq_iff_eq, decide_eq_true_eq, ← Bool.not_eq_true,
      Nat.pos_iff_ne_zero, gt_iff_lt, ← not_lt]
    tauto
  rw [preparationTarget, h]
  dsimp only
  split
  · rename_i hclosed
    simp only [hguard.mp hclosed, false_and, reduceCtorEq]
  · rename_i hopen
    rw [hguard, not_not] at hopen
    simp only [hopen, true_and, ne_eq, not_false_eq_true, Option.filter_eq_some_iff,
      Bool.and_eq_true, Bool.not_eq_true', bne_iff_ne]

/-- What is wanted at one position is wanted at exactly those that are near the end. -/
theorem preparationTarget_of_near {positionMs : ℕ} {track : Track}
    (h : self.preparationTarget positionMs = some track) (other : ℕ) :
    self.preparationTarget other =
      if self.current.any fun current => decide (45000 < current.durationMs - other) then none
      else some track := by
  cases hcurrent : self.current with
  | none =>
      rw [preparationTarget, hcurrent] at h
      cases h
  | some current =>
      obtain ⟨⟨hfinite, hknown, htrack, -⟩, htarget⟩ :=
        (preparationTarget_of_some hcurrent _ _).mp h
      split
      · rename_i hfar
        rw [Option.any_some, decide_eq_true_eq] at hfar
        rw [Option.eq_none_iff_forall_ne_some]
        intro next hnext
        have hclose := ((preparationTarget_of_some hcurrent _ _).mp hnext).1.2.2.2
        omega
      · rename_i hnear
        rw [Option.any_some, decide_eq_true_eq, not_lt] at hnear
        rw [preparationTarget_of_some hcurrent]
        exact ⟨⟨hfinite, hknown, htrack, hnear⟩, htarget⟩

/-- The lead in which a target is prepared only ends with the track. -/
theorem preparationTarget_mono {positionMs : ℕ} {track : Track}
    (h : self.preparationTarget positionMs = some track) {later : ℕ} (hle : positionMs ≤ later) :
    self.preparationTarget later = some track := by
  cases hcurrent : self.current with
  | none =>
      rw [preparationTarget, hcurrent] at h
      cases h
  | some current =>
      rw [preparationTarget_of_some hcurrent] at h ⊢
      obtain ⟨⟨hfinite, hknown, htrack, hclose⟩, htarget⟩ := h
      exact ⟨⟨hfinite, hknown, htrack, by omega⟩, htarget⟩

/-- A track is prepared exactly if the current one is finite, of known duration and at
most 45 seconds from its end, and its natural end makes the track current, which is no
stream and not what was already loaded. Once prepared it stays so at every later
position. -/
theorem preparationTarget_iff (self : Queue) (positionMs : ℕ) (track : Track) :
    (self.preparationTarget positionMs = some track ↔
      ∃ current after, self.current = some current ∧ current.stream = false ∧
        0 < current.durationMs ∧ current.durationMs - positionMs ≤ 45000 ∧
        self.finish = .ok after ∧ after.current = some track ∧ track.stream = false ∧
        track.encoded ≠ current.encoded) ∧
    ∀ later ≥ positionMs, self.preparationTarget positionMs = some track →
      self.preparationTarget later = some track := by
  refine ⟨?_, fun later hle h => preparationTarget_mono h hle⟩
  constructor
  · intro h
    cases hcurrent : self.current with
    | none =>
        rw [preparationTarget, hcurrent] at h
        cases h
    | some current =>
        rw [preparationTarget_of_some hcurrent] at h
        obtain ⟨⟨hfinite, hknown, htrack, hclose⟩, hhead, hstream, hencoded⟩ := h
        refine ⟨current, _, rfl, hfinite, hknown, hclose, self.finish_eq, ?_, hstream, hencoded⟩
        exact (successor_iff hcurrent hencoded).mpr ⟨htrack, hhead⟩
  · rintro ⟨current, after, hcurrent, hfinite, hknown, hclose, hfinish, hafter, hstream,
      hencoded⟩
    rw [finish_eq] at hfinish
    cases hfinish
    obtain ⟨htrack, hhead⟩ := (successor_iff hcurrent hencoded).mp hafter
    rw [preparationTarget_of_some hcurrent]
    exact ⟨⟨hfinite, hknown, htrack, hclose⟩, hhead, hstream, hencoded⟩

/-- The second of two tracks is prepared once the first has 45 of its 60 seconds left. -/
theorem preparationTarget_pair :
    ({ Sample.pair with upcoming := [Sample.track "b"] } : Queue).preparationTarget 60000 =
      some (Sample.track "b") :=
  (preparationTarget_iff _ 15000 _).2 60000 (by decide) (by decide)

/-! ## One natural end -/

/-- A natural end goes on to the next track, and puts the one that was heard behind the
others if the queue repeats. -/
theorem Plays.finished {tracks : List Track} (h : self.Plays tracks)
    (hmode : self.loopMode ≠ .track) :
    self.finished.Plays (if self.loopMode = .queue then tracks.rotate 1 else tracks.tail) := by
  obtain ⟨hcurrent, hupcoming⟩ := h
  cases tracks with
  | nil =>
      have hnone : self.finished = self := by
        rw [Queue.finished, hcurrent]
        rfl
      rw [hnone, List.rotate_nil, List.tail_nil, ite_self]
      exact ⟨hcurrent, hupcoming⟩
  | cons first rest =>
      rw [List.head?_cons] at hcurrent
      rw [List.tail_cons] at hupcoming
      by_cases hqueue : self.loopMode = .queue <;>
        simp [Queue.finished, hcurrent, hmode, hqueue, rotated, hupcoming, Plays]

@[simp]
theorem finished_loopMode (self : Queue) : self.finished.loopMode = self.loopMode := by
  rw [finished]
  split
  · rfl
  · split <;> rfl

/-- A track that repeats alone leaves the queue as it is, but for the failure streak. -/
theorem finished_track (hmode : self.loopMode = .track) :
    ∃ failures, self.finished = { self with consecutiveFailures := failures } := by
  rw [finished]
  split
  · exact ⟨self.consecutiveFailures, rfl⟩
  · rw [if_pos hmode]
    exact ⟨0, rfl⟩

/-- What was heard is remembered. -/
theorem finished_history (hmode : self.loopMode ≠ .track) :
    self.finished.history =
      self.current.toList.foldl (Window.push historyLimit) self.history := by
  rw [finished]
  split
  · rename_i hcurrent
    rw [hcurrent]
    rfl
  · rename_i old hcurrent
    rw [if_neg hmode, hcurrent]
    rfl

/-! ## Many natural ends -/

/-- The tracks that so many natural ends of a repeated list are ends of, in order. -/
def cycle (tracks : List Track) (count : ℕ) : List Track :=
  (List.range count).filterMap fun index => tracks[index % tracks.length]?

/-- The state of a queue after natural ends, from the tracks that were left to play. -/
structure Ended (before : Queue) (left heard : List Track) (after : Queue) : Prop where
  plays : after.Plays left
  history : after.history = (before.history ++ heard).rtake
    (max historyLimit before.history.length)
  mode : after.loopMode = before.loopMode

theorem ended_zero {tracks : List Track} (h : self.Plays tracks) : self.Ended tracks [] self where
  plays := h
  history := by rw [List.append_nil, Window.rtake_of_length_le _ (le_max_right _ _)]
  mode := rfl

/-- The history of one more natural end. -/
theorem Ended.history_finished {before after : Queue} {left heard : List Track}
    (h : Ended before left heard after) (hmode : before.loopMode ≠ .track) :
    after.finished.history = (before.history ++ (heard ++ left.head?.toList)).rtake
      (max historyLimit before.history.length) := by
  have hbound : 0 < historyLimit := Nat.succ_pos _
  have hheard := Window.foldl_push hbound before.history heard
  rw [finished_history (h.mode ▸ hmode), h.plays.1, h.history, ← hheard, ← List.foldl_append,
    Window.foldl_push hbound]

theorem cycle_succ {tracks : List Track} (h : tracks ≠ []) (count : ℕ) :
    cycle tracks (count + 1) =
      cycle tracks count ++ (tracks.rotate (count % tracks.length)).head?.toList := by
  have hlt : count % tracks.length < tracks.length :=
    Nat.mod_lt _ (List.length_pos_iff.mpr h)
  rw [cycle, List.range_succ, List.filterMap_append, List.head?_rotate hlt, cycle]
  congr 1

theorem ended_queue {tracks : List Track} (h : self.Plays tracks) (hne : tracks ≠ [])
    (hmode : self.loopMode = .queue) (count : ℕ) :
    self.Ended (tracks.rotate (count % tracks.length)) (cycle tracks count)
      (finished^[count] self) := by
  induction count with
  | zero =>
      rw [Nat.zero_mod, List.rotate_zero]
      exact ended_zero h
  | succ count ih =>
      rw [Function.iterate_succ_apply']
      refine ⟨?_, ?_, (finished_loopMode _).trans ih.mode⟩
      · have hqueue := ih.mode.trans hmode
        have hturned := ih.plays.finished (by simp [hqueue])
        rw [if_pos hqueue, List.rotate_rotate] at hturned
        rw [← Nat.mod_add_mod, List.rotate_mod]
        exact hturned
      · rw [ih.history_finished (by simp [hmode]), cycle_succ hne]

theorem drop_min_length (tracks : List Track) (count : ℕ) :
    tracks.drop (min count tracks.length) = tracks.drop count := by
  rcases le_total count tracks.length with hle | hge
  · rw [min_eq_left hle]
  · rw [min_eq_right hge, List.drop_length, List.drop_eq_nil_of_le hge]

theorem ended_off {tracks : List Track} (h : self.Plays tracks) (hmode : self.loopMode = .off)
    (count : ℕ) : self.Ended (tracks.drop count) (tracks.take count) (finished^[count] self) := by
  induction count with
  | zero => exact ended_zero h
  | succ count ih =>
      rw [Function.iterate_succ_apply']
      refine ⟨?_, ?_, (finished_loopMode _).trans ih.mode⟩
      · have hoff := ih.mode.trans hmode
        have hdropped := ih.plays.finished (by simp [hoff])
        rwa [if_neg (by simp [hoff]), List.tail_drop] at hdropped
      · rw [ih.history_finished (by simp [hmode]), List.head?_drop, List.take_add_one]

theorem ended_track (hmode : self.loopMode = .track) (count : ℕ) :
    ∃ failures, finished^[count] self = { self with consecutiveFailures := failures } := by
  induction count with
  | zero => exact ⟨self.consecutiveFailures, rfl⟩
  | succ count ih =>
      obtain ⟨failures, hsame⟩ := ih
      rw [Function.iterate_succ_apply', hsame]
      obtain ⟨later, hlater⟩ := finished_track (by exact hmode :
        ({ self with consecutiveFailures := failures } : Queue).loopMode = .track)
      exact ⟨later, hlater⟩

/-- What natural ends make of a queue in its loop mode. The history keeps twenty tracks,
or as many as it had if these were more. -/
def NaturalOrder (self : Queue) (count : ℕ) (after : Queue) : Prop :=
  let tracks := self.current.toList ++ self.upcoming
  match self.loopMode with
  | .queue => self.Ended (tracks.rotate (count % self.len)) (cycle tracks count) after
  | .off => self.Ended (tracks.drop (min count self.len)) (tracks.take count) after
  | .track => ∃ failures, after = { self with consecutiveFailures := failures }

/-- After any number of natural ends, what is left to play is the original list rotated
in queue-loop mode and shortened without a loop, and the history is the end of
everything heard; a repeating track leaves both alone. -/
theorem finishTimes_order (self : Queue) {current : Track} (h : self.current = some current)
    (count : ℕ) : ∃ after, self.finishTimes count = .ok after ∧
      self.NaturalOrder count after := by
  refine ⟨_, self.finishTimes_eq count, ?_⟩
  have hplays := plays_of_some h
  have htracks : self.current.toList ++ self.upcoming = current :: self.upcoming := by
    rw [h]
    rfl
  have hlen : self.len = (current :: self.upcoming).length := len_of_some current h
  simp only [NaturalOrder, htracks, hlen]
  split
  · rename_i hmode
    exact ended_queue hplays (by simp) hmode count
  · rename_i hmode
    rw [drop_min_length]
    exact ended_off hplays hmode count
  · rename_i hmode
    exact ended_track hmode count

theorem finishTimes_order_pair : ∃ after, Sample.pair.finishTimes 3 = .ok after ∧
    Sample.pair.NaturalOrder 3 after :=
  finishTimes_order Sample.pair rfl 3

end Queue

end Raydio.Playback
