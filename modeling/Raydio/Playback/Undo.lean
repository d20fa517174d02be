/-
# Going back undoes natural ends

In queue-loop mode a natural end puts the track at the end of the upcoming ones and
into the history; going back takes it out of both. The copy that it takes out is the
last one that matches, which is the one that was put there, whatever else is queued.

A track that is queued alone is the exception. Its copy becomes current at once, so
that nothing matches: going back is refused for want of room, or queues it twice.
-/

import Raydio.Playback.Admission

namespace Raydio.Playback

open Raydio.Foundation

namespace Queue

variable {self : Queue}

/-- The current track comes to its natural end, again and again. -/
def finishTimes (self : Queue) : ℕ → Checked Queue
  | 0 => .ok self
  | count + 1 => do
      let self ← self.finishTimes count
      self.finish

/-- Go back again and again, whatever comes of it. -/
def previousTimes (maxTracks : ℕ) (self : Queue) : ℕ → Checked (List PreviousOutcome × Queue)
  | 0 => .ok ([], self)
  | count + 1 => do
      let (outcome, self) ← self.previous maxTracks
      let (outcomes, self) ← previousTimes maxTracks self count
      return (outcome :: outcomes, self)

/-- Going back as often as the track ended starts a track each time, and restores the
tracks. -/
def Undoes (maxTracks count : ℕ) (self : Queue) : Prop :=
  ∃ ended after, self.finishTimes count = .ok ended ∧
    ended.previousTimes maxTracks count = .ok (List.replicate count .started, after) ∧
      after.current = self.current ∧ after.upcoming = self.upcoming ∧
        after.history = self.history

/-! ## As updates -/

/-- `previousTimes` as updates. -/
def restoredTimes (maxTracks : ℕ) (self : Queue) : ℕ → List PreviousOutcome × Queue
  | 0 => ([], self)
  | count + 1 =>
      let first := self.restored maxTracks
      let rest := restoredTimes maxTracks first.2 count
      (first.1 :: rest.1, rest.2)

theorem finishTimes_eq (self : Queue) (count : ℕ) :
    self.finishTimes count = .ok (finished^[count] self) := by
  induction count with
  | zero => rfl
  | succ count ih =>
      rw [finishTimes, ih, Function.iterate_succ_apply']
      exact finish_eq _

theorem previousTimes_eq (maxTracks : ℕ) (self : Queue) (count : ℕ) :
    self.previousTimes maxTracks count = .ok (self.restoredTimes maxTracks count) := by
  induction count generalizing self with
  | zero => rfl
  | succ count ih =>
      simp only [previousTimes, previous_eq, ih, bind, Except.bind, pure, Except.pure]
      rfl

theorem undoes_iff (maxTracks count : ℕ) : self.Undoes maxTracks count ↔
    let gone := (finished^[count] self).restoredTimes maxTracks count
    gone.1 = List.replicate count .started ∧ gone.2.current = self.current ∧
      gone.2.upcoming = self.upcoming ∧ gone.2.history = self.history := by
  constructor
  · rintro ⟨ended, after, hended, hafter, htracks⟩
    rw [finishTimes_eq] at hended
    cases hended
    rw [previousTimes_eq] at hafter
    have hgone := Except.ok.inj hafter
    rw [hgone]
    exact ⟨rfl, htracks⟩
  · rintro ⟨houtcomes, htracks⟩
    refine ⟨_, _, self.finishTimes_eq count, ?_, htracks⟩
    rw [previousTimes_eq, ← houtcomes]

/-! ## One step back -/

/-- The failure streak is no matter for going back. -/
theorem restored_failures (maxTracks failures : ℕ) :
    ({ self with consecutiveFailures := failures } : Queue).restored maxTracks =
      ((self.restored maxTracks).1,
        { (self.restored maxTracks).2 with consecutiveFailures := failures }) := by
  obtain ⟨current, upcoming, history, mode, streak⟩ := self
  cases current with
  | none => rfl
  | some current =>
      simp only [restored, duplicate, len]
      cases history.getLast? with
      | none => rfl
      | some previous =>
          dsimp only
          split
          · by_cases hfull : 1 + upcoming.length ≥ maxTracks
            · simp only [Option.isSome_some, if_true, if_pos hfull]
            · simp only [Option.isSome_some, if_true, if_neg hfull]
          · rfl

/-- A matching track at the end is the last one that matches. -/
theorem rposition_concat {p : Track → Bool} {track : Track} (h : p track = true)
    (tracks : List Track) : rposition p (tracks ++ [track]) = some tracks.length := by
  simp [rposition, List.findIdx?_cons, h]

/-- A natural end in queue-loop mode puts the track behind those that wait. -/
theorem finished_of_waits {current first : Track} {rest : List Track}
    (hcurrent : self.current = some current) (hupcoming : self.upcoming = first :: rest)
    (hmode : self.loopMode = .queue) (hhistory : self.history.length < historyLimit) :
    self.finished = { self with
      current := some first, upcoming := rest ++ [current]
      history := self.history ++ [current], consecutiveFailures := 0 } := by
  simp [finished, rotated, remembered, hcurrent, hupcoming, hmode, hhistory]

/-- Going back right after a natural end restores the tracks of a queue in which
another one waits. -/
theorem restored_finished (maxTracks : ℕ) {current first : Track} {rest : List Track}
    (hcurrent : self.current = some current) (hupcoming : self.upcoming = first :: rest)
    (hmode : self.loopMode = .queue) (hhistory : self.history.length < historyLimit) :
    self.finished.restored maxTracks = (.started, { self with consecutiveFailures := 0 }) := by
  have hduplicate : ({ self with
      current := some first, upcoming := rest ++ [current]
      history := self.history ++ [current], consecutiveFailures := 0 } : Queue).duplicate current =
        some rest.length := by
    rw [duplicate, if_pos hmode]
    exact rposition_concat (by simp) rest
  rw [finished_of_waits hcurrent hupcoming hmode hhistory, restored, List.getLast?_concat]
  dsimp only
  rw [hduplicate]
  simp [hcurrent, hupcoming, List.eraseIdx_append_of_length_le]

/-! ## A queue in which another track waits -/

/-- What a natural end keeps in queue-loop mode. -/
structure Looping (queue : Queue) : Prop where
  current : queue.current.isSome
  waits : queue.upcoming ≠ []
  mode : queue.loopMode = .queue

theorem Looping.finished (h : self.Looping) (hhistory : self.history.length < historyLimit) :
    self.finished.Looping ∧ self.finished.history.length = self.history.length + 1 := by
  obtain ⟨current, hcurrent⟩ := Option.isSome_iff_exists.mp h.current
  obtain ⟨first, rest, hupcoming⟩ := List.exists_cons_of_ne_nil h.waits
  rw [finished_of_waits hcurrent hupcoming h.mode hhistory]
  exact ⟨⟨rfl, by simp, h.mode⟩, by simp⟩

theorem Looping.iterate (h : self.Looping) (count : ℕ)
    (hhistory : self.history.length + count ≤ historyLimit) :
    (Queue.finished^[count] self).Looping ∧
      (Queue.finished^[count] self).history.length = self.history.length + count := by
  induction count with
  | zero => exact ⟨h, rfl⟩
  | succ count ih =>
      obtain ⟨hlooping, hlength⟩ := ih (by omega)
      rw [Function.iterate_succ_apply']
      obtain ⟨hnext, hmore⟩ := hlooping.finished (by omega)
      exact ⟨hnext, by omega⟩

theorem restoredTimes_failures (maxTracks failures count : ℕ) :
    ({ self with consecutiveFailures := failures } : Queue).restoredTimes maxTracks count =
      ((self.restoredTimes maxTracks count).1,
        { (self.restoredTimes maxTracks count).2 with consecutiveFailures := failures }) := by
  induction count generalizing self with
  | zero => rfl
  | succ count ih =>
      simp only [restoredTimes, restored_failures, ih]

theorem Looping.undoes (h : self.Looping) (maxTracks : ℕ) {count : ℕ}
    (hhistory : self.history.length + count ≤ historyLimit) : self.Undoes maxTracks count := by
  rw [undoes_iff]
  induction count with
  | zero => exact ⟨rfl, rfl, rfl, rfl⟩
  | succ count ih =>
      obtain ⟨hlooping, hlength⟩ := h.iterate count (by omega)
      obtain ⟨current, hcurrent⟩ := Option.isSome_iff_exists.mp hlooping.current
      obtain ⟨first, rest, hupcoming⟩ := List.exists_cons_of_ne_nil hlooping.waits
      have hback := restored_finished maxTracks hcurrent hupcoming hlooping.mode (by omega)
      rw [Function.iterate_succ_apply', restoredTimes, hback]
      obtain ⟨houtcomes, htracks⟩ := ih (by omega)
      simp only [restoredTimes_failures, List.replicate_succ, houtcomes]
      exact ⟨trivial, htracks⟩

/-! ## A track that is queued alone -/

/-- Going back loses no track. -/
theorem len_le_restored (self : Queue) (maxTracks : ℕ) :
    self.len ≤ (self.restored maxTracks).2.len := by
  rw [restored]
  split
  · rename_i current previous hcurrent _
    split
    · split
      · exact Nat.le_refl _
      · simp [len, hcurrent]
    · rename_i index hduplicate
      have hlt := duplicate_lt hduplicate
      simp only [len, hcurrent, Option.isSome_some, if_true, List.length_cons,
        List.length_eraseIdx_of_lt hlt]
      omega
  · exact Nat.le_refl _

theorem len_le_restoredTimes (self : Queue) (maxTracks count : ℕ) :
    self.len ≤ (self.restoredTimes maxTracks count).2.len := by
  induction count generalizing self with
  | zero => exact Nat.le_refl _
  | succ count ih => exact (self.len_le_restored maxTracks).trans (ih _)

/-- A track that is queued alone starts over. -/
theorem finished_alone {current : Track} (hcurrent : self.current = some current)
    (hupcoming : self.upcoming = []) (hmode : self.loopMode = .queue) :
    self.finished = { self with
      history := remembered self.history current, consecutiveFailures := 0 } := by
  simp [finished, rotated, hcurrent, hupcoming, hmode]

theorem iterate_alone {current : Track} (hcurrent : self.current = some current)
    (hupcoming : self.upcoming = []) (hmode : self.loopMode = .queue) (count : ℕ) :
    (finished^[count] self).current = some current ∧ (finished^[count] self).upcoming = [] ∧
      (finished^[count] self).loopMode = .queue := by
  induction count with
  | zero => exact ⟨hcurrent, hupcoming, hmode⟩
  | succ count ih =>
      obtain ⟨hcurrent, hupcoming, hmode⟩ := ih
      rw [Function.iterate_succ_apply', finished_alone hcurrent hupcoming hmode]
      exact ⟨hcurrent, hupcoming, hmode⟩

/-- Going back to a track that is queued alone is refused, or queues it twice. -/
theorem restored_alone {current : Track} (hcurrent : self.current = some current)
    (hupcoming : self.upcoming = []) (maxTracks : ℕ) :
    (self.restored maxTracks).1 ≠ .started ∨ (self.restored maxTracks).2.len = 2 := by
  have hduplicate : ∀ track, self.duplicate track = none := by
    intro track
    rw [duplicate]
    split
    · simp [rposition, hupcoming]
    · rfl
  rw [restored, hcurrent]
  cases self.history.getLast? with
  | none => exact Or.inl (by simp)
  | some previous =>
      dsimp only
      rw [hduplicate]
      dsimp only
      split
      · exact Or.inl (by simp)
      · exact Or.inr (by simp [len, hupcoming])

theorem not_undoes_alone {current : Track} (hcurrent : self.current = some current)
    (hupcoming : self.upcoming = []) (hmode : self.loopMode = .queue) (maxTracks count : ℕ) :
    ¬ self.Undoes maxTracks (count + 1) := by
  rw [undoes_iff]
  rintro ⟨houtcomes, hsame, hnone, -⟩
  obtain ⟨hlast, hempty, -⟩ := iterate_alone hcurrent hupcoming hmode (count + 1)
  rcases restored_alone hlast hempty maxTracks with hrefused | htwice
  · rw [restoredTimes, List.replicate_succ] at houtcomes
    exact hrefused (List.cons.inj houtcomes).1
  · have hle := len_le_restoredTimes ((finished^[count + 1] self).restored maxTracks).2 maxTracks
      count
    rw [htwice] at hle
    rw [restoredTimes] at hsame hnone
    rw [len, hsame, hnone, hcurrent, hupcoming] at hle
    simp at hle

/-! ## Exactly when -/

/-- In queue-loop mode going back undoes natural ends exactly if there were none or
another track waits. -/
theorem undoes_loop_iff (maxTracks count : ℕ) (hcurrent : self.current.isSome)
    (hmode : self.loopMode = .queue) (hhistory : self.history.length + count ≤ 20) :
    self.Undoes maxTracks count ↔ count = 0 ∨ self.upcoming ≠ [] := by
  constructor
  · intro hundoes
    by_cases hupcoming : self.upcoming = []
    · obtain ⟨current, hcurrent⟩ := Option.isSome_iff_exists.mp hcurrent
      cases count with
      | zero => exact Or.inl rfl
      | succ count =>
          exact absurd hundoes (not_undoes_alone hcurrent hupcoming hmode maxTracks count)
    · exact Or.inr hupcoming
  · rintro (rfl | hwaits)
    · exact ⟨self, self, rfl, rfl, rfl, rfl, rfl⟩
    · exact Looping.undoes ⟨hcurrent, hwaits, hmode⟩ maxTracks hhistory

namespace Sample

def track (encoded : String) : Track :=
  ⟨encoded, encoded, encoded, "author", 60000, false, none, "1", "user"⟩

/-- Two equal tracks in queue-loop mode. -/
def pair : Queue := { default with
  current := some (track "a"), upcoming := [track "a"], loopMode := .queue }

/-- A track that is queued alone. -/
def single : Queue := { pair with upcoming := [] }

end Sample

theorem undoes_pair : Sample.pair.Undoes 1000 20 ↔ 20 = 0 ∨ Sample.pair.upcoming ≠ [] :=
  undoes_loop_iff 1000 20 rfl rfl (by decide)

/-- The track that is queued alone is queued twice after it was gone back to. -/
theorem single_not_undoes :
    Sample.single.current.isSome ∧ Sample.single.loopMode = .queue ∧ Sample.single.len ≤ 1000 ∧
      Sample.single.history.length + 1 ≤ 20 ∧ ¬ Sample.single.Undoes 1000 1 :=
  ⟨rfl, rfl, by decide, by decide, not_undoes_alone rfl rfl rfl 1000 0⟩

end Queue

end Raydio.Playback
