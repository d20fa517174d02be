/-
# What holds of all tracks of a queue

A queue gets tracks only by admitting them. Every other operation lets a track become
current, puts one that was current behind others or into the history, or forgets some, so
that what holds of all tracks of a queue holds of them after it.
-/

import Raydio.Playback.Queue

namespace Raydio.Playback

open Raydio.Foundation

namespace Queue

/-- What holds of the current track, of the upcoming ones and of those heard. -/
structure All (P : Track → Prop) (queue : Queue) : Prop where
  current : ∀ track, queue.current = some track → P track
  upcoming : ∀ track ∈ queue.upcoming, P track
  history : ∀ track ∈ queue.history, P track

variable {P Q : Track → Prop} {self : Queue}

/-- Nothing is left to play. -/
theorem all_none (hcurrent : self.current = none) (hupcoming : self.upcoming = [])
    (hhistory : ∀ track ∈ self.history, P track) : self.All P where
  current track h := by cases hcurrent.symm.trans h
  upcoming track h := by rw [hupcoming] at h; cases h
  history := hhistory

theorem all_default (P : Track → Prop) : default.All P :=
  all_none rfl rfl fun _ h => by cases h

theorem All.mono (h : self.All P) (hmono : ∀ track, P track → Q track) : self.All Q where
  current track htrack := hmono track (h.current track htrack)
  upcoming track htrack := hmono track (h.upcoming track htrack)
  history track htrack := hmono track (h.history track htrack)

/-- Other fields do not matter. -/
theorem All.of_eq {queue : Queue} (h : self.All P) (current : queue.current = self.current)
    (upcoming : queue.upcoming = self.upcoming) (history : queue.history = self.history) :
    queue.All P where
  current := by rw [current]; exact h.current
  upcoming := by rw [upcoming]; exact h.upcoming
  history := by rw [history]; exact h.history

theorem mem_remembered {history : List Track} {old track : Track}
    (h : track ∈ remembered history old) : track ∈ history ∨ track = old := by
  rw [remembered] at h
  split at h
  · rcases List.mem_append.mp h with h | h
    · exact .inl h
    · exact .inr (List.mem_singleton.mp h)
  · rcases List.mem_append.mp h with h | h
    · exact .inl (List.mem_of_mem_tail h)
    · exact .inr (List.mem_singleton.mp h)

/-- The current track goes into the history. -/
theorem All.remembered (h : self.All P) {old : Track} (hold : self.current = some old) :
    ∀ track ∈ Queue.remembered self.history old, P track := by
  intro track htrack
  rcases mem_remembered htrack with htrack | rfl
  · exact h.history track htrack
  · exact h.current track hold

/-- The first of the tracks becomes current. -/
theorem all_advance {upcoming history : List Track} (hupcoming : ∀ track ∈ upcoming, P track)
    (hhistory : ∀ track ∈ history, P track) (mode : LoopMode) (failures : ℕ) :
    All P ⟨upcoming.head?, upcoming.tail, history, mode, failures⟩ where
  current track htrack := hupcoming track (List.mem_of_head? htrack)
  upcoming track htrack := hupcoming track (List.mem_of_mem_tail htrack)
  history := hhistory

theorem All.finished (h : self.All P) : self.finished.All P := by
  rw [Queue.finished]
  split
  · exact h
  · rename_i old hold
    split
    · exact h.of_eq rfl rfl rfl
    · refine all_advance ?_ (h.remembered hold) _ _
      intro track htrack
      rw [rotated] at htrack
      split at htrack
      · rcases List.mem_append.mp htrack with htrack | htrack
        · exact h.upcoming track htrack
        · rw [List.mem_singleton.mp htrack]
          exact h.current old hold
      · exact h.upcoming track htrack

theorem All.failed (h : self.All P) : self.failed.All P := by
  rw [Queue.failed]
  split
  · exact h
  · split
    · exact all_none rfl rfl h.history
    · exact all_advance h.upcoming h.history _ _

theorem All.skipped (h : self.All P) : self.skipped.All P := by
  rw [Queue.skipped]
  split
  · exact h
  · rename_i old hold
    exact all_advance h.upcoming (h.remembered hold) _ _

theorem All.removed (h : self.All P) (position : ℕ) : (self.removed position).2.All P := by
  rw [Queue.removed]
  split
  · exact h
  · split
    · exact h
    · exact ⟨h.current, fun track htrack => h.upcoming track (List.mem_of_mem_eraseIdx htrack),
        h.history⟩

theorem All.removed_fst (h : self.All P) {position : ℕ} {track : Track}
    (htrack : (self.removed position).1 = some track) : P track := by
  rw [Queue.removed] at htrack
  split at htrack
  · cases htrack
  · split at htrack
    · cases htrack
    · rename_i found hfound
      cases htrack
      exact h.upcoming track (List.mem_of_getElem? hfound)

theorem All.jumped (h : self.All P) (position : ℕ) : (self.jumped position).2.All P := by
  rw [Queue.jumped]
  split
  · rename_i old target rest hold hremoved
    have hrest : rest.All P := by
      have hall := h.removed position
      rwa [hremoved] at hall
    have htarget : P target := h.removed_fst (by rw [hremoved])
    refine ⟨?_, hrest.upcoming, h.remembered hold⟩
    intro track htrack
    cases htrack
    exact htarget
  · exact h

theorem All.restored (h : self.All P) (maxTracks : ℕ) : (self.restored maxTracks).2.All P := by
  have hback {current last : Track} {upcoming : List Track} (hcurrent : self.current = some current)
      (hlast : self.history.getLast? = some last) (hupcoming : ∀ track ∈ upcoming, P track) :
      All P { self with
        current := some last
        upcoming := current :: upcoming
        history := self.history.dropLast } := by
    refine ⟨?_, ?_, fun track htrack => h.history track (List.mem_of_mem_dropLast htrack)⟩
    · intro track htrack
      cases htrack
      exact h.history last (List.mem_of_getLast? hlast)
    · intro track htrack
      rcases List.mem_cons.mp htrack with rfl | htrack
      · exact h.current track hcurrent
      · exact hupcoming track htrack
  rw [Queue.restored]
  split
  · rename_i current last hcurrent hlast
    split
    · split
      · exact h
      · exact hback hcurrent hlast h.upcoming
    · refine hback hcurrent hlast ?_
      intro track htrack
      exact h.upcoming track (List.mem_of_mem_eraseIdx htrack)
  · exact h

theorem All.moved (h : self.All P) (source target : ℕ) : (self.moved source target).2.All P := by
  rw [Queue.moved]
  split
  · exact h
  · split
    · exact h
    · rename_i track hfound
      refine ⟨h.current, ?_, h.history⟩
      intro other hother
      rcases List.eq_or_mem_of_mem_insertIdx hother with rfl | hother
      · exact h.upcoming other (List.mem_of_getElem? hfound)
      · exact h.upcoming other (List.mem_of_mem_eraseIdx hother)

theorem all_stop (self : Queue) (P : Track → Prop) : self.stop.All P :=
  all_none rfl rfl fun _ h => by cases h

theorem All.clear (h : self.All P) : self.clear.2.All P where
  current := h.current
  upcoming _ hnone := by cases hnone
  history := h.history

theorem All.shuffle (h : self.All P) (draws : List ℕ) : (self.shuffle draws).2.All P := by
  rw [Queue.shuffle]
  split
  · exact h
  · refine ⟨h.current, ?_, h.history⟩
    intro track htrack
    exact h.upcoming track ((Vec.shuffle_perm draws self.upcoming).mem_iff.mp htrack)

/-- The tracks that are admitted join those that are there. -/
theorem All.enqueue (h : self.All P) {tracks : List Track} (htracks : ∀ track ∈ tracks, P track)
    (maxTracks : ℕ) : (self.enqueue tracks maxTracks).2.All P := by
  have htaken : ∀ track ∈ tracks.take (maxTracks - self.len), P track :=
    fun track htrack => htracks track (List.mem_of_mem_take htrack)
  have hbehind {more : List Track} (hmore : ∀ track ∈ more, P track) :
      ∀ track ∈ self.upcoming ++ more, P track := by
    intro track htrack
    rcases List.mem_append.mp htrack with htrack | htrack
    · exact h.upcoming track htrack
    · exact hmore track htrack
  cases hc : self.current with
  | some current =>
      rw [enqueue_of_some hc]
      exact ⟨h.current, hbehind htaken, h.history⟩
  | none =>
      cases htake : tracks.take (maxTracks - self.len) with
      | nil =>
          rw [enqueue_of_none_of_nil hc htake]
          exact h
      | cons first rest =>
          rw [htake] at htaken
          rw [enqueue_of_none_of_cons hc htake]
          refine ⟨?_, hbehind fun track htrack => htaken track (List.mem_cons_of_mem _ htrack),
            h.history⟩
          intro track htrack
          cases htrack
          exact htaken first List.mem_cons_self

end Queue

end Raydio.Playback
