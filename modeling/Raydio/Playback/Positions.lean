/-
# Editing the upcoming tracks by position

`/remove`, `/move` and `/jump` address an upcoming track by its position, counted from
one. Each relation below says what an edit makes of a queue: it is carried out exactly
if every position it names is taken by an upcoming track, it touches the addressed
track only, and otherwise it leaves the queue as it is.

That a move touches only its track is stated without it: what is upcoming besides the
moved track is the same list before and after.
-/

import Raydio.Playback.Queue

namespace Raydio.Playback

open Raydio.Foundation

namespace Queue

variable {self : Queue}

/-- A track is upcoming at the one-based position. -/
def Occupied (self : Queue) (position : ℕ) : Prop :=
  1 ≤ position ∧ position ≤ self.upcoming.length

instance (self : Queue) (position : ℕ) : Decidable (self.Occupied position) :=
  inferInstanceAs (Decidable (1 ≤ position ∧ position ≤ self.upcoming.length))

/-- What removing the track at a position returns and leaves. -/
inductive Removal (self : Queue) (position : ℕ) : Option Track × Queue → Prop
  | removed (track : Track) (occupied : self.Occupied position)
      (addressed : self.upcoming[position - 1]? = some track) :
      Removal self position
        (some track, { self with upcoming := self.upcoming.eraseIdx (position - 1) })
  | refused (vacant : ¬ self.Occupied position) : Removal self position (none, self)

/-- What moving the track at `source` to `target` returns and leaves; moving it back
gives back the queue. -/
inductive Relocation (self : Queue) (source target : ℕ) : Option Track × Queue → Prop
  | moved (track : Track) (upcoming : List Track)
      (occupied : self.Occupied source ∧ self.Occupied target)
      (addressed : self.upcoming[source - 1]? = some track)
      (placed : upcoming[target - 1]? = some track)
      (others : upcoming.eraseIdx (target - 1) = self.upcoming.eraseIdx (source - 1))
      (back : ({ self with upcoming := upcoming } : Queue).moveTo target source =
        .ok (some track, self)) :
      Relocation self source target (some track, { self with upcoming := upcoming })
  | refused (vacant : ¬ (self.Occupied source ∧ self.Occupied target)) :
      Relocation self source target (none, self)

/-- What jumping to a position returns and leaves; the track that was current is
remembered, as the last one of the history. -/
inductive Leap (self : Queue) (position : ℕ) : Bool × Queue → Prop
  | jumped (old target : Track) (current : self.current = some old)
      (occupied : self.Occupied position)
      (addressed : self.upcoming[position - 1]? = some target)
      (recorded : (remembered self.history old).getLast? = some old) :
      Leap self position (true, { self with
        current := some target
        upcoming := self.upcoming.eraseIdx (position - 1)
        history := remembered self.history old })
  | refused (vacant : ¬ (self.current.isSome ∧ self.Occupied position)) :
      Leap self position (false, self)

/-! ## Removing -/

theorem getElem?_of_occupied {position : ℕ} (h : self.Occupied position) :
    ∃ track, self.upcoming[position - 1]? = some track := by
  obtain ⟨hpos, hle⟩ := h
  have hlt : position - 1 < self.upcoming.length := by omega
  exact ⟨_, List.getElem?_eq_getElem hlt⟩

theorem removed_of_occupied {position : ℕ} {track : Track} (h : self.Occupied position)
    (haddressed : self.upcoming[position - 1]? = some track) :
    self.removed position =
      (some track, { self with upcoming := self.upcoming.eraseIdx (position - 1) }) := by
  have hne : ¬ position = 0 := Nat.ne_of_gt h.1
  rw [removed, if_neg hne, haddressed]

theorem removed_of_vacant {position : ℕ} (h : ¬ self.Occupied position) :
    self.removed position = (none, self) := by
  rw [removed]
  split
  · rfl
  · rename_i hne
    have hge : self.upcoming.length ≤ position - 1 := by
      rw [Occupied] at h
      omega
    rw [List.getElem?_eq_none hge]

theorem removal (self : Queue) (position : ℕ) :
    self.Removal position (self.removed position) := by
  by_cases h : self.Occupied position
  · obtain ⟨track, haddressed⟩ := getElem?_of_occupied h
    rw [removed_of_occupied h haddressed]
    exact .removed track h haddressed
  · rw [removed_of_vacant h]
    exact .refused h

/-! ## Moving -/

theorem occupied_and_iff (source target : ℕ) : self.Occupied source ∧ self.Occupied target ↔
    ¬ (source = 0 ∨ target = 0 ∨ source > self.upcoming.length ∨
      target > self.upcoming.length) := by
  rw [Occupied, Occupied]
  omega

/-- The place of a moved track is one of the list without it. -/
theorem target_le_of_occupied {source target : ℕ} (hsource : self.Occupied source)
    (htarget : self.Occupied target) :
    target - 1 ≤ (self.upcoming.eraseIdx (source - 1)).length := by
  rw [Occupied] at hsource htarget
  rw [List.length_eraseIdx_of_lt (by omega)]
  omega

theorem moved_of_occupied {source target : ℕ} {track : Track}
    (h : self.Occupied source ∧ self.Occupied target)
    (haddressed : self.upcoming[source - 1]? = some track) :
    self.moved source target = (some track, { self with
      upcoming := (self.upcoming.eraseIdx (source - 1)).insertIdx (target - 1) track }) := by
  rw [moved, if_neg ((occupied_and_iff source target).mp h), haddressed]

/-- Taking a track out and putting it back in its place changes nothing. -/
theorem insertIdx_eraseIdx_of_getElem? {tracks : List Track} {index : ℕ} {track : Track}
    (h : tracks[index]? = some track) : (tracks.eraseIdx index).insertIdx index track = tracks := by
  obtain ⟨hlt, rfl⟩ := List.getElem?_eq_some_iff.mp h
  exact List.insertIdx_eraseIdx_getElem hlt

theorem relocation (self : Queue) (source target : ℕ) :
    self.Relocation source target (self.moved source target) := by
  by_cases h : self.Occupied source ∧ self.Occupied target
  · obtain ⟨track, haddressed⟩ := getElem?_of_occupied h.1
    rw [moved_of_occupied h haddressed]
    have hroom := target_le_of_occupied h.1 h.2
    have hlength : ((self.upcoming.eraseIdx (source - 1)).insertIdx (target - 1) track).length =
        self.upcoming.length := by
      rw [List.length_insertIdx_of_le_length hroom, List.length_eraseIdx_of_lt]
      · obtain ⟨hpos, hle⟩ := h.1
        omega
      · obtain ⟨hpos, hle⟩ := h.1
        omega
    have hplaced : ((self.upcoming.eraseIdx (source - 1)).insertIdx (target - 1) track)[target - 1]?
        = some track := by
      rw [List.getElem?_insertIdx_self, if_pos hroom]
    refine .moved track _ h haddressed hplaced (List.eraseIdx_insertIdx_self track) ?_
    -- The track is taken out where it was put and put back where it was.
    have hswapped : Occupied { self with upcoming :=
        (self.upcoming.eraseIdx (source - 1)).insertIdx (target - 1) track } target ∧
        Occupied { self with upcoming :=
          (self.upcoming.eraseIdx (source - 1)).insertIdx (target - 1) track } source := by
      rw [Occupied, Occupied, hlength]
      exact ⟨h.2, h.1⟩
    rw [moveTo_eq, moved_of_occupied hswapped hplaced, List.eraseIdx_insertIdx_self,
      insertIdx_eraseIdx_of_getElem? haddressed]
  · have hrange := (not_congr (occupied_and_iff source target)).mp h
    rw [not_not] at hrange
    rw [moved, if_pos hrange]
    exact .refused h

/-! ## Jumping -/

theorem getLast?_remembered (history : List Track) (track : Track) :
    (remembered history track).getLast? = some track := by
  rw [remembered]
  split <;> exact List.getLast?_concat

theorem leap (self : Queue) (position : ℕ) : self.Leap position (self.jumped position) := by
  by_cases h : self.current.isSome ∧ self.Occupied position
  · obtain ⟨old, hcurrent⟩ := Option.isSome_iff_exists.mp h.1
    obtain ⟨target, haddressed⟩ := getElem?_of_occupied h.2
    rw [jumped, hcurrent, removed_of_occupied h.2 haddressed]
    exact .jumped old target hcurrent h.2 haddressed (getLast?_remembered _ _)
  · have hjumped : self.jumped position = (false, self) := by
      rw [jumped]
      split
      · rename_i old target rest hcurrent hremoved
        have hvacant : ¬ self.Occupied position := fun hoccupied =>
          h ⟨Option.isSome_iff_exists.mpr ⟨old, hcurrent⟩, hoccupied⟩
        rw [removed_of_vacant hvacant] at hremoved
        cases hremoved
      · rfl
    rw [hjumped]
    exact .refused h

/-! ## All edits -/

/-- For all positions, `remove`, `moveTo` and `jump` return, are carried out exactly if
the positions are taken, and then edit the addressed track only. Whatever is refused,
going back included, leaves the queue unchanged. -/
theorem edits_addressed (self : Queue) :
    (∀ position, ∃ outcome, self.remove position = .ok outcome ∧
      self.Removal position outcome) ∧
    (∀ source target, ∃ outcome, self.moveTo source target = .ok outcome ∧
      self.Relocation source target outcome) ∧
    (∀ position, ∃ outcome, self.jump position = .ok outcome ∧ self.Leap position outcome) ∧
    (∀ maxTracks, ∃ outcome after, self.previous maxTracks = .ok (outcome, after) ∧
      (outcome = .started ∨ after = self)) := by
  refine ⟨?_, ?_, ?_, ?_⟩
  · intro position
    exact ⟨_, self.remove_eq position, self.removal position⟩
  · intro source target
    exact ⟨_, self.moveTo_eq source target, self.relocation source target⟩
  · intro position
    exact ⟨_, self.jump_eq position, self.leap position⟩
  · intro maxTracks
    refine ⟨_, _, self.previous_eq maxTracks, ?_⟩
    by_cases hstarted : (self.restored maxTracks).1 = .started
    · exact Or.inl hstarted
    · exact Or.inr (restored_of_ne_started hstarted)

end Queue

end Raydio.Playback
