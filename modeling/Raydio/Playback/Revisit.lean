/-
# Going back after a skip or a jump

A skip and a jump remember the track they leave without queuing it again. Going back
then has nothing to take out: it is enough to put the current track before the others.

In queue-loop mode going back looks for a copy of the remembered track all the same,
one with its encoding and its requester. If the user asked for the song twice it finds
the second request and drops it. Off that mode, or without such a request, going back
restores what was upcoming.
-/

import Raydio.Playback.Positions
import Raydio.Playback.Undo

namespace Raydio.Playback

open Raydio.Foundation

namespace Queue

variable {self : Queue} {maxTracks : ℕ}

/-- Going back after a skip starts the track that was skipped, before the same tracks. -/
def SkipUndone (maxTracks : ℕ) (self : Queue) : Prop :=
  ∃ gone after, self.skip = .ok gone ∧ gone.previous maxTracks = .ok (.started, after) ∧
    after.current = self.current ∧ after.upcoming = self.upcoming

/-- Going back after a jump starts the track that was left, before the same tracks with
the one jumped to in front. -/
def JumpUndone (maxTracks position : ℕ) (self : Queue) : Prop :=
  ∃ gone after, self.jump position = .ok (true, gone) ∧
    gone.previous maxTracks = .ok (.started, after) ∧ after.current = self.current ∧
      after.upcoming =
        self.upcoming[position - 1]?.toList ++ self.upcoming.eraseIdx (position - 1)

/-- Going back after a skip, and after every jump that is carried out, keeps all tracks
that were asked for. -/
def KeepsRequested (maxTracks : ℕ) (self : Queue) : Prop :=
  self.SkipUndone maxTracks ∧ ∀ position, self.Occupied position →
    self.JumpUndone maxTracks position

/-- The same user asked for the song again, among the tracks. -/
def AskedAgain (heard : Track) (tracks : List Track) : Prop :=
  ∃ track ∈ tracks, track.encoded = heard.encoded ∧ track.requesterId = heard.requesterId

instance (heard : Track) (tracks : List Track) : Decidable (AskedAgain heard tracks) :=
  inferInstanceAs (Decidable (∃ track ∈ tracks,
    track.encoded = heard.encoded ∧ track.requesterId = heard.requesterId))

/-! ## One step back -/

theorem rposition_eq_none {p : Track → Bool} {tracks : List Track} :
    rposition p tracks = none ↔ ∀ track ∈ tracks, ¬ p track = true := by
  simp [rposition]

/-- Nothing is taken out exactly if nothing waits that could be. -/
theorem duplicate_eq_none {heard : Track} :
    self.duplicate heard = none ↔ self.loopMode ≠ .queue ∨ ¬ AskedAgain heard self.upcoming := by
  rw [duplicate]
  split
  · rename_i hmode
    simp [rposition_eq_none, AskedAgain, hmode]
  · rename_i hmode
    simp [hmode]

/-- Going back with room for the current track starts the track that was heard last;
what was upcoming is still behind the current track exactly if nothing was taken out. -/
theorem restored_of_room {current heard : Track} (hcurrent : self.current = some current)
    (hheard : self.history.getLast? = some heard) (hroom : self.len < maxTracks) :
    (self.restored maxTracks).1 = .started ∧ (self.restored maxTracks).2.current = some heard ∧
      ((self.restored maxTracks).2.upcoming = current :: self.upcoming ↔
        self.duplicate heard = none) := by
  rw [restored, hcurrent, hheard]
  dsimp only
  split
  · rename_i hnone
    rw [if_neg (Nat.not_le.mpr hroom)]
    exact ⟨rfl, rfl, by simp [hnone]⟩
  · rename_i index hsome
    refine ⟨rfl, rfl, ?_⟩
    have hlt := duplicate_lt hsome
    rw [hsome]
    simp only [List.cons.injEq, true_and, reduceCtorEq, iff_false]
    intro hsame
    have hlength := congrArg List.length hsame
    rw [List.length_eraseIdx_of_lt hlt] at hlength
    omega

/-- Going back with room for the current track puts it before the same tracks exactly off
queue-loop mode or if the track heard last was not asked for again. -/
theorem previous_restores_iff {current heard : Track} (hcurrent : self.current = some current)
    (hheard : self.history.getLast? = some heard) (hroom : self.len < maxTracks) :
    (∃ after, self.previous maxTracks = .ok (.started, after) ∧ after.current = some heard ∧
      after.upcoming = current :: self.upcoming) ↔
        self.loopMode ≠ .queue ∨ ¬ AskedAgain heard self.upcoming := by
  obtain ⟨hstarted, hback, hrestored⟩ := restored_of_room hcurrent hheard hroom
  rw [← duplicate_eq_none, ← hrestored]
  constructor
  · rintro ⟨after, hprevious, -, hsame⟩
    rw [previous_eq] at hprevious
    rw [Except.ok.inj hprevious]
    exact hsame
  · intro hsame
    refine ⟨_, ?_, hback, hsame⟩
    rw [previous_eq, ← hstarted]

/-! ## After a skip -/

/-- Going back after a skip restores the tracks exactly off queue-loop mode or if the
skipped track was not asked for again behind the next one. -/
theorem skipUndone_iff {current : Track} (hcurrent : self.current = some current)
    (hupcoming : self.upcoming ≠ []) (hlen : self.len ≤ maxTracks) :
    self.SkipUndone maxTracks ↔
      self.loopMode ≠ .queue ∨ ¬ AskedAgain current self.upcoming.tail := by
  obtain ⟨first, rest, htracks⟩ := List.exists_cons_of_ne_nil hupcoming
  have hskip : self.skip = .ok { self with
      current := some first, upcoming := rest
      history := remembered self.history current } := by
    rw [skip_eq, skipped, hcurrent]
    simp only [htracks, List.head?_cons, List.tail_cons]
  have hroom : len { self with
      current := some first, upcoming := rest
      history := remembered self.history current } < maxTracks := by
    rw [len_of_some current hcurrent, htracks, List.length_cons] at hlen
    rw [len_of_some first rfl]
    exact hlen
  have hback := previous_restores_iff (by rfl) (getLast?_remembered self.history current) hroom
  rw [SkipUndone, hskip, hcurrent, htracks, List.tail_cons]
  rw [← hback]
  constructor
  · rintro ⟨gone, after, hgone, hprevious⟩
    cases hgone
    exact ⟨after, hprevious⟩
  · rintro ⟨after, hprevious⟩
    exact ⟨_, after, rfl, hprevious⟩

/-! ## After a jump -/

/-- Going back after a jump restores the tracks exactly off queue-loop mode or if the
track that was left was not asked for again besides the one jumped to. -/
theorem jumpUndone_iff {current : Track} (hcurrent : self.current = some current)
    {position : ℕ} (hoccupied : self.Occupied position) (hlen : self.len ≤ maxTracks) :
    self.JumpUndone maxTracks position ↔
      self.loopMode ≠ .queue ∨ ¬ AskedAgain current (self.upcoming.eraseIdx (position - 1)) := by
  obtain ⟨target, haddressed⟩ := getElem?_of_occupied hoccupied
  have hjump : self.jump position = .ok (true, { self with
      current := some target, upcoming := self.upcoming.eraseIdx (position - 1)
      history := remembered self.history current }) := by
    rw [jump_eq, jumped, hcurrent, removed_of_occupied hoccupied haddressed]
  have hroom : len { self with
      current := some target, upcoming := self.upcoming.eraseIdx (position - 1)
      history := remembered self.history current } < maxTracks := by
    obtain ⟨hpos, hle⟩ := hoccupied
    rw [len_of_some current hcurrent] at hlen
    rw [len_of_some target rfl, List.length_eraseIdx_of_lt (by omega)]
    omega
  have hback := previous_restores_iff (by rfl) (getLast?_remembered self.history current) hroom
  rw [JumpUndone, hjump, hcurrent, haddressed]
  rw [← hback]
  constructor
  · rintro ⟨gone, after, hgone, hprevious⟩
    cases hgone
    exact ⟨after, hprevious⟩
  · rintro ⟨after, hprevious⟩
    exact ⟨_, after, rfl, hprevious⟩

/-! ## Exactly when -/

/-- With two tracks upcoming, each of them is passed over by the jump to another. -/
theorem askedAgain_eraseIdx {heard : Track} {tracks : List Track} (h : AskedAgain heard tracks)
    (hlength : 1 < tracks.length) :
    ∃ index < tracks.length, AskedAgain heard (tracks.eraseIdx index) := by
  obtain ⟨track, hmem, hsame⟩ := h
  obtain ⟨found, hfound⟩ := List.getElem?_of_mem hmem
  have hother (index : ℕ) (hne : found ≠ index) : AskedAgain heard (tracks.eraseIdx index) :=
    ⟨track, List.mem_eraseIdx_iff_getElem?.mpr ⟨found, hne, hfound⟩, hsame⟩
  by_cases hzero : found = 0
  · exact ⟨1, hlength, hother 1 (by omega)⟩
  · exact ⟨0, by omega, hother 0 hzero⟩

/-- Going back after a skip or a jump keeps all tracks that were asked for exactly off
queue-loop mode, with a single upcoming track, or if the current track was not asked for
again. -/
theorem keepsRequested_iff {current : Track} (hcurrent : self.current = some current)
    (hupcoming : self.upcoming ≠ []) (hlen : self.len ≤ maxTracks) :
    self.KeepsRequested maxTracks ↔
      self.loopMode ≠ .queue ∨ self.upcoming.length = 1 ∨ ¬ AskedAgain current self.upcoming := by
  constructor
  · rintro ⟨-, hjumps⟩
    by_contra hnone
    simp only [not_or, not_not] at hnone
    obtain ⟨hmode, hlength, hagain⟩ := hnone
    have hpos := List.length_pos_iff.mpr hupcoming
    obtain ⟨index, hlt, hpassed⟩ := askedAgain_eraseIdx hagain (by omega)
    have hoccupied : self.Occupied (index + 1) := ⟨by omega, by omega⟩
    have hundone := (jumpUndone_iff hcurrent hoccupied hlen).mp (hjumps _ hoccupied)
    rw [Nat.add_sub_cancel] at hundone
    rcases hundone with hoff | hmissing
    · exact hoff hmode
    · exact hmissing hpassed
  · intro hkept
    constructor
    · rw [skipUndone_iff hcurrent hupcoming hlen]
      rcases hkept with hmode | hsingle | hagain
      · exact Or.inl hmode
      · obtain ⟨only, honly⟩ := List.length_eq_one_iff.mp hsingle
        exact Or.inr (by simp [honly, AskedAgain])
      · refine Or.inr fun ⟨track, hmem, hsame⟩ => hagain ⟨track, ?_, hsame⟩
        exact List.mem_of_mem_tail hmem
    · intro position hoccupied
      rw [jumpUndone_iff hcurrent hoccupied hlen]
      rcases hkept with hmode | hsingle | hagain
      · exact Or.inl hmode
      · obtain ⟨only, honly⟩ := List.length_eq_one_iff.mp hsingle
        obtain ⟨hpos, hle⟩ := hoccupied
        have hfirst : position - 1 = 0 := by omega
        exact Or.inr (by simp [hfirst, honly, AskedAgain])
      · refine Or.inr fun ⟨track, hmem, hsame⟩ => hagain ⟨track, ?_, hsame⟩
        exact List.mem_of_mem_eraseIdx hmem

namespace Sample

/-- A song, another one and the first one again, in queue-loop mode. -/
def encore : Queue := { default with
  current := some (track "a"), upcoming := [track "b", track "a"], loopMode := .queue }

end Sample

theorem keepsRequested_encore : Sample.encore.KeepsRequested 1000 ↔
    Sample.encore.loopMode ≠ .queue ∨ Sample.encore.upcoming.length = 1 ∨
      ¬ AskedAgain (Sample.track "a") Sample.encore.upcoming :=
  keepsRequested_iff rfl (by decide) (by decide)

/-- A user who asked for a song twice loses the second request: skip, then go back. -/
theorem encore_lost : ¬ ∀ (maxTracks : ℕ) (ops : List Op) (queue : Queue),
    default.runOps maxTracks ops = .ok queue → queue.current.isSome → queue.upcoming ≠ [] →
      queue.len ≤ maxTracks → queue.KeepsRequested maxTracks := by
  intro h
  have hkept := h 1000
    [.setLoopMode .queue, .enqueue [Sample.track "a", Sample.track "b", Sample.track "a"]]
    Sample.encore rfl rfl (by decide) (by decide)
  have hundone := (skipUndone_iff rfl (by decide) (by decide)).mp hkept.1
  exact absurd hundone (by decide)

end Queue

end Raydio.Playback
