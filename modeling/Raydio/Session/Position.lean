/-
# The position of a track over time

Between two starts of a track any reports about it, its start, pauses and resumes may
come in any order and at any times. The known position never goes back, only a report of
a further position counts as progress, and a paused track has no deadline.

Where nothing is reported, the extrapolated position is the last known one and the time
for which the track was heard since. The position is a `u64`, at whose largest value it
stays; the node may report that value, so that the sum is exact only up to there.
-/

import Raydio.Foundation.Runs
import Raydio.Session.Clock

namespace Raydio.Session

open Raydio.Foundation Raydio.Playback

namespace GuildSession

variable (self : GuildSession)

/-! ## The time for which a track is heard -/

/-- The time that handling a signal takes, if the track is heard meanwhile. -/
def heard (self : GuildSession) (signal : Signal) : ℕ :=
  if self.started && !self.paused then (self.signal signal).now - self.now else 0

/-- The signal is not a report that the session absorbs. -/
def Unreported (self : GuildSession) (signal : Signal) : Prop := self.absorbs signal = none

instance (signal : Signal) : Decidable (self.Unreported signal) :=
  inferInstanceAs (Decidable (_ = none))

/-- The message is a report of no position for the generation, or the start of another
generation. -/
def Foreign (self : GuildSession) (message : Progress) : Prop :=
  if (message.payload.get "op").isStr "playerUpdate" then
    reportedPosition message.payload self.generation = none
  else payloadGeneration message.payload ≠ some self.generation

/-! ## From one start to the next -/

theorem sound_signal (signal : Signal) (h : self.clock.Sound self.now) :
    (self.signal signal).clock.Sound (self.signal signal).now :=
  ((self.clockStep_signal signal).sound h).1

theorem sound_attemptStart :
    self.attemptStart.2.clock.Sound self.attemptStart.2.now := by
  have hbegun : self.beginStart.clock.Sound self.now :=
    ⟨le_rfl, Nat.zero_le _, fun hpaused => nomatch hpaused⟩
  exact hbegun.mono (now_le_update self.beginStart _)

/-- Whatever the node answers, a start leaves the clock sound. -/
theorem sound_startCurrent : self.startCurrent.2.clock.Sound self.startCurrent.2.now := by
  apply startCurrent_rule self (fun _ => True)
    (fun session => session.clock.Sound session.now)
  · intro session _ _
    exact session.sound_attemptStart
  · intro session _ _ _
    exact session.sound_attemptStart
  · intro session _ _ _
    trivial
  · trivial

/-- The known position never decreases. -/
theorem positionMs_le_run (h : self.clock.Sound self.now) (signals : List Signal) :
    self.positionMs ≤ (Runs.run signal self signals).positionMs := by
  have hboth : (Runs.run signal self signals).clock.Sound (Runs.run signal self signals).now ∧
      self.positionMs ≤ (Runs.run signal self signals).positionMs := by
    apply Runs.run_invariant (fun session : GuildSession =>
      session.clock.Sound session.now ∧ self.positionMs ≤ session.positionMs)
    · rintro session signal ⟨hsound, hle⟩
      obtain ⟨hlater, hgrows, -⟩ := (session.clockStep_signal signal).sound hsound
      exact ⟨hlater, hle.trans hgrows⟩
    · exact ⟨h, le_rfl⟩
  exact hboth.2

/-- Where nothing is reported, the position goes on by the time the track was heard. -/
theorem position_run (h : self.clock.Sound self.now) {signals : List Signal}
    (hsilent : Runs.Along signal Unreported self signals) :
    (Runs.run signal self signals).position =
      saturatingAdd self.position (Runs.total signal heard self signals) := by
  apply Runs.Along.accrues (fun session => session.clock.Sound session.now) _ _ _ hsilent h
  · intro session
    exact Nat.min_le_right _ _
  · intro session signal _ hsound
    exact session.sound_signal signal hsound
  · intro session signal hunreported hsound
    have hstep := session.clockStep_signal signal
    rw [hunreported] at hstep
    rw [position_eq_clock, position_eq_clock]
    exact hstep.position hsound

/-! ## One message -/

/-- A message that is foreign to the session leaves its clock alone. -/
theorem clock_foreign {message : Progress} (h : self.Foreign message) :
    (self.signal (.backend message)).clock = self.clock := by
  show (self.backend message.payload).clock = self.clock
  rw [Foreign] at h
  split at h
  · rename_i hop
    have hunabsorbed : self.absorbs (.backend message) = none := by
      rw [absorbs, h, ite_self]
    rw [self.backend_of_unabsorbed hop hunabsorbed]
  · rename_i hop
    obtain hsame | ⟨-, -, hgeneration, -⟩ :=
      self.backend_of_start hop (message.isProgress.resolve_left hop)
    · rw [hsame]
    · exact absurd hgeneration h

/-- An update that reports no further position at most sets the mark. -/
theorem clock_notFurther {message : Progress}
    (hop : (message.payload.get "op").isStr "playerUpdate" = true)
    (h : ∀ position ∈ self.absorbs (.backend message), position ≤ self.positionMs) :
    ∃ mark, (self.signal (.backend message)).clock = { self.clock with positionAt := mark } := by
  show ∃ mark, (self.backend message.payload).clock = _
  cases habsorbs : self.absorbs (.backend message) with
  | none =>
      rw [self.backend_of_unabsorbed hop habsorbs]
      exact ⟨self.positionAt, rfl⟩
  | some position =>
      have hnot : ¬ self.clock.positionMs < position := Nat.not_lt.mpr (h position habsorbs)
      rw [(self.backend_of_absorbed habsorbs).2.1, Clock.observed, if_neg hnot]
      exact ⟨self.now, rfl⟩

/-! ## The law of the clock -/

/-- What holds of the clock of a session whenever it is looked at. -/
structure KeepsTime (session : GuildSession) : Prop where
  /-- The known position never decreases. -/
  forwards : ∀ rest, session.positionMs ≤ (Runs.run signal session rest).positionMs
  /-- A message of another generation or without a position changes nothing. -/
  foreign : ∀ message, session.Foreign message →
    (session.signal (.backend message)).clock = session.clock
  /-- Only an update with a further position is progress. -/
  progress : ∀ message : Progress, (message.payload.get "op").isStr "playerUpdate" = true →
    (∀ position ∈ session.absorbs (.backend message), position ≤ session.positionMs) →
      (session.signal (.backend message)).positionMs = session.positionMs ∧
      (session.signal (.backend message)).progressAt = session.progressAt ∧
      (session.signal (.backend message)).endDeadline = session.endDeadline
  /-- A paused track has no deadline. -/
  deadline : session.paused = true → session.endDeadline = none
  /-- At its mark the position is the known one. -/
  mark : session.positionAt = session.now → session.position = session.positionMs
  /-- Unless something is reported it goes on from there while the track is heard. -/
  goesOn : ∀ rest, Runs.Along signal Unreported session rest →
    (Runs.run signal session rest).position =
      saturatingAdd session.position (Runs.total signal heard session rest)

/-- Whenever it is looked at between two starts, the clock keeps time. -/
theorem startCurrent_keepsTime (signals : List Signal) :
    KeepsTime (Runs.run signal self.startCurrent.2 signals) := by
  have hsound : (Runs.run signal self.startCurrent.2 signals).clock.Sound
      (Runs.run signal self.startCurrent.2 signals).now :=
    Runs.run_invariant (fun session : GuildSession => session.clock.Sound session.now)
      sound_signal self.sound_startCurrent
  generalize Runs.run signal self.startCurrent.2 signals = session at hsound
  refine ⟨session.positionMs_le_run hsound, fun _ => session.clock_foreign, ?_,
    hsound.endDeadline, ?_, fun _ => session.position_run hsound⟩
  · intro message hop hnotFurther
    obtain ⟨mark, hclock⟩ := session.clock_notFurther hop hnotFurther
    exact ⟨congrArg Clock.positionMs hclock, congrArg Clock.progressAt hclock,
      congrArg Clock.endDeadline hclock⟩
  · intro hmark
    rw [position_eq_clock, ← hmark]
    exact Stopwatch.read_mark hsound.positionMs

/-! ## The largest position -/

/-- The track of the first generation starts. -/
def startOfTrack : Progress :=
  ⟨Sample.event "TrackStartEvent" "" 1, .inr (by decide)⟩

/-- An update with a position in the track of the first generation. -/
def reportOf (position : UInt64) : Progress :=
  ⟨.object [("op", .string "playerUpdate"),
      ("crust", .object [("userData", .object [("raydioGeneration", .number (.posInt 1))])]),
      ("state", .object [("position", .number (.posInt position)), ("connected", .bool true)])],
    .inl rfl⟩

/-- After a report of the largest position the track is heard for a millisecond that the
position does not count. -/
theorem position_saturates :
    ¬ ∀ (self : GuildSession) (first rest : List Signal),
      Runs.Along signal Unreported (Runs.run signal self.startCurrent.2 first) rest →
        (Runs.run signal (Runs.run signal self.startCurrent.2 first) rest).position =
          (Runs.run signal self.startCurrent.2 first).position +
            Runs.total signal heard (Runs.run signal self.startCurrent.2 first) rest := by
  intro h
  have hlast := h oneTrack [.backend startOfTrack, .backend (reportOf (2 ^ 64 - 1))]
    [.pass { elapsed := 1 }] (by decide +kernel)
  revert hlast
  decide +kernel

end GuildSession

end Raydio.Session
