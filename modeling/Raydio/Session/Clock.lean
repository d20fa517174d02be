/-
# The clock of the current track

A session reports a position that it extrapolates: from the position it knows and the
instant at which it learned it, counting on while the track plays. `Clock` is the part of
a playback that this depends on, with the two instants that the watchdog goes by.

Between two starts of a track there are four things that can happen to the clock: time
passes, a report about the track is absorbed, the track starts, and it is paused or
resumed. `Clock.Step` says what each of them does, and everything else about the clock is
derived from that.
-/

import Raydio.Foundation.Stopwatch
import Raydio.Session.Run
import Raydio.Session.Starting

namespace Raydio.Session

open Raydio.Foundation Raydio.Playback Raydio.Discord

/-- What the position of a track and its deadline depend on. -/
structure Clock where
  queue : Queue
  channel : Option ℕ
  generation : ℕ
  paused : Bool
  started : Bool
  positionMs : ℕ
  positionAt : ℕ
  progressAt : ℕ
  endDeadline : Option ℕ

/-- The clock of a playback. -/
def Playback.clock (self : Playback) : Clock :=
  { queue := self.queue, channel := self.channel, generation := self.generation
    paused := self.paused, started := self.started, positionMs := self.positionMs
    positionAt := self.positionAt, progressAt := self.progressAt
    endDeadline := self.endDeadline }

namespace Clock

/-- The track is heard. -/
def playing (self : Clock) : Bool := self.started && !self.paused

/-- The stopwatch that the position is read from. -/
def stopwatch (self : Clock) : Stopwatch := ⟨self.positionMs, self.positionAt, self.playing⟩

/-- The position at an instant. -/
def position (self : Clock) (now : ℕ) : ℕ := self.stopwatch.read u64Max now

/-- The deadline is set anew. -/
def scheduled (self : Clock) (now : ℕ) : Clock :=
  { self with
    endDeadline := match self.queue.current with
      | some track =>
          if !track.stream && decide (track.durationMs > 0) && !self.paused then
            some (now + saturatingAdd (track.durationMs - self.positionMs) 15000)
          else none
      | none => none }

/-- A report of a position is absorbed. Only one that is further than known is progress. -/
def observed (self : Clock) (position now : ℕ) : Clock :=
  if self.positionMs < position then
    ({ self with positionMs := position, positionAt := now, progressAt := now } :
      Clock).scheduled now
  else { self with positionAt := now }

/-- The track starts. -/
def begun (self : Clock) (now : ℕ) : Clock :=
  ({ self with started := true, positionAt := now, progressAt := now } : Clock).scheduled now

/-- The track is paused or resumed. -/
def turned (self : Clock) (paused : Bool) (now : ℕ) : Clock :=
  ({ self with
    positionMs := self.position now, positionAt := now, progressAt := now, paused := paused } :
      Clock).scheduled now

/-! ## One step -/

/-- What happens to the clock between two starts of a track, from an instant to a later
one, and the position of the report that was absorbed, if one was. -/
inductive Step (self : Clock) (now : ℕ) : Option ℕ → ℕ → Clock → Prop
  | waits {later : ℕ} (h : now ≤ later) : Step self now none later self
  | observes {position : ℕ} (h : position ≤ u64Max) :
      Step self now (some position) now (self.observed position now)
  | starts (h : self.started = false) : Step self now none now (self.begun now)
  | turns {later : ℕ} {paused : Bool} (h : now ≤ later) :
      Step self now none later (self.turned paused later)

/-- The clock at an instant: it was not set later, its position is a `u64`, and a track
that is paused has no deadline. -/
structure Sound (clock : Clock) (now : ℕ) : Prop where
  positionAt : clock.positionAt ≤ now
  positionMs : clock.positionMs ≤ u64Max
  endDeadline : clock.paused = true → clock.endDeadline = none

variable {self next : Clock} {now later : ℕ} {report : Option ℕ}

theorem scheduled_paused (now : ℕ) (h : self.paused = true) :
    (self.scheduled now).endDeadline = none := by
  rw [scheduled]
  dsimp only
  split
  · simp [h]
  · rfl

/-- A clock that was set just now and has a new deadline. -/
theorem sound_scheduled (hat : self.positionAt ≤ now) (hposition : self.positionMs ≤ u64Max) :
    (self.scheduled now).Sound now :=
  ⟨hat, hposition, scheduled_paused now⟩

theorem position_le_max (self : Clock) (now : ℕ) : self.position now ≤ u64Max :=
  self.stopwatch.read_le_cap u64Max now

theorem Sound.mono (h : self.Sound now) (hle : now ≤ later) : self.Sound later :=
  ⟨h.positionAt.trans hle, h.positionMs, h.endDeadline⟩

/-- The clock stays sound, and the known position never decreases. -/
theorem Step.sound (h : self.Step now report later next) (hsound : self.Sound now) :
    next.Sound later ∧ self.positionMs ≤ next.positionMs ∧ now ≤ later := by
  cases h with
  | waits hle => exact ⟨hsound.mono hle, le_refl _, hle⟩
  | @observes position hmax =>
      rw [observed]
      split
      · rename_i hfurther
        exact ⟨sound_scheduled le_rfl hmax, Nat.le_of_lt hfurther, le_rfl⟩
      · exact ⟨⟨le_rfl, hsound.positionMs, hsound.endDeadline⟩, le_rfl, le_rfl⟩
  | starts hnot => exact ⟨sound_scheduled le_rfl hsound.positionMs, le_rfl, le_rfl⟩
  | turns hle =>
      have hposition := self.position_le_max later
      exact ⟨sound_scheduled le_rfl hposition, self.stopwatch.base_le_read hsound.positionMs, hle⟩

/-- Without a report the position goes on by the time for which the track was heard. -/
theorem Step.position (h : self.Step now none later next) (hsound : self.Sound now) :
    next.position later =
      min (self.position now + self.stopwatch.counted now later) u64Max := by
  cases h with
  | waits hle => exact Stopwatch.read_later hsound.positionAt hle
  | starts hnot =>
      have hstopped : self.stopwatch.running = false := by
        show (self.started && !self.paused) = false
        rw [hnot, Bool.false_and]
      have hread : self.position now = self.positionMs :=
        Stopwatch.read_of_stopped hsound.positionMs hstopped
      have hbegun : (self.begun now).position now = self.positionMs :=
        Stopwatch.read_mark hsound.positionMs
      rw [hbegun, hread, Stopwatch.counted, Nat.sub_self, ite_self, Nat.add_zero,
        min_eq_left hsound.positionMs]
  | @turns _ paused hle =>
      have hread : (self.turned paused later).position later = self.position later :=
        Stopwatch.read_turn (self.turned paused later).playing
      rw [hread]
      exact Stopwatch.read_later hsound.positionAt hle

end Clock

/-! ## The handlers -/

/-- The position that a payload reports for a generation. -/
def reportedPosition (payload : Value) (generation : ℕ) : Option ℕ :=
  if GuildSession.snapshotGeneration payload = some generation then
    ((payload.get "state").get "position").asU64
  else none

theorem reportedPosition_le_max {payload : Value} {generation position : ℕ}
    (h : reportedPosition payload generation = some position) : position ≤ u64Max := by
  rw [reportedPosition] at h
  split at h
  · unfold Value.asU64 at h
    split at h
    · rename_i n _
      cases h
      exact Nat.le_pred_of_lt n.toNat_lt
    · cases h
  · cases h

/-- A message of the backend about how a track goes on. -/
structure Progress where
  payload : Value
  isProgress : (payload.get "op").isStr "playerUpdate" = true ∨
    payloadKind payload = "TrackStartEvent"

/-- A request to pause or to resume. -/
structure Turn where
  request : Request
  isTurn : request.name = "pause" ∨ request.name = "resume"

/-- What happens to a track between its start and the next. -/
inductive Signal
  | pass (moment : Moment)
  | backend (message : Progress)
  | control (turn : Turn) (script : List Moment)

namespace GuildSession

/-- Handle a signal. -/
def signal (self : GuildSession) : Signal → GuildSession
  | .pass moment => self.outside (.pass moment)
  | .backend message => self.backend message.payload
  | .control turn script => (({ self with shared.script := script } : GuildSession).control
      turn.request).2

/-- The position of the report that a signal is, if it is one of the generation. -/
def absorbs (self : GuildSession) : Signal → Option ℕ
  | .backend message =>
      if self.channel.isSome ∧ (message.payload.get "op").isStr "playerUpdate" then
        reportedPosition message.payload self.generation
      else none
  | _ => none

variable (self : GuildSession)

theorem position_eq_clock : self.position = self.clock.position self.now := by
  show saturatingAdd self.positionMs
      (if self.paused || !self.started then 0 else self.now - self.positionAt) =
    min (self.positionMs +
      if self.started && !self.paused then self.now - self.positionAt else 0) u64Max
  rw [saturatingAdd]
  cases self.paused <;> cases self.started <;> rfl

/-- A payload that reports no position for the generation is ignored. -/
theorem observeProgress_of_none {payload : Value}
    (h : reportedPosition payload self.generation = none) :
    self.observeProgress payload = self := by
  rw [reportedPosition] at h
  rw [observeProgress]
  split
  · rfl
  · rename_i hgeneration
    rw [ne_eq, not_not] at hgeneration
    rw [snapshotGeneration, if_pos hgeneration] at h
    rw [h]

/-- A report of the generation is absorbed into the clock, and nothing else of note. -/
theorem observeProgress_of_some {payload : Value} {position : ℕ}
    (h : reportedPosition payload self.generation = some position) :
    (self.observeProgress payload).clock = self.clock.observed position self.now ∧
      (self.observeProgress payload).now = self.now := by
  rw [reportedPosition] at h
  split at h
  · rename_i hgeneration
    rw [snapshotGeneration] at hgeneration
    rw [observeProgress, if_neg (not_not.mpr hgeneration), h, Clock.observed]
    dsimp only
    by_cases hfurther : self.positionMs < position
    · have hclock : self.clock.positionMs < position := hfurther
      rw [if_pos hfurther, if_pos hclock]
      exact ⟨rfl, rfl⟩
    · have hclock : ¬ self.clock.positionMs < position := hfurther
      rw [if_neg hfurther, if_neg hclock]
      exact ⟨rfl, rfl⟩
  · cases h

/-- Bringing the message of a current track up to date takes no time. -/
theorem refresh_of_isSome (h : self.queue.current.isSome) :
    self.refresh.clock = self.clock ∧ self.refresh.now = self.now := by
  have hsome : ¬ self.queue.current.isNone = true := by
    simpa [← Option.isSome_iff_ne_none] using h
  rw [refresh, if_neg hsome]
  split
  · exact ⟨rfl, rfl⟩
  · split
    · exact ⟨rfl, rfl⟩
    · dsimp only
      split
      · split <;> exact ⟨rfl, rfl⟩
      · exact ⟨rfl, rfl⟩

/-- A request to the node takes its time. -/
theorem now_le_suspend (shared : Shared) : shared.now ≤ shared.suspend.2.now := by
  rw [Shared.suspend]
  split
  · exact le_rfl
  · exact Nat.le_add_right _ _

theorem now_le_update (patch : Patch) : self.now ≤ (self.update patch).2.now := by
  show self.shared.now ≤ (self.shared.update patch).2.now
  rw [Shared.update]
  split
  · exact le_rfl
  · dsimp only
    exact (now_le_suspend self.shared).trans (now_le_suspend (Shared.receive _ _ patch _))

/-! ## One signal is one step of the clock -/

theorem clockStep_setPaused (paused : Bool) :
    Clock.Step self.clock self.now none (self.setPaused paused).2.now
      (self.setPaused paused).2.clock := by
  rw [setPaused]
  split
  · exact .waits le_rfl
  · split
    · exact .waits le_rfl
    · have hlater := self.now_le_update { paused := some paused }
      dsimp only
      split
      · exact .waits hlater
      · have hposition : (self.update { paused := some paused }).2.position =
            self.clock.position (self.update { paused := some paused }).2.now :=
          position_eq_clock _
        have hturned : Clock.Step self.clock self.now none _ (self.clock.turned paused _) :=
          .turns hlater
        rw [Clock.turned, ← hposition] at hturned
        exact hturned

theorem clockStep_control {request : Request}
    (h : request.name = "pause" ∨ request.name = "resume") :
    Clock.Step self.clock self.now none (self.control request).2.now
      (self.control request).2.clock := by
  have hvolume : ¬ (request.name = "volume" ∧ request.option "level" = "") := by
    rintro ⟨hname, -⟩
    rcases h with hpause | hresume
    · simp [hname] at hpause
    · simp [hname] at hresume
  rw [control, if_neg hvolume]
  split
  · exact .waits le_rfl
  · split
    · exact .waits le_rfl
    · split
      · exact .waits le_rfl
      · rw [perform]
        rcases h with hpause | hresume
        · rw [hpause]
          exact self.clockStep_setPaused true
        · rw [hresume]
          exact self.clockStep_setPaused false

/-- The session once the start of its track was noticed. -/
def noticed (self : GuildSession) : GuildSession :=
  { ({ self with started := true, positionAt := self.now, progressAt := self.now } :
      GuildSession).scheduleEnd with
    events.starts := saturatingAdd self.events.starts 1 }

/-- Only the first start of the generation is noticed. -/
theorem backend_of_start {payload : Value} (hop : ¬ (payload.get "op").isStr "playerUpdate")
    (hkind : payloadKind payload = "TrackStartEvent") :
    self.backend payload = self ∨
      self.started = false ∧ self.queue.current.isSome ∧
        payloadGeneration payload = some self.generation ∧
        self.backend payload = self.noticed.refresh := by
  have hclosed : ¬ payloadKind payload = "WebSocketClosedEvent" := by
    rw [hkind]
    decide
  rw [backend, if_neg hop, if_neg hclosed]
  split
  · exact .inl rfl
  · split
    · exact .inl rfl
    · rename_i hcurrent
      split
      · exact .inl rfl
      · rename_i hgeneration
        rw [hkind]
        dsimp only
        by_cases hstarted : self.started = true
        · exact .inl (if_pos hstarted)
        · rw [if_neg hstarted]
          refine .inr ⟨Bool.eq_false_iff.mpr hstarted, ?_, not_not.mp hgeneration, rfl⟩
          simpa [← Option.isSome_iff_ne_none] using hcurrent

/-- An update that is not absorbed is ignored. -/
theorem backend_of_unabsorbed {message : Progress}
    (hop : (message.payload.get "op").isStr "playerUpdate" = true)
    (h : self.absorbs (.backend message) = none) : self.backend message.payload = self := by
  rw [absorbs] at h
  rw [backend, if_pos hop]
  split
  · rfl
  · rename_i hchannel
    rw [Bool.not_eq_true, Option.isNone_eq_false_iff] at hchannel
    rw [if_pos ⟨hchannel, hop⟩] at h
    exact self.observeProgress_of_none h

/-- A report is absorbed by a session in a voice channel. -/
theorem backend_of_absorbed {message : Progress} {position : ℕ}
    (h : self.absorbs (.backend message) = some position) :
    position ≤ u64Max ∧
      (self.backend message.payload).clock = self.clock.observed position self.now ∧
      (self.backend message.payload).now = self.now := by
  rw [absorbs] at h
  split at h
  · rename_i hboth
    have hchannel : ¬ self.channel.isNone = true := by
      rw [Bool.not_eq_true, Option.isNone_eq_false_iff]
      exact hboth.1
    rw [backend, if_neg hchannel, if_pos hboth.2]
    exact ⟨reportedPosition_le_max h, self.observeProgress_of_some h⟩
  · cases h

theorem clockStep_backend (message : Progress) :
    Clock.Step self.clock self.now (self.absorbs (.backend message))
      (self.backend message.payload).now (self.backend message.payload).clock := by
  cases habsorbs : self.absorbs (.backend message) with
  | some position =>
      obtain ⟨hmax, hclock, hnow⟩ := self.backend_of_absorbed habsorbs
      rw [hclock, hnow]
      exact .observes hmax
  | none =>
      by_cases hop : (message.payload.get "op").isStr "playerUpdate" = true
      · rw [self.backend_of_unabsorbed hop habsorbs]
        exact .waits le_rfl
      · obtain hsame | ⟨hstarted, hcurrent, -, hnoticed⟩ :=
          self.backend_of_start hop (message.isProgress.resolve_left hop)
        · rw [hsame]
          exact .waits le_rfl
        · obtain ⟨hclock, hnow⟩ := self.noticed.refresh_of_isSome hcurrent
          rw [hnoticed, hclock, hnow]
          exact .starts hstarted

/-- Every signal is one step of the clock. -/
theorem clockStep_signal (signal : Signal) :
    Clock.Step self.clock self.now (self.absorbs signal) (self.signal signal).now
      (self.signal signal).clock := by
  cases signal with
  | pass moment => exact .waits (Nat.le_add_right _ _)
  | backend message => exact self.clockStep_backend message
  | control turn script => exact clockStep_control { self with shared.script := script } turn.isTurn

/-- A session whose track is about to start. -/
def oneTrack : GuildSession :=
  { GuildSession.new 1 Sample.shared with
    channel := some 5, queue := { Queue.default with current := some (Sample.track "a") } }

end GuildSession

end Raydio.Session
