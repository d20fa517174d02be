/-
# Starting, ending and leaving playback

The operations of a session that steer the backend: starting the current track
with its bounded failure loop, cleaning up, following the voice state, reacting
to backend events and to the watchdog's snapshots, and committing a play request.
-/

import Raydio.Session.Panel

namespace Raydio.Session

open Raydio.Foundation Raydio.Playback Raydio.Voice Raydio.Views Raydio.Discord Raydio.Resolver

/-- `failure_message`. -/
def failureMessage : Failure → String
  | .noMatch => "No suitable YouTube result was found."
  | .full => "The queue is full."
  | .unavailable => "Music service is temporarily unavailable."
  | .unsupported => "Only YouTube and YouTube Music URLs are supported."
  | .invalidResponse | .loadFailed => "YouTube could not load that request. Try another song."

/-- The notice after the third failure in a row. -/
def failureNotice : String :=
  "Playback stopped after three consecutive track failures. The source may be unhealthy."

namespace GuildSession

/-! ## Starting the current track -/

/-- The state with which an attempt to start begins: a new generation. -/
def beginStart (self : GuildSession) : GuildSession :=
  ({ self with
      generation := wrappingSucc self.generation
      starts := self.starts + 1
      positionMs := 0
      positionAt := self.now
      progressAt := self.now
      watchdogRetry := self.now
      started := false
      paused := false } : GuildSession).scheduleEnd

/-- The update that starts the current track, or stops playback. -/
def startPatch (self : GuildSession) : Patch :=
  match self.queue.current with
  | some track =>
      { track := some (some (track.encoded, self.generation)), position := some 0
        paused := some false, volume := some self.volume }
  | none => { track := some none, paused := some false }

/-- One attempt: whether the node accepted it. -/
def attemptStart (self : GuildSession) : Bool × GuildSession :=
  let self := self.beginStart
  let sent := self.update self.startPatch
  (sent.1, { sent.2 with
    events.transitions := saturatingAdd sent.2.events.transitions 1 })

/-- Advance the queue past its current track, which ended. -/
def advance (self : GuildSession) (kind : Advance.Kind) : GuildSession :=
  { self with
    queue := match kind with
      | .finish => self.queue.finish.value self.queue.finish_returns
      | .fail => self.queue.fail.value self.queue.fail_returns
    advances := self.advances ++ [⟨kind, self.generation, self.starts⟩] }

/-- Count a failed track and go on to the next one, or give up. -/
def failOver (self : GuildSession) : GuildSession :=
  let self := { self with events.failed := saturatingAdd self.events.failed 1 }
  let self := self.advance .fail
  if self.queue.consecutiveFailures ≥ 3 then self.notify failureNotice else self

/-- A started track, or a stop that the node accepted. -/
def settleStart (self : GuildSession) : GuildSession :=
  { self with idleAt := if self.queue.current.isNone then some self.now else none }

@[simp]
theorem notify_queue (self : GuildSession) (text : String) :
    (self.notify text).queue = self.queue := by
  rw [notify]
  split <;> rfl

@[simp]
theorem attemptStart_queue (self : GuildSession) : self.attemptStart.2.queue = self.queue := rfl

@[simp]
theorem failOver_queue (self : GuildSession) : self.failOver.queue = self.queue.failed := by
  rw [failOver]
  dsimp only
  split <;> simp [advance]

/-- A failed attempt leaves fewer starts to the loop. -/
theorem startsLeft_failOver_lt {self : GuildSession}
    (h : self.attemptStart.2.queue.current.isSome) :
    self.attemptStart.2.failOver.queue.startsLeft < self.queue.startsLeft := by
  rw [failOver_queue]
  rw [attemptStart_queue] at h ⊢
  exact Queue.startsLeft_failed_lt h

/-- The loop of `start_current`. Every refused track is failed over, so that the
queue bounds the attempts; `rounds` is never used up, see `startLoop_add`. -/
def startLoop (self : GuildSession) (failed : Bool) : ℕ → Bool × GuildSession
  | 0 => (false, self)
  | rounds + 1 =>
      let sent := self.attemptStart
      if sent.1 then
        (!(failed && sent.2.queue.current.isNone), sent.2.settleStart)
      else if sent.2.queue.current.isSome then startLoop sent.2.failOver true rounds
      else (false, { sent.2 with idleAt := some sent.2.now })

/-- More rounds than the queue needs change nothing. -/
theorem startLoop_add {rounds : ℕ} {self : GuildSession} (failed : Bool)
    (h : self.queue.startsLeft < rounds) (more : ℕ) :
    self.startLoop failed (rounds + more) = self.startLoop failed rounds := by
  induction rounds generalizing self failed with
  | zero => exact absurd h (Nat.not_lt_zero _)
  | succ rounds ih =>
      rw [Nat.add_right_comm, startLoop, startLoop]
      dsimp only
      split
      · rfl
      · split
        · rename_i hcurrent
          exact ih true (Nat.lt_of_lt_of_le (startsLeft_failOver_lt hcurrent)
            (Nat.le_of_lt_succ h))
        · rfl

/-- `start_current`: whether it returns without an error. -/
def startCurrent (self : GuildSession) : Bool × GuildSession :=
  self.startLoop false (self.queue.startsLeft + 1)

/-- `track_failure`. -/
def trackFailure (self : GuildSession) : GuildSession := self.failOver.startCurrent.2

/-- The current track was verified to have come to its end. -/
def trackFinished (self : GuildSession) : GuildSession :=
  let self := self.advance .finish
  let self := { self with events.finished := saturatingAdd self.events.finished 1 }
  self.startCurrent.2

/-! ## Leaving -/

/-- `preparations.shutdown().await` with the resets after it. -/
def forgetPreparations (self : GuildSession) : GuildSession :=
  let self := if self.preparations.isEmpty then self
    else { self.suspend.2 with preparations := .new }
  { self with
    preparationTarget := none, preparationRetry := self.now
    intents := self.intents ++ [.cleaned] }

/-- The assignments of `cleanup` and the command to leave the voice channel. -/
def reset (self : GuildSession) : GuildSession :=
  let self := { self with channel := none, queue := .default }
  let self := self.renewToken
  let self := { self with
    credentials := none, connected := false, idleAt := none, aloneAt := none
    started := false, paused := false, panelChecks := 0, endDeadline := none
    volume := self.shared.config.volume }
  { self with shared := (self.shared.command none).2 }

/-- `node.destroy` from a session. -/
def destroy (self : GuildSession) : GuildSession := { self with shared := self.shared.destroy }

/-- `cleanup`. -/
def cleanup (self : GuildSession) (notification : Option String) : GuildSession :=
  let self := self.forgetPreparations.invalidate.removePanel
  let active := self.channel.isSome
  let self := self.reset.destroy
  let self := match active, notification with
    | true, some text => self.notify text
    | _, _ => self
  { self with events.cleanup := saturatingAdd self.events.cleanup 1 }

/-! ## Following the voice state -/

/-- `update_alone`. -/
def updateAlone (self : GuildSession) : GuildSession :=
  let alone := self.channel.any fun channel => self.guild.any fun g => g.alone channel
  { self with aloneAt := if alone then some (self.aloneAt.getD self.now) else none }

/-- `voice_changed`. -/
def voiceChanged (self : GuildSession) : GuildSession :=
  match self.channel with
  | none => self
  | some channel =>
      match self.guild with
      | none => self.cleanup none
      | some g =>
          if !g.available then self
          else match (g.voices[self.shared.bot]?).filter fun v => v.channel == channel with
          | none => self.cleanup none
          | some voice =>
              match g.server with
              | none => self.updateAlone
              | some server =>
                  if self.credentials ≠ some (voice.session, server) ∧ self.shared.health.ready then
                    let sent := self.update
                      { voice := some ⟨server.token, server.endpoint, voice.session, channel⟩ }
                    if sent.1 then
                      ({ sent.2 with credentials := some (voice.session, server) } :
                        GuildSession).updateAlone
                    else sent.2.cleanup
                      (some "The voice connection could not be restored. Use `/play` again.")
                  else self.updateAlone

/-! ## Backend events and the watchdog -/

/-- `observe_progress`. -/
def observeProgress (self : GuildSession) (payload : Value) : GuildSession :=
  if (((payload.get "crust").get "userData").get "raydioGeneration").asU64 ≠
      some self.generation then self
  else match ((payload.get "state").get "position").asU64 with
  | none => self
  | some position =>
      let self := { self with
        connected := (((payload.get "state").get "connected").asBool).getD false }
      let self := if position > self.positionMs then
          ({ self with progressAt := self.now, positionMs := position } : GuildSession).scheduleEnd
        else self
      { self with positionAt := self.now }

/-- `backend`. -/
def backend (self : GuildSession) (payload : Value) : GuildSession :=
  if self.channel.isNone then self
  else if (payload.get "op").isStr "playerUpdate" then self.observeProgress payload
  else if payloadKind payload = "WebSocketClosedEvent" then
    self.cleanup (some "The voice connection closed. Use `/play` to reconnect.")
  else if self.queue.current.isNone then self
  else if payloadGeneration payload ≠ some self.generation then self
  else match payloadKind payload with
  | "TrackStartEvent" =>
      if self.started then self
      else
        let self := ({ self with
          started := true, positionAt := self.now, progressAt := self.now } :
            GuildSession).scheduleEnd
        ({ self with events.starts := saturatingAdd self.events.starts 1 } :
          GuildSession).refresh
  | "TrackEndEvent" =>
      if (payload.get "reason").isStr "finished" then self.trackFinished.refresh
      else if (payload.get "reason").isStr "loadFailed" then self.trackFailure.refresh
      else self
  | "TrackExceptionEvent" => self.trackFailure.refresh
  | "TrackStuckEvent" => self.trackFailure.refresh
  | _ => self

/-- `recover_unverifiable_stall`. -/
def recoverUnverifiableStall (self : GuildSession) : GuildSession :=
  if self.elapsed self.progressAt ≥ 90000 then
    ({ self with events.watchdog := saturatingAdd self.events.watchdog 1 } :
      GuildSession).trackFailure
  else self

/-- The end of `recover_playback`: the track is over, naturally or not. -/
def recover (self : GuildSession) (finished : Bool) : GuildSession :=
  let self := { self with events.watchdog := saturatingAdd self.events.watchdog 1 }
  if finished then self.trackFinished else self.trackFailure

/-- The generation of the track that the snapshot says is playing. -/
def snapshotGeneration (player : Value) : Option ℕ :=
  (((player.get "crust").get "userData").get "raydioGeneration").asU64

/-- The generation of the last track that the snapshot says has ended. -/
def terminalGeneration (player : Value) : Option ℕ :=
  ((((player.get "crust").get "terminal").get "userData").get "raydioGeneration").asU64

/-- `recover_playback`. -/
def recoverPlayback (self : GuildSession) (player : Value) : GuildSession :=
  if snapshotGeneration player = some self.generation then
    let self := self.observeProgress player
    if (player.get "paused").isTrue || decide (self.elapsed self.progressAt < 60000) then
      self.scheduleEnd
    else self.recover false
  else if (player.get "track").isNull ∧ terminalGeneration player = some self.generation then
    self.recover ((((player.get "crust").get "terminal").get "reason").isStr "finished")
  -- A stale snapshot must not finish a different generation.
  else ({ self with endDeadline := some (self.now + 5000) } : GuildSession).recoverUnverifiableStall

/-- `check_playback`. -/
def checkPlayback (self : GuildSession) : GuildSession :=
  if self.queue.current.isNone || self.paused || !self.shared.health.ready ||
      decide (self.now < self.watchdogRetry) then self
  else
    let stalled := decide (self.elapsed self.progressAt ≥ 60000)
    if !stalled && self.endDeadline.all fun deadline => decide (self.now < deadline) then self
    else
      let self := { self with watchdogRetry := self.now + 5000 }
      let sent := self.shared.getPlayer
      let self := { self with shared := sent.2 }
      match sent.1 with
      | none =>
          ({ self with endDeadline := some (self.now + 5000) } :
            GuildSession).recoverUnverifiableStall
      | some player => self.recoverPlayback player

/-- `tick`. -/
def tick (self : GuildSession) : GuildSession :=
  let self := self.voiceChanged
  if self.aloneAt.any fun at' =>
      decide (self.elapsed at' / 1000 ≥ self.shared.config.aloneSeconds) then
    self.cleanup (some "Left the voice channel because no listeners remained.")
  else if self.idleAt.any fun at' =>
      decide (self.elapsed at' / 1000 ≥ self.shared.config.idleSeconds) then
    self.cleanup (some "Left the voice channel after the queue stayed idle.")
  else self.checkPlayback.refresh

end GuildSession

end Raydio.Session
