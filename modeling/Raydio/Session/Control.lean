/-
# Controls and interactions

A control either answers with a text or is refused with one. The branches of the
source's single function are definitions of their own, under the names of their
commands.
-/

import Raydio.Session.Commit

namespace Raydio.Session

open Raydio.Foundation Raydio.Playback Raydio.Voice Raydio.Views Raydio.Discord

/-- The commands that `control` handles. -/
def controls : List String :=
  ["pause", "resume", "previous", "skip", "stop", "move", "jump", "shuffle", "remove", "clear",
    "volume", "loop", "leave"]

/-- The controls that need the node. -/
def nodeControls : List String := ["pause", "resume", "previous", "skip", "jump", "volume"]

/-- The text for a control that the node refused. -/
def transportError : String :=
  "The music service could not apply that control. Try again shortly."

namespace GuildSession

/-- What a control returns, with the session it leaves. -/
abbrev Answer := Except String String × GuildSession

/-- The authorization block of `control`: why the caller may not use the control. -/
def refusal (self : GuildSession) (request : Request) : Option String :=
  match self.guild with
  | none => some "There is no active music session."
  | some guild =>
      match guild.callerChannel request.user with
      | .error error =>
          if guild.voices[request.user]?.isNone then
            some "Join the bot's voice channel before using that control."
          else some error
      | .ok channel =>
          if self.channel.isNone && !(["stop", "leave"].contains request.name) then
            some "There is no active music session."
          else if self.channel.any fun active => active != channel then
            some "Join the bot's current voice channel before using that control."
          else none

/-- `pause` and `resume`. -/
def setPaused (self : GuildSession) (paused : Bool) : Answer :=
  if self.queue.current.isNone then (.ok "Nothing is playing.", self)
  else if paused = self.paused then
    (.ok (if paused then "Playback is already paused." else "Playback is already running."), self)
  else
    let sent := self.update { paused := some paused }
    if !sent.1 then (.error transportError, sent.2)
    else
      let self := sent.2
      let self := { self with positionMs := self.position }
      let self := ({ self with
        positionAt := self.now, progressAt := self.now, paused := paused } :
          GuildSession).scheduleEnd
      (.ok (if paused then "Playback paused." else "Playback resumed."), self)

/-- `volume` with a level. -/
def setVolume (self : GuildSession) (level : String) : Answer :=
  match (Text.parseUnsigned (2 ^ 16 - 1) level).filter fun v => decide (v ≤ 100) with
  | none => (.error "Volume must be an integer between 0 and 100.", self)
  | some volume =>
      if volume = self.volume then (.ok s!"Volume is already {volume}%.", self)
      else
        let sent := self.update { volume := some volume }
        if !sent.1 then (.error transportError, sent.2)
        else (.ok s!"Volume set to {volume}%.", { sent.2 with volume := volume })

/-- The loop mode of an option. -/
def parseLoopMode : String → Option LoopMode
  | "off" => some .off
  | "track" => some .track
  | "queue" => some .queue
  | _ => none

/-- `loop`. -/
def setLoopMode (self : GuildSession) (mode : String) : Answer :=
  match parseLoopMode mode with
  | none => (.error "Choose off, track, or queue for loop mode.", self)
  | some mode =>
      (.ok ("Loop mode set to " ++ modeName mode ++ "."), { self with queue.loopMode := mode })

/-- `remove`. -/
def removeTrack (self : GuildSession) (position : ℕ) : Answer :=
  let removed := (self.queue.remove position).value (self.queue.remove_returns position)
  (.ok (match removed.1 with
    | some track => "Removed **" ++ safe track.title 160 ++ "**."
    | none => "There is no upcoming track at that index."), { self with queue := removed.2 })

/-- `move`. -/
def moveTrack (self : GuildSession) (source target : ℕ) : Answer :=
  let moved := (self.queue.moveTo source target).value (self.queue.moveTo_returns source target)
  (.ok (match moved.1 with
    | some track =>
        if source = target then
          "**" ++ safe track.title 160 ++ s!"** is already at position {source}."
        else "Moved **" ++ safe track.title 160 ++ s!"** from {source} to {target}."
    | none => "One of those upcoming queue positions does not exist."),
    { self with queue := moved.2 })

/-- `clear`. -/
def clearQueue (self : GuildSession) : Answer :=
  let cleared := self.queue.clear
  (.ok (if cleared.1 = 0 then "The upcoming queue is already empty."
    else s!"Cleared {cleared.1} upcoming track" ++ (if cleared.1 = 1 then "" else "s") ++ "."),
    { self with queue := cleared.2 })

/-- `shuffle`, with as many draws as it may need. -/
def shuffleQueue (self : GuildSession) : Answer :=
  let count := self.queue.upcoming.length
  let shuffled := self.queue.shuffle (self.shared.random.take count)
  (.ok (if shuffled.1 then "Shuffled the upcoming queue."
    else "At least two upcoming tracks are needed."),
    { self with queue := shuffled.2, shared.random := self.shared.random.drop count })

/-- The end of `previous`, `jump` and `skip`: start what is current now. -/
def transport (self : GuildSession) (verb : String) : Answer :=
  let sent := self.startCurrent
  if !sent.1 then (.error transportError, sent.2)
  else (.ok (match sent.2.queue.current with
    | some track => verb ++ " **" ++ safe track.title 160 ++ "**."
    | none => "Skipped. The queue is now empty."), sent.2)

/-- `previous`. -/
def previous (self : GuildSession) : Answer :=
  let maxTracks := self.shared.config.limits.queue
  let restored := (self.queue.previous maxTracks).value (self.queue.previous_returns maxTracks)
  let self := { self with queue := restored.2 }
  match restored.1 with
  | .started => self.transport "Now playing"
  | .noHistory => (.ok "There is no previous track in this session.", self)
  | .full =>
      (.ok "The queue is full. Remove a queued track before using Previous.", self)

/-- `jump`. -/
def jump (self : GuildSession) (position : ℕ) : Answer :=
  let jumped := (self.queue.jump position).value (self.queue.jump_returns position)
  let self := { self with queue := jumped.2 }
  if jumped.1 then self.transport "Jumped to"
  else (.ok "There is no upcoming song at that position.", self)

/-- `skip`. -/
def skip (self : GuildSession) : Answer :=
  if self.queue.current.isNone then (.ok "Nothing is playing.", self)
  else
    ({ self with queue := self.queue.skip.value self.queue.skip_returns } :
      GuildSession).transport "Skipped. Now playing"

/-- The assignments of `stop`. -/
def halt (self : GuildSession) : GuildSession :=
  let self := { self with queue := self.queue.stop }.renewToken
  { self with paused := false }

/-- `stop`. -/
def stop (self : GuildSession) : Answer :=
  let self := self.invalidate
  let text := if !self.queue.isEmpty then "Playback stopped and the upcoming queue was cleared."
    else "Playback is already stopped."
  let self := self.halt
  if self.channel.isNone then (.ok text, self)
  else if self.shared.health.ready then
    let sent := self.startCurrent
    if !sent.1 then (.error transportError, sent.2)
    else (.ok text, { sent.2 with idleAt := some sent.2.now })
  else (.ok text, { self with idleAt := some self.now })

/-- `leave`. -/
def leave (self : GuildSession) : Answer :=
  let active := self.channel.isSome
  (.ok (if active then "Left the voice channel and cleared the session."
    else "There is no active music session."), self.cleanup none)

/-- The last `match` of `control`. -/
def perform (self : GuildSession) (request : Request) : Answer :=
  match request.name with
  | "pause" => self.setPaused true
  | "resume" => self.setPaused false
  | "volume" => self.setVolume (request.option "level")
  | "loop" => self.setLoopMode (request.option "mode")
  | "remove" => self.removeTrack (request.index "position")
  | "move" => self.moveTrack (request.index "from") (request.index "to")
  | "clear" => self.clearQueue
  | "shuffle" => self.shuffleQueue
  | "previous" => self.previous
  | "jump" => self.jump (request.index "position")
  | "skip" => self.skip
  | "stop" => self.stop
  | _ => self.leave

/-- `control`. -/
def control (self : GuildSession) (request : Request) : Answer :=
  if request.name = "volume" ∧ request.option "level" = "" then
    (.ok (if self.channel.isNone then "There is no active music session."
      else s!"Current volume: {self.volume}%."), self)
  else if !controls.contains request.name then
    (.error "That command is no longer registered. Type `/` to see Raydio's commands.", self)
  else if !self.shared.health.ready && nodeControls.contains request.name then
    (.error "Music service is temporarily unavailable.", self)
  else match self.refusal request with
  | some error => (.error error, self)
  | none => self.perform request

end GuildSession

end Raydio.Session
