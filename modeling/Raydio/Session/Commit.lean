/-
# Committing play requests

Joining the voice channel of a request, and adding its resolved tracks to the
queue once voice access was checked again.
-/

import Raydio.Session.Handlers

namespace Raydio.Session

open Raydio.Foundation Raydio.Playback Raydio.Voice Raydio.Views Raydio.Discord Raydio.Resolver

namespace Shared

/-- The credentials of the voice handshake, once the cache has both parts. -/
def voiceCredentials (self : Shared) (guild channel : ℕ) : Option (String × Server) :=
  match self.cache.guilds[guild]? with
  | none => none
  | some g =>
      match (g.voices[self.bot]?).filter fun v => v.channel == channel with
      | none => none
      | some voice => g.server.map fun server => (voice.session, server)

/-- The waiting loop of `join`: look at the cache after every change, until the
deadline expires. The list is the script that is left. -/
def awaitCredentials (guild channel : ℕ) : List Moment → Shared → Option (String × Server) × Shared
  | [], self => (self.voiceCredentials guild channel, self)
  | moment :: rest, self =>
      match self.voiceCredentials guild channel with
      | some credentials => (some credentials, self)
      | none =>
          let self := ({ self with script := rest } : Shared).pass moment
          if moment.expired then (none, self) else awaitCredentials guild channel rest self

/-- Forget the voice server of a guild. -/
def forgetServer (self : Shared) (guild : ℕ) : Shared :=
  { self with cache := self.cache.modify guild fun g => { g with server := none } }

end Shared

/-- The tracks of a resolution in the name of the user who asked for them. -/
def requestedTracks (request : Request) (resolution : Resolution) : List Track :=
  resolution.tracks.map fun track => { track with
    requesterId := toString request.user, requestedBy := request.label }

/-- What the reply to the request that started playback adds to the player. -/
def startedNotes (resolution : Resolution) (added omitted : ℕ) : List String :=
  (if added > 1 then
    [s!"Queued {added - 1} more" ++
      ((resolution.playlist.map fun p => " from **" ++ safe p 120 ++ "**").getD "") ++ "."]
  else []) ++
  (if omitted > 0 then [s!"{omitted} tracks were omitted by queue limits."] else []) ++
  (if resolution.rejected > 0 then
    [s!"{resolution.rejected} unsuitable tracks were omitted."] else [])

/-- The text of the reply to a request whose tracks wait behind others. -/
def queuedText (resolution : Resolution) (first : Track) (added omitted : ℕ) : String :=
  let text := if added = 1 then
      "Queued **" ++ safe first.title 160 ++ "** by **" ++ safe first.author 100 ++ "** (`" ++
        formatDuration first.durationMs first.stream ++ "`)."
    else s!"Queued {added} tracks" ++
      ((resolution.playlist.map fun p => " from **" ++ safe p 120 ++ "**").getD "") ++ "."
  let notes := (if omitted > 0 then [s!"{omitted} omitted by queue limits"] else []) ++
    (if resolution.rejected > 0 then [s!"{resolution.rejected} unsuitable"] else [])
  if notes.isEmpty then text else text ++ " " ++ "; ".intercalate notes ++ "."

namespace GuildSession

/-- `join`: whether it returns without an error. -/
def join (self : GuildSession) (channel : ℕ) : Bool × GuildSession :=
  let sent := (self.shared.forgetServer self.id).command (some channel)
  if !sent.1 then (false, { self with shared := sent.2 })
  else
    let waited := sent.2.awaitCredentials self.id channel sent.2.script
    match waited.1 with
    | none => (false, { self with shared := waited.2 })
    | some credentials =>
        let sent := ({ self with shared := waited.2 } : GuildSession).update
          { voice := some ⟨credentials.2.token, credentials.2.endpoint, credentials.1, channel⟩
            volume := some self.volume }
        if !sent.1 then (false, sent.2)
        else
          let self := { sent.2 with channel := some channel, credentials := some credentials }
          let self := self.renewToken
          (true, { self with idleAt := some self.now })

/-- The bookkeeping for tracks that entered the queue. -/
def noteEnqueued (self : GuildSession) (pending : Pending) : GuildSession :=
  { self.mark (.enqueued pending.admission) with
    notification := pending.request.channel
    idleAt := none
    events.queue := saturatingAdd self.events.queue 1 }

/-- Start the first track of a request, and answer. -/
def replyStarted (self : GuildSession) (request : Request) (resolution : Resolution)
    (added omitted : ℕ) : GuildSession :=
  let sent := self.startCurrent
  if !sent.1 then sent.2.error request "I joined, but Raydio could not start that track."
  else
    let notes := startedNotes resolution added omitted
    (sent.2.presentPlayer request
      (if notes.isEmpty then none else some (" ".intercalate notes))).updateAlone

/-- Answer a request whose tracks wait behind others. -/
def replyQueued (self : GuildSession) (request : Request) (resolution : Resolution)
    (first : Track) (added omitted : ℕ) : GuildSession :=
  (self.presentPlayer request
    (some (queuedText resolution first added omitted))).updateAlone

/-- The last part of `commit`: the tracks enter the queue. -/
def enqueueResolved (self : GuildSession) (pending : Pending) (resolution : Resolution) :
    GuildSession :=
  let request := pending.request
  let tracks := requestedTracks request resolution
  match tracks.head? with
  | none => self
  | some first =>
      let started := self.queue.current.isNone
      let enqueued := self.queue.enqueue tracks self.shared.config.limits.queue
      let self := { self with queue := enqueued.2 }
      if enqueued.1 = 0 then self.error request "The queue is full."
      else
        let self := self.noteEnqueued pending
        let omitted := resolution.omitted + tracks.length - enqueued.1
        if started then self.replyStarted request resolution enqueued.1 omitted
        else self.replyQueued request resolution first enqueued.1 omitted

/-- `commit` from the second voice check on. -/
def commitJoined (self : GuildSession) (pending : Pending) (resolution : Resolution) :
    GuildSession :=
  match self.shared.access self.id pending.request.user (some pending.channel) with
  | .error error => self.error pending.request error
  | .ok _ => self.enqueueResolved pending resolution

/-- `commit`. -/
def commit (self : GuildSession) (pending : Pending) (resolution : Except Failure Resolution) :
    GuildSession :=
  let request := pending.request
  if pending.epoch ≠ self.epoch then
    (self.error request
      "That play request was canceled by a newer stop or disconnect.").mark
        (.cancelled pending.admission true)
  else match resolution with
  | .error failure => self.error request (failureMessage failure)
  | .ok resolution =>
      match self.shared.access self.id request.user (some pending.channel) with
      | .error error => self.error request error
      | .ok _ =>
          if self.channel.any fun active => active != pending.channel then
            self.error request "Join the bot's current voice channel before adding music."
          else if self.queue.len ≥ self.shared.config.limits.queue then
            self.error request "The queue is full."
          else if self.channel.isNone then
            let joined := (self.mark (.joined pending.admission)).join pending.channel
            if joined.1 then joined.2.commitJoined pending resolution
            else (joined.2.cleanup none).error request
              "I could not join that voice channel. Check its permissions and try again."
          else self.commitJoined pending resolution

/-- The loader arm of `run`. -/
def joinLoader (self : GuildSession) (index : ℕ) : GuildSession :=
  let joined := self.toPipeline.joinLoader index
  let self := { self with toPipeline := joined.2 }
  match joined.1 with
  | none => self
  | some (.resolved pending resolution) => (self.commit pending resolution).settle
  | some (.panicked pending) =>
      self.error pending.request "YouTube could not load that request. Try another song."

/-- `prepare_play`. -/
def preparePlay (self : GuildSession) (request : Request) : GuildSession :=
  if !self.shared.health.ready then
    self.error request "Music service is temporarily unavailable."
  else if (Text.trim (request.option "request").toList).isEmpty then
    self.error request "Use `/play request:` and enter search terms or a YouTube URL."
  else if self.inFlight ≥ self.shared.config.pending then
    self.error request "Too many play requests are already pending for this server."
  else
    let self := { self with shared := self.shared.ensureBotMembership self.id }
    match self.shared.access self.id request.user none with
    | .error error => self.error request error
    | .ok channel =>
        if self.channel.any fun active => active != channel then
          self.error request "Join the bot's current voice channel before adding music."
        else if self.queue.len ≥ self.shared.config.limits.queue then
          self.error request "The queue is full."
        else { self with toPipeline := self.toPipeline.enter request channel }

end GuildSession

end Raydio.Session
