/-
# The state of a guild session

A session is four parts that its operations mostly leave to each other: the
play requests under way, the playback, the player message and the preparation
of the next track. The parts are structures of their own, so that an operation
on one is visibly no operation on the others.
-/

import Raydio.Session.Pipeline

namespace Raydio.Session

open Raydio.Foundation Raydio.Playback Raydio.Voice Raydio.Views Raydio.Discord

/-- How a queue was advanced past a track that ended. -/
inductive Advance.Kind
  | finish
  | fail
  deriving DecidableEq, Repr

/-- History: the queue was advanced while `generation` had the given value, after
`start` starts. -/
structure Advance where
  kind : Advance.Kind
  generation : ℕ
  start : ℕ
  deriving DecidableEq, Repr

/-- The counters that `/diagnostics` shows. -/
structure Events where
  queue : ℕ := 0
  transitions : ℕ := 0
  starts : ℕ := 0
  finished : ℕ := 0
  failed : ℕ := 0
  watchdog : ℕ := 0
  cleanup : ℕ := 0
  deriving DecidableEq, Repr

/-- The playback of a session. Instants are milliseconds of the shared clock. -/
structure Playback where
  queue : Queue
  channel : Option ℕ
  credentials : Option (String × Server)
  generation : ℕ
  volume : ℕ
  paused : Bool
  positionMs : ℕ
  positionAt : ℕ
  progressAt : ℕ
  endDeadline : Option ℕ
  watchdogRetry : ℕ
  started : Bool
  connected : Bool
  idleAt : Option ℕ
  aloneAt : Option ℕ
  events : Events
  /-- How often a track was started or playback stopped; history. -/
  starts : ℕ
  /-- The times the queue was advanced; history. -/
  advances : List Advance
  deriving DecidableEq, Repr

/-- The player message of a session. -/
structure Panel where
  channel : ℕ
  message : ℕ
  token : String
  lastView : Option View
  deriving DecidableEq, Repr

/-- An edit of the player message, or a check of it, that is under way. -/
structure PanelEdit where
  channel : ℕ
  message : ℕ
  view : View
  check : Bool
  deriving DecidableEq, Repr

/-- What can happen to the player messages of a session. -/
inductive PanelEvent
  /-- Discord acknowledged that the message shows the view. -/
  | acknowledged (message : MessageRef) (view : View)
  /-- The message became the player message. -/
  | adopted (message : MessageRef)
  /-- The player message was replaced or removed. -/
  | retired (message : MessageRef)
  /-- The player message was given up after an edit failed for good. -/
  | dropped (message : MessageRef)
  /-- The deletion of the message was scheduled. -/
  | scheduled (message : MessageRef)
  /-- A control edited the message while so many edits and checks were under way. -/
  | controlled (message : MessageRef) (outstanding : ℕ)
  deriving DecidableEq, Repr

/-- The message of a panel. -/
def Panel.ref (self : Panel) : MessageRef := ⟨self.channel, self.message⟩

/-- The message of an edit. -/
def PanelEdit.ref (self : PanelEdit) : MessageRef := ⟨self.channel, self.message⟩

/-- The messages of a session. -/
structure Messages where
  token : String
  panel : Option Panel
  panelEdits : JoinSet PanelEdit EditOutcome
  panelDeletions : JoinSet Panel Unit
  notification : Option ℕ
  edits : ℕ
  editErrors : ℕ
  editTerminal : ℕ
  panelRetry : ℕ
  panelChecks : ℕ
  panelCheckAt : ℕ
  /-- What happened to the player messages; history. -/
  panelLog : List PanelEvent

/-- What a preparation task was spawned with. -/
structure Preparing where
  epoch : ℕ
  target : Option String
  /-- The number of requests issued up to this one. -/
  number : ℕ
  deriving DecidableEq, Repr

/-- What can happen to the requests to prepare a track, by number. -/
inductive Intent
  | issued (number : ℕ) (target : Option String)
  /-- The node accepted the request. -/
  | accepted (number : ℕ) (target : Option String)
  /-- The request determined the target that is taken to be prepared. -/
  | remembered (number : ℕ) (target : Option String)
  | cleaned
  deriving DecidableEq, Repr

/-- The preparation of the next track. A task ends with whether the node accepted. -/
structure Preparation where
  preparations : JoinSet Preparing Bool
  preparationTarget : Option String
  preparationRetry : ℕ
  /-- The number of requests issued; history. -/
  requests : ℕ
  /-- What happened to the requests; history. -/
  intents : List Intent

/-- The request that the node accepts if the task at `index` ends like this. -/
def Preparation.accepting (self : Preparation) (index : ℕ) (how : Joined Bool) : List Intent :=
  match how, self.preparations.tasks[index]? with
  | .finished true, some task =>
      if task.ended.isNone then [.accepted task.tag.number task.tag.target] else []
  | _, _ => []

/-- The worker of one guild. -/
structure GuildSession extends Pipeline, Playback, Messages, Preparation where
  id : ℕ
  shared : Shared

namespace GuildSession

/-- `GuildSession::new`. -/
def new (id : ℕ) (shared : Shared) : GuildSession :=
  let token := shared.randomToken
  { toPipeline := .new
    queue := .default, channel := none, credentials := none, generation := 0
    volume := shared.config.volume, paused := false, positionMs := 0
    positionAt := shared.now, progressAt := shared.now, endDeadline := none
    watchdogRetry := shared.now, started := false, connected := false, idleAt := none
    aloneAt := none, events := {}, starts := 0, advances := []
    token := token.1, panel := none, panelEdits := .new, panelDeletions := .new
    notification := none, edits := 0, editErrors := 0, editTerminal := 0
    panelRetry := shared.now, panelChecks := 0, panelCheckAt := shared.now, panelLog := []
    preparations := .new, preparationTarget := none, preparationRetry := shared.now
    requests := 0, intents := []
    id := id, shared := token.2 }

/-- `Instant::now`. -/
def now (self : GuildSession) : ℕ := self.shared.now

/-- The time since an instant, in milliseconds. -/
def elapsed (self : GuildSession) (since : ℕ) : ℕ := self.now - since

/-- The cached guild of the session. -/
def guild (self : GuildSession) : Option Guild := self.shared.cache.guilds[self.id]?

/-- `position`. -/
def position (self : GuildSession) : ℕ :=
  saturatingAdd self.positionMs
    (if self.paused || !self.started then 0 else self.elapsed self.positionAt)

/-- `schedule_end`. -/
def scheduleEnd (self : GuildSession) : GuildSession :=
  { self with
    endDeadline := match self.queue.current with
      | some track =>
          if !track.stream && decide (track.durationMs > 0) && !self.paused then
            some (self.now + saturatingAdd (track.durationMs - self.positionMs) 15000)
          else none
      | none => none }

/-- `player_view`. -/
def playerView (self : GuildSession) : View :=
  Views.player self.shared.parseUrl self.queue
    ((self.panel.map Panel.token).getD self.token) self.paused self.volume self.position

/-- `queue_view`; a list without buttons retires the token of older lists. -/
def queueView (self : GuildSession) (page : ℕ) : View × GuildSession :=
  let view := Views.queue self.queue self.token page self.paused self.volume self.position
  if view.components.isEmpty then
    let token := self.shared.randomToken
    (view, { self with shared := token.2, token := token.1 })
  else (view, self)

/-- `Request::error` from a session. -/
def error (self : GuildSession) (request : Discord.Request) (text : String) : GuildSession :=
  { self with shared := self.shared.error request text }

/-- `request.respond` whose result is not looked at. -/
def respond (self : GuildSession) (request : Discord.Request) (view : View) : GuildSession :=
  { self with shared := (self.shared.respond request view).2 }

/-- `node.update` from a session. -/
def update (self : GuildSession) (patch : Patch) : Bool × GuildSession :=
  let sent := self.shared.update patch
  (sent.1, { self with shared := sent.2 })

/-- `notify`. -/
def notify (self : GuildSession) (text : String) : GuildSession :=
  match self.notification with
  | some channel => { self with shared := self.shared.createMessage channel text }
  | none => self

/-- A new token for queue lists. -/
def renewToken (self : GuildSession) : GuildSession :=
  let token := self.shared.randomToken
  { self with shared := token.2, token := token.1 }

/-- `start_load`. -/
def startLoad (self : GuildSession) : GuildSession :=
  { self with toPipeline :=
      self.toPipeline.startLoad (self.shared.config.limits.queue - self.queue.len) }

/-- `invalidate`. -/
def invalidate (self : GuildSession) : GuildSession :=
  { self with toPipeline := self.toPipeline.invalidate }

/-- Note down a milestone of a play request. -/
def mark (self : GuildSession) (milestone : Milestone) : GuildSession :=
  { self with toPipeline := self.toPipeline.mark milestone }

/-- A commit is over. -/
def settle (self : GuildSession) : GuildSession :=
  { self with toPipeline := self.toPipeline.settle }

/-- `publish_activity`. -/
def publishActivity (self : GuildSession) : GuildSession :=
  { self with shared := { self.shared with
      cache := self.shared.cache.modify self.id fun guild => { guild with
        activity :=
          { channel := self.channel
            queueCount := self.queue.len
            pending := self.inFlight
            title := self.queue.current.map fun track => truncate track.title 100 } } } }

/-- What `prepare_next` wants prepared. -/
def desiredTarget (self : GuildSession) : Option String :=
  if self.started && !self.paused && self.channel.isSome then
    (self.queue.preparationTarget self.position).map Track.encoded
  else none

/-- `prepare_next`. -/
def prepareNext (self : GuildSession) : GuildSession :=
  if !self.preparations.isEmpty || decide (self.now < self.preparationRetry) then self
  else if self.desiredTarget = self.preparationTarget then self
  else { self with
    preparations := self.preparations.spawn ⟨self.epoch, self.desiredTarget, self.requests + 1⟩
    requests := self.requests + 1
    intents := self.intents ++ [.issued (self.requests + 1) self.desiredTarget] }

/-- `finish_preparation`, for a task and how it ended. -/
def finishPreparation (self : GuildSession) (task : Preparing) : Joined Bool → GuildSession
  | .finished true => { self with
      preparationTarget := task.target
      intents := self.intents ++ [.remembered task.number task.target] }
  | .finished false =>
      if task.epoch = self.epoch then { self with preparationRetry := self.now + 5000 } else self
  | _ => self

/-- Note down what happened to a player message. -/
def note (self : GuildSession) (event : PanelEvent) : GuildSession :=
  { self with panelLog := self.panelLog ++ [event] }

end GuildSession

end Raydio.Session
