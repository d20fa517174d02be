/-
# Interactions

A slash command or a component of a message, from the check of its token to the
reply.
-/

import Raydio.Session.Control

namespace Raydio.Session

open Raydio.Foundation Raydio.Playback Raydio.Voice Raydio.Views Raydio.Discord

/-- `commands::HELP`. -/
def helpText : String :=
  "**Raydio commands**\n" ++
  "**Start and view**\n" ++
  "`/play request:` — search, play a YouTube video, or queue a playlist\n" ++
  "`/nowplaying` — show the modern player and controls\n" ++
  "`/queue` — show the current and upcoming songs\n" ++
  "**Playback**\n" ++
  "`/pause` | `/resume` — pause or resume\n" ++
  "`/previous` | `/skip` — move through playback history and queue\n" ++
  "`/stop` — stop and clear the queue\n" ++
  "**Queue and settings**\n" ++
  "`/move from: to:` | `/jump position:` — reorder or jump within the queue\n" ++
  "`/shuffle` | `/remove position:` | `/clear` — edit upcoming songs\n" ++
  "`/volume [level:]` | `/loop mode:` — player settings\n" ++
  "**Session and utility**\n" ++
  "`/leave` — disconnect and clear the session\n" ++
  "`/diagnostics` — private connection and playback health for server managers\n" ++
  "`/ping` — show Discord and Lavalink readiness\n" ++
  "`/help` — show this menu\n"

/-- `str::split(':')`. -/
def splitColon (text : String) : List String :=
  (text.toList.splitOn ':').map String.ofList

namespace GuildSession

/-- The parts of a component's custom id name a message that is still in use. -/
def validComponent (self : GuildSession) (request : Request) (parts : List String) : Bool :=
  parts.length == 4 && parts.getD 0 "" == "raydio" && self.queue.current.isSome &&
    if parts.getD 1 "" = "queue" then parts.getD 2 "" == self.token
    else parts.getD 1 "" == "player" && self.panel.any fun panel =>
      panel.token == parts.getD 2 "" &&
        request.interaction.message.any fun m => m.id == panel.message

/-- The reply to a component that is no longer in use. -/
def staleText (kind : String) : String :=
  if kind = "queue" then "This queue view is no longer active. Run `/queue` again."
  else "These player controls are no longer active. Run `/nowplaying` again."

/-- The request that a button of the player stands for. -/
def buttonRequest (self : GuildSession) (request : Request) (action : String) : Request :=
  { request with
    name := if action = "pause" ∧ self.paused then "resume" else action
    options := if action = "loop" then
        Request.insertOption request.options "mode"
          (if self.queue.loopMode = .off then "track" else "off")
      else request.options }

/-- A component: the request it stands for, unless it is answered at once. -/
def component (self : GuildSession) (request : Request) (customId : String) :
    Option Request × GuildSession :=
  let parts := splitColon customId
  let action := parts.getD 3 ""
  if !self.validComponent request parts then
    (none, self.respond request (View.text (staleText (parts.getD 1 ""))))
  else if parts.getD 1 "" = "queue" then
    let shown := self.queueView ((Text.parseUnsigned u64Max action).getD 0)
    (none, shown.2.respond request shown.1)
  else (some (self.buttonRequest request action), self)

/-- The reply to `/ping`. -/
def pingText (self : GuildSession) : String :=
  "Pong! Discord: " ++
    (if self.shared.cache.ready then s!"{self.shared.latencyMs} ms" else "unavailable") ++
    ". Lavalink: " ++ (if self.shared.health.ready then "ready" else "unavailable") ++ "."

/-- The reply to `/diagnostics`. -/
def diagnosticsText (self : GuildSession) : String :=
  let health := self.shared.health
  let status := if self.channel.isNone then "no session"
    else if self.queue.current.isNone then "idle"
    else if self.paused then "paused" else "playing"
  let text := "Raydio diagnostics\nState: " ++ status ++
    s!" • upcoming {self.queue.upcoming.length} • history {self.queue.history.length}" ++
    s!" • pending {self.inFlight}\nLoop: " ++ modeName self.queue.loopMode ++
    s!" • volume {self.volume}% • position {self.position} ms\nDiscord: " ++
    s!"{self.shared.cache.ready} • {self.shared.latencyMs} ms • response errors " ++
    s!"{self.shared.interactionErrors}\nMusic service: {health.ready} • connections " ++
    s!"{health.connections} • errors {health.errors}\nVoice connected: {self.connected}" ++
    s!" • track started: {self.started}\nEvents: queue {self.events.queue}, transitions " ++
    s!"{self.events.transitions}, starts {self.events.starts}, finished " ++
    s!"{self.events.finished}, failed {self.events.failed}, watchdog " ++
    s!"{self.events.watchdog}, cleanup {self.events.cleanup}\nPlayer edits: {self.edits}" ++
    s!" successful • {self.editErrors} transient failures • {self.editTerminal}" ++
    " terminal failures"
  match health.audio.observedAt with
  | none => text
  | some since =>
      text ++ s!"\nLast node audio window ({self.elapsed since / 1000}s ago): " ++
        s!"{health.audio.sent} sent • {health.audio.unavailable} unavailable • " ++
        s!"{health.audio.missedDeadlines} missed deadlines; {health.audio.windows}" ++
        " observed windows"

/-- The edit of a control is sent. -/
def noteControl (self : GuildSession) (request : Request) : GuildSession :=
  match request.interaction.message with
  | some message => self.note (.controlled message self.panelEdits.len)
  | none => self

/-- The edit of a control is acknowledged if it was delivered. -/
def noteControlled (self : GuildSession) (request : Request) (view : View) (delivered : Bool) :
    GuildSession :=
  match delivered, request.interaction.message with
  | true, some message => self.note (.acknowledged message view)
  | _, _ => self

/-- A control was carried out: edit the player message it came from. -/
def confirmEdit (self : GuildSession) (request : Request) : GuildSession :=
  let view := self.playerView
  let self := self.noteControl request
  let sent := self.shared.respondNoModel request view
  let self := ({ self with shared := sent.2 } : GuildSession).noteControlled request view sent.1
  match sent.1, self.panel with
  | true, some panel =>
      let self := { self with panel := some { panel with lastView := some view } }
      -- A paused message does not correct itself by later edits.
      if self.paused then { self with panelChecks := 3, panelCheckAt := self.now + 500 }
      else { self with panelChecks := 0 }
  | _, _ => self

/-- The reply to a control that was carried out. -/
def confirm (self : GuildSession) (request : Request) (text : String) : GuildSession :=
  if request.updatesMessage then
    -- The control comes first, its message after the edit already in flight.
    let self := self.flushRefresh
    if self.queue.current.isSome then self.confirmEdit request else self.removePanel
  else self.respond request (View.text text)

/-- A control with its reply. -/
def answerControl (self : GuildSession) (request : Request) : GuildSession :=
  let answered := self.control request
  (match answered.1 with
    | .ok text => answered.2.confirm request text
    | .error error => answered.2.error request error).refresh

/-- The `match` on the command name in `interaction`. -/
def dispatch (self : GuildSession) (request : Request) : GuildSession :=
  match request.name with
  | "play" => self.preparePlay request
  | "nowplaying" => self.presentPlayer request none
  | "queue" =>
      let shown := self.queueView 0
      shown.2.respond request shown.1
  | "help" => self.respond request (View.text helpText)
  | "ping" => self.respond request (View.text self.pingText)
  | "diagnostics" => self.respond request (View.text self.diagnosticsText)
  | _ => self.answerControl request

/-- `interaction`. -/
def interaction (self : GuildSession) (request : Request) : GuildSession :=
  if !self.shared.loaded self.id then
    self.error request "Raydio commands are available only in a loaded server."
  else match request.customId with
  | none => self.dispatch request
  | some customId =>
      let routed := self.component request customId
      match routed.1 with
      | none => routed.2
      | some request => routed.2.dispatch request

end GuildSession

end Raydio.Session
