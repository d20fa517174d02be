/-
# What a session shares with the rest of the bot

The configuration, the gateway cache, the health of the node, and the calls to
Discord and to the music node that a session makes.

A session is suspended at every `await`. What happens meanwhile is a `Moment`:
time passes, gateway events change the cache, the node comes or goes, the
backend ends its track, and the awaited call comes back in some way. A handler
runs against a script with one moment for each suspension; an exhausted script
continues with quiet moments. The script ranges over every behaviour of the
outside, so that a statement about all scripts is one about all of them.

The backend's player is the part of a Lavalink player that a session steers: a
PATCH updates the keys it names and creates a missing player, a refused request
has no effect.
-/

import Raydio.Foundation.JoinSet
import Raydio.Node.Health
import Raydio.Resolver.Resolution
import Raydio.Voice.Guild
import Raydio.Discord.Request
import Raydio.Views.View

namespace Raydio.Session

open Raydio.Foundation Raydio.Playback Raydio.Voice Raydio.Views Raydio.Discord Raydio.Node
  Raydio.Resolver

/-- The configuration, as far as a session reads it. -/
structure Config where
  volume : ℕ
  idleSeconds : ℕ
  aloneSeconds : ℕ
  pending : ℕ
  limits : Limits
  deriving DecidableEq, Repr

/-! ## The backend player -/

/-- The voice part of a player update. -/
structure VoiceUpdate where
  token : String
  endpoint : String
  sessionId : String
  channelId : ℕ
  deriving DecidableEq, Repr

/-- The body of a player update; an absent key leaves the player's value. A track
is its encoded form and the generation in its user data, or an encoded `null`. -/
structure Patch where
  voice : Option VoiceUpdate := none
  track : Option (Option (String × ℕ)) := none
  position : Option ℕ := none
  paused : Option Bool := none
  volume : Option ℕ := none
  deriving DecidableEq, Repr

/-- The update names a track to play. -/
def Patch.startsTrack (patch : Patch) : Bool :=
  match patch.track with
  | some (some _) => true
  | _ => false

/-- The player of a guild in the backend. -/
structure Player where
  track : Option (String × ℕ)
  paused : Bool
  volume : ℕ
  deriving DecidableEq, Repr

/-- A player that was just created. -/
def Player.fresh : Player := ⟨none, false, 100⟩

/-- Carry out an update. -/
def Player.apply (self : Player) (patch : Patch) : Player :=
  { track := patch.track.getD self.track
    paused := patch.paused.getD self.paused
    volume := patch.volume.getD self.volume }

/-- `payload["track"]["userData"]["raydioGeneration"]`. -/
def payloadGeneration (payload : Value) : Option ℕ :=
  (((payload.get "track").get "userData").get "raydioGeneration").asU64

/-- The kinds of event that end a track. -/
def terminalKinds : List String := ["TrackEndEvent", "TrackExceptionEvent", "TrackStuckEvent"]

/-- `payload["type"].as_str().unwrap_or("")`. -/
def payloadKind (payload : Value) : String := (payload.get "type").asStr.getD ""

/-- The payload is a terminal event for a track of the generation. -/
def endsGeneration (payload : Value) (generation : ℕ) : Bool :=
  !(payload.get "op").isStr "playerUpdate" && terminalKinds.contains (payloadKind payload) &&
    payloadGeneration payload == some generation

/-! ## Moments -/

/-- Which requests to the node fail. -/
inductive Refusal
  | nothing
  | trackStarts
  | everything
  deriving DecidableEq, Repr

/-- A request that starts a track, or does not, fails. -/
def Refusal.refuses (self : Refusal) (startsTrack : Bool) : Bool :=
  match self with
  | .nothing => false
  | .trackStarts => startsTrack
  | .everything => true

/-- How an edit of the player message, or a check of it, came out. -/
inductive EditOutcome
  | delivered
  | stale
  | transientFailure
  | terminalFailure
  deriving DecidableEq, Repr

/-- What happens during one suspension. The first group is what the outside does,
the second how the awaited call comes back. -/
structure Moment where
  elapsed : ℕ := 0
  cache : Option Cache := none
  health : Option Health := none
  gatewayOpen : Option Bool := none
  latencyMs : Option ℕ := none
  ending : Option Value := none
  refusal : Refusal := .nothing
  snapshot : Option Value := none
  /-- The message of a reply, or whether its failure is a transient one. -/
  message : Except Bool MessageRef := .error false
  member : Option (List ℕ) := none
  delivered : Bool := false
  edited : Joined EditOutcome := .panicked
  expired : Bool := true
  pick : ℕ := 0

/-- A suspension during which nothing happens. -/
def Moment.quiet : Moment := {}

/-! ## Calls -/

/-- A call to the outside. -/
inductive Call
  | update (session : String) (patch : Patch) (accepted : Bool)
  | destroy (session : String) (accepted : Bool)
  | player (session : String)
  | voiceState (channel : Option ℕ)
  | respond (request : Request) (view : View)
  | followup (request : Request) (text : String)
  | edit (message : MessageRef) (view : View)
  | message (channel : ℕ) (text : String)
  | member
  deriving DecidableEq, Repr

/-- The shared state, the outside with the script it follows, and the calls made. -/
structure Shared where
  config : Config
  bot : ℕ
  all : Permissions
  parseUrl : String → Option Url
  cache : Cache
  health : Health
  gatewayOpen : Bool
  latencyMs : ℕ
  interactionErrors : ℕ
  now : ℕ
  player : Option Player
  /-- The terminal events of the tracks that the backend ended on its own. -/
  endings : List Value
  /-- Those among them that no session has handled yet. -/
  unhandled : List Value
  script : List Moment
  random : List ℕ
  calls : List Call

namespace Shared

/-- The shared state of a bot that has not played anything in the guild yet. -/
def start (config : Config) (bot : ℕ) (all : Permissions) (parseUrl : String → Option Url)
    (cache : Cache) (health : Health) : Shared :=
  { config := config, bot := bot, all := all, parseUrl := parseUrl, cache := cache
    health := health, gatewayOpen := true, latencyMs := 0, interactionErrors := 0, now := 0
    player := none, endings := [], unhandled := [], script := [], random := [], calls := [] }

/-- The backend may end its track, with a terminal event for it. -/
def endTrack (self : Shared) (ending : Option Value) : Shared :=
  match ending, self.player with
  | some payload, some ⟨some (_, generation), paused, volume⟩ =>
      if endsGeneration payload generation then
        { self with
          player := some ⟨none, paused, volume⟩
          endings := self.endings ++ [payload]
          unhandled := self.unhandled ++ [payload] }
      else self
  | _, _ => self

/-- A moment passes. -/
def pass (self : Shared) (moment : Moment) : Shared :=
  { self.endTrack moment.ending with
    now := self.now + moment.elapsed
    cache := moment.cache.getD self.cache
    health := moment.health.getD self.health
    gatewayOpen := moment.gatewayOpen.getD self.gatewayOpen
    latencyMs := moment.latencyMs.getD self.latencyMs }

/-- Suspend for the next moment of the script. -/
def suspend (self : Shared) : Moment × Shared :=
  match self.script with
  | [] => (.quiet, self)
  | moment :: rest => (moment, ({ self with script := rest } : Shared).pass moment)

/-- Note down a call. -/
def record (self : Shared) (call : Call) : Shared :=
  { self with calls := self.calls ++ [call] }

/-- The request reaches the backend, which carries it out or refuses it. It names the
session that the node had when it was sent. -/
def receive (self : Shared) (session : String) (patch : Patch) (accepted : Bool) : Shared :=
  { self with
    player := if accepted then some ((self.player.getD .fresh).apply patch) else self.player
    calls := self.calls ++ [.update session patch accepted] }

/-- `Node::update`: whether the node accepted the update. The suspensions are the
way to the backend and the way back. -/
def update (self : Shared) (patch : Patch) : Bool × Shared :=
  if !self.health.ready then (false, self)
  else
    let sent := self.suspend
    let accepted := !sent.1.refusal.refuses patch.startsTrack
    (accepted, (sent.2.receive self.health.session patch accepted).suspend.2)

/-- The deletion reaches the backend. -/
def receiveDestroy (self : Shared) (session : String) (accepted : Bool) : Shared :=
  { self with
    player := if accepted then none else self.player
    calls := self.calls ++ [.destroy session accepted] }

/-- `Node::destroy`. Its result is never looked at; running out of time is a refusal. -/
def destroy (self : Shared) : Shared :=
  if !self.health.ready then self
  else
    let sent := self.suspend
    (sent.2.receiveDestroy self.health.session !(sent.1.refusal.refuses false)).suspend.2

/-- The GET of the player: its body, if it came in time. -/
def getPlayer (self : Shared) : Option Value × Shared :=
  let sent := (self.record (.player self.health.session)).suspend
  (sent.1.snapshot, sent.2)

/-- `Request::respond`. -/
def respond (self : Shared) (request : Request) (view : View) : Except Bool MessageRef × Shared :=
  let sent := (self.record (.respond request view)).suspend
  (sent.1.message, sent.2)

/-- `Request::respond_no_model`: whether the edit was delivered. -/
def respondNoModel (self : Shared) (request : Request) (view : View) : Bool × Shared :=
  match request.interaction.message with
  | none => (false, self)
  | some message =>
      let sent := (self.record (.edit message view)).suspend
      (sent.1.delivered, sent.2)

/-- `Request::error`; a transient failure of the reply is tried once more. -/
def error (self : Shared) (request : Request) (text : String) : Shared :=
  if request.updatesMessage then (self.record (.followup request text)).suspend.2
  else
    let sent := self.respond request (View.text text)
    match sent.1 with
    | .error true => (sent.2.respond request (View.text text)).2
    | _ => sent.2

/-- `Http::create_message` with its deadline. -/
def createMessage (self : Shared) (channel : ℕ) (text : String) : Shared :=
  (self.record (.message channel text)).suspend.2

/-- `MessageSender::command` with a voice state update; it fails on a closed gateway. -/
def command (self : Shared) (channel : Option ℕ) : Bool × Shared :=
  if self.gatewayOpen then (true, self.record (.voiceState channel)) else (false, self)

/-- `Shared::loaded`. -/
def loaded (self : Shared) (guild : ℕ) : Bool :=
  (self.cache.guilds[guild]?).any Guild.available

/-- `Shared::access`. -/
def access (self : Shared) (guild user : ℕ) (intended : Option ℕ) : Except String ℕ :=
  match self.cache.guilds[guild]? with
  | none => .error "Raydio commands are available only in a loaded server."
  | some g => (g.access self.all guild user self.bot intended).value
      (g.access_returns self.all guild user self.bot intended)

/-- `Shared::ensure_bot_membership`: fetch the bot's roles if the guild lacks them. -/
def ensureBotMembership (self : Shared) (guild : ℕ) : Shared :=
  if (self.cache.guilds[guild]?).any fun g => g.available && g.botRoles.isNone then
    let sent := (self.record .member).suspend
    match sent.1.member with
    | some roles => { sent.2 with cache := sent.2.cache.modify guild fun g => g.member roles }
    | none => sent.2
  else self

/-- `random_token`. -/
def randomToken (self : Shared) : String × Shared :=
  (Text.hex16 (self.random.headD 0 % 2 ^ 64), { self with random := self.random.tail })

end Shared

end Raydio.Session
