/-
# The select loop of the runtime

The loop owns the gateway, the event stream of the music node and one worker for each
guild that used the bot. A worker is reached through a mailbox with 128 slots; its
receiver is dropped when the worker's task is over, some time before the task is
joined and its sender forgotten. Sending to a full mailbox and sending to one without
a receiver fail alike.

What a guild worker does with its messages is the subject of the session modules;
here it takes them in order, and leaves its loop once its guild is gone or the bot
shuts down. The cache is replaced by whatever a gateway event makes of it.
-/

import Raydio.Foundation.Json
import Raydio.Foundation.Runs
import Raydio.Foundation.Text

namespace Raydio.Runtime

open Raydio.Foundation

/-- What is sent to a guild worker. -/
inductive Message
  | interaction
  | backend (payload : Value)
  | voiceChanged
  | invalidated
  | connected

/-- Where the task of a worker is: handling messages, cleaning up after it left its
loop, or over, in one of two ways. -/
inductive Phase
  | running
  | closing
  | exited
  | panicked
  deriving DecidableEq, Repr

/-- The task of a worker with the receiving end of its mailbox. -/
structure Actor where
  guild : ℕ
  /-- Tells the mailboxes of a guild's successive workers apart. -/
  channel : ℕ
  phase : Phase
  mailbox : List Message

/-- The slots of a mailbox. -/
def mailboxSize : ℕ := 128

/-- `MAX_GUILDS`. -/
def maxGuilds : ℕ := 1000

/-- The receiver of the mailbox still exists. -/
def Actor.listening (self : Actor) : Bool :=
  self.phase = .running || self.phase = .closing

/-- The mailbox takes another message. -/
def Actor.accepts (self : Actor) : Bool :=
  self.listening && decide (self.mailbox.length < mailboxSize)

/-- `Sender::try_send` on the sender of a channel: whether it succeeds. -/
def trySend (actors : List Actor) (channel : ℕ) (message : Message) : Bool × List Actor :=
  if actors.any fun actor => actor.channel = channel && actor.accepts then
    (true, actors.map fun actor =>
      if actor.channel = channel then { actor with mailbox := actor.mailbox ++ [message] }
      else actor)
  else (false, actors)

/-- Send to one channel after the other, up to the first failure. -/
def sendAll (actors : List Actor) (message : Message) : List ℕ → Bool × List Actor
  | [] => (true, actors)
  | channel :: rest =>
      let sent := trySend actors channel message
      if sent.1 then sendAll sent.2 message rest else (false, sent.2)

/-- An event of the music node. -/
inductive NodeEvent
  | invalidated
  | connected
  | payload (payload : Value)

/-- The kinds of interaction that are told apart. -/
inductive InteractionKind
  | autocomplete
  | handled
  | other
  deriving DecidableEq, Repr

/-- An interaction; `denied` says that it asks for the diagnostics without the
permission to see them. -/
structure Interaction where
  guild : Option ℕ
  kind : InteractionKind
  denied : Bool
  deriving DecidableEq, Repr

/-- A gateway event: the cached guilds after it, with whether each is available, the
guild whose voice state it changed, and the interaction it carries. -/
structure GatewayEvent where
  cache : List (ℕ × Bool)
  changed : Option ℕ
  interaction : Option Interaction

/-- How the loop ended. -/
inductive Ending
  | cancelled
  | workerFailed
  | lifecycleOverloaded
  | eventOverloaded
  | nodeClosed
  | gatewayStopped
  deriving DecidableEq, Repr

/-- The ending is an error. -/
def Ending.isError (self : Ending) : Bool := self ≠ .cancelled

/-- The state of the loop. -/
structure Loop where
  cache : List (ℕ × Bool)
  /-- The senders: guilds with the channels of their workers. -/
  guilds : List (ℕ × ℕ)
  /-- The workers that were not joined yet. -/
  actors : List Actor
  /-- How many channels were opened. -/
  channels : ℕ
  jobs : ℕ
  rejections : ℕ
  interactionErrors : ℕ
  cancelled : Bool
  ending : Option Ending

/-- What happens next: a worker moves, or an arm of the loop is taken. -/
inductive Event
  | receive (index : ℕ)
  | leave (index : ℕ)
  | exit (index : ℕ)
  | crash (index : ℕ)
  | shutdown
  | cancelled
  | joinJob
  | joinRejection
  | reap (index : ℕ)
  /-- The node's next event, or the end of its stream. -/
  | node (event : Option NodeEvent)
  /-- The gateway's next event, which may be a failed receive, or its end. -/
  | gateway (event : Option (Option GatewayEvent))

namespace Loop

/-- The loop before its first event. -/
def start : Loop :=
  { cache := [], guilds := [], actors := [], channels := 0, jobs := 0, rejections := 0
    interactionErrors := 0, cancelled := false, ending := none }

/-- Leave the loop. -/
def finish (self : Loop) (ending : Ending) : Loop := { self with ending := some ending }

/-! ## Workers -/

/-- A worker moves. -/
def modify (self : Loop) (index : ℕ) (change : Actor → Actor) : Loop :=
  { self with actors := self.actors.modify index change }

/-- The guild is cached. -/
def cached (self : Loop) (guild : ℕ) : Bool := (self.cache.lookup guild).isSome

/-- `Shared::loaded`. -/
def loaded (self : Loop) (guild : ℕ) : Bool := (self.cache.lookup guild).getD false

/-- A running worker takes its next message. -/
def receive (self : Loop) (index : ℕ) : Loop :=
  self.modify index fun actor =>
    if actor.phase = .running then { actor with mailbox := actor.mailbox.tail } else actor

/-- A worker looks for its guild after a turn, and at the shutdown of the bot. -/
def leave (self : Loop) (index : ℕ) : Loop :=
  self.modify index fun actor =>
    if actor.phase = .running && (self.cancelled || !self.cached actor.guild) then
      { actor with phase := .closing }
    else actor

/-- The task of a worker is over, and its receiver is dropped. -/
def exit (self : Loop) (index : ℕ) : Loop :=
  self.modify index fun actor =>
    if actor.phase = .closing then { actor with phase := .exited, mailbox := [] } else actor

/-- A worker panics. -/
def crash (self : Loop) (index : ℕ) : Loop :=
  self.modify index fun actor =>
    if actor.listening then { actor with phase := .panicked, mailbox := [] } else actor

/-- `actors.join_next`. -/
def reap (self : Loop) (index : ℕ) : Loop :=
  match self.actors[index]? with
  | none => self
  | some actor =>
      match actor.phase with
      | .exited =>
          { self with
            actors := self.actors.eraseIdx index
            guilds := self.guilds.filter fun entry => entry.1 ≠ actor.guild }
      | .panicked =>
          ({ self with actors := self.actors.eraseIdx index } : Loop).finish .workerFailed
      | _ => self

/-! ## Node events -/

/-- The guild that a payload names. -/
def payloadGuild (payload : Value) : Option ℕ :=
  (payload.get "guildId").asStr.bind (Text.parseUnsigned (2 ^ 64 - 1))

/-- The channels that a node event is sent to. -/
def targets (self : Loop) : NodeEvent → List ℕ
  | .invalidated | .connected => self.guilds.map Prod.snd
  | .payload payload => ((payloadGuild payload).bind fun guild => self.guilds.lookup guild).toList

/-- Send a message to channels; a failure ends the loop. -/
def dispatch (self : Loop) (message : Message) (channels : List ℕ) (overload : Ending) : Loop :=
  let sent := sendAll self.actors message channels
  let self := { self with actors := sent.2 }
  if sent.1 then self else self.finish overload

/-- The arm of node events. -/
def nodeEvent (self : Loop) (event : NodeEvent) : Loop :=
  match event with
  | .invalidated => self.dispatch .invalidated (self.targets event) .lifecycleOverloaded
  | .connected => self.dispatch .connected (self.targets event) .lifecycleOverloaded
  | .payload payload => self.dispatch (.backend payload) (self.targets event) .eventOverloaded

/-! ## Gateway events -/

/-- `reject`. -/
def reject (self : Loop) : Loop :=
  { self with
    interactionErrors := self.interactionErrors + 1
    rejections := if self.rejections < 16 then self.rejections + 1 else self.rejections }

/-- Spawn the worker of a guild. -/
def spawn (self : Loop) (guild : ℕ) : Loop :=
  { self with
    guilds := self.guilds ++ [(guild, self.channels)]
    actors := self.actors ++ [⟨guild, self.channels, .running, []⟩]
    channels := self.channels + 1 }

/-- Hand an interaction to the worker of its guild. -/
def deliver (self : Loop) (channel : ℕ) : Loop :=
  let sent := trySend self.actors channel .interaction
  if sent.1 then { self with actors := sent.2, jobs := self.jobs + 1 }
  else ({ self with actors := sent.2 } : Loop).reject

/-- The interaction of a gateway event. -/
def interact (self : Loop) (interaction : Interaction) : Loop :=
  match interaction.guild with
  | none => self.reject
  | some guild =>
      if self.jobs ≥ 128 then self.reject
      else if interaction.kind = .autocomplete then { self with jobs := self.jobs + 1 }
      else if interaction.kind = .other then self
      else if interaction.denied || !self.loaded guild then self.reject
      else match self.guilds.lookup guild with
      | some channel => self.deliver channel
      | none =>
          if self.guilds.length ≥ maxGuilds then self.reject
          else (self.spawn guild).deliver self.channels

/-- Tell a worker that the voice state of its guild changed; a failure is ignored. -/
def voiceChanged (self : Loop) (guild : ℕ) : Loop :=
  match self.guilds.lookup guild with
  | none => self
  | some channel => { self with actors := (trySend self.actors channel .voiceChanged).2 }

/-- The arm of gateway events. -/
def gatewayEvent (self : Loop) (event : GatewayEvent) : Loop :=
  let self := { self with cache := event.cache }
  let self := match event.changed with
    | none => self
    | some guild => self.voiceChanged guild
  match event.interaction with
  | none => self
  | some interaction => self.interact interaction

/-! ## Steps -/

/-- One step of the loop, or of a worker. -/
def step (self : Loop) (event : Event) : Loop :=
  if self.ending.isSome then self
  else match event with
  | .receive index => self.receive index
  | .leave index => self.leave index
  | .exit index => self.exit index
  | .crash index => self.crash index
  | .shutdown => { self with cancelled := true }
  | .cancelled => if self.cancelled then self.finish .cancelled else self
  | .joinJob => { self with jobs := self.jobs - 1 }
  | .joinRejection => { self with rejections := self.rejections - 1 }
  | .reap index => self.reap index
  | .node none => self.finish .nodeClosed
  | .node (some event) => self.nodeEvent event
  | .gateway none => self.finish .gatewayStopped
  -- A failed receive only unsets the flag that the gateway is connected.
  | .gateway (some none) => self
  | .gateway (some (some event)) => self.gatewayEvent event

end Loop

end Raydio.Runtime
