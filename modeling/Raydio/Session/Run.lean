/-
# Runs of a session

`run` waits for one of several things, handles it and looks after what follows
from it. A run is any order of such turns, between which the outside moves: time
passes, the backend ends a track, tasks of the session come to their end.
-/

import Raydio.Session.Interaction

namespace Raydio.Session

open Raydio.Foundation Raydio.Playback Raydio.Discord Raydio.Resolver Raydio.Voice Raydio.Node

/-- A move of the outside while no handler runs. -/
inductive Outside
  | pass (moment : Moment)
  | endLoader (index : ℕ) (how : Joined (Except Failure Resolution))
  | endResponse (index : ℕ) (how : Joined Unit)
  | endPreparation (index : ℕ) (how : Joined Bool)
  | endDeletion (index : ℕ) (how : Joined Unit)
  | endEdit (index : ℕ) (how : Joined EditOutcome)

/-- What a turn of the loop waits for. -/
inductive Arm
  /-- An interaction, and whether its acknowledgement is confirmed. -/
  | interaction (request : Request) (acknowledged : Bool)
  | backend (payload : Value)
  /-- A terminal event of a track that the backend ended on its own. -/
  | ending (index : ℕ)
  | voiceChanged
  | invalidated
  | connected
  | joinLoader (index : ℕ)
  | joinResponse (index : ℕ)
  | joinPreparation (index : ℕ)
  | joinDeletion (index : ℕ)
  | joinEdit (index : ℕ)
  | tick

/-- One element of a run. A turn has the script of its suspensions and its random
draws; `cut` says where the last cleanup is cut off if the turn ends the worker. -/
inductive Input
  | outside (move : Outside)
  | turn (arm : Arm) (script : List Moment) (random : List ℕ) (cut : ℕ)
  /-- The service shuts down, or the mailbox is closed. -/
  | close (script : List Moment) (random : List ℕ) (cut : ℕ)

/-- The text for a changed node session. -/
def invalidatedNotice : String :=
  "Music service session changed. The queue was cleared; use `/play` again."

namespace GuildSession

/-- A move of the outside. -/
def outside (self : GuildSession) : Outside → GuildSession
  | .pass moment => { self with shared := self.shared.pass moment }
  | .endLoader index how => { self with loaders := self.loaders.finish index fun _ => how }
  | .endResponse index how => { self with responses := self.responses.finish index fun _ => how }
  | .endPreparation index how =>
      { self with
        preparations := self.preparations.finish index fun _ => how
        intents := self.intents ++ self.accepting index how }
  | .endDeletion index how =>
      { self with panelDeletions := self.panelDeletions.finish index fun _ => how }
  | .endEdit index how => { self with panelEdits := self.panelEdits.finish index fun _ => how }

/-- Count an interaction whose acknowledgement could not be confirmed. -/
def discard (self : GuildSession) : GuildSession :=
  { self with shared.interactionErrors := self.shared.interactionErrors + 1 }

/-- `Message::Connected`. -/
def onConnected (self : GuildSession) : GuildSession :=
  if self.channel.isNone then self.destroy
  else if self.queue.current.isNone then self.startCurrent.2
  else self.voiceChanged

/-- The handler of an arm, if the arm is ready. -/
def handle (self : GuildSession) : Arm → Option GuildSession
  | .interaction request acknowledged =>
      some (if acknowledged then self.suspend.2.interaction request else self.suspend.2.discard)
  | .backend payload => some (self.backend payload)
  | .ending index =>
      match self.shared.unhandled[index]? with
      | none => none
      | some payload =>
          some (({ self with shared.unhandled := self.shared.unhandled.eraseIdx index } :
            GuildSession).backend payload)
  | .voiceChanged => some self.voiceChanged
  | .invalidated => some (self.cleanup (some invalidatedNotice))
  | .connected => some self.onConnected
  | .joinLoader index =>
      if (self.loaders.joinNext index).isSome then some (self.joinLoader index) else none
  | .joinResponse index =>
      match self.responses.joinNext index with
      | none => none
      | some (_, _, responses) => some { self with responses := responses }
  | .joinPreparation index =>
      match self.preparations.joinNext index with
      | none => none
      | some (task, how, preparations) =>
          some (({ self with preparations := preparations } : GuildSession).finishPreparation
            task.tag how)
  | .joinDeletion index =>
      match self.panelDeletions.joinNext index with
      | none => none
      | some (_, _, panelDeletions) => some { self with panelDeletions := panelDeletions }
  | .joinEdit index =>
      match self.panelEdits.joinNext index with
      | none => none
      | some (task, how, panelEdits) =>
          some (({ self with panelEdits := panelEdits } : GuildSession).finishRefresh
            task.tag how).refresh
  | .tick => some self.tick

/-- What follows every handler. -/
def followUp (self : GuildSession) : GuildSession :=
  self.startLoad.prepareNext.publishActivity

/-- The player message is taken, and its deletion not scheduled yet. -/
def takePanel (self : GuildSession) : GuildSession :=
  match self.panel with
  | some panel => ({ self with panel := none } : GuildSession).note (.retired panel.ref)
  | none => self

/-- The last cleanup under its deadline, which may cut it off while it waits: for
the preparations, for the edits of the player message, for room among the
deletions, or for the node. -/
def cleanupUntil (self : GuildSession) : (cut : ℕ) → GuildSession
  | 0 => { self.suspend.2 with preparations := .new }
  | 1 => self.forgetPreparations.invalidate.retireEdits
  | 2 => self.forgetPreparations.invalidate.retireEdits.takePanel
  | 3 => self.forgetPreparations.invalidate.removePanel.reset
  | _ => self.cleanup none

/-- What follows the loop of `run`. -/
def close (self : GuildSession) (cut : ℕ) : GuildSession :=
  let self := { self with
    toPipeline := self.toPipeline.abort, preparations := self.preparations.abortAll }
  let self := self.cleanupUntil cut
  let self := { self with panelEdits := .new }
  let self := { self.suspend.2 with panelDeletions := .new }
  ({ self with responses := self.responses.abortAll } : GuildSession).publishActivity

/-- Give the session the script and the random draws of its next turn. -/
def prepare (self : GuildSession) (script : List Moment) (random : List ℕ) : GuildSession :=
  { self with shared.script := script, shared.random := random }

end GuildSession

/-- A worker, which runs its session or has ended. -/
inductive Worker
  | running (session : GuildSession)
  | ended (session : GuildSession)

namespace Worker

/-- The session of a worker. -/
def session : Worker → GuildSession
  | running session => session
  | ended session => session

/-- One step of a run. -/
def step (self : Worker) (input : Input) : Worker :=
  match self, input with
  | ended session, _ => ended session
  | running session, .outside move => running (session.outside move)
  | running session, .turn arm script random cut =>
      match (session.prepare script random).handle arm with
      | none => running session
      | some session =>
          let session := session.followUp
          if session.guild.isNone then ended (session.close cut) else running session
  | running session, .close script random cut => ended ((session.prepare script random).close cut)

/-- A run. -/
def run (self : Worker) (inputs : List Input) : Worker := inputs.foldl step self

/-- The worker of a guild before its first turn. -/
def start (id : ℕ) (shared : Shared) : Worker := running (.new id shared)

end Worker

/-! ## A small guild

The guild 1, whose user 7 is in the voice channel 5, the bot 9 and a node that is
ready. Fixed runs that refute a general statement take place here.
-/

namespace Sample

/-- The guild; the bot is in the voice channel, as after a handshake. -/
def guild : Guild :=
  { Guild.default with
    available := true
    channels := (∅ : Std.TreeMap ℕ ChannelAccess).insert 5 ⟨.guildVoice, none, []⟩
    botRoles := some []
    voices := ((∅ : Std.TreeMap ℕ VoiceEntry).insert 7 ⟨5, false, "u"⟩).insert 9 ⟨5, true, "s"⟩
    owner := 9 }

/-- The cache with the guild and a voice server. -/
def cache : Cache :=
  { Cache.default with
    guilds := (∅ : Std.TreeMap ℕ Guild).insert 1
      { guild with server := some ⟨"token", "endpoint"⟩ } }

def config : Config :=
  { volume := 80, idleSeconds := 300, aloneSeconds := 60, pending := 4,
    limits := ⟨20, 20, 0, true⟩ }

def shared : Shared :=
  .start config 9 (BitVec.allOnes 64) (fun _ => none) cache { Health.default with ready := true }

/-- A slash command of the user. -/
def command (name : String) (options : List (String × OptionValue)) : Request :=
  .new ⟨0, some ⟨7, "user", none⟩, none, some 3, none, .applicationCommand name options⟩

def track (encoded : String) : Track :=
  ⟨encoded, encoded, encoded, "author", 60000, false, none, "", ""⟩

/-- A turn that handles a slash command while nothing else happens but, at each
suspension, that the voice server is there again. -/
def turn (request : Request) : Input :=
  .turn (.interaction request true) (.replicate 8 { cache := some cache, expired := false }) [] 4

/-- A terminal event for a generation. -/
def event (kind reason : String) (generation : UInt64) : Value :=
  .object [("op", .string "event"), ("type", .string kind), ("reason", .string reason),
    ("track", .object [("userData",
      .object [("raydioGeneration", .number (.posInt generation))])])]

def play : Input := turn (command "play" [("request", .string "song")])

/-- The request is resolved to the tracks and committed. -/
def resolve (tracks : List Track) : List Input :=
  [.outside (.endLoader 0 (.finished (.ok ⟨tracks, none, 0, 0⟩))),
    .turn (.joinLoader 0) (.replicate 8 { cache := some cache, expired := false }) [] 4]

end Sample

end Raydio.Session
