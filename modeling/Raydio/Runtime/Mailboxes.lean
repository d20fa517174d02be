/-
# What becomes of accepted interactions

An interaction that a mailbox took is acknowledged by a job of its own, while the
worker of the guild comes to it: the worker takes it out, waits for the outcome of the
acknowledgement, and handles it if that was confirmed. The job is over within four
seconds, and the worker waits for five, so the wait ends with the outcome.

A ticket follows each accepted interaction: how many messages are before it in its
mailbox, and what became of it. A worker that looks for its guild and does not find it
leaves its loop and takes nothing more; its sender stays known until its task is joined.
Here are the tickets with their moves, and what becomes of the worker of a ticket when
the loop or a worker moves.
-/

import Raydio.Runtime.Departures

namespace Raydio.Runtime

open Raydio.Foundation

/-- What has become of an accepted interaction. -/
inductive Fate
  /-- It is in the mailbox, behind so many messages. -/
  | waiting (position : ℕ)
  /-- The worker took it out and waits for its acknowledgement. -/
  | taken
  | handled
  | discarded
  /-- It was in the mailbox when the worker's task was over. -/
  | lost
  deriving DecidableEq, Repr

/-- An interaction that a mailbox took. -/
structure Ticket where
  channel : ℕ
  acknowledged : Option Bool
  fate : Fate
  deriving DecidableEq, Repr

/-- The loop with the interactions that were accepted, in this order. -/
structure Tracked where
  loop : Loop
  tickets : List Ticket

/-- A step of the loop or of a worker, the end of an acknowledgement, or the end of a
worker's wait for one. -/
inductive Move
  | loop (event : Event)
  | acknowledge (ticket : ℕ) (confirmed : Bool)
  | settle (ticket : ℕ)

namespace Loop

/-- The worker at the receiving end of a channel. -/
def worker (self : Loop) (channel : ℕ) : Option Actor :=
  self.actors.find? fun actor => actor.channel = channel

/-- The loop when a gateway event reached the cache and the worker of the changed guild. -/
def heard (self : Loop) (event : GatewayEvent) : Loop :=
  let self := { self with cache := event.cache }
  match event.changed with
  | none => self
  | some guild => self.voiceChanged guild

/-- The channel to which an interaction is sent, with the loop at that moment. -/
def recipient (self : Loop) (interaction : Interaction) : Option (Loop × ℕ) :=
  match interaction.guild with
  | none => none
  | some guild =>
      if self.jobs ≥ 128 then none
      else if interaction.kind = .autocomplete then none
      else if interaction.kind = .other then none
      else if interaction.denied || !self.loaded guild then none
      else match self.guilds.lookup guild with
      | some channel => some (self, channel)
      | none =>
          if self.guilds.length ≥ maxGuilds then none
          else some (self.spawn guild, self.channels)

/-- The ticket of an interaction that is sent to a channel, if its mailbox takes it. -/
def ticket (self : Loop) (channel : ℕ) : Option Ticket :=
  if (trySend self.actors channel .interaction).1 then
    some ⟨channel, none, .waiting (((self.worker channel).map fun actor =>
      actor.mailbox.length).getD 0)⟩
  else none

/-- The ticket of the interaction that a gateway event carries. -/
def accepted (self : Loop) (event : GatewayEvent) : Option Ticket :=
  (event.interaction.bind (self.heard event).recipient).bind fun (loop, channel) =>
    loop.ticket channel

end Loop

namespace Ticket

/-- The first message of a mailbox is taken. -/
def advance (self : Ticket) (channel : ℕ) : Ticket :=
  if self.channel = channel then
    match self.fate with
    | .waiting 0 => { self with fate := .taken }
    | .waiting (position + 1) => { self with fate := .waiting position }
    | _ => self
  else self

/-- The mailbox is dropped, with its worker. -/
def drop (self : Ticket) (channel : ℕ) : Ticket :=
  if self.channel = channel then
    match self.fate with
    | .waiting _ | .taken => { self with fate := .lost }
    | _ => self
  else self

/-- The acknowledgement is over. -/
def acknowledge (self : Ticket) (confirmed : Bool) : Ticket :=
  match self.acknowledged with
  | none => { self with acknowledged := some confirmed }
  | some _ => self

/-- The worker learns the outcome of the acknowledgement. -/
def settle (self : Ticket) : Ticket :=
  match self.fate, self.acknowledged with
  | .taken, some true => { self with fate := .handled }
  | .taken, some false => { self with fate := .discarded }
  | _, _ => self

end Ticket

namespace Tracked

def start : Tracked := ⟨.start, []⟩

/-- The worker of the channel waits for an acknowledgement. -/
def busy (self : Tracked) (channel : ℕ) : Bool :=
  self.tickets.any fun ticket => ticket.channel = channel && ticket.fate = .taken

/-- A worker that is free to do so takes its next message. -/
def receives (self : Tracked) (actor : Actor) : Bool :=
  actor.phase = .running && !self.busy actor.channel && !actor.mailbox.isEmpty

/-- A worker that is free to look for its guild does not find it. -/
def leaves (self : Tracked) (actor : Actor) : Bool :=
  actor.phase = .running && !self.busy actor.channel &&
    (self.loop.cancelled || !self.loop.cached actor.guild)

/-- A step of the loop, with its effect on the tickets. -/
def advance (self : Tracked) (event : Event) : Tracked :=
  match event with
  | .receive index =>
      match self.loop.actors[index]? with
      | some actor =>
          if self.receives actor then
            ⟨self.loop.step event, self.tickets.map fun ticket => ticket.advance actor.channel⟩
          else self
      | none => self
  | .leave index =>
      match self.loop.actors[index]? with
      | some actor => if self.leaves actor then ⟨self.loop.step event, self.tickets⟩ else self
      | none => self
  | .exit index =>
      match self.loop.actors[index]? with
      | some actor =>
          if actor.phase = .closing then
            ⟨self.loop.step event, self.tickets.map fun ticket => ticket.drop actor.channel⟩
          else self
      | none => self
  | .crash index =>
      match self.loop.actors[index]? with
      | some actor =>
          if actor.listening then
            ⟨self.loop.step event, self.tickets.map fun ticket => ticket.drop actor.channel⟩
          else self
      | none => self
  | .gateway (some (some gateway)) =>
      ⟨self.loop.step event, self.tickets ++ (self.loop.accepted gateway).toList⟩
  | _ => ⟨self.loop.step event, self.tickets⟩

/-- One move. -/
def step (self : Tracked) (move : Move) : Tracked :=
  match move with
  | .loop event => if self.loop.ending.isSome then self else self.advance event
  | .acknowledge index confirmed =>
      { self with tickets := self.tickets.modify index fun ticket => ticket.acknowledge confirmed }
  | .settle index => { self with tickets := self.tickets.modify index Ticket.settle }

end Tracked

/-! ## Workers of a loop that runs -/

variable {loop : Loop} {actor : Actor} {channel index : ℕ} {message : Message}

theorem Linked.channels_nodup (h : Linked loop) : (loop.actors.map Actor.channel).Nodup := by
  have hmapped := h.entries.map Prod.snd
  rw [List.map_map] at hmapped
  exact hmapped.nodup_iff.mp h.channels

/-- A worker is the one at the end of its own channel. -/
theorem worker_iff (hnodup : (loop.actors.map Actor.channel).Nodup) :
    loop.worker channel = some actor ↔ actor ∈ loop.actors ∧ actor.channel = channel := by
  constructor
  · intro hworker
    exact ⟨List.mem_of_find?_eq_some hworker, by simpa using List.find?_some hworker⟩
  · rintro ⟨hmem, rfl⟩
    cases hfound : loop.worker actor.channel with
    | none =>
        have hnone := List.find?_eq_none.mp hfound actor hmem
        simp at hnone
    | some other =>
        have hsame : other.channel = actor.channel := by simpa using List.find?_some hfound
        rw [List.inj_on_of_nodup_map hnodup (List.mem_of_find?_eq_some hfound) hmem hsame]

theorem Linked.worker_iff (h : Linked loop) :
    loop.worker channel = some actor ↔ actor ∈ loop.actors ∧ actor.channel = channel :=
  Runtime.worker_iff h.channels_nodup

/-- A worker that moves does so at the end of its channel. -/
theorem Linked.worker_modify (h : Linked loop) (hat : loop.actors[index]? = some actor)
    {change : Actor → Actor} (hchange : ∀ actor, (change actor).entry = actor.entry) :
    (loop.modify index change).worker channel =
      if actor.channel = channel then some (change actor) else loop.worker channel := by
  have hlinked := h.modify index change hchange
  have hat' : (loop.modify index change).actors[index]? = some (change actor) := by
    simp [Loop.modify, hat]
  have hchannel : ∀ actor, (change actor).channel = actor.channel := fun actor =>
    congrArg Prod.snd (hchange actor)
  split
  · rename_i hsame
    rw [hlinked.worker_iff]
    exact ⟨List.mem_of_getElem? hat', (hchannel actor).trans hsame⟩
  · rename_i hother
    ext other
    rw [hlinked.worker_iff, h.worker_iff]
    apply and_congr_left
    intro hend
    have hkept : ∀ position : ℕ, (loop.actors.modify index change)[position]? = some other ↔
        loop.actors[position]? = some other := by
      intro position
      by_cases hposition : index = position
      · subst hposition
        rw [List.getElem?_modify_eq, hat, Option.map_eq_map, Option.map_some, Option.some_inj,
          Option.some_inj]
        constructor
        · rintro rfl
          exact absurd ((hchannel actor).symm.trans hend) hother
        · rintro rfl
          exact absurd hend hother
      · rw [List.getElem?_modify_ne _ _ hposition]
    rw [List.mem_iff_getElem?, List.mem_iff_getElem?]
    exact exists_congr hkept

/-- A worker has the same messages first, and perhaps more. -/
def Grown (before after : Actor) : Prop :=
  ∃ more, after = { before with mailbox := before.mailbox ++ more }

theorem Grown.refl (actor : Actor) : Grown actor actor :=
  ⟨[], by rw [List.append_nil]⟩

theorem Grown.trans {first second third : Actor} (h : Grown first second)
    (h' : Grown second third) : Grown first third := by
  obtain ⟨more, rfl⟩ := h
  obtain ⟨rest, rfl⟩ := h'
  exact ⟨more ++ rest, by rw [List.append_assoc]⟩

/-- Every worker is still there, perhaps with more messages. -/
def Grows (before after : Loop) : Prop :=
  ∀ channel actor, before.worker channel = some actor →
    ∃ actor', after.worker channel = some actor' ∧ Grown actor actor'

variable {first second third : Loop}

theorem Grows.of_eq (h : second.actors = first.actors) : Grows first second := by
  intro channel actor hworker
  refine ⟨actor, ?_, .refl actor⟩
  rwa [Loop.worker, h]

theorem Grows.trans (h : Grows first second) (h' : Grows second third) : Grows first third := by
  intro channel actor hworker
  obtain ⟨actor', hworker', hgrown⟩ := h channel actor hworker
  obtain ⟨actor'', hworker'', hgrown'⟩ := h' channel actor' hworker'
  exact ⟨actor'', hworker'', hgrown.trans hgrown'⟩

/-- Sending puts the message last in the mailbox of the channel, if it succeeds. -/
theorem worker_trySend (loop : Loop) (channel other : ℕ) (message : Message) :
    ({ loop with actors := (trySend loop.actors channel message).2 } : Loop).worker other =
      (loop.worker other).map fun actor =>
        if accepting loop.actors channel && actor.channel = channel then
          { actor with mailbox := actor.mailbox ++ [message] }
        else actor := by
  rw [Loop.worker, Loop.worker, trySend, accepting]
  split
  · rename_i haccepts
    rw [List.find?_map]
    have hsame : (fun actor : Actor => decide (actor.channel = other)) ∘ (fun actor : Actor =>
        if actor.channel = channel then { actor with mailbox := actor.mailbox ++ [message] }
        else actor) = fun actor => decide (actor.channel = other) := by
      funext actor
      simp only [Function.comp_apply]
      split <;> rfl
    rw [hsame, haccepts]
    simp
  · rename_i hrefuses
    rw [Bool.eq_false_iff.mpr hrefuses]
    simp

theorem grows_trySend (loop : Loop) (channel : ℕ) (message : Message) :
    Grows loop { loop with actors := (trySend loop.actors channel message).2 } := by
  intro other actor hworker
  refine ⟨_, by rw [worker_trySend, hworker]; rfl, ?_⟩
  dsimp only
  split
  · exact ⟨[message], rfl⟩
  · exact .refl actor

theorem grows_sendAll (loop : Loop) (message : Message) (channels : List ℕ) :
    Grows loop { loop with actors := (sendAll loop.actors message channels).2 } := by
  induction channels generalizing loop with
  | nil => exact .of_eq rfl
  | cons channel rest ih =>
      rw [sendAll]
      split
      · exact (grows_trySend loop channel message).trans
          (ih { loop with actors := (trySend loop.actors channel message).2 })
      · exact grows_trySend loop channel message

theorem grows_dispatch (loop : Loop) (message : Message) (channels : List ℕ) (overload : Ending) :
    Grows loop (loop.dispatch message channels overload) := by
  unfold Loop.dispatch
  dsimp only
  split
  · exact grows_sendAll loop message channels
  · exact grows_sendAll loop message channels

theorem grows_spawn (loop : Loop) (guild : ℕ) : Grows loop (loop.spawn guild) := by
  intro channel actor hworker
  refine ⟨actor, ?_, .refl actor⟩
  rw [Loop.worker] at hworker
  rw [Loop.worker, Loop.spawn, List.find?_append, hworker]
  rfl

theorem grows_heard (loop : Loop) (event : GatewayEvent) : Grows loop (loop.heard event) := by
  unfold Loop.heard
  dsimp only
  split
  · exact .of_eq rfl
  · rw [Loop.voiceChanged]
    split
    · exact .of_eq rfl
    · exact grows_trySend { loop with cache := event.cache } _ _

theorem grows_deliver (loop : Loop) (channel : ℕ) : Grows loop (loop.deliver channel) := by
  unfold Loop.deliver
  dsimp only
  split
  · exact grows_trySend loop channel .interaction
  · exact grows_trySend loop channel .interaction

/-- An interaction goes to its recipient; without one no worker notices it. -/
theorem interact_cases (loop : Loop) (interaction : Interaction) :
    (∃ target channel, loop.recipient interaction = some (target, channel) ∧
        loop.interact interaction = target.deliver channel ∧ (target = loop ∨
          ∃ guild, loop.guilds.lookup guild = none ∧ target = loop.spawn guild ∧
            channel = loop.channels)) ∨
      loop.recipient interaction = none ∧ (loop.interact interaction).actors = loop.actors := by
  rw [Loop.interact, Loop.recipient]
  cases interaction.guild with
  | none => exact .inr ⟨rfl, rfl⟩
  | some guild =>
      dsimp only
      cases hlookup : loop.guilds.lookup guild with
      | some channel =>
          dsimp only
          split_ifs
          any_goals exact .inr ⟨rfl, rfl⟩
          exact .inl ⟨loop, channel, rfl, rfl, .inl rfl⟩
      | none =>
          dsimp only
          split_ifs
          any_goals exact .inr ⟨rfl, rfl⟩
          exact .inl ⟨_, _, rfl, rfl, .inr ⟨guild, hlookup, rfl, rfl⟩⟩

theorem grows_interact (loop : Loop) (interaction : Interaction) :
    Grows loop (loop.interact interaction) := by
  rcases interact_cases loop interaction with
    ⟨target, channel, -, hinteract, htarget⟩ | ⟨-, hactors⟩
  · rw [hinteract]
    rcases htarget with rfl | ⟨guild, -, rfl, -⟩
    · exact grows_deliver _ channel
    · exact (grows_spawn loop guild).trans (grows_deliver _ channel)
  · exact .of_eq hactors

theorem gatewayEvent_eq (loop : Loop) (event : GatewayEvent) :
    loop.gatewayEvent event = match event.interaction with
      | none => loop.heard event
      | some interaction => (loop.heard event).interact interaction := rfl

theorem grows_gatewayEvent (loop : Loop) (event : GatewayEvent) :
    Grows loop (loop.gatewayEvent event) := by
  rw [gatewayEvent_eq]
  split
  · exact grows_heard loop event
  · exact (grows_heard loop event).trans (grows_interact _ _)

theorem Linked.heard (h : Linked loop) (event : GatewayEvent) : Linked (loop.heard event) := by
  have hcache : Linked { loop with cache := event.cache } := h.keep rfl rfl rfl
  unfold Loop.heard
  dsimp only
  split
  · exact hcache
  · rw [Loop.voiceChanged]
    split
    · exact hcache
    · exact hcache.keep rfl (entries_trySend _ _ _) rfl

/-- Joining a worker that is over leaves the others where they are. -/
theorem Linked.worker_reap (h : Linked loop) (index : ℕ)
    (hworker : loop.worker channel = some actor)
    (hlistening : actor.listening = true) : (loop.reap index).worker channel = some actor := by
  obtain ⟨hmem, hchannel⟩ := h.worker_iff.mp hworker
  have hother : ∀ ended, loop.actors[index]? = some ended → ended.listening = false →
      ({ loop with actors := loop.actors.eraseIdx index } : Loop).worker channel = some actor := by
    intro ended hat hover
    have hsublist := (List.eraseIdx_sublist loop.actors index).map Actor.channel
    apply (Runtime.worker_iff (h.channels_nodup.sublist hsublist)).mpr
    refine ⟨?_, hchannel⟩
    obtain ⟨position, hposition⟩ := List.mem_iff_getElem?.mp hmem
    apply List.mem_eraseIdx_iff_getElem?.mpr
    refine ⟨position, ?_, hposition⟩
    rintro rfl
    rw [hposition, Option.some_inj] at hat
    rw [← hat, hlistening] at hover
    cases hover
  rw [Loop.reap]
  split
  · exact hworker
  · rename_i ended hat
    split
    · rename_i hphase
      exact hother ended hat (by simp [Actor.listening, hphase])
    · rename_i hphase
      exact hother ended hat (by simp [Actor.listening, hphase])
    · exact hworker

/-! ## Where interactions are -/

/-- Where an accepted interaction is that was not dealt with: in the mailbox of a worker
that is not over, or with a running one. -/
def Housed (loop : Loop) (ticket : Ticket) : Prop :=
  match ticket.fate with
  | .waiting position => ∃ actor, loop.worker ticket.channel = some actor ∧
      actor.listening = true ∧ actor.mailbox[position]? = some .interaction
  | .taken => ∃ actor, loop.worker ticket.channel = some actor ∧ actor.phase = .running
  | .handled | .lost => True
  | .discarded => ticket.acknowledged = some false

/-- An accepted interaction is served: it waits for a running worker, a running worker has
it, or it was handled; it is discarded only without a confirmed acknowledgement. -/
def Served (loop : Loop) (ticket : Ticket) : Prop :=
  match ticket.fate with
  | .waiting position => ∃ actor, loop.worker ticket.channel = some actor ∧
      actor.phase = .running ∧ actor.mailbox[position]? = some .interaction
  | .taken => ∃ actor, loop.worker ticket.channel = some actor ∧ actor.phase = .running
  | .handled => True
  | .discarded => ticket.acknowledged = some false
  | .lost => False

/-- The interaction waits at the end of the channel. -/
def Ticket.waitsAt (self : Ticket) (channel : ℕ) : Prop :=
  self.channel = channel ∧ ∃ position, self.fate = .waiting position

/-- Workers that are not over are still there, perhaps with more messages. -/
def Keeps (before after : Loop) : Prop :=
  ∀ channel actor, before.worker channel = some actor → actor.listening = true →
    ∃ actor', after.worker channel = some actor' ∧ Grown actor actor'

theorem Grows.keeps (h : Grows first second) : Keeps first second :=
  fun channel actor hworker _ => h channel actor hworker

variable {ticket : Ticket}

theorem Keeps.housed (h : Keeps first second) (hhoused : Housed first ticket) :
    Housed second ticket := by
  unfold Housed at *
  split at hhoused
  · obtain ⟨actor, hworker, hlistening, hmessage⟩ := hhoused
    obtain ⟨actor', hworker', more, rfl⟩ := h _ actor hworker hlistening
    refine ⟨_, hworker', hlistening, ?_⟩
    rwa [List.getElem?_append_left (List.getElem?_eq_some_iff.mp hmessage).1]
  · obtain ⟨actor, hworker, hphase⟩ := hhoused
    obtain ⟨actor', hworker', more, rfl⟩ := h _ actor hworker (by simp [Actor.listening, hphase])
    exact ⟨_, hworker', hphase⟩
  · trivial
  · trivial
  · exact hhoused

theorem Keeps.served_iff (h : Keeps first second) (hhoused : Housed first ticket) :
    Served second ticket ↔ Served first ticket := by
  unfold Housed at hhoused
  unfold Served
  cases hfate : ticket.fate with
  | waiting position =>
      rw [hfate] at hhoused
      obtain ⟨actor, hworker, hlistening, hmessage⟩ := hhoused
      obtain ⟨actor', hworker', more, rfl⟩ := h _ actor hworker hlistening
      have hlonger : (actor.mailbox ++ more)[position]? = some .interaction := by
        rwa [List.getElem?_append_left (List.getElem?_eq_some_iff.mp hmessage).1]
      simp [hworker, hworker', hmessage, hlonger]
  | taken =>
      rw [hfate] at hhoused
      obtain ⟨actor, hworker, hphase⟩ := hhoused
      obtain ⟨actor', hworker', more, rfl⟩ := h _ actor hworker (by simp [Actor.listening, hphase])
      simp [hworker, hworker']
  | handled => rfl
  | discarded => rfl
  | lost => rfl

/-! ## Moves of a worker -/

/-- The worker takes its first message. -/
theorem Linked.received (h : Linked loop) (channel : ℕ)
    (hat : loop.actors[index]? = some actor) (hphase : actor.phase = .running) :
    (loop.receive index).worker channel =
      if actor.channel = channel then some { actor with mailbox := actor.mailbox.tail }
      else loop.worker channel := by
  rw [Loop.receive, h.worker_modify hat, if_pos hphase]
  intro actor
  split <;> rfl

/-- The worker leaves its loop. -/
theorem Linked.left (h : Linked loop) (channel : ℕ) (hat : loop.actors[index]? = some actor)
    (hleaves : (actor.phase = .running && (loop.cancelled || !loop.cached actor.guild)) = true) :
    (loop.leave index).worker channel =
      if actor.channel = channel then some { actor with phase := .closing }
      else loop.worker channel := by
  rw [Loop.leave, h.worker_modify hat, if_pos hleaves]
  intro actor
  split <;> rfl

/-- The worker's task is over. -/
theorem Linked.exited (h : Linked loop) (channel : ℕ) (hat : loop.actors[index]? = some actor)
    (hphase : actor.phase = .closing) : (loop.exit index).worker channel =
      if actor.channel = channel then some { actor with phase := .exited, mailbox := [] }
      else loop.worker channel := by
  rw [Loop.exit, h.worker_modify hat, if_pos hphase]
  intro actor
  split <;> rfl

/-- Only the worker of the ticket's channel matters. -/
theorem housed_congr (h : second.worker ticket.channel = first.worker ticket.channel) :
    (Housed second ticket ↔ Housed first ticket) ∧
      (Served second ticket ↔ Served first ticket) := by
  unfold Housed Served
  rw [h]
  exact ⟨Iff.rfl, Iff.rfl⟩

theorem Linked.worker_of_at (h : Linked loop) (hat : loop.actors[index]? = some actor) :
    loop.worker actor.channel = some actor :=
  h.worker_iff.mpr ⟨List.mem_of_getElem? hat, rfl⟩

/-- Taking a message brings the interactions behind it forward, and takes the first. -/
theorem Linked.ticket_received (h : Linked loop) (hat : loop.actors[index]? = some actor)
    (hphase : actor.phase = .running) (hhoused : Housed loop ticket) :
    Housed (loop.receive index) (ticket.advance actor.channel) ∧
      (Served (loop.receive index) (ticket.advance actor.channel) ↔ Served loop ticket) := by
  by_cases hchannel : ticket.channel = actor.channel
  · have hafter := h.received actor.channel hat hphase
    rw [if_pos rfl] at hafter
    have hworker := h.worker_of_at hat
    unfold Housed at hhoused
    unfold Housed Served Ticket.advance
    rw [if_pos hchannel]
    cases hfate : ticket.fate with
    | waiting position =>
        rw [hfate] at hhoused
        obtain ⟨holder, hholder, -, hmessage⟩ := hhoused
        rw [hchannel, hworker, Option.some_inj] at hholder
        subst hholder
        cases position with
        | zero => simp [hchannel, hafter, hworker, hphase, hmessage]
        | succ position =>
            simp [hchannel, hafter, hworker, hphase, hmessage, Actor.listening]
    | taken => simp [hfate, hchannel, hafter, hworker, hphase]
    | handled => simp [hfate]
    | discarded =>
        rw [hfate] at hhoused
        simp [hfate, hhoused]
    | lost => simp [hfate]
  · have hsame : ticket.advance actor.channel = ticket := by
      rw [Ticket.advance, if_neg hchannel]
    have hafter : (loop.receive index).worker ticket.channel = loop.worker ticket.channel := by
      rw [h.received _ hat hphase, if_neg fun heq => hchannel heq.symm]
    rw [hsame]
    exact ⟨(housed_congr hafter).1.mpr hhoused, (housed_congr hafter).2⟩

/-- A worker that leaves takes no more of what waits in its mailbox. -/
theorem Linked.ticket_left (h : Linked loop) (hat : loop.actors[index]? = some actor)
    (hleaves : (actor.phase = .running && (loop.cancelled || !loop.cached actor.guild)) = true)
    (hidle : ticket.channel = actor.channel → ticket.fate ≠ .taken) (hhoused : Housed loop ticket) :
    Housed (loop.leave index) ticket ∧
      (Served (loop.leave index) ticket ↔
        Served loop ticket ∧ ¬ ticket.waitsAt actor.channel) := by
  by_cases hchannel : ticket.channel = actor.channel
  · have hafter := h.left actor.channel hat hleaves
    rw [if_pos rfl] at hafter
    have hworker := h.worker_of_at hat
    unfold Housed at hhoused
    unfold Housed Served Ticket.waitsAt
    cases hfate : ticket.fate with
    | waiting position =>
        rw [hfate] at hhoused
        obtain ⟨holder, hholder, -, hmessage⟩ := hhoused
        rw [hchannel, hworker, Option.some_inj] at hholder
        subst hholder
        simp [hchannel, hafter, hmessage, Actor.listening]
    | taken => exact absurd hfate (hidle hchannel)
    | handled => simp
    | discarded =>
        rw [hfate] at hhoused
        simp [hhoused]
    | lost => simp
  · have hafter : (loop.leave index).worker ticket.channel = loop.worker ticket.channel := by
      rw [h.left _ hat hleaves, if_neg fun heq => hchannel heq.symm]
    have helsewhere : ¬ ticket.waitsAt actor.channel := fun hwaits => hchannel hwaits.1
    refine ⟨(housed_congr hafter).1.mpr hhoused, ?_⟩
    rw [(housed_congr hafter).2, and_iff_left helsewhere]

/-- What is in the mailbox of a worker that is over is lost. -/
theorem Linked.ticket_exited (h : Linked loop) (hat : loop.actors[index]? = some actor)
    (hphase : actor.phase = .closing) (hhoused : Housed loop ticket) :
    Housed (loop.exit index) (ticket.drop actor.channel) ∧
      (Served (loop.exit index) (ticket.drop actor.channel) ↔ Served loop ticket) := by
  by_cases hchannel : ticket.channel = actor.channel
  · have hworker := h.worker_of_at hat
    unfold Housed at hhoused
    unfold Housed Served Ticket.drop
    rw [if_pos hchannel]
    cases hfate : ticket.fate with
    | waiting position => simp [hchannel, hworker, hphase]
    | taken =>
        rw [hfate] at hhoused
        obtain ⟨holder, hholder, hrunning⟩ := hhoused
        rw [hchannel, hworker, Option.some_inj] at hholder
        subst hholder
        rw [hphase] at hrunning
        cases hrunning
    | handled => simp [hfate]
    | discarded =>
        rw [hfate] at hhoused
        simp [hfate, hhoused]
    | lost => simp [hfate]
  · have hsame : ticket.drop actor.channel = ticket := by
      rw [Ticket.drop, if_neg hchannel]
    have hafter : (loop.exit index).worker ticket.channel = loop.worker ticket.channel := by
      rw [h.exited _ hat hphase, if_neg fun heq => hchannel heq.symm]
    rw [hsame]
    exact ⟨(housed_congr hafter).1.mpr hhoused, (housed_congr hafter).2⟩

/-! ## Interactions that arrive -/

/-- Announcing a voice change moves no worker. -/
theorem heard_phase (loop : Loop) (event : GatewayEvent) (channel : ℕ) :
    ((loop.heard event).worker channel).map Actor.phase =
      (loop.worker channel).map Actor.phase := by
  unfold Loop.heard
  dsimp only
  split
  · rfl
  · rw [Loop.voiceChanged]
    split
    · rfl
    · rw [worker_trySend, Option.map_map]
      congr 1
      funext actor
      simp only [Function.comp_apply]
      split <;> rfl

/-- An interaction that a mailbox takes is last in it. -/
theorem Linked.ticket_delivered (h : Linked loop) (hticket : loop.ticket channel = some ticket) :
    ∃ actor, loop.worker channel = some actor ∧ actor.listening = true ∧
      ticket = ⟨channel, none, .waiting actor.mailbox.length⟩ ∧
      (loop.deliver channel).worker channel =
        some { actor with mailbox := actor.mailbox ++ [.interaction] } := by
  rw [Loop.ticket] at hticket
  split at hticket
  · rename_i hsent
    cases hticket
    have haccepting := (trySend_fst _ _ _).symm.trans hsent
    obtain ⟨actor, hmem, haccepts⟩ := List.any_eq_true.mp haccepting
    obtain ⟨hchannel, haccepts⟩ : actor.channel = channel ∧ actor.accepts = true := by
      simpa using haccepts
    have hworker := h.worker_iff.mpr ⟨hmem, hchannel⟩
    have hlistening : actor.listening = true := by
      rw [Actor.accepts, Bool.and_eq_true] at haccepts
      exact haccepts.1
    refine ⟨actor, hworker, hlistening, by rw [hworker]; rfl, ?_⟩
    unfold Loop.deliver
    dsimp only
    rw [hsent, if_pos rfl]
    have hsends := worker_trySend loop channel channel .interaction
    rw [hworker, Option.map_some, haccepting] at hsends
    rw [if_pos (by simp [hchannel])] at hsends
    exact hsends
  · cases hticket

/-- Nobody is at the end of a channel that was not opened yet. -/
theorem Linked.worker_fresh (h : Linked loop) : loop.worker loop.channels = none := by
  by_contra hsome
  obtain ⟨actor, hworker⟩ := Option.ne_none_iff_exists'.mp hsome
  obtain ⟨hmem, hchannel⟩ := h.worker_iff.mp hworker
  have hentry := h.entries.mem_iff.mpr (List.mem_map_of_mem hmem)
  have hlt := h.fresh _ hentry
  exact absurd hchannel (Nat.ne_of_lt hlt)

/-- An accepted interaction is in the mailbox of a worker that is not over; it is served
exactly if that worker had not left its loop when the interaction came. -/
theorem Linked.ticket_accepted (h : Linked loop) (event : GatewayEvent)
    (haccepted : loop.accepted event = some ticket) :
    Housed (loop.gatewayEvent event) ticket ∧ (Served (loop.gatewayEvent event) ticket ↔
      ∀ actor, loop.worker ticket.channel = some actor → actor.phase = .running) := by
  obtain ⟨⟨target, channel⟩, hrecipient, hticket⟩ := Option.bind_eq_some_iff.mp haccepted
  obtain ⟨interaction, hinteraction, hrecipient⟩ := Option.bind_eq_some_iff.mp hrecipient
  have hevent : loop.gatewayEvent event = (loop.heard event).interact interaction := by
    rw [gatewayEvent_eq, hinteraction]
  have hheard := h.heard event
  rcases interact_cases (loop.heard event) interaction with
    ⟨target', channel', hrecipient', hinteract, htarget⟩ | ⟨hnone, -⟩
  · rw [hrecipient] at hrecipient'
    cases hrecipient'
    rw [hevent, hinteract]
    have hlinked : Linked target := by
      rcases htarget with rfl | ⟨guild, hlookup, rfl, -⟩
      · exact hheard
      · exact hheard.spawn hlookup
    obtain ⟨actor, hworker, hlistening, rfl, hafter⟩ := hlinked.ticket_delivered hticket
    have hphase : actor.phase = .running ↔
        ∀ actor, loop.worker channel = some actor → actor.phase = .running := by
      have hphases := heard_phase loop event channel
      rcases htarget with rfl | ⟨guild, -, rfl, rfl⟩
      · rw [hworker] at hphases
        obtain ⟨before, hbefore, hsame⟩ := Option.map_eq_some_iff.mp hphases.symm
        simp [hbefore, hsame]
      · rw [hheard.worker_fresh] at hphases
        have hnone := Option.map_eq_none_iff.mp hphases.symm
        have hspawned : ((loop.heard event).spawn guild).worker (loop.heard event).channels =
            some ⟨guild, (loop.heard event).channels, .running, []⟩ := by
          have hfresh := hheard.worker_fresh
          rw [Loop.worker] at hfresh
          rw [Loop.worker, Loop.spawn, List.find?_append, hfresh]
          simp
        rw [hspawned, Option.some_inj] at hworker
        simp [hnone, ← hworker]
    refine ⟨⟨_, hafter, hlistening, by simp⟩, ?_⟩
    rw [← hphase]
    unfold Served
    simp [hafter]
  · rw [hrecipient] at hnone
    cases hnone

end Raydio.Runtime
