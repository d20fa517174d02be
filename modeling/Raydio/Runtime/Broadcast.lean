/-
# What the workers hear of the music node

The node's session may be lost and another one established at any time, while the workers
of the guilds come and go, are late with their messages, and have other messages to handle.
A worker that missed one of these events would go on with a player that is gone. Here, as
long as the loop runs, each worker that listens is told every event of the node since it
was spawned, once and in the order in which the node emitted them; and of the payloads
those of its own guild.
-/

import Raydio.Foundation.Conduit
import Raydio.Runtime.Mailboxes

namespace Raydio.Runtime

open Raydio.Foundation Raydio.Foundation.Runs

/-- The message tells of the music node. -/
def Message.isNews : Message → Bool
  | .backend _ | .invalidated | .connected => true
  | .interaction | .voiceChanged => false

/-- The news among messages. -/
def news (messages : List Message) : List Message := messages.filter Message.isNews

/-- The message that an event of the node is sent as. -/
def NodeEvent.message : NodeEvent → Message
  | .invalidated => .invalidated
  | .connected => .connected
  | .payload content => .backend content

/-- The event concerns the worker of a guild. -/
def NodeEvent.concerns (guild : ℕ) : NodeEvent → Bool
  | .invalidated | .connected => true
  | .payload content => Loop.payloadGuild content = some guild

/-- What the node tells the worker of a guild in a step. -/
def Event.tells (guild : ℕ) : Event → List Message
  | .node (some event) => if event.concerns guild then [event.message] else []
  | _ => []

namespace Loop

/-- The news that wait at the end of a channel. -/
def waiting (channel : ℕ) (self : Loop) : List Message :=
  news (((self.worker channel).map Actor.mailbox).getD [])

/-- The news that the worker at the end of a channel takes in a step. -/
def hears (channel : ℕ) (self : Loop) : Event → List Message
  | .receive index =>
      match self.actors[index]? with
      | none => []
      | some actor =>
          if actor.channel = channel && actor.phase = .running then news (actor.mailbox.take 1)
          else []
  | _ => []

end Loop

variable {loop : Loop} {channel : ℕ} {actor after : Actor}

theorem news_append (messages more : List Message) :
    news (messages ++ more) = news messages ++ news more := List.filter_append _ _

theorem waiting_of_worker (h : loop.worker channel = some actor) :
    loop.waiting channel = news actor.mailbox := by
  rw [Loop.waiting, h]
  rfl

theorem waiting_of_none (h : loop.worker channel = none) : loop.waiting channel = [] := by
  rw [Loop.waiting, h]
  rfl

/-! ## Messages of other kinds -/

/-- Other messages come between the news and leave them as they are. -/
theorem waiting_trySend (loop : Loop) {message : Message} (hother : message.isNews = false)
    (target : ℕ) :
    ({ loop with actors := (trySend loop.actors target message).2 } : Loop).waiting channel =
      loop.waiting channel := by
  cases hworker : loop.worker channel with
  | none =>
      rw [waiting_of_none hworker, Loop.waiting, worker_trySend, hworker]
      rfl
  | some actor =>
      rw [waiting_of_worker hworker, Loop.waiting, worker_trySend, hworker]
      show news (ite _ _ _ : Actor).mailbox = _
      split
      · rw [news_append]
        simp [news, hother]
      · rfl

theorem waiting_heard (loop : Loop) (event : GatewayEvent) :
    (loop.heard event).waiting channel = loop.waiting channel := by
  unfold Loop.heard
  dsimp only
  split
  · rfl
  · rw [Loop.voiceChanged]
    split
    · rfl
    · exact waiting_trySend { loop with cache := event.cache } rfl _

theorem waiting_deliver (loop : Loop) (target : ℕ) :
    (loop.deliver target).waiting channel = loop.waiting channel := by
  unfold Loop.deliver
  dsimp only
  split
  · exact waiting_trySend loop rfl target
  · exact waiting_trySend loop rfl target

/-- A worker that is spawned has heard nothing. -/
theorem waiting_spawn (loop : Loop) (guild : ℕ) :
    (loop.spawn guild).waiting channel = loop.waiting channel := by
  have hworker : (loop.spawn guild).worker channel = (loop.worker channel).or
      (if loop.channels = channel then some ⟨guild, loop.channels, .running, []⟩ else none) := by
    rw [Loop.worker, Loop.spawn, List.find?_append, List.find?_singleton]
    simp only [decide_eq_true_eq]
    rfl
  cases hfound : loop.worker channel with
  | some actor =>
      rw [hfound] at hworker
      rw [waiting_of_worker hfound, waiting_of_worker hworker]
  | none =>
      rw [waiting_of_none hfound, Loop.waiting, hworker, hfound, Option.none_or]
      split <;> rfl

theorem waiting_gatewayEvent (loop : Loop) (event : GatewayEvent) :
    (loop.gatewayEvent event).waiting channel = loop.waiting channel := by
  rw [gatewayEvent_eq]
  split
  · exact waiting_heard loop event
  · rename_i interaction _
    refine Eq.trans ?_ (waiting_heard loop event)
    rcases interact_cases (loop.heard event) interaction with
      ⟨target, sent, -, hinteract, htarget⟩ | ⟨-, hactors⟩
    · rw [hinteract, waiting_deliver]
      rcases htarget with rfl | ⟨guild, -, rfl, -⟩
      · rfl
      · exact waiting_spawn _ guild
    · rw [Loop.waiting, Loop.worker, hactors]
      rfl

/-! ## Events of the node -/

/-- When all sends succeed, each worker that is sent to has the message once, as its last. -/
theorem worker_sendAll (loop : Loop) {message : Message} {channels : List ℕ}
    (hnodup : channels.Nodup) (hsent : (sendAll loop.actors message channels).1 = true) :
    ({ loop with actors := (sendAll loop.actors message channels).2 } : Loop).worker channel =
      (loop.worker channel).map fun actor =>
        if actor.channel ∈ channels then { actor with mailbox := actor.mailbox ++ [message] }
        else actor := by
  induction channels generalizing loop with
  | nil => simp [sendAll]
  | cons first rest ih =>
      obtain ⟨hnot, hrest⟩ := List.nodup_cons.mp hnodup
      rw [sendAll] at hsent ⊢
      split at hsent
      · rename_i haccepted
        rw [if_pos haccepted]
        rw [trySend_fst] at haccepted
        have hlater := ih { loop with actors := (trySend loop.actors first message).2 } hrest hsent
        rw [worker_trySend, haccepted, Option.map_map] at hlater
        refine hlater.trans (congrArg (fun change => (loop.worker channel).map change) ?_)
        funext actor
        simp only [Function.comp_apply, Bool.true_and, decide_eq_true_eq, List.mem_cons]
        by_cases hfirst : actor.channel = first
        · simp [hfirst, hnot]
        · simp [hfirst]
      · cases hsent

/-- The payloads of a guild go to its worker. -/
theorem Linked.mem_lookup (h : Linked loop) (hworker : loop.worker channel = some actor)
    (guild : ℕ) : loop.guilds.lookup guild = some channel ↔ guild = actor.guild := by
  obtain ⟨hmem, rfl⟩ := h.worker_iff.mp hworker
  have hentry : (actor.guild, actor.channel) ∈ loop.guilds :=
    h.entries.mem_iff.mpr (List.mem_map_of_mem hmem)
  constructor
  · intro hlookup
    obtain ⟨before, rest, hsplit, -⟩ := List.lookup_eq_some_iff.mp hlookup
    have hsent : (guild, actor.channel) ∈ loop.guilds := by
      rw [hsplit]
      simp
    have hsame := List.inj_on_of_nodup_map h.channels hsent hentry rfl
    exact congrArg Prod.fst hsame
  · rintro rfl
    cases hlookup : loop.guilds.lookup actor.guild with
    | none =>
        rw [List.lookup_eq_none_iff] at hlookup
        have hnone := hlookup _ hentry
        simp at hnone
    | some other =>
        obtain ⟨before, rest, hsplit, -⟩ := List.lookup_eq_some_iff.mp hlookup
        have hfound : (actor.guild, other) ∈ loop.guilds := by
          rw [hsplit]
          simp
        have hsame := List.inj_on_of_nodup_map h.guilds hfound hentry rfl
        exact congrArg (fun entry => some (Prod.snd entry)) hsame

/-- A node event is sent to the workers that it concerns. -/
theorem Linked.mem_targets (h : Linked loop) (hworker : loop.worker channel = some actor)
    (event : NodeEvent) :
    actor.channel ∈ loop.targets event ↔ event.concerns actor.guild = true := by
  obtain ⟨hmem, hchannel⟩ := h.worker_iff.mp hworker
  have hsender : actor.channel ∈ loop.guilds.map Prod.snd :=
    List.mem_map_of_mem (f := Prod.snd) (h.entries.mem_iff.mpr (List.mem_map_of_mem hmem))
  cases event with
  | invalidated => exact iff_of_true hsender rfl
  | connected => exact iff_of_true hsender rfl
  | payload content =>
      rw [Loop.targets, Option.mem_toList, hchannel, NodeEvent.concerns, decide_eq_true_eq]
      cases hguild : Loop.payloadGuild content with
      | none => simp
      | some guild => exact (h.mem_lookup hworker guild).trans Option.some_inj.symm

/-- A loop that goes on has sent to all. -/
theorem dispatch_running {message : Message} {channels : List ℕ} {overload : Ending}
    (h : (loop.dispatch message channels overload).ending = none) :
    (sendAll loop.actors message channels).1 = true ∧
      loop.dispatch message channels overload =
        { loop with actors := (sendAll loop.actors message channels).2 } := by
  unfold Loop.dispatch at h ⊢
  dsimp only at h ⊢
  split at h
  · rename_i hsent
    exact ⟨hsent, if_pos hsent⟩
  · cases h

theorem nodeEvent_eq (loop : Loop) (event : NodeEvent) : ∃ overload,
    loop.nodeEvent event = loop.dispatch event.message (loop.targets event) overload := by
  cases event with
  | invalidated => exact ⟨_, rfl⟩
  | connected => exact ⟨_, rfl⟩
  | payload content => exact ⟨_, rfl⟩

/-- An event of the node that does not end the loop is the last message of the workers that
it concerns. -/
theorem Linked.worker_node (h : Linked loop) (event : NodeEvent)
    (hrunning : (loop.nodeEvent event).ending = none) :
    (loop.nodeEvent event).worker channel = (loop.worker channel).map fun actor =>
      if event.concerns actor.guild then { actor with mailbox := actor.mailbox ++ [event.message] }
      else actor := by
  obtain ⟨overload, hdispatch⟩ := nodeEvent_eq loop event
  rw [hdispatch] at hrunning
  obtain ⟨hsent, hsends⟩ := dispatch_running hrunning
  rw [hdispatch, hsends, worker_sendAll loop (h.targets event).1 hsent]
  cases hworker : loop.worker channel with
  | none => rfl
  | some actor =>
      rw [Option.map_some, Option.map_some]
      simp only [h.mem_targets hworker event]

theorem isNews_message (event : NodeEvent) : event.message.isNews = true := by
  cases event <;> rfl

/-! ## One step -/

/-- What a step does to the news of a worker that listens after it: the worker was spawned,
or the news went through its mailbox. -/
inductive Hears (channel : ℕ) (loop : Loop) (event : Event) (after : Actor) : Prop
  | spawned (away : loop.worker channel = none) (silent : news after.mailbox = [])
  | went (before : Actor) (worker : loop.worker channel = some before)
      (listening : before.listening = true) (guild : before.guild = after.guild)
      (conserved : news before.mailbox ++ event.tells before.guild =
        loop.hears channel event ++ news after.mailbox)

/-- Nothing was told, and nothing heard. -/
theorem Hears.idle {event : Event} {before : Actor} (hworker : loop.worker channel = some before)
    (hlistening : before.listening = true) (hguild : before.guild = after.guild)
    (htells : event.tells before.guild = []) (hhears : loop.hears channel event = [])
    (hnews : news after.mailbox = news before.mailbox) : Hears channel loop event after := by
  refine .went before hworker hlistening hguild ?_
  rw [htells, hhears, hnews, List.append_nil, List.nil_append]

/-- A worker moves without taking a message. -/
theorem Linked.hears_modify (h : Linked loop) {index : ℕ} {change : Actor → Actor} {event : Event}
    (hentry : ∀ actor, (change actor).entry = actor.entry)
    (hkept : ∀ actor, (change actor).listening = true →
      actor.listening = true ∧ (change actor).mailbox = actor.mailbox)
    (htells : ∀ guild, event.tells guild = []) (hhears : loop.hears channel event = [])
    (hafter : (loop.modify index change).worker channel = some after)
    (hlistening : after.listening = true) : Hears channel loop event after := by
  cases hat : loop.actors[index]? with
  | none =>
      rw [Loop.modify, List.modify_eq_self (List.getElem?_eq_none_iff.mp hat)] at hafter
      exact .idle hafter hlistening rfl (htells _) hhears rfl
  | some actor =>
      rw [h.worker_modify hat hentry] at hafter
      by_cases hchannel : actor.channel = channel
      · rw [if_pos hchannel, Option.some_inj] at hafter
        subst hafter
        obtain ⟨hbefore, hmailbox⟩ := hkept actor hlistening
        have hworker : loop.worker channel = some actor := hchannel ▸ h.worker_of_at hat
        have hguild : actor.guild = (change actor).guild := (congrArg Prod.fst (hentry actor)).symm
        exact .idle hworker hbefore hguild (htells _) hhears (by rw [hmailbox])
      · rw [if_neg hchannel] at hafter
        exact .idle hafter hlistening rfl (htells _) hhears rfl

/-- A worker takes its first message. -/
theorem Linked.hears_receive (h : Linked loop) (index : ℕ)
    (hafter : (loop.receive index).worker channel = some after)
    (hlistening : after.listening = true) : Hears channel loop (.receive index) after := by
  have htells : ∀ guild, (Event.receive index).tells guild = [] := fun _ => rfl
  by_cases htaken : ∃ actor, loop.actors[index]? = some actor ∧ actor.channel = channel ∧
      actor.phase = .running
  · obtain ⟨actor, hat, hchannel, hphase⟩ := htaken
    rw [h.received channel hat hphase, if_pos hchannel, Option.some_inj] at hafter
    subst hafter
    have hworker : loop.worker channel = some actor := hchannel ▸ h.worker_of_at hat
    have hhears : loop.hears channel (.receive index) = news (actor.mailbox.take 1) := by
      rw [Loop.hears, hat]
      simp [hchannel, hphase]
    refine .went actor hworker hlistening rfl ?_
    rw [hhears, htells, List.append_nil, ← news_append, ← List.drop_one, List.take_append_drop]
  · have hhears : loop.hears channel (.receive index) = [] := by
      rw [Loop.hears]
      split
      · rfl
      · rename_i actor hat
        apply if_neg
        simp only [Bool.and_eq_true, decide_eq_true_eq]
        exact fun hboth => htaken ⟨actor, hat, hboth⟩
    have hsame : (loop.receive index).worker channel = loop.worker channel := by
      cases hat : loop.actors[index]? with
      | none =>
          rw [Loop.receive, Loop.modify,
            List.modify_eq_self (List.getElem?_eq_none_iff.mp hat)]
      | some actor =>
          rw [Loop.receive, h.worker_modify hat (by intro other; split <;> rfl)]
          split
          · rename_i hchannel
            have hphase : ¬ actor.phase = .running := fun hphase =>
              htaken ⟨actor, hat, hchannel, hphase⟩
            rw [if_neg hphase, ← hchannel, h.worker_of_at hat]
          · rfl
    rw [hsame] at hafter
    exact .idle hafter hlistening rfl (htells _) hhears rfl

/-- A worker that was joined does not listen, and the others stay. -/
theorem Linked.hears_reap (h : Linked loop) (index : ℕ)
    (hafter : (loop.reap index).worker channel = some after)
    (hlistening : after.listening = true) : Hears channel loop (.reap index) after := by
  have hsublist : List.Sublist (loop.reap index).actors loop.actors := by
    rw [Loop.reap]
    split
    · exact List.Sublist.refl _
    · split
      · exact List.eraseIdx_sublist _ _
      · exact List.eraseIdx_sublist _ _
      · exact List.Sublist.refl _
  have hnodup := h.channels_nodup.sublist (hsublist.map Actor.channel)
  obtain ⟨hmem, hchannel⟩ := (Runtime.worker_iff hnodup).mp hafter
  have hworker : loop.worker channel = some after :=
    h.worker_iff.mpr ⟨hsublist.subset hmem, hchannel⟩
  exact .idle hworker hlistening rfl rfl rfl rfl

theorem hears_gateway (event : GatewayEvent)
    (hafter : (loop.gatewayEvent event).worker channel = some after)
    (hlistening : after.listening = true) :
    Hears channel loop (.gateway (some (some event))) after := by
  have hwaiting : (loop.gatewayEvent event).waiting channel = loop.waiting channel :=
    waiting_gatewayEvent loop event
  rw [waiting_of_worker hafter] at hwaiting
  cases hworker : loop.worker channel with
  | none => exact .spawned hworker (hwaiting.trans (waiting_of_none hworker))
  | some before =>
      obtain ⟨grown, hgrown, more, hmore⟩ := grows_gatewayEvent loop event channel before hworker
      rw [hafter, Option.some_inj] at hgrown
      rw [← hgrown] at hmore
      have hphase : after.phase = before.phase := by rw [hmore]
      have hguild : before.guild = after.guild := by rw [hmore]
      have hbefore : before.listening = true := by
        rw [Actor.listening, ← hphase]
        exact hlistening
      exact .idle hworker hbefore hguild rfl rfl (hwaiting.trans (waiting_of_worker hworker))

theorem Linked.hears_node (h : Linked loop) (event : NodeEvent)
    (hrunning : (loop.nodeEvent event).ending = none)
    (hafter : (loop.nodeEvent event).worker channel = some after)
    (hlistening : after.listening = true) : Hears channel loop (.node (some event)) after := by
  rw [h.worker_node event hrunning] at hafter
  obtain ⟨before, hworker, hsent⟩ := Option.map_eq_some_iff.mp hafter
  by_cases hconcerns : event.concerns before.guild = true
  · rw [if_pos hconcerns] at hsent
    subst hsent
    refine .went before hworker hlistening rfl ?_
    have htells : (Event.node (some event)).tells before.guild = [event.message] :=
      if_pos hconcerns
    rw [htells, news_append]
    simp [news, isNews_message, Loop.hears]
  · rw [if_neg hconcerns] at hsent
    subst hsent
    exact .idle hworker hlistening rfl (if_neg hconcerns) rfl rfl

/-- What holds of any step of a loop that goes on. -/
theorem Linked.hears_step (h : Linked loop) (event : Event) (hrunning : loop.ending = none)
    (hlater : (loop.step event).ending = none)
    (hafter : (loop.step event).worker channel = some after)
    (hlistening : after.listening = true) : Hears channel loop event after := by
  unfold Loop.step at hlater hafter
  rw [hrunning] at hlater hafter
  cases event with
  | receive index => exact h.hears_receive index hafter hlistening
  | leave index =>
      refine h.hears_modify ?_ ?_ (fun _ => rfl) rfl hafter hlistening
      · intro actor
        split <;> rfl
      · intro actor hkept
        split at hkept
        · rename_i hleaves
          rw [Bool.and_eq_true, decide_eq_true_eq] at hleaves
          rw [if_pos (by simpa using hleaves)]
          exact ⟨by simp [Actor.listening, hleaves.1], rfl⟩
        · rename_i hstays
          rw [if_neg hstays]
          exact ⟨hkept, rfl⟩
  | exit index =>
      refine h.hears_modify ?_ ?_ (fun _ => rfl) rfl hafter hlistening
      · intro actor
        split <;> rfl
      · intro actor hkept
        split at hkept
        · cases hkept
        · rename_i hstays
          rw [if_neg hstays]
          exact ⟨hkept, rfl⟩
  | crash index =>
      refine h.hears_modify ?_ ?_ (fun _ => rfl) rfl hafter hlistening
      · intro actor
        split <;> rfl
      · intro actor hkept
        split at hkept
        · cases hkept
        · rename_i hstays
          rw [if_neg hstays]
          exact ⟨hkept, rfl⟩
  | shutdown => exact .idle hafter hlistening rfl rfl rfl rfl
  | cancelled =>
      simp only [Option.isSome_none, Bool.false_eq_true, if_false] at hlater hafter
      split at hlater
      · cases hlater
      · rename_i hlasts
        rw [if_neg hlasts] at hafter
        exact .idle hafter hlistening rfl rfl rfl rfl
  | joinJob => exact .idle hafter hlistening rfl rfl rfl rfl
  | joinRejection => exact .idle hafter hlistening rfl rfl rfl rfl
  | reap index => exact h.hears_reap index hafter hlistening
  | node event =>
      cases event with
      | none => cases hlater
      | some event => exact h.hears_node event hlater hafter hlistening
  | gateway event =>
      cases event with
      | none => cases hlater
      | some event =>
          cases event with
          | none => exact .idle hafter hlistening rfl rfl rfl rfl
          | some event => exact hears_gateway event hafter hlistening

/-! ## Runs -/

/-- A loop that goes on after a step went on before it. -/
theorem ending_of_step {event : Event} (h : (loop.step event).ending = none) :
    loop.ending = none := by
  by_contra hended
  unfold Loop.step at h
  rw [if_pos (Option.isSome_iff_ne_none.mpr hended)] at h
  exact hended h

/-- The worker at the end of a channel was spawned in a step, with no news waiting for it, and
since then its mailbox lost, doubled and turned around none of the news of its guild. -/
def Informed (channel guild : ℕ) (events : List Event) : Prop :=
  ∃ before spawning since, events = before ++ spawning :: since ∧
    (run Loop.step .start before).worker channel = none ∧
    ((run Loop.step .start (before ++ [spawning])).worker channel).isSome ∧
    (run Loop.step .start (before ++ [spawning])).waiting channel = [] ∧
    Conserved Loop.step (Loop.waiting channel) (fun _ event => event.tells guild)
      (Loop.hears channel) (run Loop.step .start (before ++ [spawning])) since

theorem informed_run (events : List Event)
    (hrunning : (run Loop.step .start events).ending = none)
    (hworker : (run Loop.step .start events).worker channel = some actor)
    (hlistening : actor.listening = true) : Informed channel actor.guild events := by
  induction events using List.reverseRecOn generalizing actor with
  | nil => cases hworker
  | append_singleton events event ih =>
      have hsound : Sound (run Loop.step .start events) :=
        run_invariant Sound (fun _ event h => h.step event) (fun _ => linked_start)
      have hlater := hworker
      rw [run_concat] at hrunning hlater
      have hbefore := ending_of_step hrunning
      rcases (hsound hbefore).hears_step event hbefore hrunning hlater hlistening with
        ⟨haway, hsilent⟩ | ⟨before, hfound, hlistened, hguild, hconserved⟩
      · refine ⟨events, event, [], rfl, haway, ?_, ?_, conserved_nil⟩
        · rw [hworker]
          rfl
        · rw [waiting_of_worker hworker, hsilent]
      · obtain ⟨front, spawning, since, rfl, haway, hspawned, hsilent, htold⟩ :=
          ih hbefore hfound hlistened
        refine ⟨front, spawning, since ++ [event], by simp, haway, hspawned, hsilent, ?_⟩
        rw [← hguild]
        apply htold.concat
        rw [← run_since, waiting_of_worker hfound, waiting_of_worker hlater]
        exact hconserved

/-- As long as the loop runs, every worker that listens was spawned in some step, and what it
heard of the node since then, followed by the news that wait for it, is what the node told
its guild since then: each event once, and in order. -/
theorem run_informs (events : List Event) (channel : ℕ) (actor : Actor)
    (hrunning : (run Loop.step .start events).ending = none)
    (hworker : (run Loop.step .start events).worker channel = some actor)
    (hlistening : actor.listening = true) :
    ∃ before spawning since, events = before ++ spawning :: since ∧
      (run Loop.step .start before).worker channel = none ∧
      ((run Loop.step .start (before ++ [spawning])).worker channel).isSome ∧
      gather Loop.step (Loop.hears channel) (run Loop.step .start (before ++ [spawning])) since ++
        news actor.mailbox = since.flatMap (Event.tells actor.guild) := by
  obtain ⟨before, spawning, since, rfl, haway, hspawned, hsilent, htold⟩ :=
    informed_run events hrunning hworker hlistening
  refine ⟨before, spawning, since, rfl, haway, hspawned, ?_⟩
  rw [Conserved, hsilent, List.nil_append, gather_const, ← run_since,
    waiting_of_worker hworker] at htold
  exact htold.symm

/-- The session of the node is lost and another one established while the only worker handles
the interaction that it was spawned for. -/
def reconnection : List Event :=
  [.gateway (some (some ⟨[(1, true)], none, some ⟨some 1, .handled, false⟩⟩)),
    .node (some .invalidated), .receive 0, .receive 0, .node (some .connected)]

theorem run_informs_reconnection :
    ∃ before spawning since, reconnection = before ++ spawning :: since ∧
      (run Loop.step .start before).worker 0 = none ∧
      ((run Loop.step .start (before ++ [spawning])).worker 0).isSome ∧
      gather Loop.step (Loop.hears 0) (run Loop.step .start (before ++ [spawning])) since ++
        news [.connected] = since.flatMap (Event.tells 1) :=
  run_informs reconnection 0 ⟨1, 0, .running, [.connected]⟩ rfl rfl rfl

end Raydio.Runtime
