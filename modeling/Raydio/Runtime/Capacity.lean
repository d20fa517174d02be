/-
# What the runtime holds at most

A bot in a thousand servers serves all of them from one process, so that everything that an
event can add to is bounded: the workers, the messages that wait for one of them, the jobs
and the replies to what was rejected. The permits to search are four, and whatever becomes
of a call, it does not keep the one that it took.
-/

import Raydio.Runtime.Autocomplete
import Raydio.Runtime.Mailboxes

namespace Raydio.Runtime

open Raydio.Foundation

/-! ## The loop -/

/-- The loop holds no more than it should. -/
structure Capped (loop : Loop) : Prop where
  guilds : loop.guilds.length ≤ maxGuilds
  mailboxes : ∀ actor ∈ loop.actors, actor.mailbox.length ≤ mailboxSize
  jobs : loop.jobs ≤ 128
  rejections : loop.rejections ≤ 16

variable {loop : Loop}

theorem capped_start : Capped .start where
  guilds := Nat.zero_le _
  mailboxes := by
    intro actor hactor
    cases hactor
  jobs := Nat.zero_le _
  rejections := Nat.zero_le _

/-- A mailbox is filled up to its slots, as every channel has one worker. -/
theorem trySend_mailboxes {actors : List Actor} (hchannels : (actors.map Actor.channel).Nodup)
    (h : ∀ actor ∈ actors, actor.mailbox.length ≤ mailboxSize) (channel : ℕ) (message : Message) :
    ∀ actor ∈ (trySend actors channel message).2, actor.mailbox.length ≤ mailboxSize := by
  rw [trySend]
  split
  · rename_i haccepted
    intro actor hactor
    obtain ⟨old, hold, rfl⟩ := List.mem_map.mp hactor
    obtain ⟨free, hfree, hroom⟩ := List.any_eq_true.mp haccepted
    rw [Bool.and_eq_true, decide_eq_true_eq] at hroom
    split
    · rename_i hsame
      have heq : old = free := List.inj_on_of_nodup_map hchannels hold hfree
        (hsame.trans hroom.1.symm)
      have haccepts := hroom.2
      rw [← heq, Actor.accepts, Bool.and_eq_true, decide_eq_true_eq] at haccepts
      rw [List.length_append, List.length_singleton]
      exact haccepts.2
    · exact h old hold
  · exact h

theorem channels_trySend (actors : List Actor) (channel : ℕ) (message : Message) :
    (trySend actors channel message).2.map Actor.channel = actors.map Actor.channel := by
  have hentries := congrArg (List.map Prod.snd) (entries_trySend actors channel message)
  rw [List.map_map, List.map_map] at hentries
  exact hentries

theorem sendAll_mailboxes {actors : List Actor} (hchannels : (actors.map Actor.channel).Nodup)
    (h : ∀ actor ∈ actors, actor.mailbox.length ≤ mailboxSize) (message : Message)
    (channels : List ℕ) :
    ∀ actor ∈ (sendAll actors message channels).2, actor.mailbox.length ≤ mailboxSize := by
  induction channels generalizing actors with
  | nil => exact h
  | cons channel rest ih =>
      have hsent := trySend_mailboxes hchannels h channel message
      rw [sendAll]
      split
      · apply ih
        · rw [channels_trySend]
          exact hchannels
        · exact hsent
      · exact hsent

theorem Linked.length_actors (h : Linked loop) : loop.actors.length = loop.guilds.length := by
  rw [h.entries.length_eq, List.length_map]

theorem Capped.modify (h : Capped loop) (index : ℕ) (change : Actor → Actor)
    (hchange : ∀ actor : Actor, (change actor).mailbox.length ≤ actor.mailbox.length) :
    Capped (loop.modify index change) where
  guilds := h.guilds
  mailboxes := by
    intro actor hactor
    obtain ⟨position, hlt, rfl⟩ := List.mem_iff_getElem.mp hactor
    have hold : position < loop.actors.length := by
      rw [← List.length_modify change loop.actors index]
      exact hlt
    have hkept := h.mailboxes _ (List.getElem_mem hold)
    simp only [Loop.modify, List.getElem_modify]
    split
    · exact (hchange _).trans hkept
    · exact hkept
  jobs := h.jobs
  rejections := h.rejections

theorem Capped.reject (h : Capped loop) : Capped loop.reject where
  guilds := h.guilds
  mailboxes := h.mailboxes
  jobs := h.jobs
  rejections := by
    have hrejections := h.rejections
    show (if loop.rejections < 16 then loop.rejections + 1 else loop.rejections) ≤ 16
    split <;> omega

theorem Capped.deliver (h : Capped loop) (hlinked : Linked loop) (hjobs : loop.jobs < 128)
    (channel : ℕ) : Capped (loop.deliver channel) := by
  have hsent := trySend_mailboxes hlinked.channels_nodup h.mailboxes channel .interaction
  have hkept : Capped { loop with actors := (trySend loop.actors channel .interaction).2 } :=
    ⟨h.guilds, hsent, h.jobs, h.rejections⟩
  unfold Loop.deliver
  dsimp only
  split
  · exact ⟨h.guilds, hsent, hjobs, h.rejections⟩
  · exact hkept.reject

theorem Capped.spawn (h : Capped loop) (hroom : loop.guilds.length < maxGuilds) (guild : ℕ) :
    Capped (loop.spawn guild) where
  guilds := by
    show (loop.guilds ++ [_]).length ≤ maxGuilds
    rw [List.length_append]
    exact hroom
  mailboxes := by
    intro actor hactor
    rcases List.mem_append.mp hactor with hold | hnew
    · exact h.mailboxes actor hold
    · rw [List.mem_singleton.mp hnew]
      exact Nat.zero_le _
  jobs := h.jobs
  rejections := h.rejections

theorem Capped.interact (h : Capped loop) (hlinked : Linked loop) (interaction : Interaction) :
    Capped (loop.interact interaction) := by
  rw [Loop.interact]
  split
  · exact h.reject
  · rename_i guild _
    split
    · exact h.reject
    · rename_i hjobs
      rw [ge_iff_le, not_le] at hjobs
      split
      · exact ⟨h.guilds, h.mailboxes, hjobs, h.rejections⟩
      · split
        · exact h
        · split
          · exact h.reject
          · split
            · exact h.deliver hlinked hjobs _
            · rename_i hnone
              split
              · exact h.reject
              · rename_i hroom
                exact (h.spawn (not_le.mp hroom) guild).deliver (hlinked.spawn hnone) hjobs _

theorem Capped.gatewayEvent (h : Capped loop) (hlinked : Linked loop) (event : GatewayEvent) :
    Capped (loop.gatewayEvent event) := by
  have hcache : Capped { loop with cache := event.cache } :=
    ⟨h.guilds, h.mailboxes, h.jobs, h.rejections⟩
  have hlater : Linked { loop with cache := event.cache } := hlinked.keep rfl rfl rfl
  have hchanged : ∀ guild,
      Capped (({ loop with cache := event.cache } : Loop).voiceChanged guild) ∧
        Linked (({ loop with cache := event.cache } : Loop).voiceChanged guild) := by
    intro guild
    rw [Loop.voiceChanged]
    split
    · exact ⟨hcache, hlater⟩
    · exact ⟨⟨h.guilds, trySend_mailboxes hlater.channels_nodup h.mailboxes _ _, h.jobs,
        h.rejections⟩, hlater.keep rfl (entries_trySend _ _ _) rfl⟩
  unfold Loop.gatewayEvent
  dsimp only
  split
  · split
    · exact hcache
    · exact (hchanged _).1
  · split
    · exact hcache.interact hlater _
    · exact (hchanged _).1.interact (hchanged _).2 _

theorem Capped.dispatch (h : Capped loop) (hlinked : Linked loop) (message : Message)
    (channels : List ℕ) (overload : Ending) : Capped (loop.dispatch message channels overload) := by
  have hsent := sendAll_mailboxes hlinked.channels_nodup h.mailboxes message channels
  unfold Loop.dispatch
  dsimp only
  split
  · exact ⟨h.guilds, hsent, h.jobs, h.rejections⟩
  · exact ⟨h.guilds, hsent, h.jobs, h.rejections⟩

theorem Capped.reap (h : Capped loop) (index : ℕ) : Capped (loop.reap index) := by
  have hothers : ∀ actor ∈ loop.actors.eraseIdx index, actor.mailbox.length ≤ mailboxSize :=
    fun actor hactor => h.mailboxes actor (List.mem_of_mem_eraseIdx hactor)
  rw [Loop.reap]
  split
  · exact h
  · split
    · exact ⟨(List.length_filter_le _ _).trans h.guilds, hothers, h.jobs, h.rejections⟩
    · exact ⟨h.guilds, hothers, h.jobs, h.rejections⟩
    · exact h

theorem Capped.step (h : Capped loop) (hsound : Sound loop) (event : Event) :
    Capped (loop.step event) := by
  unfold Loop.step
  split
  · exact h
  · rename_i hrunning
    have hlinked := hsound (Option.not_isSome_iff_eq_none.mp hrunning)
    cases event with
    | receive index =>
        apply h.modify
        intro actor
        split
        · rw [List.length_tail]
          exact Nat.sub_le _ 1
        · exact Nat.le_refl _
    | leave index =>
        apply h.modify
        intro actor
        split <;> exact Nat.le_refl _
    | exit index =>
        apply h.modify
        intro actor
        split
        · exact Nat.zero_le _
        · exact Nat.le_refl _
    | crash index =>
        apply h.modify
        intro actor
        split
        · exact Nat.zero_le _
        · exact Nat.le_refl _
    | shutdown => exact ⟨h.guilds, h.mailboxes, h.jobs, h.rejections⟩
    | cancelled =>
        dsimp only
        split
        · exact ⟨h.guilds, h.mailboxes, h.jobs, h.rejections⟩
        · exact h
    | joinJob => exact ⟨h.guilds, h.mailboxes, (Nat.sub_le _ 1).trans h.jobs, h.rejections⟩
    | joinRejection =>
        exact ⟨h.guilds, h.mailboxes, h.jobs, (Nat.sub_le _ 1).trans h.rejections⟩
    | reap index => exact h.reap index
    | node event =>
        cases event with
        | none => exact ⟨h.guilds, h.mailboxes, h.jobs, h.rejections⟩
        | some event =>
            cases event with
            | invalidated => exact h.dispatch hlinked _ _ _
            | connected => exact h.dispatch hlinked _ _ _
            | payload payload => exact h.dispatch hlinked _ _ _
    | gateway event =>
        rcases event with _ | _ | event
        · exact ⟨h.guilds, h.mailboxes, h.jobs, h.rejections⟩
        · exact h
        · exact h.gatewayEvent hlinked event

/-- In every run of the loop there are workers for a thousand guilds at most, one for each,
and while the loop runs these are the workers that were not joined yet; no more than 128
messages wait for any of them, 128 jobs and 16 replies to rejected interactions run. -/
theorem run_capped (events : List Event) :
    Capped (Runs.run Loop.step .start events) ∧
      ((Runs.run Loop.step .start events).ending = none →
        (Runs.run Loop.step .start events).actors.length ≤ maxGuilds ∧
          ((Runs.run Loop.step .start events).actors.map Actor.guild).Nodup) := by
  have hrun : Sound (Runs.run Loop.step .start events) ∧
      Capped (Runs.run Loop.step .start events) :=
    Runs.run_invariant (fun loop => Sound loop ∧ Capped loop)
      (fun loop event h => ⟨h.1.step event, h.2.step h.1 event⟩)
      ⟨fun _ => linked_start, capped_start⟩
  refine ⟨hrun.2, ?_⟩
  intro hrunning
  have hlinked := hrun.1 hrunning
  constructor
  · rw [hlinked.length_actors]
    exact hrun.2.guilds
  · have hguilds := (hlinked.entries.map Prod.fst).nodup_iff.mp hlinked.guilds
    rw [List.map_map] at hguilds
    exact hguilds

/-! ## The permits to search -/

namespace Autocomplete

open Raydio.Resolver

/-- A call in the phase holds a permit. -/
def Phase.holds : Phase → Bool
  | .hydrating | .fetching | .resolving => true
  | _ => false

/-- How many calls hold a permit. -/
def State.held (self : State) : ℕ := self.calls.countP fun call => call.phase.holds

/-- Every permit is left, or held by a call that is under way. -/
def State.Balanced (self : State) : Prop := self.searches + self.held = 4

variable {setting : Setting} {self : State} {index : ℕ} {call next : Call}

/-- What a call that goes on does to the number of permits that are held. -/
theorem held_put (hcall : self.calls[index]? = some call) (next : Call) :
    (self.put index next).held + call.phase.holds.toNat = self.held + next.phase.holds.toNat := by
  obtain ⟨hlt, rfl⟩ := List.getElem?_eq_some_iff.mp hcall
  have hset := List.countP_set (p := fun call : Call => call.phase.holds) (a := next) hlt
  have hpositive : self.calls[index].phase.holds = true → 0 < self.held := by
    intro hholds
    exact List.countP_pos_iff.mpr ⟨_, List.getElem_mem hlt, hholds⟩
  show (self.calls.set index next).countP _ + _ = _
  rw [hset]
  show self.held - _ + _ + _ = _
  cases hold : self.calls[index].phase.holds with
  | false => cases next.phase.holds <;> simp
  | true =>
      have hheld := hpositive hold
      cases next.phase.holds <;> simp <;> omega

/-- A call goes on and keeps what it holds. -/
theorem State.Balanced.keep (h : self.Balanced) (hcall : self.calls[index]? = some call)
    (hsame : next.phase.holds = call.phase.holds) : (self.put index next).Balanced := by
  have hheld := held_put hcall next
  rw [hsame] at hheld
  show self.searches + _ = 4
  rw [State.Balanced] at h
  omega

/-- A call gives its permit back. -/
theorem State.Balanced.giveBack (h : self.Balanced) (hcall : self.calls[index]? = some call)
    (hholds : call.phase.holds = true) (hleaves : next.phase.holds = false) :
    (self.put index next).release.Balanced := by
  have hheld := held_put hcall next
  rw [hholds, hleaves] at hheld
  show self.searches + 1 + (self.put index next).held = 4
  rw [State.Balanced] at h
  simp only [Bool.toNat_true, Bool.toNat_false] at hheld
  omega

theorem State.Balanced.look (h : self.Balanced) (hcall : self.calls[index]? = some call)
    (hphase : call.phase = .looking) (key : String) : (self.look index call key).Balanced := by
  have hholds : call.phase.holds = false := by rw [hphase]; rfl
  rw [State.look]
  split
  · exact h.keep hcall hholds.symm
  · split
    · exact h.keep hcall hholds.symm
    · rename_i hleft
      have hheld := held_put hcall { call with phase := .resolving }
      rw [hholds] at hheld
      simp only [Phase.holds, Bool.toNat_true, Bool.toNat_false] at hheld
      show self.searches - 1 + (self.put index { call with phase := .resolving }).held = 4
      rw [State.Balanced] at h
      omega

theorem State.Balanced.resolved (h : self.Balanced) (hcall : self.calls[index]? = some call)
    (hphase : call.phase = .resolving) (key : String) (answer : String → Option Value)
    (pick : ℕ) : (self.resolved setting index call key answer pick).Balanced := by
  have hholds : call.phase.holds = true := by rw [hphase]; rfl
  rw [State.resolved]
  split
  · exact h.giveBack hcall hholds rfl
  · exact h.giveBack hcall hholds rfl
  · rename_i resolution _
    have hstored : (self.store key (Views.searchChoices resolution.tracks) pick).Balanced := h
    exact hstored.giveBack hcall hholds rfl

theorem State.Balanced.serve (h : self.Balanced) (hcall : self.calls[index]? = some call)
    (guild channel : ℕ) (turn : Turn) :
    (self.serve setting index call guild channel turn).Balanced := by
  unfold State.serve
  dsimp only
  split
  · rename_i hphase
    exact h.look hcall hphase _
  · rename_i hphase
    exact h.resolved hcall hphase _ _ _
  · rename_i hphase
    exact h.giveBack hcall (by rw [hphase]; rfl) rfl
  · exact h

theorem State.Balanced.hydrate (h : self.Balanced) (hcall : self.calls[index]? = some call)
    (hphase : call.phase = .hydrating) : (self.hydrate index call).Balanced := by
  have hholds : call.phase.holds = true := by rw [hphase]; rfl
  rw [State.hydrate]
  split
  · exact h.keep hcall hholds.symm
  · exact h.giveBack hcall hholds rfl

theorem State.Balanced.fetched (h : self.Balanced) (hcall : self.calls[index]? = some call)
    (hphase : call.phase = .fetching) (roles : Option (List ℕ)) :
    (self.fetched index call roles).Balanced := by
  have hholds : call.phase.holds = true := by rw [hphase]; rfl
  unfold State.fetched
  split
  · rename_i guild roles _
    have hmodified : ({ self with
      cache := self.cache.modify guild fun g => g.member roles } : State).Balanced := h
    exact hmodified.giveBack hcall hholds rfl
  · exact h.giveBack hcall hholds rfl

theorem State.Balanced.check (h : self.Balanced) (hcall : self.calls[index]? = some call)
    (hphase : call.phase = .checking) : (self.check setting index call).Balanced := by
  have hholds : call.phase.holds = false := by rw [hphase]; rfl
  rw [State.check]
  split
  · exact h.keep hcall hholds.symm
  · exact h.keep hcall hholds.symm

theorem State.Balanced.approach (h : self.Balanced) (hcall : self.calls[index]? = some call)
    (turn : Turn) : (self.approach setting index call turn).Balanced := by
  unfold State.approach
  split
  · rename_i hphase
    exact h.hydrate hcall hphase
  · rename_i hphase
    exact h.fetched hcall hphase _
  · rename_i hphase
    exact h.giveBack hcall (by rw [hphase]; rfl) rfl
  · rename_i hphase
    exact h.check hcall hphase
  · exact h

/-- A new call takes a permit only if one is left. -/
theorem State.Balanced.called (h : self.Balanced) (guild : Option ℕ) (request : Discord.Request) :
    (self.call setting guild request).Balanced := by
  have hopening : (self.opening setting guild request.user
      (trim (request.option "request"))).holds = true →
      self.opening setting guild request.user (trim (request.option "request")) = .hydrating ∧
        self.searches ≠ 0 := by
    rw [State.opening]
    split
    · simp [Phase.holds]
    · split
      · simp [Phase.holds]
      · split
        · split
          · simp [Phase.holds]
          · rename_i hleft
            exact fun _ => ⟨rfl, hleft⟩
        · simp [Phase.holds]
  rw [State.call]
  generalize self.opening setting guild request.user (trim (request.option "request")) = phase
    at hopening ⊢
  rw [State.Balanced, State.held] at h ⊢
  rw [List.countP_append, List.countP_singleton]
  cases hholds : phase.holds with
  | false =>
      have hphase : phase ≠ .hydrating := by
        rintro rfl
        cases hholds
      simp only [if_neg hphase, Bool.false_eq_true, if_false, add_zero]
      exact h
  | true =>
      obtain ⟨rfl, hleft⟩ := hopening hholds
      simp only [if_true]
      omega

theorem State.Balanced.step (h : self.Balanced) (event : Event) :
    (self.step setting event).Balanced := by
  cases event with
  | gateway cache => exact h
  | health ready => exact h
  | elapse duration => exact h
  | call guild request => exact h.called guild request
  | turn index turn =>
      show (self.proceed setting index turn).Balanced
      rw [State.proceed]
      split
      · exact h
      · rename_i call hcall
        split
        · exact h.approach hcall turn
        · exact h.serve hcall _ _ turn

/-- However calls interleave, and whatever becomes of them, of the four permits to search
those that are not left are held by calls that are about to ask for the bot's roles, or await
them or the node: a call that returned, ran out of time or panicked has given its own back. -/
theorem run_permits (setting : Setting) (cache : Voice.Cache) (ready : Bool)
    (events : List Event) :
    (Runs.run (State.step setting) (.start cache ready) events).searches +
      ((Runs.run (State.step setting) (.start cache ready) events).calls.filter fun call =>
        call.phase.holds).length = 4 := by
  rw [← List.countP_eq_length_filter]
  exact Runs.run_invariant State.Balanced (fun state event h => h.step event) rfl

end Autocomplete

end Raydio.Runtime
