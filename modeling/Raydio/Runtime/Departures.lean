/-
# When a departing guild stops the bot

While the loop runs, its senders are those of the workers that were not joined yet.
A failed send of a node event ends the loop. Besides a full mailbox and a panic there
is one more way to it: the worker of a guild that left the cache is over, its
receiver is dropped, and the event comes before its task is joined. The other sends
of the loop bear with that.
-/

import Raydio.Runtime.Loop

namespace Raydio.Runtime

open Raydio.Foundation

/-! ## Sending -/

/-- A message to the channel would be accepted. -/
def accepting (actors : List Actor) (channel : ℕ) : Bool :=
  actors.any fun actor => actor.channel = channel && actor.accepts

theorem trySend_fst (actors : List Actor) (channel : ℕ) (message : Message) :
    (trySend actors channel message).1 = accepting actors channel := by
  rw [trySend, accepting]
  split
  · rename_i h
    exact h.symm
  · rename_i h
    exact (Bool.not_eq_true _ ▸ h : _ = false).symm

/-- Sending to one channel leaves the others as they are. -/
theorem accepting_trySend {actors : List Actor} {channel other : ℕ} (message : Message)
    (hne : other ≠ channel) :
    accepting (trySend actors channel message).2 other = accepting actors other := by
  rw [trySend]
  split
  · rw [accepting]
    rw [List.any_map]
    congr 1
    funext actor
    simp only [Function.comp_apply]
    split
    · rename_i hsame
      have hother : actor.channel ≠ other := fun heq => hne (heq.symm.trans hsame)
      simp [hother]
    · rfl
  · rfl

/-- All sends succeed exactly if every channel accepts. -/
theorem sendAll_fst {actors : List Actor} (message : Message) {channels : List ℕ}
    (hnodup : channels.Nodup) :
    (sendAll actors message channels).1 = channels.all (accepting actors) := by
  induction channels generalizing actors with
  | nil => rfl
  | cons channel rest ih =>
      obtain ⟨hnot, hrest⟩ := List.nodup_cons.mp hnodup
      rw [sendAll, trySend_fst, List.all_cons]
      cases haccepting : accepting actors channel with
      | false => rfl
      | true =>
          rw [if_pos rfl, ih hrest, Bool.true_and, Bool.eq_iff_iff, List.all_eq_true,
            List.all_eq_true]
          apply forall₂_congr
          intro other hother
          have hne : other ≠ channel := by
            rintro rfl
            exact hnot hother
          rw [accepting_trySend message hne]

/-- A worker as an entry of the senders. -/
def Actor.entry (self : Actor) : ℕ × ℕ := (self.guild, self.channel)

/-- Sending adds and removes no worker. -/
theorem entries_trySend (actors : List Actor) (channel : ℕ) (message : Message) :
    (trySend actors channel message).2.map Actor.entry = actors.map Actor.entry := by
  rw [trySend]
  split
  · rw [List.map_map]
    apply List.map_congr_left
    intro actor _
    simp only [Function.comp_apply]
    split <;> rfl
  · rfl

theorem entries_sendAll (actors : List Actor) (message : Message) (channels : List ℕ) :
    (sendAll actors message channels).2.map Actor.entry = actors.map Actor.entry := by
  induction channels generalizing actors with
  | nil => rfl
  | cons channel rest ih =>
      rw [sendAll]
      split
      · rw [ih, entries_trySend]
      · exact entries_trySend actors channel message

/-! ## Senders and workers -/

/-- The senders are those of the workers that were not joined yet, one for each guild. -/
structure Linked (loop : Loop) : Prop where
  entries : loop.guilds.Perm (loop.actors.map Actor.entry)
  guilds : (loop.guilds.map Prod.fst).Nodup
  channels : (loop.guilds.map Prod.snd).Nodup
  fresh : ∀ entry ∈ loop.guilds, entry.2 < loop.channels

/-- A loop that runs is linked. -/
def Sound (loop : Loop) : Prop := loop.ending = none → Linked loop

variable {first last loop : Loop}

theorem linked_start : Linked .start where
  entries := List.Perm.nil
  guilds := List.nodup_nil
  channels := List.nodup_nil
  fresh := by
    intro entry hmem
    cases hmem

/-- Workers move, but none comes or goes. -/
theorem Linked.keep (h : Linked first) (guilds : last.guilds = first.guilds)
    (entries : last.actors.map Actor.entry = first.actors.map Actor.entry)
    (channels : last.channels = first.channels) : Linked last where
  entries := by
    rw [guilds, entries]
    exact h.entries
  guilds := guilds ▸ h.guilds
  channels := guilds ▸ h.channels
  fresh := by
    rw [guilds, channels]
    exact h.fresh

theorem entries_modify (actors : List Actor) (index : ℕ) (change : Actor → Actor)
    (hchange : ∀ actor, (change actor).entry = actor.entry) :
    (actors.modify index change).map Actor.entry = actors.map Actor.entry := by
  apply List.ext_getElem
  · simp
  · intro position hleft hright
    simp only [List.getElem_map, List.getElem_modify]
    split
    · exact hchange _
    · rfl

theorem Linked.modify (h : Linked first) (index : ℕ) (change : Actor → Actor)
    (hchange : ∀ actor, (change actor).entry = actor.entry) : Linked (first.modify index change) :=
  h.keep rfl (entries_modify _ _ _ hchange) rfl

/-- A worker is joined, and its sender forgotten. -/
theorem Linked.reap (h : Linked first) {index : ℕ} (hlt : index < first.actors.length) :
    Linked { first with
      actors := first.actors.eraseIdx index
      guilds := first.guilds.filter fun entry => entry.1 ≠ first.actors[index].guild } := by
  have hsublist := List.filter_sublist (l := first.guilds)
    (p := fun entry => decide (entry.1 ≠ first.actors[index].guild))
  have hperm : (first.actors[index].entry ::
      (first.actors.eraseIdx index).map Actor.entry).Perm first.guilds :=
    ((List.getElem_cons_eraseIdx_perm hlt).map Actor.entry).trans h.entries.symm
  have hnodup := (hperm.map Prod.fst).nodup_iff.mpr h.guilds
  rw [List.map_cons, List.nodup_cons] at hnodup
  constructor
  · have hfiltered := hperm.symm.filter fun entry =>
      decide (entry.1 ≠ first.actors[index].guild)
    have hothers : ((first.actors.eraseIdx index).map Actor.entry).filter (fun entry =>
        decide (entry.1 ≠ first.actors[index].guild)) =
          (first.actors.eraseIdx index).map Actor.entry := by
      rw [List.filter_eq_self]
      intro entry hmem
      rw [decide_eq_true_eq]
      intro heq
      apply hnodup.1
      rw [show first.actors[index].entry.1 = entry.1 from heq.symm]
      exact List.mem_map_of_mem hmem
    rw [List.filter_cons_of_neg (by simp [Actor.entry]), hothers] at hfiltered
    exact hfiltered
  · exact h.guilds.sublist (hsublist.map _)
  · exact h.channels.sublist (hsublist.map _)
  · intro entry hmem
    exact h.fresh entry (hsublist.subset hmem)

theorem Linked.sound_reap (h : Linked first) (index : ℕ) : Sound (first.reap index) := by
  rw [Loop.reap]
  split
  · exact fun _ => h
  · rename_i actor hactor
    obtain ⟨hlt, rfl⟩ := List.getElem?_eq_some_iff.mp hactor
    split
    · exact fun _ => h.reap hlt
    · intro habsurd
      cases habsurd
    · exact fun _ => h

/-- A worker is spawned for a guild that has none. -/
theorem Linked.spawn (h : Linked first) {guild : ℕ} (hnone : first.guilds.lookup guild = none) :
    Linked (first.spawn guild) where
  entries := by
    show (first.guilds ++ [_]).Perm ((first.actors ++ [_]).map Actor.entry)
    rw [List.map_append]
    exact h.entries.append_right _
  guilds := by
    show ((first.guilds ++ [_]).map Prod.fst).Nodup
    rw [List.map_append, List.nodup_append]
    refine ⟨h.guilds, List.nodup_singleton _, ?_⟩
    intro known hknown other hother heq
    obtain ⟨entry, hentry, rfl⟩ := List.mem_map.mp hknown
    rw [List.lookup_eq_none_iff] at hnone
    have hne := hnone entry hentry
    rw [List.mem_singleton.mp hother] at heq
    simp [heq] at hne
  channels := by
    show ((first.guilds ++ [_]).map Prod.snd).Nodup
    rw [List.map_append, List.nodup_append]
    refine ⟨h.channels, List.nodup_singleton _, ?_⟩
    intro known hknown other hother heq
    obtain ⟨entry, hentry, rfl⟩ := List.mem_map.mp hknown
    rw [List.mem_singleton.mp hother] at heq
    exact absurd heq (Nat.ne_of_lt (h.fresh entry hentry))
  fresh := by
    intro entry hmem
    rcases List.mem_append.mp hmem with hold | hnew
    · exact Nat.lt_succ_of_lt (h.fresh entry hold)
    · rw [List.mem_singleton.mp hnew]
      exact Nat.lt_succ_self _

theorem Linked.deliver (h : Linked first) (channel : ℕ) : Linked (first.deliver channel) := by
  unfold Loop.deliver
  dsimp only
  split
  · exact h.keep rfl (entries_trySend _ _ _) rfl
  · exact h.keep rfl (entries_trySend _ _ _) rfl

theorem Linked.interact (h : Linked first) (interaction : Interaction) :
    Linked (first.interact interaction) := by
  have hreject : Linked first.reject := h.keep rfl rfl rfl
  rw [Loop.interact]
  split
  · exact hreject
  · rename_i guild _
    split
    · exact hreject
    · split
      · exact h.keep rfl rfl rfl
      · split
        · exact h
        · split
          · exact hreject
          · split
            · exact h.deliver _
            · rename_i hnone
              split
              · exact hreject
              · exact (h.spawn hnone).deliver _

theorem Linked.gatewayEvent (h : Linked first) (event : GatewayEvent) :
    Linked (first.gatewayEvent event) := by
  have hcache : Linked { first with cache := event.cache } := h.keep rfl rfl rfl
  have hchanged : ∀ guild,
      Linked (({ first with cache := event.cache } : Loop).voiceChanged guild) := by
    intro guild
    rw [Loop.voiceChanged]
    split
    · exact hcache
    · exact hcache.keep rfl (entries_trySend _ _ _) rfl
  unfold Loop.gatewayEvent
  dsimp only
  split
  · split
    · exact hcache
    · exact hchanged _
  · split
    · exact hcache.interact _
    · exact (hchanged _).interact _

theorem Linked.dispatch (h : Linked first) (message : Message) (channels : List ℕ)
    (overload : Ending) : Linked (first.dispatch message channels overload) := by
  unfold Loop.dispatch
  dsimp only
  split
  · exact h.keep rfl (entries_sendAll _ _ _) rfl
  · exact h.keep rfl (entries_sendAll _ _ _) rfl

/-- Every step of a loop that runs keeps it linked, as long as it runs. -/
theorem Sound.step (h : Sound first) (event : Event) : Sound (first.step event) := by
  unfold Loop.step
  split
  · exact h
  · rename_i hrunning
    have hlinked := h (Option.not_isSome_iff_eq_none.mp hrunning)
    cases event with
    | receive index =>
        intro _
        apply hlinked.modify
        intro actor
        split <;> rfl
    | leave index =>
        intro _
        apply hlinked.modify
        intro actor
        split <;> rfl
    | exit index =>
        intro _
        apply hlinked.modify
        intro actor
        split <;> rfl
    | crash index =>
        intro _
        apply hlinked.modify
        intro actor
        split <;> rfl
    | shutdown => exact fun _ => hlinked.keep rfl rfl rfl
    | cancelled =>
        dsimp only
        split
        · intro habsurd
          cases habsurd
        · exact h
    | joinJob => exact fun _ => hlinked.keep rfl rfl rfl
    | joinRejection => exact fun _ => hlinked.keep rfl rfl rfl
    | reap index => exact hlinked.sound_reap index
    | node event =>
        cases event with
        | none =>
            intro habsurd
            cases habsurd
        | some event =>
            intro _
            cases event with
            | invalidated => exact hlinked.dispatch _ _ _
            | connected => exact hlinked.dispatch _ _ _
            | payload payload => exact hlinked.dispatch _ _ _
    | gateway event =>
        rcases event with _ | _ | event
        · intro habsurd
          cases habsurd
        · exact h
        · exact fun _ => hlinked.gatewayEvent event

/-! ## How the loop fails -/

/-- The next step ends the loop with an error. -/
def Fails (loop : Loop) (event : Event) : Prop :=
  loop.ending = none ∧ (loop.step event).ending.any Ending.isError = true

/-- A worker to which the node event goes is not over, and its mailbox is full. -/
def Full (loop : Loop) (event : Event) : Prop :=
  ∃ sent actor, event = .node (some sent) ∧ actor ∈ loop.actors ∧
    actor.channel ∈ loop.targets sent ∧ actor.listening = true ∧
      mailboxSize ≤ actor.mailbox.length

/-- A worker panicked. -/
def Crashed (loop : Loop) : Prop := ∃ actor ∈ loop.actors, actor.phase = .panicked

/-- The ways in which the loop may fail. -/
def Excused (loop : Loop) (event : Event) : Prop :=
  Full loop event ∨ Crashed loop ∨ event = .node none ∨ event = .gateway none

/-- A node event goes to a worker that is over and was not joined yet; no worker
panicked, and no other mailbox to which the event goes is full. -/
def Severed (loop : Loop) (event : Event) : Prop :=
  loop.ending = none ∧
    (∃ sent actor, event = .node (some sent) ∧ actor ∈ loop.actors ∧
      actor.channel ∈ loop.targets sent ∧ actor.phase = .exited) ∧
    ¬ Full loop event ∧ ¬ Crashed loop

/-- A node event goes to senders, each at most once. -/
theorem Linked.targets (h : Linked loop) (event : NodeEvent) :
    (loop.targets event).Nodup ∧ ∀ channel ∈ loop.targets event,
      channel ∈ loop.guilds.map Prod.snd := by
  cases event with
  | invalidated => exact ⟨h.channels, fun _ hmem => hmem⟩
  | connected => exact ⟨h.channels, fun _ hmem => hmem⟩
  | payload payload =>
      refine ⟨(Option.toList_nodup _), ?_⟩
      intro channel hmem
      obtain ⟨guild, -, hlookup⟩ := Option.bind_eq_some_iff.mp (Option.mem_toList.mp hmem)
      obtain ⟨before, after, hsplit, -⟩ := List.lookup_eq_some_iff.mp hlookup
      rw [hsplit]
      simp

/-- A channel with a sender does not accept a message exactly if its worker does not. -/
theorem Linked.accepting_eq_false_iff (h : Linked loop) {channel : ℕ}
    (hmem : channel ∈ loop.guilds.map Prod.snd) : accepting loop.actors channel = false ↔
      ∃ actor ∈ loop.actors, actor.channel = channel ∧ actor.accepts = false := by
  have hperm : (loop.guilds.map Prod.snd).Perm (loop.actors.map Actor.channel) := by
    have hmapped := h.entries.map Prod.snd
    rw [List.map_map] at hmapped
    exact hmapped
  have hnodup : (loop.actors.map Actor.channel).Nodup := hperm.nodup_iff.mp h.channels
  obtain ⟨actor, hactor, rfl⟩ := List.mem_map.mp (hperm.mem_iff.mp hmem)
  rw [accepting, List.any_eq_false]
  constructor
  · intro hnone
    refine ⟨actor, hactor, rfl, ?_⟩
    simpa using hnone actor hactor
  · rintro ⟨other, hother, hsame, hrefuses⟩ third hthird
    simp only [Bool.and_eq_true, decide_eq_true_eq, not_and, Bool.not_eq_true]
    intro hchannel
    rw [List.inj_on_of_nodup_map hnodup hthird hother (hchannel.trans hsame.symm)]
    exact hrefuses

theorem dispatch_fails_iff (hrunning : loop.ending = none) (message : Message)
    (channels : List ℕ) {overload : Ending} (herror : overload.isError = true) :
    (loop.dispatch message channels overload).ending.any Ending.isError = true ↔
      (sendAll loop.actors message channels).1 = false := by
  unfold Loop.dispatch
  dsimp only
  cases (sendAll loop.actors message channels).1 with
  | true => simp [hrunning]
  | false => simp [Loop.finish, herror]

/-- A node event fails exactly if a worker to which it goes does not accept it. -/
theorem Linked.node_fails_iff (h : Linked loop) (hrunning : loop.ending = none)
    (event : NodeEvent) : Fails loop (.node (some event)) ↔
      ∃ actor ∈ loop.actors, actor.channel ∈ loop.targets event ∧ actor.accepts = false := by
  obtain ⟨hnodup, hsenders⟩ := h.targets event
  have hsent : Fails loop (.node (some event)) ↔
      (loop.targets event).all (accepting loop.actors) = false := by
    rw [Fails, Loop.step]
    rw [hrunning]
    cases event with
    | invalidated =>
        rw [← sendAll_fst .invalidated hnodup]
        exact (and_iff_right rfl).trans (dispatch_fails_iff hrunning _ _ rfl)
    | connected =>
        rw [← sendAll_fst .connected hnodup]
        exact (and_iff_right rfl).trans (dispatch_fails_iff hrunning _ _ rfl)
    | payload payload =>
        rw [← sendAll_fst (.backend payload) hnodup]
        exact (and_iff_right rfl).trans (dispatch_fails_iff hrunning _ _ rfl)
  rw [hsent, List.all_eq_false]
  constructor
  · rintro ⟨channel, hmem, hnot⟩
    rw [Bool.not_eq_true, h.accepting_eq_false_iff (hsenders channel hmem)] at hnot
    obtain ⟨actor, hactor, rfl, hrefuses⟩ := hnot
    exact ⟨actor, hactor, hmem, hrefuses⟩
  · rintro ⟨actor, hactor, hmem, hrefuses⟩
    refine ⟨actor.channel, hmem, ?_⟩
    rw [Bool.not_eq_true, h.accepting_eq_false_iff (hsenders _ hmem)]
    exact ⟨actor, hactor, rfl, hrefuses⟩

/-- A worker that does not accept a message is over, or its mailbox is full. -/
theorem Actor.accepts_eq_false_iff (actor : Actor) : actor.accepts = false ↔
    actor.phase = .exited ∨ actor.phase = .panicked ∨
      (actor.listening = true ∧ mailboxSize ≤ actor.mailbox.length) := by
  rw [accepts, listening]
  cases actor.phase <;> simp

theorem interact_ending (interaction : Interaction) :
    (loop.interact interaction).ending = loop.ending := by
  have hdeliver : ∀ (loop : Loop) channel, (loop.deliver channel).ending = loop.ending := by
    intro loop channel
    unfold Loop.deliver
    dsimp only
    split <;> rfl
  rw [Loop.interact]
  split
  · rfl
  · split
    · rfl
    · split
      · rfl
      · split
        · rfl
        · split
          · rfl
          · split
            · exact hdeliver _ _
            · split
              · rfl
              · exact hdeliver _ _

theorem gatewayEvent_ending (event : GatewayEvent) :
    (loop.gatewayEvent event).ending = loop.ending := by
  have hchanged : ∀ guild,
      (({ loop with cache := event.cache } : Loop).voiceChanged guild).ending = loop.ending := by
    intro guild
    rw [Loop.voiceChanged]
    split <;> rfl
  unfold Loop.gatewayEvent
  dsimp only
  split
  · split
    · rfl
    · exact hchanged _
  · split
    · exact interact_ending _
    · exact (interact_ending _).trans (hchanged _)

/-- Apart from a node event that fails, every failure is excused. -/
theorem Fails.cases {event : Event} (h : Fails loop event) :
    Excused loop event ∨ ∃ sent, event = .node (some sent) := by
  obtain ⟨hrunning, herror⟩ := h
  unfold Loop.step at herror
  rw [hrunning] at herror
  cases event with
  | node event =>
      cases event with
      | none => exact Or.inl (Or.inr (Or.inr (Or.inl rfl)))
      | some sent => exact Or.inr ⟨sent, rfl⟩
  | gateway event =>
      rcases event with _ | _ | event
      · exact Or.inl (Or.inr (Or.inr (Or.inr rfl)))
      · simp [hrunning] at herror
      · simp [gatewayEvent_ending, hrunning] at herror
  | reap index =>
      simp only [Option.isSome_none, Bool.false_eq_true, if_false, Loop.reap] at herror
      split at herror
      · simp [hrunning] at herror
      · rename_i actor hactor
        split at herror
        · simp [hrunning] at herror
        · rename_i hphase
          exact Or.inl (Or.inr (Or.inl ⟨actor, List.mem_of_getElem? hactor, hphase⟩))
        · simp [hrunning] at herror
  | cancelled =>
      simp only [Option.isSome_none, Bool.false_eq_true, if_false] at herror
      split at herror
      · simp [Loop.finish, Ending.isError] at herror
      · simp [hrunning] at herror
  | receive index => simp [Loop.receive, Loop.modify, hrunning] at herror
  | leave index => simp [Loop.leave, Loop.modify, hrunning] at herror
  | exit index => simp [Loop.exit, Loop.modify, hrunning] at herror
  | crash index => simp [Loop.crash, Loop.modify, hrunning] at herror
  | shutdown => simp at herror
  | joinJob => simp at herror
  | joinRejection => simp at herror

/-- In a sound loop a failure is without excuse exactly if the event is severed. -/
theorem Sound.excused_iff (h : Sound loop) (event : Event) :
    (Fails loop event → Excused loop event) ↔ ¬ Severed loop event := by
  constructor
  · rintro hexcused ⟨hrunning, ⟨sent, actor, rfl, hactor, hmem, hphase⟩, hfull, hcrashed⟩
    have hfails : Fails loop (.node (some sent)) := by
      rw [(h hrunning).node_fails_iff hrunning]
      exact ⟨actor, hactor, hmem, actor.accepts_eq_false_iff.mpr (Or.inl hphase)⟩
    rcases hexcused hfails with hexcuse | hexcuse | habsurd | habsurd
    · exact hfull hexcuse
    · exact hcrashed hexcuse
    · cases habsurd
    · cases habsurd
  · intro hwhole hfails
    rcases hfails.cases with hexcused | ⟨sent, rfl⟩
    · exact hexcused
    · have hrunning := hfails.1
      obtain ⟨actor, hactor, hmem, hrefuses⟩ :=
        ((h hrunning).node_fails_iff hrunning sent).mp hfails
      by_contra hnot
      rcases actor.accepts_eq_false_iff.mp hrefuses with hphase | hphase | ⟨hlistens, hfull⟩
      · apply hwhole
        refine ⟨hrunning, ⟨sent, actor, rfl, hactor, hmem, hphase⟩, ?_, ?_⟩
        · exact fun hfull => hnot (Or.inl hfull)
        · exact fun hcrashed => hnot (Or.inr (Or.inl hcrashed))
      · exact hnot (Or.inr (Or.inl ⟨actor, hactor, hphase⟩))
      · exact hnot (Or.inl ⟨sent, actor, rfl, hactor, hmem, hlistens, hfull⟩)

/-! ## Runs -/

open Runs

/-- In a run every failure of the loop is excused exactly if no node event of the run
was severed: sent to a worker that is over and was not joined yet. -/
theorem run_excused_iff (events : List Event) :
    Along Loop.step (fun loop event => Fails loop event → Excused loop event) .start events ↔
      Along Loop.step (fun loop event => ¬ Severed loop event) .start events :=
  along_congr Sound (fun _ event h => h.step event) (fun _ => linked_start)
    (fun _ event h => h.excused_iff event)

/-- A guild uses the bot and is removed; its worker leaves its loop and is over; then
the node reconnects. -/
def departure : List Event :=
  [.gateway (some (some ⟨[(1, true)], none, some ⟨some 1, .handled, false⟩⟩)), .receive 0,
    .gateway (some (some ⟨[], none, none⟩)), .leave 0, .exit 0]

/-- The event of the node ends the loop, without an excuse. -/
theorem departure_not_excused :
    ¬ Along Loop.step (fun loop event => Fails loop event → Excused loop event) .start
      (departure ++ [.node (some .connected)]) := by
  intro halong
  have hrunning : (run Loop.step .start departure).ending = none := by decide +kernel
  have hends : ((run Loop.step .start departure).step (.node (some .connected))).ending =
      some .lifecycleOverloaded := by decide +kernel
  have hactors : (run Loop.step .start departure).actors.map Actor.phase = [.exited] := by
    decide +kernel
  have hphase : ∀ actor ∈ (run Loop.step .start departure).actors, actor.phase = .exited := by
    intro actor hactor
    have hmem := List.mem_map_of_mem (f := Actor.phase) hactor
    rw [hactors] at hmem
    exact List.mem_singleton.mp hmem
  rcases halong departure _ [] rfl ⟨hrunning, by rw [hends]; rfl⟩ with
    ⟨sent, actor, -, hactor, -, hlistens, -⟩ | ⟨actor, hactor, hpanicked⟩ | habsurd | habsurd
  · rw [Actor.listening, hphase actor hactor] at hlistens
    cases hlistens
  · rw [hphase actor hactor] at hpanicked
    cases hpanicked
  · cases habsurd
  · cases habsurd

end Raydio.Runtime
