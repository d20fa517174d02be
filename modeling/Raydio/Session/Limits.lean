/-
# What a session holds at most, and what is left of it

A session lives as long as its guild, and its memory is bounded by constants: the queue by
its limit, the replies to cancelled requests by 128. The bounds hold between any two turns,
whatever the backend and Discord do, and when the worker ends nothing of its playback, its
player message or its tasks is left, as long as the last cleanup is not cut off.
-/

import Raydio.Session.Answers
import Raydio.Session.Authorization
import Raydio.Session.Ownership
import Raydio.Session.Timers
import Raydio.Voice.Gateway

namespace Raydio.Session

open Raydio.Foundation Raydio.Playback Raydio.Voice Raydio.Views Raydio.Discord Raydio.Resolver

/-! ## The queue -/

/-- The queue of a session is within the limit that its configuration sets. -/
structure Stocked (limit : ℕ) (session : GuildSession) : Prop where
  config : session.queueLimit = limit
  queue : session.queue.Admitted limit

namespace GuildSession

variable (self : GuildSession) {limit : ℕ} {before after : GuildSession}

theorem startCurrent_admitted (h : self.queue.Admitted limit) :
    self.startCurrent.2.queue.Admitted limit := by
  apply startCurrent_keeps self (fun session => session.queue.Admitted limit)
  · intro session hsession
    rw [attemptStart_queue]
    exact hsession
  · intro session at' hsession
    exact hsession
  · intro session hsession
    have hqueue : session.failOver.queue = session.queue.failed :=
      congrArg Course.queue session.failOver_spec.2.2.1
    rw [hqueue]
    exact hsession.failed
  · exact h

theorem Move.stocked {ends : ℕ → Prop} (h : Move ends before after)
    (hbefore : Stocked limit before) : Stocked limit after := by
  have hconfig : after.queueLimit = limit := by
    rw [← hbefore.config, queueLimit, queueLimit, h.later.config]
  refine ⟨hconfig, ?_⟩
  have hsame {course : Course} (heq : after.course = course)
      (hqueue : course.queue.Admitted limit) : after.queue.Admitted limit := by
    have hafter : after.queue = course.queue := congrArg Course.queue heq
    rw [hafter]
    exact hqueue
  cases h with
  | quiet h => exact hsame h.course hbefore.queue
  | request course _ _ _ => exact hsame course hbefore.queue
  | edit _ _ _ edit =>
      rw [hbefore.config] at edit
      generalize hedited : after.course = course at edit
      apply hsame hedited
      cases edit with
      | queue queue live current admitted => exact admitted hbefore.queue
      | alone at' live => exact hbefore.queue
      | playing current => exact hbefore.queue
      | idle at' live current => exact hbefore.queue
  | steer _ _ _ steer =>
      generalize hsteered : after.course = course at steer
      apply hsame hsteered
      cases steer <;> exact hbefore.queue
  | leave _ _ _ course => exact hsame course (Queue.admitted_default limit)
  | clear _ _ _ _ course => exact hsame course hbefore.queue
  | halt _ _ _ _ at' course => exact hsame course (Queue.admitted_stop _ limit)
  | restart _ _ _ select =>
      rw [hbefore.config] at select
      exact startCurrent_admitted _ (select.admitted hbefore.queue)

/-- A cleanup that tells nobody. -/
theorem cleanup_none :
    self.cleanup none =
      { self.forgetPreparations.invalidate.removePanel.reset.destroy with
        events.cleanup := saturatingAdd
          self.forgetPreparations.invalidate.removePanel.reset.destroy.events.cleanup 1 } := by
  unfold cleanup
  dsimp only
  split
  · rename_i htext
    cases htext
  · rfl

/-- The last cleanup leaves the queue as it is or clears it. -/
theorem queue_cleanupUntil (cut : ℕ) :
    (self.cleanupUntil cut).queue = if cut < 3 then self.queue else .default := by
  have hforgotten : self.forgetPreparations.invalidate.queue = self.queue :=
    congrArg Course.queue self.quiet_forgetPreparations.course
  match cut with
  | 0 => rfl
  | 1 => exact (congrArg Course.queue (quiet_retireEdits _).course).trans hforgotten
  | 2 =>
      have hretired : self.forgetPreparations.invalidate.retireEdits.queue = self.queue :=
        (congrArg Course.queue (quiet_retireEdits _).course).trans hforgotten
      exact (congrArg Course.queue (quiet_takePanel _).course).trans hretired
  | 3 => rfl
  | cut + 4 =>
      show (self.cleanup none).queue = _
      rw [if_neg (by omega), cleanup_none]
      rfl

theorem close_admitted (h : self.queue.Admitted limit) (cut : ℕ) :
    (self.close cut).queue.Admitted limit := by
  have hqueue : (self.close cut).queue = if cut < 3 then self.queue else .default :=
    queue_cleanupUntil { self with
      toPipeline := self.toPipeline.abort, preparations := self.preparations.abortAll } cut
  rw [hqueue]
  split
  · exact h
  · exact Queue.admitted_default limit

/-! ## The replies -/

/-- The replies under way are within their bound. -/
def Replying (session : GuildSession) : Prop := session.responses.len ≤ 128

/-- An invalidation fills up the room that there is for replies, and nothing else adds to
them. -/
theorem replying_within (h : Within before after) (hbefore : before.Replying) :
    after.Replying := by
  obtain ⟨more, drained, hdrains⟩ := Pipeline.drains_of_inside h
  have htake : (drained.take (Pipeline.room before.responses)).length ≤
      128 - before.responses.len := List.length_take_le _ _
  rw [Replying, JoinSet.len] at hbefore ⊢
  rw [hdrains.responses, JoinSet.spawnAll, List.length_append, List.length_map]
  rw [JoinSet.len] at htake
  omega

theorem replying_joinLoader (index : ℕ) (hlawful : self.Lawful) (h : self.Replying) :
    (self.joinLoader index).Replying := by
  have hjoins := self.toPipeline.joinLoader_joins index
  have hjoined := hlawful.joinLoader index
  rw [joinLoader]
  dsimp only
  generalize self.toPipeline.joinLoader index = joined at hjoins hjoined
  cases hjoins with
  | nothing _ => exact h
  | aside task how loaders _ _ => exact h
  | discarded task resolution loaders _ _ => exact h
  | resolved task resolution loaders pending _ loading _ =>
      let taken : GuildSession := { self with
        loaders := loaders
        loading := none
        committing := some pending
        ledger := self.ledger ++
          [.taken pending.admission task.tag.admission, .committed pending.admission] }
      have hepoch : pending.epoch = taken.epoch := (hjoined.committing rfl).1
      have hsettled : Within taken (taken.commit pending resolution).settle :=
        (taken.within_commit pending resolution hepoch).trans
          (Relation.ReflTransGen.single (.settle _))
      exact replying_within hsettled h
  | panicked task loaders pending _ loading => exact h

/-- No handler exceeds the bound on replies. -/
theorem replying_handle {arm : Arm} {handled : GuildSession} (h : self.handle arm = some handled)
    (hlawful : self.Lawful) (hself : self.Replying) : handled.Replying := by
  cases arm with
  | interaction request acknowledged =>
      cases h
      split
      · rcases self.suspend.2.interaction_admits request with hwithin | ⟨other, channel, heq⟩
        · exact replying_within hwithin hself
        · rw [Replying, heq]
          exact hself
      · exact hself
  | backend payload =>
      cases h
      exact replying_within (self.within_backend payload) hself
  | ending index =>
      simp only [handle] at h
      split at h
      · cases h
      · cases h
        exact replying_within (within_backend _ _) hself
  | voiceChanged =>
      cases h
      exact replying_within self.within_voiceChanged hself
  | invalidated =>
      cases h
      exact replying_within (self.within_cleanup _) hself
  | connected =>
      cases h
      exact replying_within self.within_onConnected hself
  | joinLoader index =>
      simp only [handle] at h
      split at h
      · cases h
        exact self.replying_joinLoader index hlawful hself
      · cases h
  | joinResponse index =>
      simp only [handle] at h
      split at h
      · cases h
      · rename_i task how responses hjoin
        cases h
        have hlength := (JoinSet.marks_joinNext hjoin).length_eq
        rw [JoinSet.marks, JoinSet.marks, List.length_cons, List.length_map, List.length_map]
          at hlength
        exact (Nat.le_succ _).trans (hlength.trans_le hself)
  | joinPreparation index =>
      simp only [handle] at h
      split at h
      · cases h
      · cases h
        exact replying_within (within_quiet (quiet_finishPreparation _ _ _)) hself
  | joinDeletion index =>
      simp only [handle] at h
      split at h
      · cases h
      · cases h
        exact hself
  | joinEdit index =>
      simp only [handle] at h
      split at h
      · cases h
      · cases h
        refine replying_within (within_quiet ((quiet_refresh _).after
          (quiet_finishRefresh _ _ _))) hself
  | tick =>
      cases h
      exact replying_within self.within_tick hself

theorem replying_outside (move : Outside) (h : self.Replying) : (self.outside move).Replying := by
  cases move with
  | endResponse index how =>
      have hlen : (self.responses.finish index fun _ => how).len = self.responses.len := by
        simp [JoinSet.finish, JoinSet.len]
      exact hlen.trans_le h
  | _ => exact h

theorem replying_close (h : self.Replying) (cut : ℕ) : (self.close cut).Replying := by
  let aborted : GuildSession := { self with
    toPipeline := self.toPipeline.abort, preparations := self.preparations.abortAll }
  have hresponses : (self.close cut).responses = (aborted.cleanupUntil cut).responses.abortAll :=
    rfl
  have hcleaned : (aborted.cleanupUntil cut).Replying := by
    rcases aborted.settles_cleanupUntil cut with hsettled | hsettled
    · exact replying_within (.of_eq hsettled.pipeline_eq) h
    · exact replying_within (within_invalidate hsettled.pipeline_eq) h
  rw [Replying, hresponses, JoinSet.len, JoinSet.abortAll, List.length_map]
  exact hcleaned

/-! ## What is left -/

/-- Nothing is left of the playback, of the player message and of the tasks, but for loaders
and replies that were asked to stop, and the guild is shown to be idle. -/
structure Gone (session : GuildSession) : Prop where
  queue : session.queue = .default
  channel : session.channel = none
  panel : session.panel = none
  panelEdits : session.panelEdits = .new
  panelDeletions : session.panelDeletions = .new
  preparations : session.preparations = .new
  waiting : session.waiting = []
  loaders : ∀ mark ∈ session.loaders.marks, mark.2 = true
  responses : ∀ mark ∈ session.responses.marks, mark.2 = true
  activity : ∀ guild, session.guild = some guild → guild.activity = ⟨none, 0, 0, none⟩

/-- What the guild of a session is shown to do. -/
def shownActivity : Activity :=
  { channel := self.channel
    queueCount := self.queue.len
    pending := self.inFlight
    title := self.queue.current.map fun track => truncate track.title 100 }

theorem activity_publishActivity {guild : Guild} (h : self.publishActivity.guild = some guild) :
    guild.activity = self.publishActivity.shownActivity := by
  have hguild : (self.shared.cache.guilds[self.id]?).map (fun guild => { guild with
      activity := self.shownActivity }) = some guild := by
    rw [← h]
    show _ = (self.shared.cache.modify self.id _).guilds[self.id]?
    rw [Cache.modify_guilds, if_pos rfl]
    rfl
  obtain ⟨old, -, rfl⟩ := Option.map_eq_some_iff.mp hguild
  rfl

theorem panel_removePanel : self.removePanel.panel = none := by
  rw [removePanel]
  split
  · rename_i panel _
    obtain ⟨left, -, hpanels, -⟩ :=
      (({ self.retireEdits with panel := none } : GuildSession).note
        (.retired panel.ref)).deletePanel_spec panel
    exact congrArg Panels.panel hpanels
  · assumption

theorem preparation_removePanel : self.removePanel.toPreparation = self.toPreparation := by
  rw [removePanel]
  split
  · rename_i panel _
    obtain ⟨left, -, -, hpreparation⟩ :=
      (({ self.retireEdits with panel := none } : GuildSession).note
        (.retired panel.ref)).deletePanel_spec panel
    exact hpreparation.trans self.retireEdits_spec.2
  · exact self.retireEdits_spec.2

theorem preparations_forgetPreparations : self.forgetPreparations.preparations = .new := by
  rw [forgetPreparations]
  dsimp only
  split
  · rename_i hempty
    exact JoinSet.isEmpty_iff.mp hempty
  · rfl

/-- A whole last cleanup leaves nothing. -/
theorem close_gone {cut : ℕ} (hcut : 4 ≤ cut) : (self.close cut).Gone := by
  let aborted : GuildSession := { self with
    toPipeline := self.toPipeline.abort, preparations := self.preparations.abortAll }
  obtain ⟨rest, rfl⟩ : ∃ rest, cut = rest + 4 := ⟨cut - 4, by omega⟩
  have hpipeline : (self.close (rest + 4)).toPipeline = { aborted.toPipeline.invalidate with
      responses := aborted.toPipeline.invalidate.responses.abortAll } := by
    rw [← (aborted.settles_cleanup none).pipeline_eq]
    rfl
  have hcleaned : aborted.cleanupUntil (rest + 4) = aborted.cleanup none := rfl
  rw [cleanup_none] at hcleaned
  have hclosed : self.close (rest + 4) = ({ ({ ({ aborted.cleanupUntil (rest + 4) with
      panelEdits := .new } : GuildSession).suspend.2 with panelDeletions := .new } : GuildSession)
      with responses := (aborted.cleanupUntil (rest + 4)).responses.abortAll } :
        GuildSession).publishActivity := rfl
  rw [hcleaned] at hclosed
  have hqueue : (self.close (rest + 4)).queue = .default := by
    rw [hclosed]
    rfl
  have hchannel : (self.close (rest + 4)).channel = none := by
    rw [hclosed]
    rfl
  have hpanel : (self.close (rest + 4)).panel = none := by
    rw [hclosed]
    exact aborted.forgetPreparations.invalidate.panel_removePanel
  have hpreparations : (self.close (rest + 4)).preparations = .new := by
    have hkept := aborted.forgetPreparations.invalidate.preparation_removePanel
    rw [hclosed]
    exact (congrArg Preparation.preparations hkept).trans aborted.preparations_forgetPreparations
  have hwaiting : (self.close (rest + 4)).waiting = [] := by
    rw [hpipeline]
    rfl
  have hasked {τ α : Type} (set : JoinSet τ α) : ∀ mark ∈ set.abortAll.marks, mark.2 = true :=
    fun mark hmem => (JoinSet.mem_marks_abortAll hmem).1
  constructor
  · exact hqueue
  · exact hchannel
  · exact hpanel
  · rfl
  · rfl
  · exact hpreparations
  · exact hwaiting
  · rw [hpipeline]
    exact hasked _
  · rw [hpipeline]
    exact hasked _
  · intro guild hguild
    rw [hclosed] at hguild
    have hshown := activity_publishActivity _ hguild
    rw [← hclosed, shownActivity, hqueue, hchannel, hpipeline] at hshown
    exact hshown

end GuildSession

/-! ## Runs -/

/-- The last cleanup of a turn that ends the worker is not cut off. -/
def Input.Patient : Input → Prop
  | .outside _ => True
  | .turn _ _ _ cut => 4 ≤ cut
  | .close _ _ cut => 4 ≤ cut

namespace Worker

/-- In every run of a session the queue is within its limit and its invariants, also when
the worker has ended, and no more than 128 replies to cancelled requests are under way. -/
theorem run_limited (id : ℕ) (shared : Shared) (inputs : List Input) :
    ((start id shared).run inputs).session.queue.Admitted shared.config.limits.queue ∧
      ((start id shared).run inputs).session.responses.len ≤ 128 := by
  constructor
  · have hholds := run_rule (Stocked shared.config.limits.queue)
      (fun session => session.queue.Admitted shared.config.limits.queue)
      (by
        intro session input after _ hstocked hmoves
        refine hmoves.invariant (Stocked shared.config.limits.queue)
          (fun _ _ move hbefore => move.stocked hbefore) ?_
        have hqueue : (input.ready session).queue = session.queue :=
          congrArg Course.queue (input.ready_course session)
        constructor
        · rw [← hstocked.config, GuildSession.queueLimit, input.ready_config session]
          rfl
        · rw [hqueue]
          exact hstocked.queue)
      (fun session cut hstocked => session.close_admitted hstocked.queue cut)
      (start id shared) inputs (along_true _ _)
      ⟨rfl, Queue.admitted_default shared.config.limits.queue⟩
    cases hrun : (start id shared).run inputs with
    | running session =>
        rw [hrun] at hholds
        exact hholds.queue
    | ended session =>
        rw [hrun] at hholds
        exact hholds
  · induction inputs using List.reverseRecOn with
    | nil => exact Nat.zero_le 128
    | append_singleton front input ih =>
        have hstep : (start id shared).run (front ++ [input]) =
            ((start id shared).run front).step input := List.foldl_concat _ _ _ _
        have hlawful := (counted_run id shared front).1
        rw [hstep]
        generalize (start id shared).run front = worker at ih hlawful ⊢
        cases worker with
        | ended session => exact ih
        | running session =>
            have hreplying : session.Replying := ih
            cases input with
            | outside move => exact session.replying_outside move hreplying
            | close script random cut =>
                exact (session.prepare script random).replying_close hreplying cut
            | turn arm script random cut =>
                cases hhandled : (session.prepare script random).handle arm with
                | none =>
                    simp only [step, hhandled]
                    exact hreplying
                | some handled =>
                    have hafter : handled.Replying :=
                      GuildSession.replying_handle _ hhandled hlawful hreplying
                    have hfollow : handled.followUp.Replying := by
                      rw [GuildSession.Replying, handled.followUp_eq.2.1]
                      exact hafter
                    simp only [step, hhandled]
                    split
                    · exact GuildSession.replying_close _ hfollow cut
                    · exact hfollow

/-- A worker that has ended leaves nothing of its playback, its player message and its tasks
behind, and its guild idle, unless its last cleanup was cut off. -/
theorem run_gone (id : ℕ) (shared : Shared) (inputs : List Input)
    (hinputs : ∀ input ∈ inputs, input.Patient) :
    ((start id shared).run inputs).Holds (fun _ => True) GuildSession.Gone := by
  refine run_steps (fun _ => True) GuildSession.Gone ?_ (start id shared) inputs
    (along_of_forall hinputs (start id shared)) trivial
  · intro session input hpatient _
    cases input with
    | outside move => trivial
    | close script random cut => exact GuildSession.close_gone _ hpatient
    | turn arm script random cut =>
        cases hhandled : (session.prepare script random).handle arm with
        | none =>
            simp only [step, hhandled]
            trivial
        | some handled =>
            simp only [step, hhandled]
            split
            · exact GuildSession.close_gone _ hpatient
            · trivial

/-- The service shuts down while a track plays. -/
theorem run_gone_shutdown :
    ∃ session, (start 1 Sample.shared).run
        (Sample.play :: Sample.resolve [Sample.track "a"] ++ [.close [] [] 4]) = ended session ∧
      session.Gone := by
  have hgone := run_gone 1 Sample.shared
    (Sample.play :: Sample.resolve [Sample.track "a"] ++ [.close [] [] 4])
    (by
      intro input hinput
      simp only [Sample.resolve, Sample.play, Sample.turn, List.cons_append, List.nil_append,
        List.mem_cons, List.not_mem_nil, or_false] at hinput
      rcases hinput with rfl | rfl | rfl | rfl
      · exact Nat.le_refl 4
      · trivial
      · exact Nat.le_refl 4
      · exact Nat.le_refl 4)
  have hended : ((start 1 Sample.shared).run
      (Sample.play :: Sample.resolve [Sample.track "a"] ++ [.close [] [] 4])).Holds
        (fun _ => False) (fun _ => True) := by
    decide +kernel
  cases hrun : (start 1 Sample.shared).run
      (Sample.play :: Sample.resolve [Sample.track "a"] ++ [.close [] [] 4]) with
  | running session =>
      rw [hrun] at hended
      cases hended
  | ended session =>
      rw [hrun] at hgone
      exact ⟨session, rfl, hgone⟩

end Worker

end Raydio.Session
