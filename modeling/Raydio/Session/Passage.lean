/-
# How play requests leave the pipeline

What a handler does to the play requests, apart from admitting one and joining a loader:
it leaves them alone or drains them all. A drained request is answered by a task of its
own as long as fewer than 128 such tasks are under way, and is dropped without an answer
otherwise.
-/

import Raydio.Session.Separation

namespace Raydio.Session

open Raydio.Foundation Raydio.Playback Raydio.Voice Raydio.Views Raydio.Discord Raydio.Resolver

/-- The request that leaves the pipeline at a milestone. -/
def Milestone.leaving? : Milestone → Option ℕ
  | .taken admission _ | .cancelled admission _ => some admission
  | _ => none

/-- The request that a milestone cancels, and whether it is answered. -/
def Milestone.cancelling? : Milestone → Option (ℕ × Bool)
  | .cancelled admission answered => some (admission, answered)
  | _ => none

namespace Pipeline

/-! ## Draining -/

/-- The milestones of the drained requests: the first ones are answered, until 128 replies
are under way. -/
def cancellations (underWay : ℕ) (waiting : List Pending) : List (ℕ × Bool) :=
  waiting.mapIdx fun k pending => (pending.admission, decide (underWay + k < 128))

/-- How many further replies may be under way. -/
def room (responses : JoinSet Pending Unit) : ℕ := 128 - responses.len

/-- The loop of an invalidation answers what there is room for. -/
theorem drain_eq (responses : JoinSet Pending Unit) (waiting : List Pending) :
    drain responses waiting = (responses.spawnAll (waiting.take (room responses)),
      (cancellations responses.len waiting).map fun c => .cancelled c.1 c.2) := by
  induction waiting generalizing responses with
  | nil => simp [drain, cancellations]
  | cons pending rest ih =>
      rw [drain, ih]
      by_cases hroom : responses.len < 128
      · have htake : room responses = room (responses.spawn pending) + 1 := by
          simp only [room, JoinSet.len_spawn]
          omega
        simp [hroom, htake, JoinSet.spawnAll_cons, cancellations, Nat.add_assoc, Nat.add_comm 1]
      · have htake : room responses = 0 := Nat.sub_eq_zero_of_le (Nat.le_of_not_lt hroom)
        have hlate : ∀ k, ¬ responses.len + k < 128 := by
          intro k
          omega
        simp [hroom, htake, cancellations, hlate]

theorem cancellations_map_fst (underWay : ℕ) (waiting : List Pending) :
    (cancellations underWay waiting).map Prod.fst = waiting.map Pending.admission := by
  apply List.ext_getElem <;> simp [cancellations]

/-- What the milestones of drained requests say. -/
theorem filterMap_cancelled (cancelled : List (ℕ × Bool)) :
    (cancelled.map fun c => Milestone.cancelled c.1 c.2).filterMap Milestone.leaving? =
        cancelled.map Prod.fst ∧
      (cancelled.map fun c => Milestone.cancelled c.1 c.2).filterMap Milestone.cancelling? =
        cancelled ∧
      (cancelled.map fun c => Milestone.cancelled c.1 c.2).filterMap Milestone.admission? = [] := by
  induction cancelled with
  | nil => exact ⟨rfl, rfl, rfl⟩
  | cons first rest ih =>
      obtain ⟨hleaving, hcancelling, hadmitted⟩ := ih
      exact ⟨congrArg (first.1 :: ·) hleaving, congrArg (first :: ·) hcancelling, hadmitted⟩

/-! ## What handlers do -/

/-- What a handler can do to the requests, but for admitting one and joining a loader. -/
inductive Inside : Pipeline → Pipeline → Prop
  | mark (self : Pipeline) (milestone : Milestone) (barrier : milestone ≠ .invalidated)
      (stays : milestone.leaving? = none) (plain : milestone.admission? = none) :
      Inside self (self.mark milestone)
  | settle (self : Pipeline) : Inside self self.settle
  | startLoad (self : Pipeline) (capacity : ℕ) : Inside self (self.startLoad capacity)
  | invalidate (self : Pipeline) : Inside self self.invalidate

/-- The milestones `more` were noted down, and the requests `drained` drained. -/
structure Drains (first last : Pipeline) (more : List Milestone) (drained : List Pending) :
    Prop where
  ledger : last.ledger = first.ledger ++ more
  admissions : last.admissions = first.admissions
  waiting : first.waiting = drained ++ last.waiting
  responses : last.responses = first.responses.spawnAll (drained.take (room first.responses))
  leaving : more.filterMap Milestone.leaving? = drained.map Pending.admission
  cancelling : more.filterMap Milestone.cancelling? = cancellations first.responses.len drained
  admitted : more.filterMap Milestone.admission? = []
  emptied : .invalidated ∈ more → last.waiting = []
  untouched : .invalidated ∉ more → drained = []

variable {first second last : Pipeline} {more : List Milestone} {drained : List Pending}

theorem drains_refl (self : Pipeline) : self.Drains self [] [] where
  ledger := (List.append_nil _).symm
  admissions := rfl
  waiting := rfl
  responses := by simp
  leaving := rfl
  cancelling := rfl
  admitted := rfl
  emptied hmem := by cases hmem
  untouched _ := rfl

/-- A milestone that concerns no request in the pipeline. -/
theorem Drains.mark (h : first.Drains second more drained) {milestone : Milestone}
    (barrier : milestone ≠ .invalidated) (stays : milestone.leaving? = none)
    (plain : milestone.admission? = none) :
    first.Drains (second.mark milestone) (more ++ [milestone]) drained where
  ledger := by
    rw [← List.append_assoc, ← h.ledger]
    rfl
  admissions := h.admissions
  waiting := h.waiting
  responses := h.responses
  leaving := by simp [h.leaving, stays]
  cancelling := by
    have hnone : milestone.cancelling? = none := by
      cases milestone with
      | cancelled admission answered => cases stays
      | _ => rfl
    simp [h.cancelling, hnone]
  admitted := by simp [h.admitted, plain]
  emptied hmem := h.emptied (by simpa [barrier.symm] using hmem)
  untouched hnone := h.untouched (by simpa [barrier.symm] using hnone)

/-- Nothing is left that the loop of a further invalidation could drain. -/
theorem waiting_invalidate (self : Pipeline) : self.invalidate.waiting = [] := rfl

/-- What an invalidation drains is what waits. -/
theorem invalidate_eq (self : Pipeline) :
    self.invalidate.responses = self.responses.spawnAll (self.waiting.take (room self.responses)) ∧
      self.invalidate.ledger = self.ledger ++ .invalidated ::
        (cancellations self.responses.len self.waiting).map fun c => .cancelled c.1 c.2 := by
  cases hloading : self.loading with
  | none => simp [invalidate, waiting, hloading, drain_eq]
  | some pending => simp [invalidate, waiting, hloading, drain_eq]

theorem drains_invalidate (self : Pipeline) :
    ∃ more, self.Drains self.invalidate more self.waiting ∧
    .invalidated ∈ more := by
  obtain ⟨hresponses, hledger⟩ := self.invalidate_eq
  obtain ⟨hleaving, hcancelling, hadmitted⟩ :=
    filterMap_cancelled (cancellations self.responses.len self.waiting)
  refine ⟨_, ⟨hledger, rfl, ?_, hresponses, ?_, ?_, ?_, fun _ => rfl, ?_⟩, List.mem_cons_self⟩
  · simp [waiting_invalidate]
  · rw [List.filterMap_cons_none rfl, hleaving, cancellations_map_fst]
  · rw [List.filterMap_cons_none rfl, hcancelling]
  · rw [List.filterMap_cons_none rfl, hadmitted]
  · intro hnone
    exact absurd List.mem_cons_self hnone

/-- Two parts of a handler, of which only one drains. -/
theorem Drains.invalidate (h : first.Drains second more drained) :
    ∃ more drained, first.Drains second.invalidate more drained ∧ .invalidated ∈ more := by
  obtain ⟨later, hlater, hmem⟩ := second.drains_invalidate
  by_cases hbefore : .invalidated ∈ more
  · have hnone := h.emptied hbefore
    refine ⟨more ++ later, drained, ⟨?_, ?_, ?_, ?_, ?_, ?_, ?_, ?_, ?_⟩, by simp [hbefore]⟩
    · rw [hlater.ledger, h.ledger, List.append_assoc]
    · exact h.admissions
    · rw [h.waiting, hnone]
      rfl
    · rw [hlater.responses, hnone, List.take_nil, JoinSet.spawnAll_nil, h.responses]
    · rw [List.filterMap_append, h.leaving, hlater.leaving, hnone]
      simp
    · rw [List.filterMap_append, h.cancelling, hlater.cancelling, hnone]
      simp [cancellations]
    · rw [List.filterMap_append, h.admitted, hlater.admitted]
      rfl
    · intro _
      rfl
    · intro habsurd
      exact absurd (List.mem_append_left _ hbefore) habsurd
  · have hnone := h.untouched hbefore
    have hwaiting := h.waiting
    have hresponses := h.responses
    have hleaving := h.leaving
    have hcancelling := h.cancelling
    simp only [hnone, List.nil_append, List.take_nil, JoinSet.spawnAll_nil, List.map_nil]
      at hwaiting hresponses hleaving
    rw [hnone] at hcancelling
    refine ⟨more ++ later, second.waiting, ⟨?_, ?_, ?_, ?_, ?_, ?_, ?_, ?_, ?_⟩, by simp [hmem]⟩
    · rw [hlater.ledger, h.ledger, List.append_assoc]
    · exact h.admissions
    · rw [hwaiting, waiting_invalidate, List.append_nil]
    · rw [hlater.responses, hresponses]
    · rw [List.filterMap_append, hleaving, hlater.leaving, List.nil_append]
    · rw [List.filterMap_append, hcancelling, hlater.cancelling, hresponses]
      rfl
    · rw [List.filterMap_append, h.admitted, hlater.admitted]
      rfl
    · intro _
      rfl
    · intro habsurd
      exact absurd (List.mem_append_right _ hmem) habsurd

/-- Loading the first request leaves it among those that wait. -/
theorem startLoad_eq (self : Pipeline) (capacity : ℕ) :
    (self.startLoad capacity).waiting = self.waiting ∧
      (self.startLoad capacity).responses = self.responses ∧
      (self.startLoad capacity).ledger = self.ledger ∧
      (self.startLoad capacity).admissions = self.admissions := by
  rw [startLoad]
  split
  · rename_i pending rest hloading hpending
    simp [waiting, hloading, hpending]
  · exact ⟨rfl, rfl, rfl, rfl⟩

/-- A handler drains all requests or none. -/
theorem drains_of_inside (h : Relation.ReflTransGen Inside first last) :
    ∃ more drained, first.Drains last more drained := by
  induction h with
  | refl => exact ⟨[], [], first.drains_refl⟩
  | @tail middle _ _ hstep ih =>
      obtain ⟨more, drained, h⟩ := ih
      cases hstep with
      | mark milestone barrier stays plain => exact ⟨_, _, h.mark barrier stays plain⟩
      | settle =>
          exact ⟨more, drained, h.ledger, h.admissions, h.waiting, h.responses, h.leaving,
            h.cancelling, h.admitted, h.emptied, h.untouched⟩
      | startLoad capacity =>
          obtain ⟨hwaiting, hresponses, hledger, hadmissions⟩ := middle.startLoad_eq capacity
          refine ⟨more, drained, ?_⟩
          constructor
          · rw [hledger, h.ledger]
          · rw [hadmissions, h.admissions]
          · rw [hwaiting, h.waiting]
          · rw [hresponses, h.responses]
          · exact h.leaving
          · exact h.cancelling
          · exact h.admitted
          · rw [hwaiting]
            exact h.emptied
          · exact h.untouched
      | invalidate =>
          obtain ⟨more, drained, h, -⟩ := h.invalidate
          exact ⟨more, drained, h⟩

end Pipeline

/-! ## Handlers -/

namespace GuildSession

variable (self : GuildSession) {first second third : GuildSession}

/-- The second session comes from the first by what handlers do to the requests. -/
def Within (first second : GuildSession) : Prop :=
  Relation.ReflTransGen Pipeline.Inside first.toPipeline second.toPipeline

theorem Within.of_eq (h : second.toPipeline = first.toPipeline) : Within first second := by
  rw [Within, h]

theorem Within.trans (h : Within first second) (h' : Within second third) : Within first third :=
  Relation.ReflTransGen.trans h h'

/-- From the last part backwards. -/
theorem Within.after (h' : Within second third) (h : Within first second) : Within first third :=
  h.trans h'

theorem Within.then_quiet (h : Within first second) (h' : Quiet second third) :
    Within first third :=
  h.trans (.of_eq h'.pipeline)

theorem within_quiet (h : Quiet first second) : Within first second := .of_eq h.pipeline

theorem within_invalidate (h : second.toPipeline = first.toPipeline.invalidate) :
    Within first second := by
  rw [Within, h]
  exact .single (.invalidate _)

theorem within_mark (milestone : Milestone) (barrier : milestone ≠ .invalidated)
    (stays : milestone.leaving? = none) (plain : milestone.admission? = none) :
    Within self (self.mark milestone) :=
  .single (.mark _ milestone barrier stays plain)

theorem within_startCurrent : Within self self.startCurrent.2 := .of_eq self.startCurrent_pipeline

theorem within_cleanup (notification : Option String) : Within self (self.cleanup notification) :=
  within_invalidate (self.settles_cleanup notification).pipeline_eq

theorem within_updateAlone : Within self self.updateAlone := .of_eq rfl

theorem within_trackFailure : Within self self.trackFailure :=
  (within_startCurrent _).after (.of_eq self.failOver_spec.1)

theorem within_trackFinished : Within self self.trackFinished :=
  (within_startCurrent _).after (.of_eq rfl)

theorem within_voiceChanged : Within self self.voiceChanged := by
  rw [voiceChanged]
  split
  · exact .of_eq rfl
  · split
    · exact self.within_cleanup _
    · split
      · exact .of_eq rfl
      · split
        · exact self.within_cleanup _
        · split
          · exact .of_eq rfl
          · split
            · dsimp only
              split
              · exact .of_eq rfl
              · exact (within_cleanup _ _).after (.of_eq rfl)
            · exact .of_eq rfl

theorem within_onConnected : Within self self.onConnected := by
  rw [onConnected]
  split
  · exact .of_eq rfl
  · split
    · exact self.within_startCurrent
    · exact self.within_voiceChanged

theorem within_backend (payload : Value) : Within self (self.backend payload) := by
  rw [backend]
  split
  · exact .of_eq rfl
  · split
    · exact within_quiet (self.quiet_observeProgress payload)
    · split
      · exact self.within_cleanup _
      · split
        · exact .of_eq rfl
        · split
          · exact .of_eq rfl
          · split
            · split
              · exact .of_eq rfl
              · exact (within_quiet (quiet_refresh _)).after (.of_eq rfl)
            · split
              · exact self.within_trackFinished.then_quiet (quiet_refresh _)
              · split
                · exact self.within_trackFailure.then_quiet (quiet_refresh _)
                · exact .of_eq rfl
            · exact self.within_trackFailure.then_quiet (quiet_refresh _)
            · exact self.within_trackFailure.then_quiet (quiet_refresh _)
            · exact .of_eq rfl

theorem within_recover (finished : Bool) : Within self (self.recover finished) := by
  rw [recover]
  dsimp only
  split
  · exact (within_trackFinished _).after (.of_eq rfl)
  · exact (within_trackFailure _).after (.of_eq rfl)

theorem within_recoverUnverifiableStall : Within self self.recoverUnverifiableStall := by
  rw [recoverUnverifiableStall]
  split
  · exact (within_trackFailure _).after (.of_eq rfl)
  · exact .of_eq rfl

theorem within_recoverPlayback (player : Value) : Within self (self.recoverPlayback player) := by
  rw [recoverPlayback]
  split
  · have hobserved := within_quiet (self.quiet_observeProgress player)
    dsimp only
    split
    · exact hobserved.trans (.of_eq rfl)
    · exact hobserved.trans (within_recover _ _)
  · split
    · exact self.within_recover _
    · exact (within_recoverUnverifiableStall _).after (.of_eq rfl)

theorem within_checkPlayback : Within self self.checkPlayback := by
  rw [checkPlayback]
  split
  · exact .of_eq rfl
  · dsimp only
    split
    · exact .of_eq rfl
    · split
      · exact (within_recoverUnverifiableStall _).after (.of_eq rfl)
      · exact (within_recoverPlayback _ _).after (.of_eq rfl)

theorem within_tick : Within self self.tick := by
  unfold tick
  dsimp only
  split
  · exact (within_cleanup _ _).after self.within_voiceChanged
  · split
    · exact (within_cleanup _ _).after self.within_voiceChanged
    · exact (self.within_voiceChanged.trans (within_checkPlayback _)).then_quiet (quiet_refresh _)

/-! ## Controls -/

theorem within_setPaused (paused : Bool) : Within self (self.setPaused paused).2 := by
  rw [setPaused]
  split
  · exact .of_eq rfl
  · split
    · exact .of_eq rfl
    · dsimp only
      split <;> exact .of_eq rfl

theorem within_setVolume (level : String) : Within self (self.setVolume level).2 := by
  rw [setVolume]
  split
  · exact .of_eq rfl
  · split
    · exact .of_eq rfl
    · dsimp only
      split <;> exact .of_eq rfl

theorem within_setLoopMode (mode : String) : Within self (self.setLoopMode mode).2 := by
  rw [setLoopMode]
  split <;> exact .of_eq rfl

theorem within_transport (verb : String) : Within self (self.transport verb).2 := by
  rw [transport]
  split <;> exact self.within_startCurrent

theorem within_previous : Within self self.previous.2 := by
  rw [previous]
  split
  · exact (within_transport _ _).after (.of_eq rfl)
  · exact .of_eq rfl
  · exact .of_eq rfl

theorem within_jump (position : ℕ) : Within self (self.jump position).2 := by
  rw [jump]
  split
  · exact (within_transport _ _).after (.of_eq rfl)
  · exact .of_eq rfl

theorem within_skip : Within self self.skip.2 := by
  rw [skip]
  split
  · exact .of_eq rfl
  · exact (within_transport _ _).after (.of_eq rfl)

theorem within_perform (request : Request) : Within self (self.perform request).2 := by
  unfold perform
  split
  · exact self.within_setPaused _
  · exact self.within_setPaused _
  · exact self.within_setVolume _
  · exact self.within_setLoopMode _
  · exact .of_eq rfl
  · exact .of_eq rfl
  · exact .of_eq rfl
  · exact .of_eq rfl
  · exact self.within_previous
  · exact self.within_jump _
  · exact self.within_skip
  · exact within_invalidate self.stop_pipeline
  · exact self.within_cleanup none

theorem within_control (request : Request) : Within self (self.control request).2 := by
  rw [control]
  split
  · exact .of_eq rfl
  · split
    · exact .of_eq rfl
    · split
      · exact .of_eq rfl
      · split
        · exact .of_eq rfl
        · exact self.within_perform request

theorem within_answerControl (request : Request) : Within self (self.answerControl request) := by
  have hcontrol : Within self (self.control request).2 := self.within_control request
  unfold answerControl
  dsimp only
  refine Within.then_quiet ?_ (quiet_refresh _)
  split
  · exact hcontrol.then_quiet (quiet_confirm _ _ _)
  · exact hcontrol.then_quiet (quiet_error _ _ _)

/-! ## Admitting -/

/-- A request was admitted, and nothing else happened to the requests. -/
def Admits (first second : GuildSession) : Prop :=
  ∃ request channel, second.toPipeline = first.toPipeline.enter request channel

theorem preparePlay_admits (request : Request) :
    Within self (self.preparePlay request) ∨ Admits self (self.preparePlay request) := by
  rw [preparePlay]
  split
  · exact Or.inl (.of_eq rfl)
  · split
    · exact Or.inl (.of_eq rfl)
    · split
      · exact Or.inl (.of_eq rfl)
      · dsimp only
        split
        · exact Or.inl (.of_eq rfl)
        · rename_i channel _
          split
          · exact Or.inl (.of_eq rfl)
          · split
            · exact Or.inl (.of_eq rfl)
            · exact Or.inr ⟨request, channel, rfl⟩

theorem dispatch_admits (request : Request) :
    Within self (self.dispatch request) ∨ Admits self (self.dispatch request) := by
  rw [dispatch]
  split
  · exact self.preparePlay_admits request
  · exact Or.inl (within_quiet (self.quiet_presentPlayer _ _))
  · exact Or.inl (within_quiet ((quiet_respond _ _ _).after (self.quiet_queueView _)))
  · exact Or.inl (.of_eq rfl)
  · exact Or.inl (.of_eq rfl)
  · exact Or.inl (.of_eq rfl)
  · exact Or.inl (self.within_answerControl request)

theorem interaction_admits (request : Request) :
    Within self (self.interaction request) ∨ Admits self (self.interaction request) := by
  rw [interaction]
  split
  · exact Or.inl (.of_eq rfl)
  · split
    · exact self.dispatch_admits request
    · rename_i customId _
      have hcomponent := self.quiet_component request customId
      dsimp only
      split
      · exact Or.inl (within_quiet hcomponent)
      · rename_i routed _
        rcases dispatch_admits (self.component request customId).2 routed with hwithin | hadmits
        · exact Or.inl (hwithin.after (within_quiet hcomponent))
        · obtain ⟨request, channel, heq⟩ := hadmits
          exact Or.inr ⟨request, channel, heq.trans (by rw [hcomponent.pipeline])⟩

/-! ## Committing -/

theorem within_join (channel : ℕ) : Within self (self.join channel).2 := by
  rw [join]
  dsimp only
  split
  · exact .of_eq rfl
  · split
    · exact .of_eq rfl
    · split <;> exact .of_eq rfl

theorem within_replyStarted (request : Request) (resolution : Resolution) (added omitted : ℕ) :
    Within self (self.replyStarted request resolution added omitted) := by
  rw [replyStarted]
  dsimp only
  split
  · exact self.within_startCurrent.then_quiet (quiet_error _ _ _)
  · exact (within_updateAlone _).after
      (self.within_startCurrent.then_quiet (quiet_presentPlayer _ _ _))

theorem within_enqueueResolved (pending : Pending) (resolution : Resolution) :
    Within self (self.enqueueResolved pending resolution) := by
  rw [enqueueResolved]
  dsimp only
  split
  · exact .of_eq rfl
  · split
    · exact .of_eq rfl
    · have hmarked (session : GuildSession) : Within session (session.noteEnqueued pending) :=
        session.within_mark (.enqueued pending.admission) Milestone.noConfusion rfl rfl
      split
      · exact ((within_replyStarted _ _ _ _ _).after (hmarked _)).after (.of_eq rfl)
      · refine (within_updateAlone _).after ?_
        exact ((within_quiet (quiet_presentPlayer _ _ _)).after (hmarked _)).after (.of_eq rfl)

theorem within_commitJoined (pending : Pending) (resolution : Resolution) :
    Within self (self.commitJoined pending resolution) := by
  rw [commitJoined]
  split
  · exact .of_eq rfl
  · exact self.within_enqueueResolved pending resolution

/-- The commit of a request that no invalidation has passed. -/
theorem within_commit (pending : Pending) (resolution : Except Failure Resolution)
    (hepoch : pending.epoch = self.epoch) : Within self (self.commit pending resolution) := by
  unfold commit
  dsimp only
  split
  · rename_i hstale
    exact absurd hepoch hstale
  · split
    · exact .of_eq rfl
    · split
      · exact .of_eq rfl
      · split
        · exact .of_eq rfl
        · split
          · exact .of_eq rfl
          · split
            · have hjoined : Within self
                  ((self.mark (.joined pending.admission)).join pending.channel).2 :=
                (within_join _ _).after (self.within_mark _ Milestone.noConfusion rfl rfl)
              split
              · exact hjoined.trans (within_commitJoined _ _ _)
              · exact (hjoined.trans (within_cleanup _ _)).then_quiet (quiet_error _ _ _)
            · exact self.within_commitJoined pending _

end GuildSession

end Raydio.Session
