/-
# Every handler is a sequence of moves

The refinement of the abstract machine by the handlers that answer requests, and by
a whole turn of the loop. Joining a loader is not a move; it is the first step of
its turn, see `accepted`.
-/

import Raydio.Session.Moves

namespace Raydio.Session

open Raydio.Foundation Raydio.Playback Raydio.Voice Raydio.Views Raydio.Discord Raydio.Resolver

namespace GuildSession

variable {ends : ℕ → Prop} (self : GuildSession)

/-! ## Committing -/

/-- Joining either steers the player to the new channel or changes nothing. -/
theorem moves_join (channel : ℕ) (h : self.channel = none) :
    (∀ ends, Moves ends self (self.join channel).2) ∧
      (self.join channel).2.toPipeline = self.toPipeline ∧
      ((self.join channel).1 = true → (self.join channel).2.channel = some channel) := by
  have hsent : Shared.Drifts self.shared
      ((self.shared.forgetServer self.id).command (some channel)).2 :=
    (Shared.drifts_cache _ _).trans (Shared.drifts_command _ _)
  have hwaited := hsent.trans (Shared.drifts_awaitCredentials self.id channel _ _ rfl)
  rw [join]
  dsimp only
  split
  · refine ⟨fun _ => .quiet (.of_drifts _ hsent), rfl, ?_⟩
    intro habsurd
    cases habsurd
  · split
    · refine ⟨fun _ => .quiet (.of_drifts _ hwaited), rfl, ?_⟩
      intro habsurd
      cases habsurd
    · rename_i credentials _
      split
      · rename_i hrefused
        rw [Bool.not_eq_true', update] at hrefused
        have hdrifts := hwaited.trans (Shared.drifts_update hrefused)
        refine ⟨fun _ => .quiet (.of_drifts _ hdrifts), rfl, ?_⟩
        intro habsurd
        cases habsurd
      · rename_i haccepted
        rw [Bool.not_eq_true', Bool.not_eq_false, update] at haccepted
        refine ⟨fun _ => ?_, rfl, fun _ => rfl⟩
        have happlied := Shared.applies_update haccepted
        obtain ⟨session, middle, hbefore, hafter⟩ := happlied
        refine .single (.steer rfl rfl
          ⟨session, middle, hwaited.trans hbefore, hafter.trans (Shared.drifts_random _ _)⟩ ?_)
        exact .join self.course _ _ credentials _ h

theorem moves_mark_joined (pending : Pending) (h : self.committing = some pending) :
    Moves ends self (self.mark (.joined pending.admission)) :=
  .single (.request rfl rfl rfl (.join _ pending h))

theorem moves_mark_enqueued (pending : Pending) (h : self.committing = some pending) :
    Moves ends self (self.mark (.enqueued pending.admission)) :=
  .single (.request rfl rfl rfl (.enqueue _ pending h))

/-- Enqueuing behind a current track keeps it; enqueuing something with nothing
current makes something current. -/
theorem enqueue_current (queue : Queue) (tracks : List Track) (maxTracks : ℕ) :
    (queue.current.isSome → (queue.enqueue tracks maxTracks).2.current = queue.current) ∧
      ((queue.enqueue tracks maxTracks).1 ≠ 0 →
        (queue.enqueue tracks maxTracks).2.current.isSome) := by
  cases hc : queue.current with
  | some current =>
      rw [Queue.enqueue_of_some hc]
      exact ⟨fun _ => hc, fun _ => by rw [hc]; rfl⟩
  | none =>
      cases ht : tracks.take (maxTracks - queue.len) with
      | nil =>
          rw [Queue.enqueue_of_none_of_nil hc ht]
          exact ⟨fun h => (by cases h), fun h => absurd rfl h⟩
      | cons first rest =>
          rw [Queue.enqueue_of_none_of_cons hc ht]
          exact ⟨fun h => (by cases h), fun _ => rfl⟩

theorem enqueue_current_of_zero (queue : Queue) (tracks : List Track) (maxTracks : ℕ)
    (h : (queue.enqueue tracks maxTracks).1 = 0) :
    (queue.enqueue tracks maxTracks).2.current = queue.current := by
  cases hc : queue.current with
  | some current =>
      rw [Queue.enqueue_of_some hc]
      exact hc
  | none =>
      cases ht : tracks.take (maxTracks - queue.len) with
      | nil =>
          rw [Queue.enqueue_of_none_of_nil hc ht]
          exact hc
      | cons first rest =>
          rw [Queue.enqueue_of_none_of_cons hc ht] at h
          cases h

theorem moves_replyStarted (request : Request) (resolution : Resolution) (added omitted : ℕ)
    {before : GuildSession} (h : Moves ends before self.startCurrent.2) :
    Moves ends before (self.replyStarted request resolution added omitted) := by
  rw [replyStarted]
  dsimp only
  split
  · exact h.then_quiet (quiet_error _ _ _)
  · exact (h.then_quiet (quiet_presentPlayer _ _ _)).trans (moves_updateAlone _)

/-- Enqueuing the tracks of the request that is being committed. -/
theorem moves_enqueueResolved (pending : Pending) (resolution : Resolution)
    (hlive : self.channel.isSome) (hcommitting : self.committing = some pending) :
    Moves ends self (self.enqueueResolved pending resolution) := by
  rw [enqueueResolved]
  dsimp only
  split
  · exact .refl _
  · have hadmitted (h : self.queue.Admitted self.queueLimit) :=
      h.enqueue (requestedTracks pending.request resolution)
    have hcurrent := enqueue_current self.queue (requestedTracks pending.request resolution)
      self.shared.config.limits.queue
    have hmarked : Moves ends self (self.mark (.enqueued pending.admission)) :=
      self.moves_mark_enqueued pending hcommitting
    split
    · rename_i hzero
      refine Moves.after (.quiet (quiet_error _ _ _)) (.single (.edit rfl rfl (.refl _) ?_))
      exact .queue _ _ hlive (enqueue_current_of_zero _ _ _ hzero) hadmitted
    · rename_i hadded
      split
      · apply moves_replyStarted
        refine hmarked.trans (.single (.restart rfl rfl (.refl _) ?_))
        exact ⟨Or.inl hlive, rfl, rfl, rfl, rfl, rfl, rfl, hadmitted, Or.inl rfl⟩
      · rename_i hstarted
        have hsome : self.queue.current.isSome := by
          rw [← Option.not_isSome, Bool.not_eq_true', Bool.not_eq_false] at hstarted
          exact hstarted
        have hqueued : Moves ends (self.mark (.enqueued pending.admission))
            { self.mark (.enqueued pending.admission) with
              queue := (self.queue.enqueue (requestedTracks pending.request resolution)
                self.shared.config.limits.queue).2 } :=
          .single (.edit rfl rfl (.refl _) (.queue _ _ hlive (hcurrent.1 hsome) hadmitted))
        apply Moves.after (moves_updateAlone _)
        apply Moves.after (.quiet (quiet_presentPlayer _ _ _))
        refine (hmarked.trans hqueued).trans (.single (.edit rfl rfl (.refl _) (.playing _ ?_)))
        exact hcurrent.2 hadded

theorem moves_commitJoined (pending : Pending) (resolution : Resolution)
    (hlive : self.channel.isSome) (hcommitting : self.committing = some pending) :
    Moves ends self (self.commitJoined pending resolution) := by
  rw [commitJoined]
  split
  · exact .quiet (self.quiet_error _ _)
  · exact self.moves_enqueueResolved pending resolution hlive hcommitting

theorem moves_commit (pending : Pending) (resolution : Except Failure Resolution)
    (hcommitting : self.committing = some pending) :
    Moves ends self (self.commit pending resolution) := by
  unfold commit
  dsimp only
  split
  · rename_i hstale
    refine Moves.trans (.quiet (self.quiet_error pending.request _))
      (.single (.request rfl rfl rfl ?_))
    exact .stale self.toPipeline pending hcommitting hstale
  · split
    · exact .quiet (self.quiet_error _ _)
    · split
      · exact .quiet (self.quiet_error _ _)
      · split
        · exact .quiet (self.quiet_error _ _)
        · split
          · exact .quiet (self.quiet_error _ _)
          · split
            · rename_i hnone
              have hchannel : self.channel = none := Option.isNone_iff_eq_none.mp hnone
              obtain ⟨hjoin, hpipeline, hjoined⟩ :=
                (self.mark (.joined pending.admission)).moves_join pending.channel hchannel
              have hbefore := (self.moves_mark_joined pending hcommitting).trans (hjoin ends)
              split
              · rename_i haccepted
                refine hbefore.trans (moves_commitJoined _ _ _ ?_ ?_)
                · rw [hjoined haccepted]
                  rfl
                · rw [hpipeline]
                  exact hcommitting
              · exact (hbefore.trans (moves_cleanup _ _)).then_quiet (quiet_error _ _ _)
            · rename_i hsome
              apply self.moves_commitJoined _ _ _ hcommitting
              rwa [Bool.not_eq_true, ← Option.not_isSome, Bool.not_eq_false'] at hsome

/-- The session once the loader that an arm joins was taken out. -/
def joined (self : GuildSession) (index : ℕ) : GuildSession :=
  { self with toPipeline := (self.toPipeline.joinLoader index).2 }

/-- What joining a loader hands over is being committed. -/
theorem committing_of_resolved {pipeline : Pipeline} {index : ℕ} {pending : Pending}
    {resolution : Except Failure Resolution}
    (h : (pipeline.joinLoader index).1 = some (.resolved pending resolution)) :
    (pipeline.joinLoader index).2.committing = some pending := by
  rw [Pipeline.joinLoader] at h ⊢
  split at h
  · cases h
  · dsimp only at h ⊢
    split at h
    · split at h
      · rename_i hsequence
        rw [if_pos hsequence]
        cases h
        rfl
      · cases h
    all_goals cases h

theorem moves_settle : Moves ends self self.settle := .single (.request rfl rfl rfl (.settle _))

theorem moves_joinLoader (index : ℕ) : Moves ends (self.joined index) (self.joinLoader index) := by
  rw [joinLoader]
  dsimp only
  split
  · exact .refl _
  · rename_i pending resolution hdelivery
    apply Moves.after (moves_settle _)
    exact (self.joined index).moves_commit pending resolution (committing_of_resolved hdelivery)
  · exact .quiet ((self.joined index).quiet_error _ _)

theorem moves_preparePlay (request : Request) : Moves ends self (self.preparePlay request) := by
  rw [preparePlay]
  split
  · exact .quiet (self.quiet_error _ _)
  · split
    · exact .quiet (self.quiet_error _ _)
    · split
      · exact .quiet (self.quiet_error _ _)
      · rename_i hroom
        have hmember : Quiet self { self with
            shared := self.shared.ensureBotMembership self.id } :=
          .of_drifts _ (Shared.drifts_ensureBotMembership _ _)
        dsimp only
        split
        · exact .quiet ((quiet_error _ _ _).after hmember)
        · split
          · exact .quiet ((quiet_error _ _ _).after hmember)
          · split
            · exact .quiet ((quiet_error _ _ _).after hmember)
            · refine (Moves.quiet hmember).trans (.single (.request rfl rfl rfl ?_))
              apply Pipeline.Step.enter
              rw [hmember.shared.config]
              exact Nat.lt_of_not_le hroom

/-! ## Controls -/

/-- Who may use a control other than stop and leave has a session with the bot. -/
theorem channel_of_refusal {request : Request} (h : self.refusal request = none)
    (hname : ["stop", "leave"].contains request.name = false) : self.channel.isSome := by
  rw [refusal] at h
  split at h
  · cases h
  · split at h
    · split at h <;> cases h
    · split at h
      · cases h
      · rename_i hguard
        rw [hname, Bool.not_false, Bool.and_true, Bool.not_eq_true, ← Option.not_isSome,
          Bool.not_eq_false'] at hguard
        exact hguard

/-- A refused update, seen from the session. -/
theorem quiet_update {patch : Patch} (h : (self.update patch).1 = false) :
    Quiet self (self.update patch).2 :=
  .of_drifts _ (Shared.drifts_update h)

/-- A handler that reports a refused update and goes on after an accepted one. -/
theorem moves_of_update {patch : Patch} {answer : Answer}
    (haccepted : (self.update patch).1 = true → Moves ends self answer.2) :
    Moves ends self
      (if !(self.update patch).1 then (.error transportError, (self.update patch).2)
        else answer : Answer).2 := by
  cases hupdate : (self.update patch).1 with
  | false => exact .quiet (self.quiet_update hupdate)
  | true => exact haccepted hupdate

theorem moves_setPaused (paused : Bool) : Moves ends self (self.setPaused paused).2 := by
  rw [setPaused]
  split
  · exact .refl _
  · rename_i hcurrent
    rw [Bool.not_eq_true, ← Option.not_isSome, Bool.not_eq_false'] at hcurrent
    split
    · exact .refl _
    · apply self.moves_of_update
      intro haccepted
      exact .single (.steer rfl rfl (Shared.applies_update haccepted)
        (.pause self.course paused hcurrent))

theorem moves_setVolume (level : String) (hlive : self.channel.isSome) :
    Moves ends self (self.setVolume level).2 := by
  rw [setVolume]
  split
  · exact .refl _
  · rename_i volume _
    split
    · exact .refl _
    · apply self.moves_of_update
      intro haccepted
      exact .single (.steer rfl rfl (Shared.applies_update haccepted)
        (.volume self.course volume hlive))

/-- An edit of the waiting tracks or of the loop mode. -/
theorem moves_queue {queue : Queue} (hlive : self.channel.isSome)
    (hcurrent : queue.current = self.queue.current)
    (hadmitted : self.queue.Admitted self.queueLimit → queue.Admitted self.queueLimit) :
    Moves ends self { self with queue := queue } :=
  .single (.edit rfl rfl (.refl _) (.queue _ queue hlive hcurrent hadmitted))

theorem moves_setLoopMode (mode : String) (hlive : self.channel.isSome) :
    Moves ends self (self.setLoopMode mode).2 := by
  rw [setLoopMode]
  split
  · exact .refl _
  · exact self.moves_queue hlive rfl fun h => h.with_loopMode _

theorem moves_removeTrack (position : ℕ) (hlive : self.channel.isSome) :
    Moves ends self (self.removeTrack position).2 := by
  have hcurrent : (self.queue.removed position).2.current = self.queue.current := by
    rw [self.queue.removed_snd position]
  rw [removeTrack]
  rw [Queue.value_remove]
  exact self.moves_queue hlive hcurrent fun h => h.removed position

theorem moves_moveTrack (source target : ℕ) (hlive : self.channel.isSome) :
    Moves ends self (self.moveTrack source target).2 := by
  have hcurrent : (self.queue.moved source target).2.current = self.queue.current := by
    rw [Queue.moved]
    split
    · rfl
    · split <;> rfl
  rw [moveTrack]
  rw [Queue.value_moveTo]
  exact self.moves_queue hlive hcurrent fun h => h.moved source target

theorem moves_clearQueue (hlive : self.channel.isSome) : Moves ends self self.clearQueue.2 :=
  self.moves_queue hlive rfl fun h => h.clear

theorem moves_shuffleQueue (hlive : self.channel.isSome) : Moves ends self self.shuffleQueue.2 := by
  have hcurrent (draws : List ℕ) : (self.queue.shuffle draws).2.current = self.queue.current := by
    rw [Queue.shuffle]
    split <;> rfl
  exact .single (.edit rfl rfl (Shared.drifts_random _ _)
    (.queue _ _ hlive (hcurrent _) fun h => h.shuffle _))

/-- Starting what a changed queue has current. -/
theorem moves_transport {queue : Queue} (verb : String) (hlive : self.channel.isSome)
    (hadmitted : self.queue.Admitted self.queueLimit → queue.Admitted self.queueLimit) :
    Moves ends self (({ self with queue := queue } : GuildSession).transport verb).2 := by
  have hstart : Moves ends self ({ self with queue := queue } : GuildSession).startCurrent.2 :=
    .single (.restart rfl rfl (.refl _)
      ⟨Or.inl hlive, rfl, rfl, rfl, rfl, rfl, rfl, hadmitted, Or.inl rfl⟩)
  unfold transport
  dsimp only
  split <;> exact hstart

theorem moves_previous (hlive : self.channel.isSome) : Moves ends self self.previous.2 := by
  have hadmitted (h : self.queue.Admitted self.queueLimit) := h.restored
  unfold previous
  dsimp only
  rw [Queue.value_previous]
  split
  · exact self.moves_transport _ hlive hadmitted
  all_goals
    rename_i houtcome
    have hother : (self.queue.restored self.shared.config.limits.queue).1 ≠ .started := by
      rw [houtcome]
      intro h
      cases h
    rw [Queue.restored_of_ne_started hother]
    exact .refl _

theorem moves_jump (position : ℕ) (hlive : self.channel.isSome) :
    Moves ends self (self.jump position).2 := by
  unfold jump
  dsimp only
  rw [Queue.value_jump]
  split
  · exact self.moves_transport _ hlive fun h => h.jumped position
  · rename_i hjumped
    rw [Queue.jumped_of_false (Bool.not_eq_true _ ▸ hjumped)]
    exact .refl _

theorem moves_skip (hlive : self.channel.isSome) : Moves ends self self.skip.2 := by
  rw [skip]
  split
  · exact .refl _
  · rw [Queue.value_skip]
    exact self.moves_transport _ hlive Queue.Admitted.skipped

theorem moves_stop : Moves ends self self.stop.2 := by
  have hdrift : Shared.Drifts self.shared self.invalidate.halt.shared :=
    self.quiet_renewToken.shared
  have hadmitted (_ : self.queue.Admitted self.queueLimit) :=
    self.queue.admitted_stop self.queueLimit
  have hcourse : self.invalidate.halt.course = { self.course with
    queue := self.queue.stop, paused := false } := rfl
  apply self.moves_invalidate.trans
  rw [stop]
  dsimp only
  split
  · rename_i hchannel
    have hnone : self.channel = none := Option.isNone_iff_eq_none.mp hchannel
    refine .single (.halt rfl rfl hdrift (Or.inl hnone) 0 ?_)
    rw [hcourse, Course.halted]
    show _ = ({ self.course with
      queue := self.queue.stop, paused := false
      idleAt := if self.channel.isSome then some 0 else self.idleAt } : Course)
    rw [hnone]
    rfl
  · rename_i hchannel
    have hlive : self.channel.isSome := by
      rwa [Bool.not_eq_true, ← Option.not_isSome, Bool.not_eq_false'] at hchannel
    split
    · have hstart : Moves ends self.invalidate self.invalidate.halt.startCurrent.2 :=
        .single (.restart rfl rfl hdrift
          ⟨Or.inl hlive, rfl, rfl, rfl, rfl, rfl, rfl, hadmitted, Or.inl rfl⟩)
      have hsome : self.invalidate.halt.startCurrent.2.channel.isSome := by
        rw [(startCurrent_channel _).1]
        exact hlive
      have hnone : self.invalidate.halt.startCurrent.2.queue.current = none := by
        rw [startCurrent_of_none _ rfl]
        rfl
      split
      · exact hstart
      · exact hstart.trans (.single (.edit rfl rfl (.refl _) (.idle _ _ hsome hnone)))
    · rename_i hready
      refine .single (.halt rfl rfl hdrift (Or.inr (Bool.not_eq_true _ ▸ hready))
        self.invalidate.halt.now ?_)
      rw [Course.halted]
      show ({ self.course with
        queue := self.queue.stop, paused := false
        idleAt := some self.invalidate.halt.now } : Course) = { self.course with
        queue := self.queue.stop, paused := false
        idleAt := if self.channel.isSome then some self.invalidate.halt.now else self.idleAt }
      rw [if_pos hlive]

theorem moves_leave : Moves ends self self.leave.2 := self.moves_cleanup none

theorem moves_perform (request : Request) (h : self.refusal request = none) :
    Moves ends self (self.perform request).2 := by
  have hlive (name : String) (hname : request.name = name)
      (hother : ["stop", "leave"].contains name = false) : self.channel.isSome :=
    self.channel_of_refusal h (hname ▸ hother)
  rw [perform]
  split
  · exact self.moves_setPaused true
  · exact self.moves_setPaused false
  · exact self.moves_setVolume _ (hlive _ ‹_› rfl)
  · exact self.moves_setLoopMode _ (hlive _ ‹_› rfl)
  · exact self.moves_removeTrack _ (hlive _ ‹_› rfl)
  · exact self.moves_moveTrack _ _ (hlive _ ‹_› rfl)
  · exact self.moves_clearQueue (hlive _ ‹_› rfl)
  · exact self.moves_shuffleQueue (hlive _ ‹_› rfl)
  · exact self.moves_previous (hlive _ ‹_› rfl)
  · exact self.moves_jump _ (hlive _ ‹_› rfl)
  · exact self.moves_skip (hlive _ ‹_› rfl)
  · exact self.moves_stop
  · exact self.moves_leave

theorem moves_control (request : Request) : Moves ends self (self.control request).2 := by
  rw [control]
  split
  · exact .refl _
  · split
    · exact .refl _
    · split
      · exact .refl _
      · split
        · exact .refl _
        · rename_i hrefusal
          exact self.moves_perform request hrefusal

/-! ## Interactions and turns -/

theorem moves_answerControl (request : Request) :
    Moves ends self (self.answerControl request) := by
  have hcontrol : Moves ends self (self.control request).2 := self.moves_control request
  unfold answerControl
  dsimp only
  refine Moves.then_quiet ?_ (quiet_refresh _)
  split
  · exact hcontrol.then_quiet (quiet_confirm _ _ _)
  · exact hcontrol.then_quiet (quiet_error _ _ _)

theorem moves_dispatch (request : Request) : Moves ends self (self.dispatch request) := by
  rw [dispatch]
  split
  · exact self.moves_preparePlay request
  · exact .quiet (self.quiet_presentPlayer _ _)
  · exact .quiet ((quiet_respond _ _ _).after (self.quiet_queueView _))
  · exact .quiet (self.quiet_respond _ _)
  · exact .quiet (self.quiet_respond _ _)
  · exact .quiet (self.quiet_respond _ _)
  · exact self.moves_answerControl request

theorem moves_interaction (request : Request) : Moves ends self (self.interaction request) := by
  rw [interaction]
  split
  · exact .quiet (self.quiet_error _ _)
  · split
    · exact self.moves_dispatch request
    · rename_i customId _
      have hcomponent := self.quiet_component request customId
      dsimp only
      split
      · exact .quiet hcomponent
      · exact (moves_dispatch _ _).after (.quiet hcomponent)

theorem moves_onConnected : Moves ends self self.onConnected := by
  rw [onConnected]
  split
  · rename_i hchannel
    exact .single (.clear rfl rfl (Shared.destroys_destroy _)
      (Option.isNone_iff_eq_none.mp hchannel) rfl)
  · rename_i hchannel
    have hlive : self.channel.isSome := by
      rwa [Bool.not_eq_true, ← Option.not_isSome, Bool.not_eq_false'] at hchannel
    split
    · exact .single (.restart rfl rfl (.refl _)
        ⟨Or.inl hlive, rfl, rfl, rfl, rfl, rfl, rfl, fun h => h, Or.inl rfl⟩)
    · exact self.moves_voiceChanged

/-- The generations that an arm verifies to have come to a natural end. -/
def endsOf (self : GuildSession) : Arm → ℕ → Prop
  | .backend payload => finishes payload
  | .ending index => fun generation =>
      ∃ payload, self.shared.unhandled[index]? = some payload ∧ finishes payload generation
  | .tick => verifiedNow self.voiceChanged.shared
  | _ => fun _ => False

/-- The session with which the moves of an arm begin: what the arm takes is taken. -/
def accepted (self : GuildSession) : Arm → GuildSession
  | .ending index => { self with shared.unhandled := self.shared.unhandled.eraseIdx index }
  | .joinLoader index => self.joined index
  | _ => self

theorem moves_handle {arm : Arm} {after : GuildSession} (h : self.handle arm = some after) :
    Moves (self.endsOf arm) (self.accepted arm) after := by
  cases arm with
  | interaction request acknowledged =>
      cases h
      split
      · exact (moves_interaction _ request).after (.quiet self.quiet_suspend)
      · exact .quiet ((quiet_discard _).after self.quiet_suspend)
  | backend payload =>
      cases h
      exact self.moves_backend payload
  | ending index =>
      simp only [handle] at h
      split at h
      · cases h
      · rename_i payload hpayload
        cases h
        apply (moves_backend _ payload).mono
        intro generation hfinishes
        exact ⟨payload, hpayload, hfinishes⟩
  | voiceChanged =>
      cases h
      exact self.moves_voiceChanged
  | invalidated =>
      cases h
      exact self.moves_cleanup _
  | connected =>
      cases h
      exact self.moves_onConnected
  | joinLoader index =>
      simp only [handle] at h
      split at h
      · cases h
        exact self.moves_joinLoader index
      · cases h
  | joinResponse index =>
      simp only [handle] at h
      split at h
      · cases h
      · cases h
        exact .single (.request rfl rfl rfl (.respond _ _))
  | joinPreparation index =>
      simp only [handle] at h
      split at h
      · cases h
      · cases h
        refine .quiet ((quiet_finishPreparation _ _ _).after ?_)
        exact .of_eq rfl rfl rfl rfl
  | joinDeletion index =>
      simp only [handle] at h
      split at h
      · cases h
      · cases h
        exact .quiet (.of_eq rfl rfl rfl rfl)
  | joinEdit index =>
      simp only [handle] at h
      split at h
      · cases h
      · cases h
        refine .quiet ((quiet_refresh _).after ((quiet_finishRefresh _ _ _).after ?_))
        exact .of_eq rfl rfl rfl rfl
  | tick =>
      cases h
      exact self.moves_tick

theorem moves_followUp : Moves ends self self.followUp := by
  have hload : Moves ends self self.startLoad :=
    .single (.request rfl rfl rfl (.startLoad _ _))
  exact (hload.then_quiet (quiet_prepareNext _)).then_quiet (quiet_publishActivity _)

/-! ## The end of a worker -/

/-- The requests are known, and the queue was not advanced. -/
structure Settles (before after : GuildSession) (pipeline : Pipeline) : Prop where
  pipeline_eq : after.toPipeline = pipeline
  starts : after.starts = before.starts
  advances : after.advances = before.advances

theorem Settles.then_quiet {before middle after : GuildSession} {pipeline : Pipeline}
    (h : Settles before middle pipeline) (h' : Quiet middle after) :
    Settles before after pipeline :=
  ⟨h'.pipeline.trans h.pipeline_eq, (congrArg Course.starts h'.course).trans h.starts,
    (congrArg Course.advances h'.course).trans h.advances⟩

theorem quiet_takePanel : Quiet self self.takePanel := by
  rw [takePanel]
  split
  · exact .of_eq rfl rfl rfl rfl
  · exact Quiet.refl self

theorem settles_invalidate :
    Settles self self.forgetPreparations.invalidate self.toPipeline.invalidate := by
  have hforget := self.quiet_forgetPreparations
  refine ⟨?_, congrArg Course.starts hforget.course, congrArg Course.advances hforget.course⟩
  show self.forgetPreparations.toPipeline.invalidate = self.toPipeline.invalidate
  rw [hforget.pipeline]

theorem settles_reset :
    Settles self self.forgetPreparations.invalidate.removePanel.reset
      self.toPipeline.invalidate := by
  obtain ⟨pipeline, starts, advances⟩ := self.settles_invalidate.then_quiet (quiet_removePanel _)
  exact ⟨pipeline, starts, advances⟩

theorem settles_cleanup (notification : Option String) :
    Settles self (self.cleanup notification) self.toPipeline.invalidate := by
  obtain ⟨pipeline, starts, advances⟩ := self.settles_reset
  have hleft : Settles self self.forgetPreparations.invalidate.removePanel.reset.destroy
      self.toPipeline.invalidate := ⟨pipeline, starts, advances⟩
  unfold cleanup
  dsimp only
  split
  · exact (hleft.then_quiet (quiet_notify _ _)).then_quiet (.of_eq rfl rfl rfl rfl)
  · exact hleft.then_quiet (.of_eq rfl rfl rfl rfl)

/-- The last cleanup settles the requests like any other, unless it is cut off
before it gets to them. -/
theorem settles_cleanupUntil (cut : ℕ) :
    Settles self (self.cleanupUntil cut) self.toPipeline ∨
      Settles self (self.cleanupUntil cut) self.toPipeline.invalidate := by
  unfold cleanupUntil
  split
  · exact Or.inl ⟨rfl, rfl, rfl⟩
  · exact Or.inr (self.settles_invalidate.then_quiet (quiet_retireEdits _))
  · exact Or.inr ((self.settles_invalidate.then_quiet (quiet_retireEdits _)).then_quiet
      (quiet_takePanel _))
  · exact Or.inr self.settles_reset
  · exact Or.inr (self.settles_cleanup none)

/-- Once its loaders are aborted, closing is a sequence of steps of the requests; it
advances no queue. -/
theorem close_spec (limit cut : ℕ) :
    Relation.ReflTransGen (Pipeline.Step limit) self.toPipeline.abort
        (self.close cut).toPipeline ∧
      (self.close cut).starts = self.starts ∧ (self.close cut).advances = self.advances := by
  generalize haborted : ({ self with
    toPipeline := self.toPipeline.abort
    preparations := self.preparations.abortAll } : GuildSession) = aborted
  have hclosed : (self.close cut).toPipeline = { (aborted.cleanupUntil cut).toPipeline with
      responses := (aborted.cleanupUntil cut).responses.abortAll } := by
    rw [← haborted]
    rfl
  have hstep : Pipeline.Step limit (aborted.cleanupUntil cut).toPipeline
      { (aborted.cleanupUntil cut).toPipeline with
        responses := (aborted.cleanupUntil cut).responses.abortAll } :=
    .respond _ _
  rw [hclosed]
  subst haborted
  rcases settles_cleanupUntil _ cut with hsettled | hsettled
  · refine ⟨Relation.ReflTransGen.tail ?_ hstep, hsettled.starts, hsettled.advances⟩
    rw [hsettled.pipeline_eq]
  · refine ⟨Relation.ReflTransGen.tail ?_ hstep, hsettled.starts, hsettled.advances⟩
    rw [hsettled.pipeline_eq]
    exact .single (.invalidate _)

end GuildSession

/-! ## Steps of a run -/

open GuildSession

/-- The session with which the moves of an input begin. -/
def Input.ready (session : GuildSession) : Input → GuildSession
  | .outside (.pass moment) => { session with shared := session.shared.pass moment }
  | .outside _ => session
  | .turn arm script random _ => (session.prepare script random).accepted arm
  | .close script random _ => session.prepare script random

/-- The generations that an input verifies to have come to a natural end. -/
def Input.ends (session : GuildSession) : Input → ℕ → Prop
  | .turn arm script random _ => (session.prepare script random).endsOf arm
  | _ => fun _ => False

/-- A step of a running worker: nothing happens, or its session moves and goes on or
is closed. -/
theorem Worker.step_running (session : GuildSession) (input : Input) :
    (Worker.running session).step input = .running session ∨
      ∃ after, Moves (input.ends session) (input.ready session) after ∧
        ((Worker.running session).step input = .running after ∨
          ∃ cut, (Worker.running session).step input = .ended (after.close cut)) := by
  cases input with
  | outside move =>
      refine Or.inr ⟨session.outside move, ?_, Or.inl rfl⟩
      cases move with
      | pass moment => exact .refl _
      | endLoader index how => exact .single (.request rfl rfl rfl (.endLoader _ index how))
      | endResponse index how => exact .single (.request rfl rfl rfl (.respond _ _))
      | endPreparation index how => exact .quiet (.of_eq rfl rfl rfl rfl)
      | endDeletion index how => exact .quiet (.of_eq rfl rfl rfl rfl)
      | endEdit index how => exact .quiet (.of_eq rfl rfl rfl rfl)
  | turn arm script random cut =>
      cases hhandled : (session.prepare script random).handle arm with
      | none =>
          apply Or.inl
          simp only [step, hhandled]
      | some handled =>
          refine Or.inr ⟨handled.followUp, ?_, ?_⟩
          · exact (moves_handle _ hhandled).trans (moves_followUp _)
          · simp only [step, hhandled]
            split
            · exact Or.inr ⟨cut, rfl⟩
            · exact Or.inl rfl
  | close script random cut =>
      exact Or.inr ⟨session.prepare script random, .refl _, Or.inr ⟨cut, rfl⟩⟩

/-! ## Runs -/

namespace Worker

/-- A property of running sessions and one of ended ones. -/
def Holds (Running Ended : GuildSession → Prop) : Worker → Prop
  | running session => Running session
  | ended session => Ended session

instance Holds.decidable {Running Ended : GuildSession → Prop} [DecidablePred Running]
    [DecidablePred Ended] : ∀ worker : Worker, Decidable (worker.Holds Running Ended)
  | running session => inferInstanceAs (Decidable (Running session))
  | ended session => inferInstanceAs (Decidable (Ended session))

/-- The condition holds of every input that reaches a running session. -/
def Along (condition : GuildSession → Input → Prop) : Worker → List Input → Prop
  | _, [] => True
  | ended _, _ => True
  | running session, input :: rest =>
      condition session input ∧ Along condition ((running session).step input) rest

instance Along.decidable {condition : GuildSession → Input → Prop}
    [∀ session input, Decidable (condition session input)] :
    ∀ (worker : Worker) (inputs : List Input), Decidable (worker.Along condition inputs)
  | running _, [] => isTrue trivial
  | ended _, [] => isTrue trivial
  | ended _, _ :: _ => isTrue trivial
  | running session, input :: rest =>
      have : Decidable (Along condition ((running session).step input) rest) :=
        Along.decidable _ rest
      inferInstanceAs (Decidable (condition session input ∧
        Along condition ((running session).step input) rest))

theorem run_ended (session : GuildSession) (inputs : List Input) :
    (ended session).run inputs = ended session := by
  induction inputs with
  | nil => rfl
  | cons input rest ih => exact ih

/-- What every step of a running session preserves, a run preserves. -/
theorem run_steps (Running Ended : GuildSession → Prop) {condition : GuildSession → Input → Prop}
    (step : ∀ session input, condition session input → Running session →
      ((running session).step input).Holds Running Ended)
    (worker : Worker) (inputs : List Input) (hcondition : worker.Along condition inputs)
    (hworker : worker.Holds Running Ended) : (worker.run inputs).Holds Running Ended := by
  induction inputs generalizing worker with
  | nil => exact hworker
  | cons input rest ih =>
      cases worker with
      | ended session =>
          rw [run_ended]
          exact hworker
      | running session => exact ih _ hcondition.2 (step session input hcondition.1 hworker)

/-- A step preserves what its moves preserve. -/
theorem step_rule (Running Ended : GuildSession → Prop) {session : GuildSession} {input : Input}
    (moves : ∀ after, Moves (input.ends session) (input.ready session) after → Running after)
    (close : ∀ session cut, Running session → Ended (session.close cut))
    (hsession : Running session) : ((running session).step input).Holds Running Ended := by
  rcases step_running session input with hsame | ⟨after, hmoves, hstep | ⟨cut, hstep⟩⟩
  · rw [hsame]
    exact hsession
  · rw [hstep]
    exact moves after hmoves
  · rw [hstep]
    exact close after cut (moves after hmoves)

/-- What the moves preserve, a run preserves. -/
theorem run_rule (Running Ended : GuildSession → Prop) {condition : GuildSession → Input → Prop}
    (moves : ∀ session input after, condition session input → Running session →
      Moves (input.ends session) (input.ready session) after → Running after)
    (close : ∀ session cut, Running session → Ended (session.close cut))
    (worker : Worker) (inputs : List Input) (hcondition : worker.Along condition inputs)
    (hworker : worker.Holds Running Ended) : (worker.run inputs).Holds Running Ended := by
  refine run_steps Running Ended ?_ worker inputs hcondition hworker
  intro session input hinput hsession
  exact step_rule Running Ended (fun after => moves session input after hinput hsession) close
    hsession

/-- A condition on every input of a run. -/
theorem along_of_forall {condition : Input → Prop} {inputs : List Input}
    (h : ∀ input ∈ inputs, condition input) (worker : Worker) :
    worker.Along (fun _ input => condition input) inputs := by
  induction inputs generalizing worker with
  | nil => cases worker <;> trivial
  | cons input rest ih =>
      cases worker with
      | ended session => trivial
      | running session =>
          exact ⟨h input List.mem_cons_self,
            ih (fun other hmem => h other (List.mem_cons_of_mem _ hmem)) _⟩

/-- Every run is one along the trivial condition. -/
theorem along_true (worker : Worker) (inputs : List Input) :
    worker.Along (fun _ _ => True) inputs :=
  along_of_forall (fun _ _ => trivial) worker

/-- The condition holds before each input of a run along it. -/
theorem Along.split {condition : GuildSession → Input → Prop} {worker : Worker}
    {front back : List Input} {input : Input}
    (h : worker.Along condition (front ++ input :: back)) :
    worker.Along condition front ∧
      ∀ before, worker.run front = .running before → condition before input := by
  induction front generalizing worker with
  | nil =>
      cases worker with
      | ended session => exact ⟨trivial, fun before habsurd => Worker.noConfusion habsurd⟩
      | running session =>
          refine ⟨trivial, ?_⟩
          intro before hbefore
          cases hbefore
          exact h.1
  | cons first rest ih =>
      cases worker with
      | ended session =>
          refine ⟨trivial, ?_⟩
          intro before hbefore
          rw [run_ended] at hbefore
          cases hbefore
      | running session => exact ⟨⟨h.1, (ih h.2).1⟩, (ih h.2).2⟩

/-- The condition holds of one more input. -/
theorem Along.concat {condition : GuildSession → Input → Prop} {worker : Worker}
    {front : List Input} {input : Input} (h : worker.Along condition front)
    (hinput : ∀ before, worker.run front = .running before → condition before input) :
    worker.Along condition (front ++ [input]) := by
  induction front generalizing worker with
  | nil =>
      cases worker with
      | ended session => trivial
      | running session => exact ⟨hinput session rfl, by
          cases (running session).step input <;> trivial⟩
  | cons first rest ih =>
      cases worker with
      | ended session => trivial
      | running session => exact ⟨h.1, ih h.2 hinput⟩

/-- A run along a condition is one along a weaker condition. -/
theorem Along.mono {condition weaker : GuildSession → Input → Prop} {worker : Worker}
    {inputs : List Input} (h : worker.Along condition inputs)
    (hweaker : ∀ session input, condition session input → weaker session input) :
    worker.Along weaker inputs := by
  induction inputs generalizing worker with
  | nil => cases worker <;> trivial
  | cons input rest ih =>
      cases worker with
      | ended session => trivial
      | running session => exact ⟨hweaker _ _ h.1, ih h.2⟩

end Worker

end Raydio.Session
