/-
# Every interaction is answered

Whoever uses a command or presses a button sees an answer. Handling an interaction attempts
one reply to it, and another one only if the first failed for the moment; or the request
waits to be resolved, and is answered when it leaves; or the message under the button is
edited; or the player is over and its message goes away. All that is left to tasks besides
are the cancellations of requests that it drains.
-/

import Raydio.Session.Limits

namespace Raydio.Session

open Raydio.Foundation Raydio.Playback Raydio.Views Raydio.Discord

/-- Fetching the roles of the bot replies to nobody. -/
theorem Shared.silent_ensureBotMembership (self : Shared) (guild : ℕ) :
    Silent self (self.ensureBotMembership guild) := by
  have hfetched : Silent self (self.record .member).suspend.2 := self.replies_record .member
  rw [ensureBotMembership]
  split
  · dsimp only
    split
    · exact hfetched
    · exact hfetched
  · exact .of_eq rfl

namespace GuildSession

open Shared (Silent Answers)

variable (self : GuildSession) {before after : GuildSession}

/-- How handling an interaction answers it. -/
inductive Answered (interaction : Interaction) (before after : GuildSession) : Prop
  /-- A reply to it was attempted, and once more if the first attempt failed for the
  moment. -/
  | replied (request : Request) (same : request.interaction = interaction)
      (answers : Answers request before.shared after.shared)
  /-- It was admitted, and waits. -/
  | waits (admits : Admits before after) (silent : Silent before.shared after.shared)
  /-- The message it comes from was edited. -/
  | edited (message : MessageRef) (view : View) (calls : List Call)
      (source : interaction.message = some message)
      (silent : Silent before.shared after.shared)
      (made : after.shared.calls = before.shared.calls ++ calls)
      (edit : .edit message view ∈ calls)
  /-- Nothing is played any more, and the player message is withdrawn. -/
  | ended (silent : Silent before.shared after.shared) (current : after.queue.current = none)
      (panel : after.panel = none)

/-- The replies that were left to tasks are the cancellations of requests that waited and
were drained; the others that waited still do. -/
def Cancels (before after : GuildSession) : Prop :=
  ∃ drained kept, before.waiting = drained ++ kept ∧ kept <+: after.waiting ∧
    after.responses = before.responses.spawnAll (drained.take (Pipeline.room before.responses))

/-! ## Controls reply to nobody -/

theorem silent_setPaused (paused : Bool) :
    Silent self.shared (self.setPaused paused).2.shared := by
  rw [setPaused]
  split
  · exact .of_eq rfl
  · split
    · exact .of_eq rfl
    · dsimp only
      split <;> exact self.shared.silent_update _

theorem silent_setVolume (level : String) : Silent self.shared (self.setVolume level).2.shared := by
  rw [setVolume]
  split
  · exact .of_eq rfl
  · split
    · exact .of_eq rfl
    · dsimp only
      split <;> exact self.shared.silent_update _

theorem silent_setLoopMode (mode : String) :
    Silent self.shared (self.setLoopMode mode).2.shared := by
  rw [setLoopMode]
  split <;> exact .of_eq rfl

theorem silent_transport (verb : String) : Silent self.shared (self.transport verb).2.shared := by
  rw [transport]
  split <;> exact self.silent_startCurrent

theorem silent_previous : Silent self.shared self.previous.2.shared := by
  rw [previous]
  split
  · exact silent_transport _ _
  · exact .of_eq rfl
  · exact .of_eq rfl

theorem silent_jump (position : ℕ) : Silent self.shared (self.jump position).2.shared := by
  rw [jump]
  split
  · exact silent_transport _ _
  · exact .of_eq rfl

theorem silent_skip : Silent self.shared self.skip.2.shared := by
  rw [skip]
  split
  · exact .of_eq rfl
  · exact silent_transport _ _

theorem silent_stop : Silent self.shared self.stop.2.shared := by
  have hhalted : Silent self.shared self.invalidate.halt.shared := .of_eq rfl
  rw [stop]
  dsimp only
  split
  · exact hhalted
  · split
    · split <;> exact (silent_startCurrent _).after hhalted
    · exact hhalted

theorem silent_perform (request : Request) :
    Silent self.shared (self.perform request).2.shared := by
  rw [perform.eq_def]
  split
  · exact self.silent_setPaused true
  · exact self.silent_setPaused false
  · exact self.silent_setVolume _
  · exact self.silent_setLoopMode _
  · exact .of_eq rfl
  · exact .of_eq rfl
  · exact .of_eq rfl
  · exact .of_eq rfl
  · exact self.silent_previous
  · exact self.silent_jump _
  · exact self.silent_skip
  · exact self.silent_stop
  · exact self.silent_cleanup none

theorem silent_control (request : Request) :
    Silent self.shared (self.control request).2.shared := by
  rw [control]
  split
  · exact .of_eq rfl
  · split
    · exact .of_eq rfl
    · split
      · exact .of_eq rfl
      · split
        · exact .of_eq rfl
        · exact self.silent_perform request

theorem silent_refresh : Silent self.shared self.refresh.shared := by
  rw [refresh]
  split
  · exact self.silent_removePanel
  · split
    · exact .of_eq rfl
    · split
      · exact .of_eq rfl
      · dsimp only
        split
        · split <;> exact .of_eq rfl
        · exact .of_eq rfl

/-! ## Answers -/

/-- An update of the player message does not undo an answer. -/
theorem Answered.refresh {interaction : Interaction} (h : Answered interaction before after) :
    Answered interaction before after.refresh := by
  have hsilent := after.silent_refresh
  have hquiet := after.quiet_refresh
  cases h with
  | replied request same answers => exact .replied request same (answers.then_silent hsilent)
  | waits admits silent =>
      obtain ⟨request, channel, heq⟩ := admits
      exact .waits ⟨request, channel, hquiet.pipeline.trans heq⟩ (hsilent.after silent)
  | edited message view calls source silent made edit =>
      have hafter := hsilent
      obtain ⟨more, hmore, -⟩ := hafter
      refine .edited message view (calls ++ more) source (hsilent.after silent) ?_
        (List.mem_append_left more edit)
      rw [hmore, made, List.append_assoc]
  | ended silent current panel =>
      have hqueue : after.refresh.queue = after.queue := congrArg Course.queue hquiet.course
      refine .ended (hsilent.after silent) (by rw [hqueue, current]) ?_
      rw [GuildSession.refresh, current, Option.isNone_none, if_pos rfl]
      exact after.panel_removePanel

theorem answered_error {request : Request} (text : String)
    (hsilent : Silent before.shared after.shared) :
    Answered request.interaction before (after.error request text) :=
  .replied request rfl ((after.answers_error request text).after hsilent)

theorem answered_respond {request : Request} (view : View)
    (hsilent : Silent before.shared after.shared) :
    Answered request.interaction before (after.respond request view) :=
  .replied request rfl ((after.shared.answers_respond view).after hsilent)

/-- The edit of the player message is tried. -/
theorem shared_confirmEdit {request : Request} {message : MessageRef}
    (hmessage : request.interaction.message = some message) :
    (self.confirmEdit request).shared =
      (self.shared.record (.edit message self.playerView)).suspend.2 := by
  have hnoted : (self.noteControl request).shared = self.shared := by
    rw [noteControl, hmessage]
    rfl
  have hcontrolled (session : GuildSession) (view : View) (delivered : Bool) :
      (session.noteControlled request view delivered).shared = session.shared := by
    rw [noteControlled.eq_def]
    split <;> rfl
  have hsent : ((self.noteControl request).shared.respondNoModel request self.playerView).2 =
      (self.shared.record (.edit message self.playerView)).suspend.2 := by
    rw [hnoted, Shared.respondNoModel, hmessage]
  rw [confirmEdit]
  dsimp only
  split
  · split <;> exact (hcontrolled _ _ _).trans hsent
  · exact (hcontrolled _ _ _).trans hsent

/-- A control that was carried out is confirmed. -/
theorem answered_confirm {request : Request} (text : String)
    (hsource : request.updatesMessage → ∃ message, request.interaction.message = some message)
    (hsilent : Silent before.shared self.shared) :
    Answered request.interaction before (self.confirm request text) := by
  rw [confirm]
  split
  · rename_i hupdates
    obtain ⟨message, hmessage⟩ := hsource hupdates
    have hflushed : Silent before.shared self.flushRefresh.shared :=
      self.silent_flushRefresh.after hsilent
    dsimp only
    split
    · have hshared := self.flushRefresh.shared_confirmEdit hmessage
      have hedit : Silent self.flushRefresh.shared
          (self.flushRefresh.confirmEdit request).shared := by
        rw [hshared]
        exact self.flushRefresh.shared.replies_record (.edit message self.flushRefresh.playerView)
      obtain ⟨calls, hcalls, -⟩ := hflushed
      refine .edited message self.flushRefresh.playerView
        (calls ++ [.edit message self.flushRefresh.playerView]) hmessage
        (hedit.after (self.silent_flushRefresh.after hsilent)) ?_
        (List.mem_append_right _ (List.mem_singleton_self _))
      rw [hshared, Shared.calls_suspend, ← List.append_assoc, ← hcalls]
      rfl
    · rename_i hended
      have hqueue : self.flushRefresh.removePanel.queue = self.flushRefresh.queue :=
        congrArg Course.queue self.flushRefresh.quiet_removePanel.course
      refine .ended (self.flushRefresh.silent_removePanel.after hflushed) ?_
        self.flushRefresh.panel_removePanel
      rw [hqueue]
      simpa using hended
  · exact answered_respond _ hsilent

theorem answered_answerControl {request : Request}
    (hsource : request.updatesMessage → ∃ message, request.interaction.message = some message) :
    Answered request.interaction self (self.answerControl request) := by
  have hsilent := self.silent_control request
  rw [answerControl]
  apply Answered.refresh
  split
  · exact answered_confirm _ _ hsource hsilent
  · exact answered_error _ hsilent

theorem answered_preparePlay (request : Request) :
    Answered request.interaction self (self.preparePlay request) := by
  have hhydrated := self.shared.silent_ensureBotMembership self.id
  rw [preparePlay]
  split
  · exact answered_error _ (.of_eq rfl)
  · split
    · exact answered_error _ (.of_eq rfl)
    · split
      · exact answered_error _ (.of_eq rfl)
      · dsimp only
        split
        · exact answered_error _ hhydrated
        · split
          · exact answered_error _ hhydrated
          · split
            · exact answered_error _ hhydrated
            · exact .waits ⟨request, _, rfl⟩ hhydrated

theorem silent_queueView (page : ℕ) : Silent self.shared (self.queueView page).2.shared := by
  rw [queueView]
  dsimp only
  split <;> exact .of_eq rfl

theorem answered_dispatch (request : Request)
    (hsource : request.updatesMessage → ∃ message, request.interaction.message = some message) :
    Answered request.interaction self (self.dispatch request) := by
  rw [dispatch.eq_def]
  split
  · exact self.answered_preparePlay request
  · exact .replied request rfl (self.answers_presentPlayer request none)
  · exact answered_respond _ (self.silent_queueView 0)
  · exact answered_respond _ (.of_eq rfl)
  · exact answered_respond _ (.of_eq rfl)
  · exact answered_respond _ (.of_eq rfl)
  · exact self.answered_answerControl hsource

/-- A component that stands for a request is one of a message. -/
theorem message_of_validComponent {request : Request} {parts : List String}
    (hvalid : self.validComponent request parts = true) (hkind : ¬parts.getD 1 "" = "queue") :
    ∃ message, request.interaction.message = some message := by
  rw [validComponent, if_neg hkind] at hvalid
  simp only [Bool.and_eq_true] at hvalid
  obtain ⟨panel, -, hpanel⟩ := (Option.any_eq_true _ _).mp hvalid.2.2
  obtain ⟨message, hmessage, -⟩ :=
    (Option.any_eq_true _ _).mp (Bool.and_eq_true _ _ ▸ hpanel).2
  exact ⟨message, hmessage⟩

/-- Handling an interaction leaves no other replies to tasks than cancellations. -/
theorem cancels_interaction (request : Request) : Cancels self (self.interaction request) := by
  rcases self.interaction_admits request with hwithin | ⟨request, channel, hadmits⟩
  · obtain ⟨more, drained, hdrains⟩ := Pipeline.drains_of_inside hwithin
    exact ⟨drained, _, hdrains.waiting, List.prefix_refl _, hdrains.responses⟩
  · refine ⟨[], self.waiting, rfl, ?_, ?_⟩
    · rw [hadmits]
      simp [Pipeline.waiting, Pipeline.enter]
    · rw [hadmits, List.take_nil]
      simp [Pipeline.enter]

/-- Every way to handle an interaction answers it. -/
theorem answered_interaction (request : Request) :
    Answered request.interaction self (self.interaction request) := by
  rw [interaction]
  split
  · exact answered_error _ (.of_eq rfl)
  · split
    · rename_i hcommand
      apply self.answered_dispatch request
      intro hupdates
      rw [Request.updatesMessage, hcommand] at hupdates
      cases hupdates
    · rename_i customId _
      rw [component]
      by_cases hvalid : self.validComponent request (splitColon customId) = true
      · by_cases hkind : (splitColon customId).getD 1 "" = "queue"
        · simp only [hvalid, hkind, Bool.not_true, Bool.false_eq_true, if_false, if_true]
          exact answered_respond _ (self.silent_queueView _)
        · simp only [hvalid, hkind, Bool.not_true, Bool.false_eq_true, if_false]
          exact self.answered_dispatch (self.buttonRequest request _) fun _ =>
            self.message_of_validComponent hvalid hkind
      · simp only [hvalid, Bool.not_false, if_true]
        exact answered_respond _ (.of_eq rfl)

/-- Every interaction is answered, whatever it asks for, whatever the session is doing, and
however the calls come out; and nobody else is replied to but those whose requests it
drains. -/
theorem interaction_answered (request : Request) :
    Answered request.interaction self (self.interaction request) ∧
      Cancels self (self.interaction request) :=
  ⟨self.answered_interaction request, self.cancels_interaction request⟩

end GuildSession

end Raydio.Session
