/-
# Operations that leave playback alone

`Course` is the part of the playback that decides what is heard. An operation is
quiet if it changes neither the course nor the play requests, and lets the outside
drift: everything about messages, tokens, clocks and preparations is.
-/

import Raydio.Session.Drift

namespace Raydio.Session

open Raydio.Foundation Raydio.Playback Raydio.Voice Raydio.Views Raydio.Discord

/-- What a session plays, where, and how. -/
structure Course where
  queue : Queue
  channel : Option ℕ
  credentials : Option (String × Server)
  generation : ℕ
  volume : ℕ
  paused : Bool
  idleAt : Option ℕ
  aloneAt : Option ℕ
  starts : ℕ
  advances : List Advance

/-- The course of a playback. -/
def Playback.course (self : Playback) : Course :=
  { queue := self.queue, channel := self.channel, credentials := self.credentials
    generation := self.generation, volume := self.volume, paused := self.paused
    idleAt := self.idleAt, aloneAt := self.aloneAt, starts := self.starts
    advances := self.advances }

namespace GuildSession

/-- Neither the requests nor the course changed, and the outside drifted. -/
structure Quiet (before after : GuildSession) : Prop where
  pipeline : after.toPipeline = before.toPipeline
  course : after.course = before.course
  id : after.id = before.id
  shared : Shared.Drifts before.shared after.shared

variable {first second third : GuildSession} (self : GuildSession)

theorem Quiet.refl : Quiet self self := ⟨rfl, rfl, rfl, .refl self.shared⟩

theorem Quiet.trans (h : Quiet first second) (h' : Quiet second third) : Quiet first third :=
  ⟨h'.pipeline.trans h.pipeline, h'.course.trans h.course, h'.id.trans h.id,
    h.shared.trans h'.shared⟩

/-- The same, from the last operation backwards. -/
theorem Quiet.after (h' : Quiet second third) (h : Quiet first second) : Quiet first third :=
  h.trans h'

/-- An update of the fields that are neither requests, course nor outside. -/
theorem Quiet.of_eq (pipeline : second.toPipeline = first.toPipeline)
    (course : second.course = first.course) (id : second.id = first.id)
    (shared : second.shared = first.shared) : Quiet first second :=
  ⟨pipeline, course, id, shared ▸ .refl _⟩

/-- A drift of the outside. -/
theorem Quiet.of_drifts {shared : Shared} (h : Shared.Drifts self.shared shared) :
    Quiet self { self with shared := shared } :=
  ⟨rfl, rfl, rfl, h⟩

/-! ## Calls -/

theorem quiet_suspend : Quiet self self.suspend.2 := .of_drifts _ (Shared.drifts_suspend _)

theorem quiet_error (request : Request) (text : String) : Quiet self (self.error request text) :=
  .of_drifts _ (Shared.drifts_error _ _ _)

theorem quiet_respond (request : Request) (view : View) : Quiet self (self.respond request view) :=
  .of_drifts _ (Shared.drifts_respond _ _ _)

theorem quiet_notify (text : String) : Quiet self (self.notify text) := by
  rw [notify]
  split
  · exact .of_drifts _ (Shared.drifts_createMessage _ _ _)
  · exact Quiet.refl self

theorem quiet_renewToken : Quiet self self.renewToken :=
  ⟨rfl, rfl, rfl, Shared.drifts_random _ _⟩

theorem quiet_queueView (page : ℕ) : Quiet self (self.queueView page).2 := by
  rw [queueView]
  dsimp only
  split
  · exact ⟨rfl, rfl, rfl, Shared.drifts_random _ _⟩
  · exact Quiet.refl self

/-! ## The player message -/

theorem quiet_note (event : PanelEvent) : Quiet self (self.note event) := .of_eq rfl rfl rfl rfl

theorem quiet_awaitDeletions (count : ℕ) : Quiet self (self.awaitDeletions count) := by
  induction count generalizing self with
  | zero => exact Quiet.refl self
  | succ count ih =>
      rw [awaitDeletions]
      exact (ih _).after (self.quiet_suspend.trans (.of_eq rfl rfl rfl rfl))

theorem quiet_deletePanel (panel : Panel) : Quiet self (self.deletePanel panel) :=
  (self.quiet_awaitDeletions _).trans (.of_eq rfl rfl rfl rfl)

theorem quiet_retireEdits : Quiet self self.retireEdits := by
  have hreset : Quiet self { self with panelChecks := 0, panelRetry := self.now } :=
    .of_eq rfl rfl rfl rfl
  rw [retireEdits]
  dsimp only
  split
  · exact hreset
  · exact (hreset.trans (quiet_suspend _)).trans (.of_eq rfl rfl rfl rfl)

theorem quiet_removePanel : Quiet self self.removePanel := by
  unfold removePanel
  dsimp only
  split
  · exact (quiet_deletePanel _ _).after (self.quiet_retireEdits.trans (.of_eq rfl rfl rfl rfl))
  · exact self.quiet_retireEdits

theorem quiet_noteEdit (edit : PanelEdit) (outcome : EditOutcome) :
    Quiet self (self.noteEdit edit outcome) := by
  rw [noteEdit]
  split
  · exact self.quiet_note _
  · exact Quiet.refl self

theorem quiet_finishRefresh (edit : PanelEdit) (how : Joined EditOutcome) :
    Quiet self (self.finishRefresh edit how) := by
  unfold finishRefresh
  split
  · rename_i outcome
    have hnoted := self.quiet_noteEdit edit outcome
    dsimp only
    split
    · exact hnoted
    · split
      · split <;> exact hnoted.trans (.of_eq rfl rfl rfl rfl)
      · exact hnoted
  · exact .of_eq rfl rfl rfl rfl

theorem quiet_flushRefresh : Quiet self self.flushRefresh := by
  rw [flushRefresh]
  split
  · exact Quiet.refl self
  · dsimp only
    split
    · exact (quiet_finishRefresh _ _ _).after
        (self.quiet_suspend.trans (.of_eq rfl rfl rfl rfl))
    · exact self.quiet_suspend

theorem quiet_refresh : Quiet self self.refresh := by
  rw [refresh]
  split
  · exact self.quiet_removePanel
  · split
    · exact Quiet.refl self
    · split
      · exact Quiet.refl self
      · dsimp only
        split
        · split
          · exact .of_eq rfl rfl rfl rfl
          · exact Quiet.refl self
        · exact .of_eq rfl rfl rfl rfl

theorem quiet_adoptPanel (message : MessageRef) (token : String) (view : View) :
    Quiet self (self.adoptPanel message token view) := by
  unfold adoptPanel
  dsimp only
  split
  · split
    · exact (quiet_deletePanel _ _).after (.of_eq rfl rfl rfl rfl)
    · exact .of_eq rfl rfl rfl rfl
  · exact .of_eq rfl rfl rfl rfl

theorem quiet_replyPlayer (request : Request) (content : Option String) :
    Quiet self (self.replyPlayer request content) := by
  have hreply (view : View) : Quiet self { self with
      shared := (self.shared.randomToken.2.respond request view).2 } :=
    .of_drifts _ ((Shared.drifts_random _ _).trans (Shared.drifts_respond _ _ _))
  rw [replyPlayer]
  dsimp only
  split
  · split
    · exact (quiet_adoptPanel _ _ _ _).after ((quiet_note _ _).after (hreply _))
    · exact (quiet_note _ _).after (hreply _)
  · exact hreply _

theorem quiet_presentPlayer (request : Request) (content : Option String) :
    Quiet self (self.presentPlayer request content) := by
  have hfirst : Quiet self (if self.queue.current.isNone then self.removePanel else self) := by
    split
    · exact self.quiet_removePanel
    · exact Quiet.refl self
  exact (quiet_replyPlayer _ _ _).after
    ((hfirst.trans (quiet_flushRefresh _)).trans (.of_eq rfl rfl rfl rfl))

/-! ## Clocks and preparations -/

theorem quiet_scheduleEnd : Quiet self self.scheduleEnd := .of_eq rfl rfl rfl rfl

theorem quiet_observeProgress (payload : Value) : Quiet self (self.observeProgress payload) := by
  rw [observeProgress]
  split
  · exact Quiet.refl self
  · split
    · exact Quiet.refl self
    · dsimp only
      split <;> exact .of_eq rfl rfl rfl rfl

theorem quiet_forgetPreparations : Quiet self self.forgetPreparations := by
  rw [forgetPreparations]
  dsimp only
  split
  · exact .of_eq rfl rfl rfl rfl
  · exact self.quiet_suspend.trans (.of_eq rfl rfl rfl rfl)

theorem quiet_prepareNext : Quiet self self.prepareNext := by
  rw [prepareNext]
  split
  · exact Quiet.refl self
  · split
    · exact Quiet.refl self
    · exact .of_eq rfl rfl rfl rfl

theorem quiet_finishPreparation (task : Preparing) (how : Joined Bool) :
    Quiet self (self.finishPreparation task how) := by
  unfold finishPreparation
  split
  · exact .of_eq rfl rfl rfl rfl
  · split
    · exact .of_eq rfl rfl rfl rfl
    · exact Quiet.refl self
  · exact Quiet.refl self

theorem quiet_publishActivity : Quiet self self.publishActivity :=
  .of_drifts _ (Shared.drifts_cache _ _)

theorem quiet_discard : Quiet self self.discard :=
  .of_drifts _ (.of_eq rfl rfl rfl rfl rfl rfl)

/-! ## Replies -/

theorem quiet_component (request : Request) (customId : String) :
    Quiet self (self.component request customId).2 := by
  rw [component]
  dsimp only
  split
  · exact self.quiet_respond _ _
  · split
    · exact (quiet_respond _ _ _).after (self.quiet_queueView _)
    · exact Quiet.refl self

/-- A component that is not answered at once is a button of the player, and nothing was
waited for. -/
theorem component_some {request routed : Request} {customId : String}
    (h : (self.component request customId).1 = some routed) :
    (self.component request customId).2 = self ∧
      self.validComponent request (splitColon customId) = true ∧
      (splitColon customId).getD 1 "" ≠ "queue" ∧
      routed = self.buttonRequest request ((splitColon customId).getD 3 "") := by
  rw [component] at h ⊢
  dsimp only at h ⊢
  split at h
  · cases h
  · rename_i hvalid
    split at h
    · cases h
    · rename_i hkind
      cases h
      rw [if_neg hvalid, if_neg hkind]
      rw [Bool.not_eq_true', Bool.not_eq_false] at hvalid
      exact ⟨rfl, hvalid, hkind, rfl⟩

theorem quiet_noteControl (request : Request) : Quiet self (self.noteControl request) := by
  rw [noteControl]
  split
  · exact self.quiet_note _
  · exact Quiet.refl self

theorem quiet_noteControlled (request : Request) (view : View) (delivered : Bool) :
    Quiet self (self.noteControlled request view delivered) := by
  unfold noteControlled
  split
  · exact self.quiet_note _
  · exact Quiet.refl self

theorem quiet_confirmEdit (request : Request) : Quiet self (self.confirmEdit request) := by
  have hsent := self.quiet_noteControl request
  have hedit (view : View) (delivered : Bool) : Quiet self (({ self.noteControl request with
      shared := ((self.noteControl request).shared.respondNoModel request view).2 } :
        GuildSession).noteControlled request view delivered) :=
    (hsent.trans (.of_drifts _ (Shared.drifts_respondNoModel _ _ _))).trans
      (quiet_noteControlled _ _ _ _)
  rw [confirmEdit]
  dsimp only
  split
  · split <;> exact (hedit _ _).trans (.of_eq rfl rfl rfl rfl)
  · exact hedit _ _

theorem quiet_confirm (request : Request) (text : String) :
    Quiet self (self.confirm request text) := by
  rw [confirm]
  split
  · dsimp only
    split
    · exact (quiet_confirmEdit _ _).after self.quiet_flushRefresh
    · exact (quiet_removePanel _).after self.quiet_flushRefresh
  · exact self.quiet_respond _ _

end GuildSession

end Raydio.Session
