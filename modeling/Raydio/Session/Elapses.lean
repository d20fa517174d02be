/-
# Time passes while a session works

Whatever a session does, its clock goes on, and a gateway that stays open stays open. The
gateway is asked for a voice channel by a join, and the channel is taken back by a cleanup;
nothing else asks for one.
-/

import Raydio.Session.Clock
import Raydio.Session.Commit
import Raydio.Session.Replies

namespace Raydio.Session

open Raydio.Foundation Raydio.Playback Raydio.Voice Raydio.Views Raydio.Discord Raydio.Resolver
  GuildSession

/-! ## Time passes -/

/-- The voice channel that a call asks for. -/
def Call.asked? : Call → Option (Option ℕ)
  | .voiceState channel => some channel
  | _ => none

/-- A moment does not close the gateway. -/
def Moment.Open (moment : Moment) : Prop := moment.gatewayOpen ≠ some false

namespace Shared

/-- The voice channel that the gateway was last asked for, if it was not taken back. -/
def asked (self : Shared) : Option ℕ := ((self.calls.filterMap Call.asked?).getLast?).getD none

/-- The gateway is open, and stays so along the script. -/
structure Open (shared : Shared) : Prop where
  gateway : shared.gatewayOpen = true
  script : ∀ moment ∈ shared.script, moment.Open

/-- Time passes. -/
structure Passes (before after : Shared) : Prop where
  later : before.now ≤ after.now
  opens : before.Open → after.Open

/-- Time passes, and no voice channel is asked for. -/
structure Elapses (before after : Shared) : Prop extends Passes before after where
  asked : after.asked = before.asked

variable {first second third : Shared}

theorem Passes.trans (h : Passes first second) (h' : Passes second third) : Passes first third :=
  ⟨h.later.trans h'.later, fun hopen => h'.opens (h.opens hopen)⟩

theorem Elapses.trans (h : Elapses first second) (h' : Elapses second third) :
    Elapses first third :=
  ⟨h.toPasses.trans h'.toPasses, h'.asked.trans h.asked⟩

/-- From the last part backwards. -/
theorem Elapses.after (h' : Elapses second third) (h : Elapses first second) :
    Elapses first third :=
  h.trans h'

theorem asked_of_calls (h : second.calls = first.calls) : second.asked = first.asked := by
  rw [Shared.asked, Shared.asked, h]

theorem Elapses.of_eq (now : second.now = first.now) (calls : second.calls = first.calls)
    (gateway : second.gatewayOpen = first.gatewayOpen) (script : second.script = first.script) :
    Elapses first second :=
  ⟨⟨now.ge, fun h => ⟨gateway.trans h.gateway, script ▸ h.script⟩⟩, asked_of_calls calls⟩

variable (self : Shared)

theorem Elapses.refl : Elapses self self := .of_eq rfl rfl rfl rfl

/-- A call that asks for no voice channel. -/
theorem elapses_record (call : Call) (hcall : call.asked? = none) :
    Elapses self (self.record call) where
  later := le_rfl
  opens h := ⟨h.gateway, h.script⟩
  asked := by
    show (((self.calls ++ [call]).filterMap Call.asked?).getLast?).getD none = _
    rw [List.filterMap_append, List.filterMap_cons_none hcall, List.filterMap_nil, List.append_nil]
    rfl

theorem Open.pass {shared : Shared} {moment : Moment} (h : shared.Open) (hmoment : moment.Open) :
    (shared.pass moment).Open where
  gateway := by
    show moment.gatewayOpen.getD shared.gatewayOpen = true
    cases hgateway : moment.gatewayOpen with
    | none => exact h.gateway
    | some gateway =>
        cases gateway with
        | false => exact absurd hgateway hmoment
        | true => rfl
  script := by
    rw [script_pass]
    exact h.script

theorem elapses_suspend : Elapses self self.suspend.2 := by
  refine ⟨⟨now_le_suspend self, ?_⟩, asked_of_calls self.calls_suspend⟩
  intro h
  rw [suspend]
  split
  · exact h
  · rename_i moment rest hscript
    have hrest : Open ({ self with script := rest } : Shared) := by
      refine ⟨h.gateway, fun other hother => h.script other ?_⟩
      rw [hscript]
      exact List.mem_cons_of_mem _ hother
    apply hrest.pass
    apply h.script
    rw [hscript]
    exact List.mem_cons_self

/-- A call that asks for no voice channel, and the suspension while it is under way. -/
theorem elapses_call {call : Call} (hcall : call.asked? = none) :
    Elapses self (self.record call).suspend.2 :=
  (elapses_suspend _).after (self.elapses_record call hcall)

theorem elapses_update (patch : Patch) : Elapses self (self.update patch).2 := by
  have hreceive (shared : Shared) (session : String) (accepted : Bool) :
      Elapses shared (shared.receive session patch accepted) :=
    (shared.elapses_record (.update session patch accepted) rfl).trans (.of_eq rfl rfl rfl rfl)
  rw [update]
  split
  · exact .refl self
  · exact (elapses_suspend _).after ((hreceive _ _ _).after self.elapses_suspend)

theorem elapses_destroy : Elapses self self.destroy := by
  have hreceive (shared : Shared) (session : String) (accepted : Bool) :
      Elapses shared (shared.receiveDestroy session accepted) :=
    (shared.elapses_record (.destroy session accepted) rfl).trans (.of_eq rfl rfl rfl rfl)
  rw [destroy]
  split
  · exact .refl self
  · exact (elapses_suspend _).after ((hreceive _ _ _).after self.elapses_suspend)

theorem elapses_getPlayer : Elapses self self.getPlayer.2 := self.elapses_call rfl

theorem elapses_respond (request : Request) (view : View) :
    Elapses self (self.respond request view).2 := self.elapses_call rfl

theorem elapses_error (request : Request) (text : String) :
    Elapses self (self.error request text) := by
  rw [error]
  split
  · exact self.elapses_call rfl
  · dsimp only
    split
    · exact (elapses_respond _ _ _).after (self.elapses_respond _ _)
    · exact self.elapses_respond _ _

theorem elapses_respondNoModel (request : Request) (view : View) :
    Elapses self (self.respondNoModel request view).2 := by
  rw [respondNoModel]
  split
  · exact .refl self
  · exact self.elapses_call rfl

theorem elapses_ensureBotMembership (guild : ℕ) :
    Elapses self (self.ensureBotMembership guild) := by
  have hfetched : Elapses self (self.record .member).suspend.2 := self.elapses_call rfl
  rw [ensureBotMembership]
  split
  · dsimp only
    split
    · exact hfetched.trans (.of_eq rfl rfl rfl rfl)
    · exact hfetched
  · exact .refl self

theorem elapses_awaitCredentials (guild channel : ℕ) {script : List Moment}
    (hscript : self.script = script) :
    Elapses self (self.awaitCredentials guild channel script).2 := by
  induction script generalizing self with
  | nil => exact .refl self
  | cons moment rest ih =>
      have hpass : Elapses self (({ self with script := rest } : Shared).pass moment) := by
        have hsuspend := self.elapses_suspend
        rw [suspend, hscript] at hsuspend
        exact hsuspend
      rw [awaitCredentials]
      split
      · exact .refl self
      · dsimp only
        split
        · exact hpass
        · exact (ih _ (script_pass _ moment)).after hpass

/-- A command asks for its channel, unless the gateway is closed. -/
theorem passes_command (channel : Option ℕ) : Passes self (self.command channel).2 := by
  rw [command]
  split
  · exact ⟨le_rfl, fun h => ⟨h.gateway, h.script⟩⟩
  · exact ⟨le_rfl, id⟩

theorem asked_command (channel : Option ℕ) (h : (self.command channel).1 = true) :
    (self.command channel).2.asked = channel := by
  rw [command] at h ⊢
  split
  · show (((self.calls ++ [Call.voiceState channel]).filterMap Call.asked?).getLast?).getD none = _
    have hlast : [Call.voiceState channel].filterMap Call.asked? = [channel] := rfl
    rw [List.filterMap_append, hlast, List.getLast?_concat, Option.getD_some]
  · rename_i hclosed
    rw [if_neg hclosed] at h
    cases h

theorem Open.command {shared : Shared} (h : shared.Open) (channel : Option ℕ) :
    (shared.command channel).1 = true := by
  rw [Shared.command, if_pos h.gateway]

end Shared

/-! ## What elapses without a change -/

namespace GuildSession

open Shared (Elapses)

variable (self : GuildSession) {first second third : GuildSession}

theorem elapses_notify (text : String) : Elapses self.shared (self.notify text).shared := by
  rw [notify]
  split
  · exact self.shared.elapses_call rfl
  · exact .refl _

theorem elapses_renewToken : Elapses self.shared self.renewToken.shared := .of_eq rfl rfl rfl rfl

theorem elapses_queueView (page : ℕ) : Elapses self.shared (self.queueView page).2.shared := by
  rw [queueView]
  dsimp only
  split
  · exact .of_eq rfl rfl rfl rfl
  · exact .refl _

theorem elapses_awaitDeletions (count : ℕ) :
    Elapses self.shared (self.awaitDeletions count).shared := by
  induction count generalizing self with
  | zero => exact .refl _
  | succ count ih =>
      rw [awaitDeletions]
      dsimp only
      split <;> exact (ih _).after (Shared.elapses_suspend _)

theorem elapses_deletePanel (panel : Panel) :
    Elapses self.shared (self.deletePanel panel).shared :=
  self.elapses_awaitDeletions _

theorem elapses_retireEdits : Elapses self.shared self.retireEdits.shared := by
  rw [retireEdits]
  split
  · exact .refl _
  · exact Shared.elapses_suspend _

theorem elapses_removePanel : Elapses self.shared self.removePanel.shared := by
  rw [removePanel]
  split
  · exact (elapses_deletePanel _ _).after self.elapses_retireEdits
  · exact self.elapses_retireEdits

theorem elapses_finishRefresh (edit : PanelEdit) (how : Joined EditOutcome) :
    Elapses self.shared (self.finishRefresh edit how).shared := by
  have hnote (outcome : EditOutcome) : Elapses self.shared (self.noteEdit edit outcome).shared := by
    rw [noteEdit]
    split <;> exact .refl _
  rw [finishRefresh.eq_def]
  split
  · rename_i outcome
    dsimp only
    split
    · exact hnote outcome
    · split
      · split <;> exact hnote _
      · exact hnote outcome
  · exact .refl _

theorem elapses_flushRefresh : Elapses self.shared self.flushRefresh.shared := by
  rw [flushRefresh]
  split
  · exact .refl _
  · dsimp only
    split
    · exact (elapses_finishRefresh _ _ _).after (Shared.elapses_suspend _)
    · exact Shared.elapses_suspend _

theorem elapses_refresh : Elapses self.shared self.refresh.shared := by
  rw [refresh]
  split
  · exact self.elapses_removePanel
  · split
    · exact .refl _
    · split
      · exact .refl _
      · dsimp only
        split
        · split <;> exact .refl _
        · exact .refl _

theorem elapses_adoptPanel (message : MessageRef) (token : String) (view : View) :
    Elapses self.shared (self.adoptPanel message token view).shared := by
  rw [adoptPanel]
  split
  · split
    · exact (elapses_deletePanel _ _).after (.refl _)
    · exact .refl _
  · exact .refl _

theorem elapses_replyPlayer (request : Request) (content : Option String) :
    Elapses self.shared (self.replyPlayer request content).shared := by
  have hsent (view : View) : Elapses self.shared
      (self.shared.randomToken.2.respond request view).2 :=
    (Shared.elapses_respond _ request view).after (.of_eq rfl rfl rfl rfl)
  rw [replyPlayer]
  dsimp only
  split
  · split
    · exact (elapses_adoptPanel _ _ _ _).after (hsent _)
    · exact hsent _
  · exact hsent _

theorem elapses_presentPlayer (request : Request) (content : Option String) :
    Elapses self.shared (self.presentPlayer request content).shared := by
  have hremoved : Elapses self.shared
      (if self.queue.current.isNone then self.removePanel else self).shared := by
    split
    · exact self.elapses_removePanel
    · exact .refl _
  rw [presentPlayer]
  exact (elapses_replyPlayer _ _ _).after ((elapses_flushRefresh _).after hremoved)

theorem elapses_observeProgress (payload : Value) :
    Elapses self.shared (self.observeProgress payload).shared := by
  rw [observeProgress]
  split
  · exact .refl _
  · split
    · exact .refl _
    · dsimp only
      split <;> exact .refl _

theorem elapses_forgetPreparations :
    Elapses self.shared self.forgetPreparations.shared := by
  rw [forgetPreparations]
  dsimp only
  split
  · exact .refl _
  · exact Shared.elapses_suspend _

theorem elapses_followUp : Elapses self.shared self.followUp.shared := by
  have hprepared : self.startLoad.prepareNext.shared = self.shared := by
    rw [prepareNext]
    split
    · rfl
    · split <;> rfl
  have hpublished : Elapses self.startLoad.prepareNext.shared self.followUp.shared :=
    .of_eq rfl rfl rfl rfl
  rwa [hprepared] at hpublished

theorem elapses_finishPreparation (task : Preparing) (how : Joined Bool) :
    Elapses self.shared (self.finishPreparation task how).shared := by
  rw [finishPreparation.eq_def]
  split
  · exact .refl _
  · split <;> exact .refl _
  · exact .refl _

theorem elapses_component (request : Request) (customId : String) :
    Elapses self.shared (self.component request customId).2.shared := by
  rw [component]
  dsimp only
  split
  · exact self.shared.elapses_respond _ _
  · split
    · exact (Shared.elapses_respond _ _ _).after (self.elapses_queueView _)
    · exact .refl _

theorem elapses_confirmEdit (request : Request) :
    Elapses self.shared (self.confirmEdit request).shared := by
  have hnoted : Elapses self.shared (self.noteControl request).shared := by
    rw [noteControl]
    split <;> exact .refl _
  have hcontrolled (session : GuildSession) (view : View) (delivered : Bool) :
      Elapses session.shared (session.noteControlled request view delivered).shared := by
    unfold noteControlled
    split <;> exact .refl _
  have hsent := (Shared.elapses_respondNoModel _ request self.playerView).after hnoted
  have hedited (delivered : Bool) := (hcontrolled { self.noteControl request with
    shared := ((self.noteControl request).shared.respondNoModel request self.playerView).2 }
    self.playerView delivered).after hsent
  rw [confirmEdit]
  dsimp only
  split
  · split <;> exact hedited _
  · exact hedited _

theorem elapses_confirm (request : Request) (text : String) :
    Elapses self.shared (self.confirm request text).shared := by
  rw [confirm]
  split
  · dsimp only
    split
    · exact (elapses_confirmEdit _ _).after self.elapses_flushRefresh
    · exact (elapses_removePanel _).after self.elapses_flushRefresh
  · exact self.shared.elapses_respond _ _

end GuildSession

end Raydio.Session
