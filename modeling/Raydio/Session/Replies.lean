/-
# Replies among the calls

Which calls of a session reply to a request, and how often. Starting a track, joining a
voice channel and cleaning up reply to nobody; whichever way out a commit takes, it
attempts one reply to its request, which is tried again only after a transient failure.
-/

import Raydio.Session.Starting

namespace Raydio.Session

open Raydio.Foundation Raydio.Playback Raydio.Voice Raydio.Views Raydio.Discord Raydio.Resolver

/-! ## Replies -/

/-- The request that a call replies to. -/
def Call.recipient : Call → Option Request
  | .respond request _ | .followup request _ => some request
  | _ => none

namespace Shared

/-- Calls were made, and these replies are among them. -/
def Replies (replies : List Call) (before after : Shared) : Prop :=
  ∃ calls, after.calls = before.calls ++ calls ∧
    calls.filter (fun call => call.recipient.isSome) = replies

variable {first second third : Shared} {request : Request}

theorem Replies.trans {replies more : List Call} (h : Replies replies first second)
    (h' : Replies more second third) : Replies (replies ++ more) first third := by
  obtain ⟨calls, hcalls, rfl⟩ := h
  obtain ⟨calls', hcalls', rfl⟩ := h'
  refine ⟨calls ++ calls', ?_, List.filter_append _ _⟩
  rw [hcalls', hcalls, List.append_assoc]

/-- No reply was attempted. -/
abbrev Silent (before after : Shared) : Prop := Replies [] before after

/-- One reply to the request was attempted, or two with the same view: the second one after
the first had failed in a way that may pass. -/
inductive Answers (request : Request) (before after : Shared) : Prop
  | once {call : Call} (recipient : call.recipient = some request)
      (replies : Replies [call] before after)
  | again {view : View} {first : Shared} (silent : Silent before first)
      (transient : (first.respond request view).1 = .error true)
      (rest : Silent ((first.respond request view).2.respond request view).2 after)

theorem Silent.of_eq (h : second.calls = first.calls) : Silent first second :=
  ⟨[], by simp [h], rfl⟩

/-- From the last part backwards. -/
theorem Silent.after (h' : Silent second third) (h : Silent first second) : Silent first third :=
  Replies.trans h h'

theorem Answers.after (h' : Answers request second third) (h : Silent first second) :
    Answers request first third := by
  cases h' with
  | once recipient replies => exact .once recipient (Replies.trans h replies)
  | again silent transient rest => exact .again (silent.after h) transient rest

theorem Answers.then_silent (h : Answers request first second) (h' : Silent second third) :
    Answers request first third := by
  cases h with
  | once recipient replies => exact .once recipient (replies.trans h')
  | again silent transient rest => exact .again silent transient (h'.after rest)

variable (self : Shared)

theorem calls_pass (moment : Moment) : (self.pass moment).calls = self.calls := by
  show (self.endTrack moment.ending).calls = self.calls
  unfold endTrack
  split
  · split <;> rfl
  · rfl

theorem calls_suspend : self.suspend.2.calls = self.calls := by
  rw [suspend]
  split
  · rfl
  · exact calls_pass _ _

theorem silent_suspend : Silent self self.suspend.2 := .of_eq self.calls_suspend

/-- A call, and the suspension while it is under way. -/
theorem replies_record (call : Call) :
    Replies (if call.recipient.isSome then [call] else []) self (self.record call).suspend.2 := by
  refine ⟨[call], ?_, ?_⟩
  · rw [calls_suspend]
    rfl
  · rw [List.filter_singleton]
    cases call.recipient <;> rfl

theorem silent_update (patch : Patch) : Silent self (self.update patch).2 := by
  have hreceive (shared : Shared) (session : String) (accepted : Bool) :
      Silent shared (shared.receive session patch accepted) := ⟨[_], rfl, rfl⟩
  rw [update]
  split
  · exact .of_eq rfl
  · exact (silent_suspend _).after ((hreceive _ _ _).after self.silent_suspend)

theorem silent_destroy : Silent self self.destroy := by
  have hreceive (shared : Shared) (session : String) (accepted : Bool) :
      Silent shared (shared.receiveDestroy session accepted) := ⟨[_], rfl, rfl⟩
  rw [destroy]
  split
  · exact .of_eq rfl
  · exact (silent_suspend _).after ((hreceive _ _ _).after self.silent_suspend)

theorem silent_command (channel : Option ℕ) : Silent self (self.command channel).2 := by
  rw [command]
  split
  · exact ⟨[.voiceState channel], rfl, rfl⟩
  · exact .of_eq rfl

theorem silent_awaitCredentials (guild channel : ℕ) (script : List Moment) :
    Silent self (self.awaitCredentials guild channel script).2 := by
  induction script generalizing self with
  | nil => exact .of_eq rfl
  | cons moment rest ih =>
      rw [awaitCredentials]
      split
      · exact .of_eq rfl
      · have hpass : Silent self (({ self with script := rest } : Shared).pass moment) :=
          .of_eq (calls_pass _ _)
        dsimp only
        split
        · exact hpass
        · exact (ih _).after hpass

/-- A reply with the player message or a text. -/
theorem answers_respond (view : View) : Answers request self (self.respond request view).2 :=
  .once rfl (self.replies_record (.respond request view))

/-- An error is told once, and told again after a transient failure. -/
theorem answers_error (text : String) : Answers request self (self.error request text) := by
  rw [error]
  split
  · exact .once rfl (self.replies_record (.followup request text))
  · dsimp only
    split
    · rename_i htransient
      exact .again (.of_eq rfl) htransient (.of_eq rfl)
    · exact self.answers_respond _

end Shared

/-! ## What replies to nobody -/

namespace GuildSession

open Shared (Silent Answers)

variable (self : GuildSession)

theorem silent_notify (text : String) : Silent self.shared (self.notify text).shared := by
  rw [notify]
  split
  · exact Shared.replies_record _ (.message _ text)
  · exact .of_eq rfl

theorem silent_failOver : Silent self.shared self.failOver.shared := by
  rw [failOver]
  dsimp only
  split
  · exact silent_notify _ _
  · exact .of_eq rfl

theorem silent_startCurrent : Silent self.shared self.startCurrent.2.shared := by
  apply startCurrent_keeps self (fun session => Silent self.shared session.shared)
  · intro session h
    exact (Shared.silent_update _ _).after h
  · intro session at' h
    exact h
  · intro session h
    exact session.silent_failOver.after h
  · exact .of_eq rfl

theorem silent_awaitDeletions (count : ℕ) :
    Silent self.shared (self.awaitDeletions count).shared := by
  induction count generalizing self with
  | zero => exact .of_eq rfl
  | succ count ih =>
      rw [awaitDeletions]
      dsimp only
      split <;> exact (ih _).after (Shared.silent_suspend _)

theorem silent_retireEdits : Silent self.shared self.retireEdits.shared := by
  rw [retireEdits]
  split
  · exact .of_eq rfl
  · exact Shared.silent_suspend _

theorem silent_removePanel : Silent self.shared self.removePanel.shared := by
  rw [removePanel]
  split
  · exact (silent_awaitDeletions _ _).after self.silent_retireEdits
  · exact self.silent_retireEdits

theorem silent_finishRefresh (edit : PanelEdit) (how : Joined EditOutcome) :
    Silent self.shared (self.finishRefresh edit how).shared := by
  have hnote (outcome : EditOutcome) : (self.noteEdit edit outcome).shared = self.shared := by
    rw [noteEdit]
    split <;> rfl
  apply Shared.Silent.of_eq
  rw [finishRefresh.eq_def]
  split
  · rename_i outcome
    dsimp only
    split
    · rw [hnote]
    · split
      · split <;> exact congrArg Shared.calls (hnote _)
      · rw [hnote]
  · rfl

theorem silent_flushRefresh : Silent self.shared self.flushRefresh.shared := by
  rw [flushRefresh]
  split
  · exact .of_eq rfl
  · dsimp only
    split
    · exact (silent_finishRefresh _ _ _).after (Shared.silent_suspend _)
    · exact Shared.silent_suspend _

theorem silent_forgetPreparations : Silent self.shared self.forgetPreparations.shared := by
  rw [forgetPreparations]
  dsimp only
  split
  · exact .of_eq rfl
  · exact Shared.silent_suspend _

theorem silent_cleanup (notification : Option String) :
    Silent self.shared (self.cleanup notification).shared := by
  have hremoved : Silent self.shared self.forgetPreparations.invalidate.removePanel.shared :=
    (silent_removePanel _).after self.silent_forgetPreparations
  have hreset : Silent self.shared self.forgetPreparations.invalidate.removePanel.reset.shared :=
    (Shared.silent_command _ _).after hremoved
  have hleft : Silent self.shared
      self.forgetPreparations.invalidate.removePanel.reset.destroy.shared :=
    (Shared.silent_destroy _).after hreset
  unfold cleanup
  dsimp only
  split
  · exact (silent_notify _ _).after hleft
  · exact hleft

theorem silent_join (channel : ℕ) : Silent self.shared (self.join channel).2.shared := by
  have hsent : Silent self.shared ((self.shared.forgetServer self.id).command (some channel)).2 :=
    (Shared.silent_command _ _).after (.of_eq rfl)
  rw [join]
  dsimp only
  split
  · exact hsent
  · have hwaited (script : List Moment) :=
      (Shared.silent_awaitCredentials _ self.id channel script).after hsent
    split
    · exact hwaited _
    · split <;> exact (Shared.silent_update _ _).after (hwaited _)

/-! ## What replies once -/

theorem answers_error (request : Request) (text : String) :
    Answers request self.shared (self.error request text).shared :=
  self.shared.answers_error text

/-- A message that becomes the player message is no further reply. -/
theorem silent_adoptPanel (message : MessageRef) (token : String) (view : View) :
    Silent self.shared (self.adoptPanel message token view).shared := by
  rw [adoptPanel]
  split
  · split
    · exact silent_awaitDeletions _ _
    · exact .of_eq rfl
  · exact .of_eq rfl

theorem answers_replyPlayer (request : Request) (content : Option String) :
    Answers request self.shared (self.replyPlayer request content).shared := by
  rw [replyPlayer]
  dsimp only
  have hsent (view : View) : Answers request self.shared
      (self.shared.randomToken.2.respond request view).2 :=
    (Shared.answers_respond _ view).after (.of_eq rfl)
  split
  · split
    · exact (hsent _).then_silent (silent_adoptPanel _ _ _ _)
    · exact hsent _
  · exact hsent _

theorem answers_presentPlayer (request : Request) (content : Option String) :
    Answers request self.shared (self.presentPlayer request content).shared := by
  have hremoved : Silent self.shared
      (if self.queue.current.isNone then self.removePanel else self).shared := by
    split
    · exact self.silent_removePanel
    · exact .of_eq rfl
  rw [presentPlayer]
  exact (answers_replyPlayer _ _ _).after ((silent_flushRefresh _).after hremoved)

theorem answers_replyStarted (request : Request) (resolution : Resolution) (added omitted : ℕ) :
    Answers request self.shared (self.replyStarted request resolution added omitted).shared := by
  rw [replyStarted]
  dsimp only
  split
  · exact (answers_error _ _ _).after self.silent_startCurrent
  · exact (answers_presentPlayer _ _ _).after self.silent_startCurrent

/-- Tracks that were resolved are enqueued with a reply. -/
theorem answers_enqueueResolved (pending : Pending) (resolution : Resolution)
    (htracks : resolution.tracks ≠ []) :
    Answers pending.request self.shared (self.enqueueResolved pending resolution).shared := by
  rw [enqueueResolved]
  dsimp only
  split
  · rename_i hnone
    rw [List.head?_eq_none_iff] at hnone
    exact absurd (List.map_eq_nil_iff.mp hnone) htracks
  · split
    · exact answers_error _ _ _
    · split
      · exact (answers_replyStarted _ _ _ _ _).after (.of_eq rfl)
      · exact (answers_presentPlayer _ _ _).after (.of_eq rfl)

theorem answers_commitJoined (pending : Pending) (resolution : Resolution)
    (htracks : resolution.tracks ≠ []) :
    Answers pending.request self.shared (self.commitJoined pending resolution).shared := by
  rw [commitJoined]
  split
  · exact self.answers_error _ _
  · exact self.answers_enqueueResolved pending resolution htracks

/-- Every way out of a commit replies. -/
theorem answers_commit (pending : Pending) (resolution : Except Failure Resolution)
    (htracks : ∀ resolved, resolution = .ok resolved → resolved.tracks ≠ []) :
    Answers pending.request self.shared (self.commit pending resolution).shared := by
  unfold commit
  dsimp only
  split
  · exact self.answers_error _ _
  · split
    · exact self.answers_error _ _
    · rename_i resolved
      have hsome := htracks resolved rfl
      split
      · exact self.answers_error _ _
      · split
        · exact self.answers_error _ _
        · split
          · exact self.answers_error _ _
          · split
            · have hjoined : Silent self.shared
                  ((self.mark (.joined pending.admission)).join pending.channel).2.shared :=
                silent_join _ _
              split
              · exact (answers_commitJoined _ pending resolved hsome).after hjoined
              · exact (answers_error _ _ _).after ((silent_cleanup _ _).after hjoined)
            · exact self.answers_commitJoined pending resolved hsome

end GuildSession

end Raydio.Session
