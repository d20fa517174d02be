/-
# The upkeep of the player message

What the handlers of a session do to the player message, to its edits and deletions,
and to the preparation of the next track. Only replies and refreshes adopt or edit a
message. As with the moves of the course, every handler is a sequence of acts, so that
what the acts preserve holds in every run.
-/

import Raydio.Session.Acts

namespace Raydio.Session

open Raydio.Foundation Raydio.Playback Raydio.Voice Raydio.Views Raydio.Discord Raydio.Resolver

namespace GuildSession

variable {first second third : GuildSession} (self : GuildSession)

/-! ## What edits and adopts messages -/

theorem noteEdit_panels (edit : PanelEdit) (outcome : EditOutcome) :
    (self.noteEdit edit outcome).panels = self.panels.noted edit outcome ∧
      (self.noteEdit edit outcome).toPreparation = self.toPreparation := by
  rw [noteEdit, Panels.noted]
  split <;> exact ⟨rfl, rfl⟩

theorem finishRefresh_panels (edit : PanelEdit) (how : Joined EditOutcome) :
    (self.finishRefresh edit how).panels = self.panels.settled edit how ∧
      (self.finishRefresh edit how).toPreparation = self.toPreparation := by
  cases how with
  | cancelled => exact ⟨rfl, rfl⟩
  | panicked => exact ⟨rfl, rfl⟩
  | finished outcome =>
      obtain ⟨hpanels, hpreparation⟩ := self.noteEdit_panels edit outcome
      unfold finishRefresh Panels.settled
      dsimp only
      rw [← hpanels, ← hpreparation]
      generalize self.noteEdit edit outcome = noted
      rcases Option.eq_none_or_eq_some noted.panel with hpanel | ⟨panel, hpanel⟩
      · simp only [Messages.panels, hpanel]
        exact ⟨trivial, trivial⟩
      · by_cases hsame : panel.channel = edit.channel ∧ panel.message = edit.message
        · simp only [Messages.panels, hpanel, if_pos hsame]
          cases outcome <;> simp [note]
        · simp only [Messages.panels, hpanel, if_neg hsame]
          exact ⟨trivial, trivial⟩

/-- An edit that came out leaves the player message the one that it is, or none. -/
theorem Panels.settled_panel {self : Panels} {edit : PanelEdit} {how : Joined EditOutcome}
    {panel : Panel} (h : (self.settled edit how).panel = some panel) :
    ∃ before, self.panel = some before ∧ before.ref = panel.ref := by
  have hnoted (outcome : EditOutcome) : (self.noted edit outcome).panel = self.panel := by
    rw [Panels.noted]
    split <;> rfl
  unfold Panels.settled at h
  split at h
  · rename_i outcome
    rw [← hnoted outcome]
    dsimp only at h
    split at h
    · exact ⟨panel, h, rfl⟩
    · rename_i before hbefore
      split at h
      · split at h
        · cases h
          exact ⟨before, hbefore, rfl⟩
        · cases h
          exact ⟨before, hbefore, rfl⟩
        · cases h
        · exact ⟨panel, h, rfl⟩
      · exact ⟨panel, h, rfl⟩
  · exact ⟨panel, h, rfl⟩

/-- Waiting for the edit under way joins it, if there is one. -/
theorem flushRefresh_spec :
    (self.panelEdits = .new ∧ self.flushRefresh = self) ∨
      ∃ index task how, self.panelEdits.tasks[index]? = some task ∧
        self.flushRefresh.panels = ({ self.panels with
          edits := ⟨self.panelEdits.tasks.eraseIdx index⟩ } : Panels).settled task.tag how ∧
        self.flushRefresh.toPreparation = self.toPreparation := by
  rw [flushRefresh]
  split
  · rename_i hempty
    exact Or.inl ⟨JoinSet.isEmpty_iff.mp hempty, rfl⟩
  · rename_i hsome
    dsimp only
    split
    · rename_i task how left hjoin
      obtain ⟨index, hfound, hleft⟩ := JoinSet.joinAwaited_some hjoin
      obtain ⟨hpanels, hpreparation⟩ := finishRefresh_panels
        { self.suspend.2 with panelEdits := left } task.tag how
      refine Or.inr ⟨index, task, how, hfound, ?_, hpreparation⟩
      rw [hpanels, hleft]
      rfl
    · rename_i hjoin
      have hnew : self.panelEdits = .new := JoinSet.joinAwaited_none.mp hjoin
      exact absurd (JoinSet.isEmpty_iff.mpr hnew) hsome

theorem acts_flushRefresh : Acts self self.flushRefresh := by
  rcases self.flushRefresh_spec with ⟨-, hsame⟩ | ⟨index, task, how, hfound, hpanels, hpreparation⟩
  · rw [hsame]
    exact Acts.refl self
  · exact .single (.settle index task how hfound hpanels hpreparation)

theorem Panels.edits_settled (self : Panels) (edit : PanelEdit) (how : Joined EditOutcome) :
    (self.settled edit how).edits = self.edits := by
  have hnoted (outcome : EditOutcome) : (self.noted edit outcome).edits = self.edits := by
    rw [Panels.noted]
    split <;> rfl
  unfold Panels.settled
  split
  · dsimp only
    split
    · exact hnoted _
    · split
      · split <;> exact hnoted _
      · exact hnoted _
  · rfl

/-- One edit was under way at most, and now none is. -/
theorem flushRefresh_edits (h : self.panelEdits.len ≤ 1) :
    self.flushRefresh.panelEdits = .new := by
  rcases self.flushRefresh_spec with ⟨hnew, hsame⟩ | ⟨index, task, how, hfound, hpanels, -⟩
  · rw [hsame, hnew]
  · have hedits : self.flushRefresh.panelEdits = ⟨self.panelEdits.tasks.eraseIdx index⟩ :=
      (congrArg Panels.edits hpanels).trans (Panels.edits_settled _ _ _)
    have hlen := JoinSet.len_eraseIdx hfound
    rw [hedits]
    apply JoinSet.len_eq_zero.mp
    have hone : self.panelEdits.tasks.length ≤ 1 := h
    show (self.panelEdits.tasks.eraseIdx index).length = 0
    omega

theorem flushRefresh_panel {panel : Panel} (h : self.flushRefresh.panel = some panel) :
    ∃ before, self.panel = some before ∧ before.ref = panel.ref := by
  rcases self.flushRefresh_spec with ⟨-, hsame⟩ | ⟨index, task, how, -, hpanels, -⟩
  · rw [hsame] at h
    exact ⟨panel, h, rfl⟩
  · have hpanel := congrArg Panels.panel hpanels
    exact Panels.settled_panel (hpanel.symm.trans h)

theorem acts_refresh : Acts self self.refresh := by
  rw [refresh]
  split
  · exact self.withdraws_removePanel.acts
  · split
    · exact Acts.refl self
    · rename_i hguard
      have hidle : self.panelEdits = .new := by
        rw [← JoinSet.isEmpty_iff]
        simp only [Bool.or_eq_true, not_or] at hguard
        simpa using hguard.1
      split
      · exact Acts.refl self
      · rename_i panel hpanel
        dsimp only
        split
        · rename_i hshown
          split
          · exact .single (.spawn panel _ true hidle hpanel (fun _ => hshown) rfl rfl)
          · exact Acts.refl self
        · refine .single (.spawn panel _ false hidle hpanel ?_ rfl rfl)
          intro habsurd
          cases habsurd

theorem acts_adoptPanel {message : MessageRef} {token : String} {view : View}
    (hidle : self.panelEdits = .new) (hacknowledged : .acknowledged message view ∈ self.panelLog) :
    Acts self (self.adoptPanel message token view) := by
  unfold adoptPanel
  dsimp only
  split
  · rename_i previous hprevious
    split
    · rename_i hother
      obtain ⟨left, hroom, hpanels, hpreparation⟩ := deletePanel_spec
        ((({ self with panel := some ⟨message.channelId, message.id, token, some view⟩ } :
          GuildSession).note (.adopted message)).note (.retired previous.ref)) previous
      refine .single (.replace previous left message token view hidle hprevious ?_ hroom
        hacknowledged ?_ hpreparation)
      · intro hsame
        rw [← hsame] at hother
        exact hother rfl
      · rw [hpanels]
        simp [Messages.panels, note]
    · rename_i hsame
      rw [not_not, Prod.mk.injEq] at hsame
      have href : previous.ref = message := by
        rw [Panel.ref, hsame.1, hsame.2]
      refine .single (.renew previous token view hprevious (href ▸ hacknowledged) ?_ rfl)
      rw [hsame.1, hsame.2]
      rfl
  · rename_i hvacant
    exact .single (.adopt message token view hidle hvacant hacknowledged rfl rfl)

theorem acts_replyPlayer (request : Request) (content : Option String)
    (hidle : self.panelEdits = .new) : Acts self (self.replyPlayer request content) := by
  rw [replyPlayer]
  dsimp only
  split
  · rename_i message _
    have hnoted (view : View) : Acts self (({ self with
        shared := (self.shared.randomToken.2.respond request view).2 } : GuildSession).note
          (.acknowledged message view)) :=
      .single (.acknowledge message view rfl rfl)
    split
    · refine (acts_adoptPanel _ ?_ ?_).after (hnoted _)
      · exact hidle
      · simp [note]
    · exact hnoted _
  · exact .still ⟨rfl, rfl⟩

theorem acts_presentPlayer (request : Request) (content : Option String) :
    Acts self (self.presentPlayer request content) := by
  have hfirst : Acts self (if self.queue.current.isNone then self.removePanel else self) := by
    split
    · exact self.withdraws_removePanel.acts
    · exact Acts.refl self
  intro hle
  have hle' := edits_le_of_acts (hfirst hle) hle
  have hflushed := hfirst.trans (acts_flushRefresh _)
  have hidle := flushRefresh_edits _ hle'
  have hcleared : Acts self { (if self.queue.current.isNone then self.removePanel else
      self).flushRefresh with panelChecks := 0 } := hflushed.then_still ⟨rfl, rfl⟩
  exact hcleared.trans (acts_replyPlayer _ request content hidle) hle

/-! ## Replies to interactions -/

/-- A component that stands for a control is part of the player message, if the session
still has one. -/
def Mine (request : Request) : Prop :=
  request.updatesMessage = true → ∀ panel, self.panel = some panel →
    ∀ message, request.interaction.message = some message → message.id = panel.message

/-- A player message that is at most withdrawn. -/
theorem Mine.of_panel {request : Request} (h : first.Mine request)
    (hpanel : ∀ panel, second.panel = some panel →
      ∃ before, first.panel = some before ∧ before.ref = panel.ref) : second.Mine request := by
  intro hupdates panel hactive message hmessage
  obtain ⟨before, hbefore, href⟩ := hpanel panel hactive
  rw [h hupdates before hbefore message hmessage]
  exact congrArg MessageRef.id href

theorem Withdraws.panel (h : Withdraws first second) {panel : Panel}
    (hpanel : second.panel = some panel) : first.panel = some panel := by
  induction h with
  | refl => exact hpanel
  | tail _ act ih =>
      apply ih
      cases act with
      | still h => exact (congrArg Panels.panel h.panels).symm.trans hpanel
      | forget _ panels _ => exact (congrArg Panels.panel panels).symm.trans hpanel
      | drain panels _ => exact (congrArg Panels.panel panels).symm.trans hpanel
      | discard _ _ _ _ _ panels _ =>
          have hnone := (congrArg Panels.panel panels).symm.trans hpanel
          cases hnone

theorem Mine.withdraws {request : Request} (h : first.Mine request)
    (hwithdraws : Withdraws first second) : second.Mine request :=
  h.of_panel fun panel hpanel => ⟨panel, hwithdraws.panel hpanel, rfl⟩

/-- The edit of a control is sent while no other is under way. -/
theorem acts_noteControl (request : Request) (hidle : self.panelEdits = .new) :
    Acts self (self.noteControl request) := by
  rw [noteControl]
  split
  · rename_i message _
    refine .single (.control message hidle ?_ rfl)
    rw [hidle]
    rfl
  · exact Acts.refl self

/-- An edit that is delivered has a message. -/
theorem message_of_delivered {shared : Shared} {request : Request} {view : View}
    (h : (shared.respondNoModel request view).1 = true) :
    ∃ message, request.interaction.message = some message := by
  rw [Shared.respondNoModel] at h
  split at h
  · cases h
  · rename_i message hmessage
    exact ⟨message, hmessage⟩

theorem acts_confirmEdit {request : Request} (hidle : self.panelEdits = .new)
    (hupdates : request.updatesMessage = true) (hmine : self.Mine request) :
    Acts self (self.confirmEdit request) := by
  have hsent := self.acts_noteControl request hidle
  have hpanels (panel : Panel) (h : (self.noteControl request).panel = some panel) :
      self.panel = some panel := by
    rw [noteControl] at h
    split at h <;> exact h
  rw [confirmEdit]
  dsimp only
  cases hdelivered : ((self.noteControl request).shared.respondNoModel request
    self.playerView).1 with
  | false => exact hsent.then_still ⟨rfl, rfl⟩
  | true =>
      obtain ⟨message, hmessage⟩ := message_of_delivered hdelivered
      simp only [noteControlled, hmessage]
      have hnoted : Acts self (({ self.noteControl request with
          shared := ((self.noteControl request).shared.respondNoModel request
            self.playerView).2 } : GuildSession).note (.acknowledged message self.playerView)) :=
        hsent.trans (.single (.acknowledge message self.playerView rfl rfl))
      split
      · rename_i panel _ hpanel
        have hsame := hmine hupdates panel (hpanels panel hpanel) message hmessage
        split
        · refine hnoted.trans (.single (.confirm panel message self.playerView hpanel hsame ?_
            rfl rfl))
          simp [note]
        · refine hnoted.trans (.single (.confirm panel message self.playerView hpanel hsame ?_
            rfl rfl))
          simp [note]
      · exact hnoted

theorem acts_confirm {request : Request} (text : String) (hmine : self.Mine request) :
    Acts self (self.confirm request text) := by
  rw [confirm]
  split
  · rename_i hupdates
    dsimp only
    split
    · intro hle
      have hidle := self.flushRefresh_edits hle
      have hflushed := hmine.of_panel fun panel => self.flushRefresh_panel
      exact self.acts_flushRefresh.trans (acts_confirmEdit _ hidle hupdates hflushed) hle
    · exact (withdraws_removePanel _).acts.after self.acts_flushRefresh
  · exact .still ⟨rfl, rfl⟩

theorem acts_answerControl {request : Request} (hmine : self.Mine request) :
    Acts self (self.answerControl request) := by
  have hcontrol := self.withdraws_control request
  rw [answerControl]
  apply (acts_refresh _).after
  split
  · exact hcontrol.acts.trans (acts_confirm _ _ (hmine.withdraws hcontrol))
  · exact hcontrol.acts.then_still ⟨rfl, rfl⟩

theorem acts_dispatch {request : Request} (hmine : self.Mine request) :
    Acts self (self.dispatch request) := by
  unfold dispatch
  split
  · exact .still (self.still_preparePlay request)
  · exact self.acts_presentPlayer request none
  · exact .still ((still_respond _ _ _).after (self.still_queueView 0))
  · exact .still ⟨rfl, rfl⟩
  · exact .still ⟨rfl, rfl⟩
  · exact .still ⟨rfl, rfl⟩
  · exact self.acts_answerControl hmine

theorem still_component (request : Request) (customId : String) :
    Still self (self.component request customId).2 := by
  rw [component]
  dsimp only
  split
  · exact ⟨rfl, rfl⟩
  · split
    · exact (still_respond _ _ _).after (self.still_queueView _)
    · exact Still.refl self

/-- A component that is not answered at once is part of the player message. -/
theorem component_mine {request routed : Request} {customId : String}
    (h : (self.component request customId).1 = some routed) :
    (self.component request customId).2.Mine routed := by
  obtain ⟨hsame, hvalid, hkind, rfl⟩ := self.component_some h
  rw [hsame]
  rw [validComponent, if_neg hkind] at hvalid
  simp only [Bool.and_eq_true] at hvalid
  obtain ⟨-, -, hpanel⟩ := hvalid
  intro _ panel hactive message hmessage
  rw [hactive, Option.any_some, Bool.and_eq_true] at hpanel
  have hany : (request.interaction.message.any fun m => m.id == panel.message) = true :=
    hpanel.2
  rw [show request.interaction.message = some message from hmessage] at hany
  simpa using hany

theorem acts_interaction (request : Request) : Acts self (self.interaction request) := by
  rw [interaction]
  split
  · exact .still ⟨rfl, rfl⟩
  · split
    · rename_i hcustom
      apply self.acts_dispatch
      intro hupdates
      simp [Request.updatesMessage, hcustom] at hupdates
    · rename_i customId _
      have hcomponent := self.still_component request customId
      dsimp only
      split
      · exact .still hcomponent
      · rename_i routed hrouted
        exact (acts_dispatch _ (self.component_mine hrouted)).after (.still hcomponent)

/-! ## Commits, events and ticks -/

theorem acts_replyStarted (request : Request) (resolution : Resolution) (added omitted : ℕ) :
    Acts self (self.replyStarted request resolution added omitted) := by
  have hstarted : Acts self self.startCurrent.2 := .still self.still_startCurrent
  rw [replyStarted]
  dsimp only
  split
  · exact hstarted.then_still ⟨rfl, rfl⟩
  · exact (hstarted.trans (acts_presentPlayer _ _ _)).then_still ⟨rfl, rfl⟩

theorem acts_replyQueued (request : Request) (resolution : Resolution) (first : Track)
    (added omitted : ℕ) : Acts self (self.replyQueued request resolution first added omitted) :=
  (self.acts_presentPlayer _ _).then_still ⟨rfl, rfl⟩

theorem acts_enqueueResolved (pending : Pending) (resolution : Resolution) :
    Acts self (self.enqueueResolved pending resolution) := by
  rw [enqueueResolved]
  dsimp only
  split
  · exact Acts.refl self
  · split
    · exact .still ⟨rfl, rfl⟩
    · split
      · exact (acts_replyStarted _ _ _ _ _).after (.still ⟨rfl, rfl⟩)
      · exact (acts_replyQueued _ _ _ _ _ _).after (.still ⟨rfl, rfl⟩)

theorem acts_commitJoined (pending : Pending) (resolution : Resolution) :
    Acts self (self.commitJoined pending resolution) := by
  rw [commitJoined]
  split
  · exact .still ⟨rfl, rfl⟩
  · exact self.acts_enqueueResolved pending resolution

theorem acts_commit (pending : Pending) (resolution : Except Failure Resolution) :
    Acts self (self.commit pending resolution) := by
  unfold commit
  dsimp only
  split
  · exact .still ⟨rfl, rfl⟩
  · split
    · exact .still ⟨rfl, rfl⟩
    · split
      · exact .still ⟨rfl, rfl⟩
      · split
        · exact .still ⟨rfl, rfl⟩
        · split
          · exact .still ⟨rfl, rfl⟩
          · split
            · have hjoined : Acts self
                  ((self.mark (.joined pending.admission)).join pending.channel).2 :=
                .still ((still_join _ _).after ⟨rfl, rfl⟩)
              split
              · exact (acts_commitJoined _ _ _).after hjoined
              · exact (hjoined.trans (withdraws_cleanup _ none).acts).then_still ⟨rfl, rfl⟩
            · exact self.acts_commitJoined _ _

theorem acts_joinLoader (index : ℕ) : Acts self (self.joinLoader index) := by
  rw [joinLoader]
  dsimp only
  split
  · exact .still ⟨rfl, rfl⟩
  · rename_i pending resolution _
    have hcommitted : Acts self (({ self with
        toPipeline := (self.toPipeline.joinLoader index).2 } : GuildSession).commit pending
          resolution) :=
      (acts_commit _ _ _).after (.still ⟨rfl, rfl⟩)
    exact hcommitted.then_still ⟨rfl, rfl⟩
  · exact .still ⟨rfl, rfl⟩

theorem acts_backend (payload : Value) : Acts self (self.backend payload) := by
  rw [backend]
  split
  · exact Acts.refl self
  · split
    · exact .still (self.still_observeProgress payload)
    · split
      · exact (self.withdraws_cleanup _).acts
      · split
        · exact Acts.refl self
        · split
          · exact Acts.refl self
          · split
            · split
              · exact Acts.refl self
              · exact (acts_refresh _).after (.still ⟨rfl, rfl⟩)
            · split
              · exact (acts_refresh _).after (.still self.still_trackFinished)
              · split
                · exact (acts_refresh _).after (.still self.still_trackFailure)
                · exact Acts.refl self
            · exact (acts_refresh _).after (.still self.still_trackFailure)
            · exact (acts_refresh _).after (.still self.still_trackFailure)
            · exact Acts.refl self

theorem acts_tick : Acts self self.tick := by
  have hvoice := self.withdraws_voiceChanged
  unfold tick
  dsimp only
  split
  · exact (hvoice.trans (withdraws_cleanup _ _)).acts
  · split
    · exact (hvoice.trans (withdraws_cleanup _ _)).acts
    · exact (hvoice.acts.then_still (still_checkPlayback _)).trans (acts_refresh _)

/-- What the handler of an arm does, after the task that it joins was taken out. Joining
a preparation is no act. -/
theorem acts_handle {arm : Arm} {after : GuildSession} (h : self.handle arm = some after)
    (harm : ∀ index, arm ≠ .joinPreparation index) : Acts self after := by
  cases arm with
  | interaction request acknowledged =>
      cases h
      split
      · exact (acts_interaction _ request).after (.still ⟨rfl, rfl⟩)
      · exact .still ⟨rfl, rfl⟩
  | backend payload =>
      cases h
      exact self.acts_backend payload
  | ending index =>
      simp only [handle] at h
      split at h
      · cases h
      · cases h
        exact (acts_backend _ _).after (.still ⟨rfl, rfl⟩)
  | voiceChanged =>
      cases h
      exact self.withdraws_voiceChanged.acts
  | invalidated =>
      cases h
      exact (self.withdraws_cleanup _).acts
  | connected =>
      cases h
      exact self.withdraws_onConnected.acts
  | joinLoader index =>
      simp only [handle] at h
      split at h
      · cases h
        exact self.acts_joinLoader index
      · cases h
  | joinResponse index =>
      simp only [handle] at h
      split at h
      · cases h
      · cases h
        exact .still ⟨rfl, rfl⟩
  | joinPreparation index => exact absurd rfl (harm index)
  | joinDeletion index =>
      simp only [handle] at h
      split at h
      · cases h
      · rename_i task how left hjoin
        cases h
        obtain ⟨-, -, hleft⟩ := JoinSet.joinNext_some hjoin
        refine .single (.thin left ?_ rfl rfl)
        rw [hleft]
        exact List.length_eraseIdx_le _ _
  | joinEdit index =>
      simp only [handle] at h
      split at h
      · cases h
      · rename_i task how left hjoin
        cases h
        obtain ⟨hfound, -, hleft⟩ := JoinSet.joinNext_some hjoin
        obtain ⟨hpanels, hpreparation⟩ :=
          finishRefresh_panels { self with panelEdits := left } task.tag how
        refine (acts_refresh _).after (.single (.settle index task how hfound ?_ hpreparation))
        rw [hpanels, hleft]
        rfl
  | tick =>
      cases h
      exact self.acts_tick

/-! ## What prepares -/

theorem edits_of_panels {before after : GuildSession} (h : after.panels = before.panels) :
    after.panelEdits = before.panelEdits :=
  congrArg Panels.edits h

theorem prepareNext_panels : self.prepareNext.panels = self.panels := by
  rw [prepareNext]
  split
  · rfl
  · split <;> rfl

theorem finishPreparation_panels (task : Preparing) (how : Joined Bool) :
    (self.finishPreparation task how).panels = self.panels := by
  unfold finishPreparation
  split
  · rfl
  · split <;> rfl
  · rfl

theorem joinPreparation_panels {index : ℕ} {after : GuildSession}
    (h : self.handle (.joinPreparation index) = some after) : after.panels = self.panels := by
  simp only [handle] at h
  split at h
  · cases h
  · cases h
    exact finishPreparation_panels _ _ _

theorem still_followUp : Still self.startLoad.prepareNext self.followUp := ⟨rfl, rfl⟩

theorem still_startLoad : Still self self.startLoad := ⟨rfl, rfl⟩

end GuildSession

/-! ## Runs -/

open GuildSession

/-- An edit that comes to its end stays in the set until it is joined. -/
theorem outside_edits (session : GuildSession) (move : Outside) :
    (session.outside move).panelEdits.len = session.panelEdits.len := by
  cases move with
  | endEdit index how => simp [outside, JoinSet.finish, JoinSet.len]
  | _ => rfl

/-- What acts, requests to prepare and the outside preserve holds in every run, beside
that one edit is under way at most, and what it becomes at the end holds afterwards. -/
theorem Worker.upkeep_rule (Running Ended : GuildSession → Prop)
    (act : ∀ before after, Act before after → Running before → Running after)
    (outside : ∀ session move, Running session → Running (session.outside move))
    (prepareNext : ∀ session, Running session → Running session.prepareNext)
    (joinPreparation : ∀ session index after, Running session →
      session.handle (.joinPreparation index) = some after → Running after)
    (close : ∀ session cut, Running session → Ended (session.close cut))
    {worker : Worker} (inputs : List Input)
    (hworker : worker.Holds (fun session => session.panelEdits.len ≤ 1 ∧ Running session)
      Ended) :
    (worker.run inputs).Holds (fun session => session.panelEdits.len ≤ 1 ∧ Running session)
      Ended := by
  have hacts {first last : GuildSession} (h : Acts first last)
      (hfirst : first.panelEdits.len ≤ 1 ∧ Running first) :
      last.panelEdits.len ≤ 1 ∧ Running last := by
    have hsteps := h hfirst.1
    refine ⟨edits_le_of_acts hsteps hfirst.1, ?_⟩
    clear h
    induction hsteps with
    | refl => exact hfirst.2
    | tail _ hact ih => exact act _ _ hact ih
  refine run_steps _ _ ?_ worker inputs (along_true worker inputs) hworker
  intro session input _ hsession
  cases input with
  | outside move =>
      exact ⟨(outside_edits session move).trans_le hsession.1, outside session move hsession.2⟩
  | close script random cut =>
      exact close _ cut (hacts (.still ⟨rfl, rfl⟩ : Acts session (session.prepare script random))
        hsession).2
  | turn arm script random cut =>
      have hprepared := hacts (.still ⟨rfl, rfl⟩ : Acts session (session.prepare script random))
        hsession
      simp only [Worker.step]
      split
      · exact hsession
      · rename_i after hafter
        have hhandled : after.panelEdits.len ≤ 1 ∧ Running after := by
          by_cases hjoins : ∃ index, arm = .joinPreparation index
          · obtain ⟨index, rfl⟩ := hjoins
            refine ⟨?_, joinPreparation _ index after hprepared.2 hafter⟩
            rw [edits_of_panels (joinPreparation_panels _ hafter)]
            exact hprepared.1
          · rw [not_exists] at hjoins
            exact hacts (acts_handle _ hafter hjoins) hprepared
        have hloaded := hacts (.still after.still_startLoad) hhandled
        have hnext : after.startLoad.prepareNext.panelEdits.len ≤ 1 ∧
            Running after.startLoad.prepareNext := by
          refine ⟨?_, prepareNext _ hloaded.2⟩
          rw [edits_of_panels (prepareNext_panels _)]
          exact hloaded.1
        have hfollowed := hacts (.still after.still_followUp) hnext
        split
        · exact close _ cut hfollowed.2
        · exact hfollowed

end Raydio.Session
