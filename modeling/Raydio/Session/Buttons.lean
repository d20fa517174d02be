/-
# The buttons of the player message

A button carries the token under which its message was shown, and is accepted as long as
the message is the player message and has that token. Messages are shown, edited and shown
again under new tokens while edits of them are under way. The invariant is that whatever
the player message shows, or will show once an edit of it comes out, has its own token; so
no button that a user sees on it is dead.
-/

import Raydio.Session.Ownership
import Raydio.Session.Paging
import Raydio.Views.Player

namespace Raydio.Session

open Raydio.Foundation Raydio.Playback Raydio.Voice Raydio.Views Raydio.Discord Raydio.Resolver

/-- The parts of the identifier of a button. -/
theorem splitColon_playerId {token : String} (htoken : ':' ∉ token.toList) {action : String}
    (haction : action ∈ actions) :
    splitColon (playerId token action) = ["raydio", "player", token, action] := by
  have hid : playerId token action = ":".intercalate ["raydio", "player", token, action] := by
    apply String.toList_injective
    simp [playerId]
  rw [hid, splitColon_intercalate (by simp)]
  intro part hpart
  simp only [List.mem_cons, List.not_mem_nil, or_false] at hpart
  rcases hpart with rfl | rfl | rfl | rfl
  · decide
  · decide
  · exact htoken
  · have hplain : ∀ action ∈ actions, ':' ∉ action.toList := by decide
    exact hplain _ haction

/-- The buttons of a view are those of the player, under the token. -/
def Carries (token : String) (view : View) : Prop :=
  ∀ button ∈ view.components.flatten, ∃ action ∈ actions, button.customId = playerId token action

namespace Panels

/-- What the player message shows, and will show, has its token. -/
structure Labelled (panels : Panels) : Prop where
  edits : panels.edits.len ≤ 1
  token : ∀ panel, panels.panel = some panel → ':' ∉ panel.token.toList
  shown : ∀ panel view, panels.panel = some panel → panel.lastView = some view →
    Carries panel.token view
  sent : ∀ task ∈ panels.edits.tasks, ∀ panel, panels.panel = some panel →
    Carries panel.token task.tag.view

variable {panels : Panels}

theorem labelled_of_none (hedits : panels.edits.len ≤ 1) (h : panels.panel = none) :
    panels.Labelled where
  edits := hedits
  token _ hpanel := by cases h.symm.trans hpanel
  shown _ _ hpanel := by cases h.symm.trans hpanel
  sent _ _ _ hpanel := by cases h.symm.trans hpanel

/-- An edit that came out leaves the token as it is, and the view as it was, unknown, or the
one that was sent. -/
theorem token_settled {edit : PanelEdit} {how : Joined EditOutcome} {panel : Panel}
    (h : (panels.settled edit how).panel = some panel) :
    ∃ before, panels.panel = some before ∧ before.token = panel.token ∧
      ∀ view, panel.lastView = some view → before.lastView = some view ∨ view = edit.view := by
  have hnoted (outcome : EditOutcome) : (panels.noted edit outcome).panel = panels.panel := by
    rw [noted]
    split <;> rfl
  unfold settled at h
  split at h
  · rename_i outcome
    rw [← hnoted outcome]
    dsimp only at h
    split at h
    · exact ⟨panel, h, rfl, fun view hview => Or.inl hview⟩
    · rename_i before hbefore
      split at h
      · split at h
        · cases h
          exact ⟨before, hbefore, rfl, fun _ hview => by cases hview⟩
        · cases h
          refine ⟨before, hbefore, rfl, ?_⟩
          intro view hview
          exact Or.inr (Option.some.inj hview).symm
        · cases h
        · exact ⟨panel, h, rfl, fun view hview => Or.inl hview⟩
      · exact ⟨panel, h, rfl, fun view hview => Or.inl hview⟩
  · exact ⟨panel, h, rfl, fun view hview => Or.inl hview⟩

theorem Labelled.settled (h : panels.Labelled) {index : ℕ} {task : Task PanelEdit EditOutcome}
    (hfound : panels.edits.tasks[index]? = some task) (how : Joined EditOutcome) :
    (({ panels with edits := ⟨panels.edits.tasks.eraseIdx index⟩ } : Panels).settled task.tag
      how).Labelled := by
  have hmem := List.mem_of_getElem? hfound
  have hedits := GuildSession.Panels.edits_settled
    { panels with edits := ⟨panels.edits.tasks.eraseIdx index⟩ } task.tag how
  constructor
  · rw [hedits]
    exact (List.length_eraseIdx_le _ _).trans h.edits
  · intro panel hactive
    obtain ⟨before, hbefore, htoken, -⟩ := token_settled hactive
    rw [← htoken]
    exact h.token before hbefore
  · intro panel view hactive hview
    obtain ⟨before, hbefore, htoken, hlast⟩ := token_settled hactive
    rw [← htoken]
    rcases hlast view hview with hsame | rfl
    · exact h.shown before view hbefore hsame
    · exact h.sent task hmem before hbefore
  · intro other hother panel hactive
    obtain ⟨before, hbefore, htoken, -⟩ := token_settled hactive
    rw [hedits] at hother
    rw [← htoken]
    exact h.sent other (List.mem_of_mem_eraseIdx hother) before hbefore

end Panels

namespace GuildSession

variable {before after : GuildSession}

/-- Withdrawing a message relabels nothing. -/
theorem Withdraw.labelled (h : Withdraw before after) (hbefore : before.panels.Labelled) :
    after.panels.Labelled := by
  cases h with
  | still h => exact h.panels ▸ hbefore
  | forget _ panels _ => exact panels ▸ hbefore
  | drain panels _ =>
      rw [panels]
      exact ⟨Nat.zero_le 1, hbefore.token, hbefore.shown, fun _ htask => by cases htask⟩
  | discard panel left idle active room panels _ =>
      rw [panels]
      exact Panels.labelled_of_none hbefore.edits rfl

theorem Withdraws.labelled (h : Withdraws before after) (hbefore : before.panels.Labelled) :
    after.panels.Labelled := by
  induction h with
  | refl => exact hbefore
  | tail _ act ih => exact act.labelled ih

variable (self : GuildSession)

theorem carries_player (parseUrl : String → Option Url) (queue : Queue) (token : String)
    (paused : Bool) (volume position : ℕ) :
    Carries token (Views.player parseUrl queue token paused volume position) := by
  intro button hbutton
  cases hcurrent : queue.current with
  | none =>
      rw [player_of_none hcurrent] at hbutton
      cases hbutton
  | some track =>
      have hid : button.customId ∈ actions.map (playerId token) := by
        rw [← @player_ids track position parseUrl queue token paused volume hcurrent]
        exact List.mem_map_of_mem hbutton
      obtain ⟨action, haction, heq⟩ := List.mem_map.mp hid
      exact ⟨action, haction, heq.symm⟩

/-- The player is shown under the token of the player message. -/
theorem carries_playerView {panel : Panel} (hpanel : self.panel = some panel) :
    Carries panel.token self.playerView := by
  rw [playerView, hpanel]
  exact carries_player _ _ _ _ _ _

theorem labelled_flushRefresh (h : self.panels.Labelled) : self.flushRefresh.panels.Labelled := by
  rcases self.flushRefresh_spec with ⟨-, hsame⟩ | ⟨index, task, how, hfound, hpanels, -⟩
  · rw [hsame]
    exact h
  · rw [hpanels]
    exact h.settled hfound how

theorem labelled_refresh (h : self.panels.Labelled) : self.refresh.panels.Labelled := by
  rw [refresh]
  split
  · exact self.withdraws_removePanel.labelled h
  · split
    · exact h
    · rename_i hguard
      have hidle : self.panelEdits = .new := by
        rw [← JoinSet.isEmpty_iff]
        simp only [Bool.or_eq_true, not_or] at hguard
        simpa using hguard.1
      split
      · exact h
      · rename_i panel hpanel
        have hspawned (check : Bool) : Panels.Labelled { self.panels with
            edits := self.panelEdits.spawn
              ⟨panel.channel, panel.message, self.playerView, check⟩ } := by
          refine ⟨?_, h.token, h.shown, ?_⟩
          · simp [hidle, JoinSet.new, JoinSet.len]
          · intro task htask other hother
            obtain rfl : other = panel := Option.some.inj (hother.symm.trans hpanel)
            rw [hidle] at htask
            rw [List.mem_singleton.mp htask]
            exact self.carries_playerView hpanel
        dsimp only
        split
        · split
          · exact hspawned true
          · exact h
        · exact hspawned false

/-- A reply is shown under a token of its own, while no edit is under way. -/
theorem labelled_adoptPanel {message : MessageRef} {token : String} {view : View}
    (h : self.panels.Labelled) (hidle : self.panelEdits = .new) (htoken : ':' ∉ token.toList)
    (hcarries : Carries token view) : (self.adoptPanel message token view).panels.Labelled := by
  have hadopted (deletions : JoinSet Panel Unit) (log : List PanelEvent) : Panels.Labelled {
      panel := some ⟨message.channelId, message.id, token, some view⟩
      edits := self.panelEdits, deletions := deletions, log := log } := by
    refine ⟨h.edits, ?_, ?_, ?_⟩
    · intro panel hpanel
      rw [← Option.some.inj hpanel]
      exact htoken
    · intro panel shown hpanel hshown
      obtain rfl := Option.some.inj hpanel
      obtain rfl := Option.some.inj hshown
      exact hcarries
    · intro task htask
      rw [hidle] at htask
      cases htask
  rw [adoptPanel]
  split
  · split
    · obtain ⟨left, -, hpanels, -⟩ := deletePanel_spec _ _
      rw [hpanels]
      exact hadopted _ _
    · exact hadopted _ _
  · exact hadopted _ _

theorem labelled_replyPlayer (request : Request) (content : Option String)
    (h : self.panels.Labelled) (hidle : self.panelEdits = .new) :
    (self.replyPlayer request content).panels.Labelled := by
  rw [replyPlayer]
  dsimp only
  split
  · have hnoted (message : MessageRef) (view : View) : (({ self with
        shared := (self.shared.randomToken.2.respond request view).2 } : GuildSession).note
          (.acknowledged message view)).panels.Labelled :=
      ⟨h.edits, h.token, h.shown, h.sent⟩
    split
    · exact labelled_adoptPanel _ (hnoted _ _) hidle (colon_notMem_hex16 _)
        (carries_player _ _ _ _ _ _)
    · exact hnoted _ _
  · exact h

theorem labelled_presentPlayer (request : Request) (content : Option String)
    (h : self.panels.Labelled) : (self.presentPlayer request content).panels.Labelled := by
  have hfirst : (if self.queue.current.isNone then self.removePanel else
      self).panels.Labelled := by
    split
    · exact self.withdraws_removePanel.labelled h
    · exact h
  exact labelled_replyPlayer _ _ _ (labelled_flushRefresh _ hfirst)
    (flushRefresh_edits _ hfirst.edits)

/-- Confirming a control shows the player on the player message, or nothing new. -/
theorem panels_confirmEdit (request : Request) : ∃ log,
    (self.confirmEdit request).panels = { self.panels with log := log } ∨
      ∃ panel, self.panel = some panel ∧ (self.confirmEdit request).panels =
        { self.panels with
          panel := some { panel with lastView := some self.playerView }, log := log } := by
  have hcontrol : ∃ log, (self.noteControl request).panels = { self.panels with log := log } := by
    rw [noteControl]
    split
    · exact ⟨_, rfl⟩
    · exact ⟨_, rfl⟩
  have hcontrolled (session : GuildSession) (view : View) (delivered : Bool) : ∃ log,
      (session.noteControlled request view delivered).panels =
        { session.panels with log := log } := by
    rw [noteControlled.eq_def]
    split
    · exact ⟨_, rfl⟩
    · exact ⟨_, rfl⟩
  obtain ⟨first, hfirst⟩ := hcontrol
  obtain ⟨log, hlog⟩ := hcontrolled { self.noteControl request with
    shared := ((self.noteControl request).shared.respondNoModel request self.playerView).2 }
    self.playerView ((self.noteControl request).shared.respondNoModel request self.playerView).1
  have hsame := hlog.trans (congrArg (fun panels : Panels => { panels with log := log }) hfirst)
  refine ⟨log, ?_⟩
  rw [confirmEdit]
  dsimp only
  split
  · rename_i panel _ hpanel
    have hactive : self.panel = some panel := (congrArg Panels.panel hsame).symm.trans hpanel
    have hshown : ({ ((({ self.noteControl request with
        shared := ((self.noteControl request).shared.respondNoModel request
          self.playerView).2 } : GuildSession).noteControlled request self.playerView
            ((self.noteControl request).shared.respondNoModel request self.playerView).1).panels)
        with panel := some { panel with lastView := some self.playerView } } : Panels) =
        { self.panels with
          panel := some { panel with lastView := some self.playerView }, log := log } := by
      rw [hsame]
    refine Or.inr ⟨panel, hactive, ?_⟩
    split <;> exact hshown
  · exact Or.inl hsame

theorem labelled_confirmEdit (request : Request) (h : self.panels.Labelled) :
    (self.confirmEdit request).panels.Labelled := by
  obtain ⟨log, hsame | ⟨panel, hpanel, hshown⟩⟩ := self.panels_confirmEdit request
  · rw [hsame]
    exact ⟨h.edits, h.token, h.shown, h.sent⟩
  · rw [hshown]
    refine ⟨h.edits, ?_, ?_, ?_⟩
    · intro other hother
      rw [← Option.some.inj hother]
      exact h.token panel hpanel
    · intro other view hother hview
      have hcarries := self.carries_playerView hpanel
      obtain rfl := Option.some.inj hother
      rw [← Option.some.inj hview]
      exact hcarries
    · intro task htask other hother
      rw [← Option.some.inj hother]
      exact h.sent task htask panel hpanel

/-! ## Handlers -/

theorem labelled_confirm (request : Request) (text : String) (h : self.panels.Labelled) :
    (self.confirm request text).panels.Labelled := by
  have hflushed := self.labelled_flushRefresh h
  rw [confirm]
  split
  · dsimp only
    split
    · exact labelled_confirmEdit _ request hflushed
    · exact (withdraws_removePanel _).labelled hflushed
  · exact h

theorem labelled_dispatch (request : Request) (h : self.panels.Labelled) :
    (self.dispatch request).panels.Labelled := by
  have hcontrol := (self.withdraws_control request).labelled h
  rw [dispatch.eq_def]
  split
  · exact (self.still_preparePlay request).panels ▸ h
  · exact self.labelled_presentPlayer request none h
  · exact (self.still_queueView 0).panels ▸ h
  · exact h
  · exact h
  · exact h
  · rw [answerControl]
    apply labelled_refresh
    split
    · exact labelled_confirm _ request _ hcontrol
    · exact hcontrol

theorem labelled_interaction (request : Request) (h : self.panels.Labelled) :
    (self.interaction request).panels.Labelled := by
  rw [interaction]
  split
  · exact h
  · split
    · exact self.labelled_dispatch request h
    · rename_i customId _
      have hcomponent : (self.component request customId).2.panels.Labelled :=
        (self.still_component request customId).panels ▸ h
      dsimp only
      split
      · exact hcomponent
      · exact labelled_dispatch _ _ hcomponent

theorem labelled_enqueueResolved (pending : Pending) (resolution : Resolution)
    (h : self.panels.Labelled) : (self.enqueueResolved pending resolution).panels.Labelled := by
  rw [enqueueResolved]
  dsimp only
  split
  · exact h
  · split
    · exact h
    · split
      · rw [replyStarted]
        have hstarted (session : GuildSession) (hsession : session.panels.Labelled) :
            session.startCurrent.2.panels.Labelled := session.still_startCurrent.panels ▸ hsession
        dsimp only
        split
        · exact hstarted _ h
        · exact labelled_presentPlayer _ _ _ (hstarted _ h)
      · exact labelled_presentPlayer _ _ _ h

theorem labelled_commitJoined (pending : Pending) (resolution : Resolution)
    (h : self.panels.Labelled) : (self.commitJoined pending resolution).panels.Labelled := by
  rw [commitJoined]
  split
  · exact h
  · exact self.labelled_enqueueResolved pending resolution h

theorem labelled_commit (pending : Pending) (resolution : Except Failure Resolution)
    (h : self.panels.Labelled) : (self.commit pending resolution).panels.Labelled := by
  unfold commit
  dsimp only
  split
  · exact h
  · split
    · exact h
    · split
      · exact h
      · split
        · exact h
        · split
          · exact h
          · split
            · have hjoined : ((self.mark (.joined pending.admission)).join
                  pending.channel).2.panels.Labelled := by
                rw [(still_join _ _).panels]
                exact h
              split
              · exact labelled_commitJoined _ _ _ hjoined
              · exact (withdraws_cleanup _ none).labelled hjoined
            · exact self.labelled_commitJoined _ _ h

theorem labelled_joinLoader (index : ℕ) (h : self.panels.Labelled) :
    (self.joinLoader index).panels.Labelled := by
  rw [joinLoader]
  dsimp only
  split
  · exact h
  · exact labelled_commit _ _ _ h
  · exact h

theorem labelled_backend (payload : Value) (h : self.panels.Labelled) :
    (self.backend payload).panels.Labelled := by
  have hfinished : self.trackFinished.panels.Labelled := self.still_trackFinished.panels ▸ h
  have hfailed : self.trackFailure.panels.Labelled := self.still_trackFailure.panels ▸ h
  rw [backend]
  split
  · exact h
  · split
    · exact (self.still_observeProgress payload).panels ▸ h
    · split
      · exact (self.withdraws_cleanup _).labelled h
      · split
        · exact h
        · split
          · exact h
          · split
            · split
              · exact h
              · exact labelled_refresh _ h
            · split
              · exact labelled_refresh _ hfinished
              · split
                · exact labelled_refresh _ hfailed
                · exact h
            · exact labelled_refresh _ hfailed
            · exact labelled_refresh _ hfailed
            · exact h

theorem labelled_tick (h : self.panels.Labelled) : self.tick.panels.Labelled := by
  have hvoice := self.withdraws_voiceChanged.labelled h
  unfold tick
  dsimp only
  split
  · exact (withdraws_cleanup _ _).labelled hvoice
  · split
    · exact (withdraws_cleanup _ _).labelled hvoice
    · apply labelled_refresh
      rw [(still_checkPlayback _).panels]
      exact hvoice

theorem labelled_handle {arm : Arm} (h : self.handle arm = some after)
    (hself : self.panels.Labelled) : after.panels.Labelled := by
  cases arm with
  | interaction request acknowledged =>
      cases h
      split
      · exact labelled_interaction _ request hself
      · exact hself
  | backend payload =>
      cases h
      exact self.labelled_backend payload hself
  | ending index =>
      simp only [handle] at h
      split at h
      · cases h
      · cases h
        exact labelled_backend _ _ hself
  | voiceChanged =>
      cases h
      exact self.withdraws_voiceChanged.labelled hself
  | invalidated =>
      cases h
      exact (self.withdraws_cleanup _).labelled hself
  | connected =>
      cases h
      exact self.withdraws_onConnected.labelled hself
  | joinLoader index =>
      simp only [handle] at h
      split at h
      · cases h
        exact self.labelled_joinLoader index hself
      · cases h
  | joinResponse index =>
      simp only [handle] at h
      split at h
      · cases h
      · cases h
        exact hself
  | joinPreparation index =>
      rw [joinPreparation_panels _ h]
      exact hself
  | joinDeletion index =>
      simp only [handle] at h
      split at h
      · cases h
      · cases h
        exact ⟨hself.edits, hself.token, hself.shown, hself.sent⟩
  | joinEdit index =>
      simp only [handle] at h
      split at h
      · cases h
      · rename_i task how left hjoin
        cases h
        obtain ⟨hfound, -, hleft⟩ := JoinSet.joinNext_some hjoin
        apply labelled_refresh
        rw [(finishRefresh_panels _ task.tag how).1, hleft]
        exact hself.settled hfound how
  | tick =>
      cases h
      exact self.labelled_tick hself

theorem labelled_outside (move : Outside) (h : self.panels.Labelled) :
    (self.outside move).panels.Labelled := by
  cases move with
  | endEdit index how =>
      refine ⟨?_, h.token, h.shown, ?_⟩
      · exact (outside_edits self (.endEdit index how)).trans_le h.edits
      · intro task htask
        obtain ⟨old, hold, htag⟩ := JoinSet.mem_finish htask
        rw [← htag]
        exact h.sent old hold
  | endDeletion index how => exact ⟨h.edits, h.token, h.shown, h.sent⟩
  | _ => exact h

theorem labelled_followUp (h : self.panels.Labelled) : self.followUp.panels.Labelled := by
  have hnext : self.startLoad.prepareNext.panels = self.panels := prepareNext_panels _
  rw [(still_followUp self).panels, hnext]
  exact h

end GuildSession

/-! ## Runs -/

namespace GuildSession

/-- A button of the player message can be pressed: the session takes it for a request to
do what the button stands for. -/
def Works (self : GuildSession) (panel : Panel) (button : Button) : Prop :=
  ∃ action ∈ actions, button.customId = playerId panel.token action ∧
    ∀ (request : Request) (message : MessageRef),
      request.interaction.message = some message → message.id = panel.message →
        self.component request button.customId = (some (self.buttonRequest request action), self)

theorem works_of_carries {self : GuildSession} {panel : Panel} {view : View}
    (hcurrent : self.queue.current.isSome) (hpanel : self.panel = some panel)
    (htoken : ':' ∉ panel.token.toList) (h : Carries panel.token view) :
    ∀ button ∈ view.components.flatten, self.Works panel button := by
  intro button hbutton
  obtain ⟨action, haction, hid⟩ := h button hbutton
  refine ⟨action, haction, hid, ?_⟩
  intro request message hmessage hsame
  have hparts := splitColon_playerId htoken haction
  have hvalid : self.validComponent request ["raydio", "player", panel.token, action] = true := by
    simp [validComponent, hcurrent, hpanel, hmessage, hsame]
  have hkind : ¬["raydio", "player", panel.token, action].getD 1 "" = "queue" := by
    show ¬"player" = "queue"
    decide
  rw [hid, component, hparts]
  simp only [hvalid, Bool.not_true, Bool.false_eq_true, if_false]
  rw [if_neg hkind]
  rfl

end GuildSession

/-- In every run of a session, whatever Discord answers and however edits of the player
message cross with new ones: every button that the player message shows, as far as Discord
has acknowledged, works while a track is played. -/
theorem Worker.run_buttons (id : ℕ) (shared : Shared) (inputs : List Input) :
    ((Worker.start id shared).run inputs).Holds (fun session =>
      ∀ panel view, session.panel = some panel → panel.lastView = some view →
        session.queue.current.isSome →
          ∀ button ∈ view.components.flatten, session.Works panel button) (fun _ => True) := by
  have hnew : (GuildSession.new id shared).panels.Labelled :=
    Panels.labelled_of_none (Nat.zero_le 1) rfl
  have hrun : ((Worker.start id shared).run inputs).Holds
      (fun session => session.panels.Labelled) (fun _ => True) := by
    refine Worker.run_steps _ _ ?_ _ inputs (Worker.along_true _ inputs) hnew
    intro session input _ hsession
    cases input with
    | outside move => exact session.labelled_outside move hsession
    | close script random cut => trivial
    | turn arm script random cut =>
        have hprepared : (session.prepare script random).panels.Labelled := hsession
        cases hhandled : (session.prepare script random).handle arm with
        | none =>
            simp only [Worker.step, hhandled]
            exact hsession
        | some handled =>
            have hfollow := handled.labelled_followUp
              (GuildSession.labelled_handle _ hhandled hprepared)
            simp only [Worker.step, hhandled]
            split
            · trivial
            · exact hfollow
  cases hworker : (Worker.start id shared).run inputs with
  | ended session => trivial
  | running session =>
      rw [hworker] at hrun
      have hlabelled : session.panels.Labelled := hrun
      intro panel view hpanel hview hcurrent
      exact GuildSession.works_of_carries hcurrent hpanel (hlabelled.token panel hpanel)
        (hlabelled.shown panel view hpanel hview)

end Raydio.Session
