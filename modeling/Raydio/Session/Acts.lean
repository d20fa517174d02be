/-
# Acts on the player message

What a session can do to the player message, to its edits and deletions, and to the
preparation of the next track: a few kinds of act, each with the condition under which
it happens. Most operations leave all of it alone, and a cleanup withdraws the message
and forgets the preparations.
-/

import Raydio.Session.Refinement

namespace Raydio.Session

open Raydio.Foundation Raydio.Playback Raydio.Voice Raydio.Views Raydio.Discord Raydio.Resolver

/-- The player message of a session with its edits and deletions. -/
structure Panels where
  panel : Option Panel
  edits : JoinSet PanelEdit EditOutcome
  deletions : JoinSet Panel Unit
  log : List PanelEvent

def Messages.panels (self : Messages) : Panels :=
  ⟨self.panel, self.panelEdits, self.panelDeletions, self.panelLog⟩

namespace Panels

/-- What the outcome of an edit that was acknowledged adds to the history. -/
def noted (self : Panels) (edit : PanelEdit) (outcome : EditOutcome) : Panels :=
  if outcome = .delivered ∧ !edit.check then
    { self with log := self.log ++ [.acknowledged edit.ref edit.view] }
  else self

/-- An edit came out in some way. -/
def settled (self : Panels) (edit : PanelEdit) : Joined EditOutcome → Panels
  | .finished outcome =>
      let self := self.noted edit outcome
      match self.panel with
      | none => self
      | some panel =>
          if panel.channel = edit.channel ∧ panel.message = edit.message then
            match outcome with
            | .stale => { self with panel := some { panel with lastView := none } }
            | .delivered => { self with panel := some { panel with lastView := some edit.view } }
            | .terminalFailure =>
                { self with panel := none, log := self.log ++ [.dropped panel.ref] }
            | .transientFailure => self
          else self
  | _ => self

/-- The player message is withdrawn, and its deletion scheduled behind others. -/
def discarded (self : Panels) (panel : Panel) (left : JoinSet Panel Unit) : Panels :=
  { self with
    panel := none, deletions := left.spawn panel
    log := self.log ++ [.retired panel.ref, .scheduled panel.ref] }

end Panels

/-- A cleanup forgets what was prepared, and what was asked for. -/
def Preparation.forgotten (self : Preparation) (retry : ℕ) : Preparation :=
  { self with
    preparations := .new, preparationTarget := none, preparationRetry := retry
    intents := self.intents ++ [.cleaned] }

namespace GuildSession

/-- Neither the player message nor the preparations changed. -/
structure Still (before after : GuildSession) : Prop where
  panels : after.panels = before.panels
  preparation : after.toPreparation = before.toPreparation

/-- An act that edits no message and adopts none. -/
inductive Withdraw (before after : GuildSession) : Prop
  | still (h : Still before after)
  | forget (retry : ℕ) (panels : after.panels = before.panels)
      (preparation : after.toPreparation = before.toPreparation.forgotten retry)
  | drain (panels : after.panels = { before.panels with edits := .new })
      (preparation : after.toPreparation = before.toPreparation)
  | discard (panel : Panel) (left : JoinSet Panel Unit) (idle : before.panelEdits = .new)
      (active : before.panel = some panel) (room : left.len ≤ 15)
      (panels : after.panels = before.panels.discarded panel left)
      (preparation : after.toPreparation = before.toPreparation)

/-- An act on the player message or the preparations. -/
inductive Act (before after : GuildSession) : Prop
  | withdraw (h : Withdraw before after)
  /-- An edit is joined. -/
  | settle (index : ℕ) (task : Task PanelEdit EditOutcome) (how : Joined EditOutcome)
      (found : before.panelEdits.tasks[index]? = some task)
      (panels : after.panels = ({ before.panels with
        edits := ⟨before.panelEdits.tasks.eraseIdx index⟩ } : Panels).settled task.tag how)
      (preparation : after.toPreparation = before.toPreparation)
  /-- An edit or a check of the player message is spawned. -/
  | spawn (panel : Panel) (view : View) (check : Bool) (idle : before.panelEdits = .new)
      (active : before.panel = some panel) (shown : check = true → panel.lastView = some view)
      (panels : after.panels = { before.panels with
        edits := before.panelEdits.spawn ⟨panel.channel, panel.message, view, check⟩ })
      (preparation : after.toPreparation = before.toPreparation)
  | acknowledge (message : MessageRef) (view : View)
      (panels : after.panels = { before.panels with
        log := before.panelLog ++ [.acknowledged message view] })
      (preparation : after.toPreparation = before.toPreparation)
  /-- The message of a reply is shown again under a new token. -/
  | renew (panel : Panel) (token : String) (view : View) (active : before.panel = some panel)
      (acknowledged : .acknowledged panel.ref view ∈ before.panelLog)
      (panels : after.panels = { before.panels with
        panel := some ⟨panel.channel, panel.message, token, some view⟩ })
      (preparation : after.toPreparation = before.toPreparation)
  | adopt (message : MessageRef) (token : String) (view : View) (idle : before.panelEdits = .new)
      (vacant : before.panel = none) (acknowledged : .acknowledged message view ∈ before.panelLog)
      (panels : after.panels = { before.panels with
        panel := some ⟨message.channelId, message.id, token, some view⟩
        log := before.panelLog ++ [.adopted message] })
      (preparation : after.toPreparation = before.toPreparation)
  | replace (previous : Panel) (left : JoinSet Panel Unit) (message : MessageRef) (token : String)
      (view : View) (idle : before.panelEdits = .new) (active : before.panel = some previous)
      (other : previous.ref ≠ message) (room : left.len ≤ 15)
      (acknowledged : .acknowledged message view ∈ before.panelLog)
      (panels : after.panels = { before.panels with
        panel := some ⟨message.channelId, message.id, token, some view⟩
        deletions := left.spawn previous
        log := before.panelLog ++
          [.adopted message, .retired previous.ref, .scheduled previous.ref] })
      (preparation : after.toPreparation = before.toPreparation)
  /-- A control sends its edit. -/
  | control (message : MessageRef) (idle : before.panelEdits = .new)
      (panels : after.panels = { before.panels with
        log := before.panelLog ++ [.controlled message 0] })
      (preparation : after.toPreparation = before.toPreparation)
  /-- A control had its edit acknowledged. -/
  | confirm (panel : Panel) (message : MessageRef) (view : View)
      (active : before.panel = some panel)
      (same : message.id = panel.message)
      (acknowledged : .acknowledged message view ∈ before.panelLog)
      (panels : after.panels = { before.panels with
        panel := some { panel with lastView := some view } })
      (preparation : after.toPreparation = before.toPreparation)
  /-- Deletions come to their end. -/
  | thin (left : JoinSet Panel Unit) (le : left.len ≤ before.panelDeletions.len)
      (panels : after.panels = { before.panels with deletions := left })
      (preparation : after.toPreparation = before.toPreparation)

/-- A sequence of acts that withdraw at most. -/
def Withdraws (first last : GuildSession) : Prop := Relation.ReflTransGen Withdraw first last

/-- A sequence of acts, unless several edits were under way to begin with. -/
def Acts (first last : GuildSession) : Prop :=
  first.panelEdits.len ≤ 1 → Relation.ReflTransGen Act first last

variable {first second third : GuildSession} (self : GuildSession)

/-! ## Sequences -/

theorem Still.refl : Still self self := ⟨rfl, rfl⟩

theorem Still.trans (h : Still first second) (h' : Still second third) : Still first third :=
  ⟨h'.panels.trans h.panels, h'.preparation.trans h.preparation⟩

/-- The same, from the last operation backwards. -/
theorem Still.after (h' : Still second third) (h : Still first second) : Still first third :=
  h.trans h'

theorem Withdraws.refl : Withdraws self self := Relation.ReflTransGen.refl

theorem Withdraws.single (h : Withdraw first second) : Withdraws first second :=
  Relation.ReflTransGen.single h

theorem Withdraws.still (h : Still first second) : Withdraws first second := .single (.still h)

theorem Withdraws.trans (h : Withdraws first second) (h' : Withdraws second third) :
    Withdraws first third :=
  Relation.ReflTransGen.trans h h'

theorem Withdraws.after (h' : Withdraws second third) (h : Withdraws first second) :
    Withdraws first third :=
  h.trans h'

theorem Withdraws.then_still (h : Withdraws first second) (h' : Still second third) :
    Withdraws first third :=
  h.trans (.still h')

/-- One edit at a time. -/
theorem Act.edits_le (h : Act first second) (hle : first.panelEdits.len ≤ 1) :
    second.panelEdits.len ≤ 1 := by
  have hsame {panels : Panels} (heq : second.panels = panels) (hpanels : panels.edits.len ≤ 1) :
      second.panelEdits.len ≤ 1 := by
    have hedits : second.panelEdits = panels.edits := congrArg Panels.edits heq
    rw [hedits]
    exact hpanels
  cases h with
  | withdraw h =>
      cases h with
      | still h => exact hsame h.panels hle
      | forget _ panels _ => exact hsame panels hle
      | drain panels _ => exact hsame panels (Nat.zero_le 1)
      | discard _ _ _ _ _ panels _ => exact hsame panels hle
  | settle index task how found panels _ =>
      apply hsame panels
      have hedits : ({ first.panels with
          edits := ⟨first.panelEdits.tasks.eraseIdx index⟩ } : Panels).edits.len ≤ 1 :=
        (List.length_eraseIdx_le _ _).trans hle
      generalize ({ first.panels with
        edits := ⟨first.panelEdits.tasks.eraseIdx index⟩ } : Panels) = left at hedits ⊢
      unfold Panels.settled
      have hnoted (outcome : EditOutcome) : (left.noted task.tag outcome).edits = left.edits := by
        rw [Panels.noted]
        split <;> rfl
      split
      · dsimp only
        split
        · rw [hnoted]
          exact hedits
        · split
          · split <;> exact (hnoted _).symm ▸ hedits
          · rw [hnoted]
            exact hedits
      · exact hedits
  | spawn panel view check idle _ _ panels _ =>
      apply hsame panels
      simp [idle, JoinSet.new, JoinSet.len]
  | acknowledge _ _ panels _ => exact hsame panels hle
  | renew _ _ _ _ _ panels _ => exact hsame panels hle
  | adopt _ _ _ _ _ _ panels _ => exact hsame panels hle
  | replace _ _ _ _ _ _ _ _ _ _ panels _ => exact hsame panels hle
  | control _ _ panels _ => exact hsame panels hle
  | confirm _ _ _ _ _ _ panels _ => exact hsame panels hle
  | thin _ _ panels _ => exact hsame panels hle

theorem edits_le_of_acts (h : Relation.ReflTransGen Act first second)
    (hle : first.panelEdits.len ≤ 1) : second.panelEdits.len ≤ 1 := by
  induction h with
  | refl => exact hle
  | tail _ act ih => exact act.edits_le ih

theorem Acts.refl : Acts self self := fun _ => Relation.ReflTransGen.refl

theorem Acts.single (h : Act first second) : Acts first second :=
  fun _ => Relation.ReflTransGen.single h

theorem Acts.trans (h : Acts first second) (h' : Acts second third) : Acts first third :=
  fun hle => Relation.ReflTransGen.trans (h hle) (h' (edits_le_of_acts (h hle) hle))

/-- A sequence of acts, from the last part backwards. -/
theorem Acts.after (h' : Acts second third) (h : Acts first second) : Acts first third := h.trans h'

theorem Withdraws.acts (h : Withdraws first second) : Acts first second :=
  fun _ => Relation.ReflTransGen.mono (fun _ _ => Act.withdraw) _ _ h

theorem Acts.still (h : Still first second) : Acts first second := (Withdraws.still h).acts

theorem Acts.then_still (h : Acts first second) (h' : Still second third) : Acts first third :=
  h.trans (.still h')

/-! ## What leaves the player message alone -/

theorem still_respond (request : Request) (view : View) : Still self (self.respond request view) :=
  ⟨rfl, rfl⟩

theorem still_notify (text : String) : Still self (self.notify text) := by
  rw [notify]
  split
  · exact ⟨rfl, rfl⟩
  · exact Still.refl self

theorem still_queueView (page : ℕ) : Still self (self.queueView page).2 := by
  rw [queueView]
  dsimp only
  split
  · exact ⟨rfl, rfl⟩
  · exact Still.refl self

theorem still_failOver : Still self self.failOver := by
  rw [failOver]
  dsimp only
  split
  · exact (still_notify _ _).after ⟨rfl, rfl⟩
  · exact ⟨rfl, rfl⟩

theorem still_startCurrent : Still self self.startCurrent.2 := by
  apply startCurrent_keeps self (fun session => Still self session)
  · intro session h
    exact h.trans ⟨rfl, rfl⟩
  · intro session at' h
    exact h.trans ⟨rfl, rfl⟩
  · intro session h
    exact h.trans session.still_failOver
  · exact Still.refl self

theorem still_trackFailure : Still self self.trackFailure :=
  self.still_failOver.trans (still_startCurrent _)

theorem still_trackFinished : Still self self.trackFinished :=
  (still_startCurrent _).after ⟨rfl, rfl⟩

theorem still_observeProgress (payload : Value) : Still self (self.observeProgress payload) := by
  rw [observeProgress]
  split
  · exact Still.refl self
  · split
    · exact Still.refl self
    · dsimp only
      split <;> exact ⟨rfl, rfl⟩

theorem still_recoverUnverifiableStall : Still self self.recoverUnverifiableStall := by
  rw [recoverUnverifiableStall]
  split
  · exact (still_trackFailure _).after ⟨rfl, rfl⟩
  · exact Still.refl self

theorem still_recover (finished : Bool) : Still self (self.recover finished) := by
  rw [recover]
  dsimp only
  split
  · exact (still_trackFinished _).after ⟨rfl, rfl⟩
  · exact (still_trackFailure _).after ⟨rfl, rfl⟩

theorem still_recoverPlayback (player : Value) : Still self (self.recoverPlayback player) := by
  rw [recoverPlayback]
  split
  · have hobserved := self.still_observeProgress player
    dsimp only
    split
    · exact hobserved.trans ⟨rfl, rfl⟩
    · exact hobserved.trans (still_recover _ _)
  · split
    · exact self.still_recover _
    · exact (still_recoverUnverifiableStall _).after ⟨rfl, rfl⟩

theorem still_checkPlayback : Still self self.checkPlayback := by
  rw [checkPlayback]
  split
  · exact Still.refl self
  · dsimp only
    split
    · exact Still.refl self
    · split
      · exact (still_recoverUnverifiableStall _).after ⟨rfl, rfl⟩
      · exact (still_recoverPlayback _ _).after ⟨rfl, rfl⟩

theorem still_join (channel : ℕ) : Still self (self.join channel).2 := by
  rw [join]
  dsimp only
  split
  · exact ⟨rfl, rfl⟩
  · split
    · exact ⟨rfl, rfl⟩
    · split <;> exact ⟨rfl, rfl⟩

theorem still_preparePlay (request : Request) : Still self (self.preparePlay request) := by
  rw [preparePlay]
  split
  · exact ⟨rfl, rfl⟩
  · split
    · exact ⟨rfl, rfl⟩
    · split
      · exact ⟨rfl, rfl⟩
      · dsimp only
        split
        · exact ⟨rfl, rfl⟩
        · split
          · exact ⟨rfl, rfl⟩
          · split <;> exact ⟨rfl, rfl⟩

theorem still_transport (verb : String) : Still self (self.transport verb).2 := by
  rw [transport]
  split <;> exact self.still_startCurrent

theorem still_setPaused (paused : Bool) : Still self (self.setPaused paused).2 := by
  rw [setPaused]
  split
  · exact Still.refl self
  · split
    · exact Still.refl self
    · dsimp only
      split <;> exact ⟨rfl, rfl⟩

theorem still_setVolume (level : String) : Still self (self.setVolume level).2 := by
  rw [setVolume]
  split
  · exact Still.refl self
  · split
    · exact Still.refl self
    · dsimp only
      split <;> exact ⟨rfl, rfl⟩

theorem still_setLoopMode (mode : String) : Still self (self.setLoopMode mode).2 := by
  rw [setLoopMode]
  split
  · exact Still.refl self
  · exact ⟨rfl, rfl⟩

theorem still_previous : Still self self.previous.2 := by
  rw [previous]
  split
  · exact (still_transport _ _).after ⟨rfl, rfl⟩
  · exact ⟨rfl, rfl⟩
  · exact ⟨rfl, rfl⟩

theorem still_jump (position : ℕ) : Still self (self.jump position).2 := by
  rw [jump]
  split
  · exact (still_transport _ _).after ⟨rfl, rfl⟩
  · exact ⟨rfl, rfl⟩

theorem still_skip : Still self self.skip.2 := by
  rw [skip]
  split
  · exact Still.refl self
  · exact (still_transport _ _).after ⟨rfl, rfl⟩

theorem still_stop : Still self self.stop.2 := by
  rw [stop]
  dsimp only
  split
  · exact ⟨rfl, rfl⟩
  · split
    · have hstarted : Still self self.invalidate.halt.startCurrent.2 :=
        (still_startCurrent _).after ⟨rfl, rfl⟩
      split
      · exact hstarted
      · exact hstarted.trans ⟨rfl, rfl⟩
    · exact ⟨rfl, rfl⟩

/-! ## What withdraws the player message -/

theorem withdraws_forgetPreparations : Withdraws self self.forgetPreparations := by
  rw [forgetPreparations]
  dsimp only
  split
  · rename_i hempty
    have hnew : self.preparations = .new := JoinSet.isEmpty_iff.mp hempty
    refine .single (.forget self.now rfl ?_)
    rw [Preparation.forgotten, ← hnew]
  · exact .single (.forget _ rfl rfl)

/-- Waiting for deletions takes them out. -/
theorem awaitDeletions_spec (count : ℕ) :
    ∃ left : JoinSet Panel Unit, left.len = self.panelDeletions.len - count ∧
      (self.awaitDeletions count).panels = { self.panels with deletions := left } ∧
        (self.awaitDeletions count).toPreparation = self.toPreparation := by
  induction count generalizing self with
  | zero => exact ⟨self.panelDeletions, rfl, rfl, rfl⟩
  | succ count ih =>
      rw [awaitDeletions]
      dsimp only
      split
      · rename_i task how left hjoin
        obtain ⟨rest, hrest, hpanels, hpreparation⟩ :=
          ih { self.suspend.2 with panelDeletions := left }
        obtain ⟨index, hfound, hleft⟩ := JoinSet.joinAwaited_some hjoin
        have hlen : self.panelDeletions.len = left.len + 1 := by
          rw [hleft]
          exact JoinSet.len_eraseIdx hfound
        refine ⟨rest, ?_, hpanels, hpreparation⟩
        rw [hrest, hlen]
        exact (Nat.add_sub_add_right _ _ _).symm
      · rename_i hjoin
        obtain ⟨rest, hrest, hpanels, hpreparation⟩ := ih self.suspend.2
        have hnew : self.panelDeletions = .new := JoinSet.joinAwaited_none.mp hjoin
        have hlen : self.panelDeletions.len = 0 := JoinSet.len_eq_zero.mpr hnew
        refine ⟨rest, ?_, hpanels, hpreparation⟩
        have hzero : rest.len = self.panelDeletions.len - count := hrest
        rw [hzero, hlen, Nat.zero_sub, Nat.zero_sub]

/-- Retiring a message schedules its deletion behind at most fifteen others. -/
theorem deletePanel_spec (panel : Panel) :
    ∃ left : JoinSet Panel Unit, left.len ≤ 15 ∧
      (self.deletePanel panel).panels = { self.panels with
        deletions := left.spawn panel, log := self.panelLog ++ [.scheduled panel.ref] } ∧
        (self.deletePanel panel).toPreparation = self.toPreparation := by
  obtain ⟨left, hlen, hpanels, hpreparation⟩ :=
    self.awaitDeletions_spec (self.panelDeletions.len - 15)
  have hdeletions := congrArg Panels.deletions hpanels
  have hpanel := congrArg Panels.panel hpanels
  have hedits := congrArg Panels.edits hpanels
  have hlog := congrArg Panels.log hpanels
  refine ⟨left, by omega, ?_, hpreparation⟩
  simp only [Messages.panels] at hdeletions hpanel hedits hlog
  simp only [deletePanel, note, Messages.panels, hdeletions, hpanel, hedits, hlog]

/-- Draining the edits leaves none. -/
theorem retireEdits_spec :
    self.retireEdits.panels = { self.panels with edits := .new } ∧
      self.retireEdits.toPreparation = self.toPreparation := by
  rw [retireEdits]
  dsimp only
  split
  · rename_i hempty
    have hnew : self.panelEdits = .new := JoinSet.isEmpty_iff.mp hempty
    exact ⟨by rw [← hnew]; rfl, rfl⟩
  · exact ⟨rfl, rfl⟩

theorem withdraws_removePanel : Withdraws self self.removePanel := by
  obtain ⟨hpanels, hpreparation⟩ := self.retireEdits_spec
  have hdrained : Withdraws self self.retireEdits := .single (.drain hpanels hpreparation)
  rw [removePanel]
  split
  · rename_i panel hpanel
    obtain ⟨left, hroom, hdeleted, hkept⟩ :=
      (({ self.retireEdits with panel := none } : GuildSession).note
        (.retired panel.ref)).deletePanel_spec panel
    have hidle : self.retireEdits.panelEdits = .new := congrArg Panels.edits hpanels
    refine hdrained.trans (.single (.discard panel left hidle hpanel hroom ?_ hkept))
    rw [hdeleted, Panels.discarded]
    simp [Messages.panels, note]
  · exact hdrained

theorem withdraws_cleanup (notification : Option String) :
    Withdraws self (self.cleanup notification) := by
  have hforgotten : Withdraws self self.forgetPreparations.invalidate :=
    self.withdraws_forgetPreparations.then_still ⟨rfl, rfl⟩
  have hleft : Withdraws self self.forgetPreparations.invalidate.removePanel.reset.destroy :=
    (hforgotten.trans (withdraws_removePanel _)).then_still ⟨rfl, rfl⟩
  unfold cleanup
  dsimp only
  split
  · exact (hleft.then_still (still_notify _ _)).then_still ⟨rfl, rfl⟩
  · exact hleft.then_still ⟨rfl, rfl⟩

theorem withdraws_voiceChanged : Withdraws self self.voiceChanged := by
  rw [voiceChanged]
  split
  · exact Withdraws.refl self
  · split
    · exact self.withdraws_cleanup _
    · split
      · exact Withdraws.refl self
      · split
        · exact self.withdraws_cleanup _
        · split
          · exact .still ⟨rfl, rfl⟩
          · split
            · dsimp only
              split
              · exact .still ⟨rfl, rfl⟩
              · exact (withdraws_cleanup _ _).after (.still ⟨rfl, rfl⟩)
            · exact .still ⟨rfl, rfl⟩

theorem withdraws_onConnected : Withdraws self self.onConnected := by
  rw [onConnected]
  split
  · exact .still ⟨rfl, rfl⟩
  · split
    · exact .still self.still_startCurrent
    · exact self.withdraws_voiceChanged

theorem withdraws_perform (request : Request) : Withdraws self (self.perform request).2 := by
  unfold perform
  split
  · exact .still (self.still_setPaused _)
  · exact .still (self.still_setPaused _)
  · exact .still (self.still_setVolume _)
  · exact .still (self.still_setLoopMode _)
  · exact .still ⟨rfl, rfl⟩
  · exact .still ⟨rfl, rfl⟩
  · exact .still ⟨rfl, rfl⟩
  · exact .still ⟨rfl, rfl⟩
  · exact .still self.still_previous
  · exact .still (self.still_jump _)
  · exact .still self.still_skip
  · exact .still self.still_stop
  · exact self.withdraws_cleanup none

theorem withdraws_control (request : Request) : Withdraws self (self.control request).2 := by
  rw [control]
  split
  · exact Withdraws.refl self
  · split
    · exact Withdraws.refl self
    · split
      · exact Withdraws.refl self
      · split
        · exact Withdraws.refl self
        · exact self.withdraws_perform request

end GuildSession

end Raydio.Session
