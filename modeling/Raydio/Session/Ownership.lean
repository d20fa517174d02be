/-
# Who owns which message

A session owns one player message at most, and every message that stops being it is
retired exactly once. The invariant is one of the player message with its edits, its
deletions and its history alone, so that it is enough to look at the acts on them.

Discord is outside: that an id names one message, and that a command is answered with a
message that is not the answer to another one, is a condition on the history where it is
needed. The last cleanup of a worker is cut off by a deadline, and may then lose the one
deletion that still waits for room.
-/

import Raydio.Session.Upkeep

namespace Raydio.Session

open Raydio.Foundation Raydio.Playback Raydio.Voice Raydio.Views Raydio.Discord

/-- The message with the id was acknowledged to show the view. -/
def Known (log : List PanelEvent) (id : ℕ) (view : View) : Prop :=
  ∃ message : MessageRef, message.id = id ∧ .acknowledged message view ∈ log

theorem Known.append {log : List PanelEvent} {id : ℕ} {view : View} (h : Known log id view)
    (more : List PanelEvent) : Known (log ++ more) id view := by
  obtain ⟨message, hid, hmem⟩ := h
  exact ⟨message, hid, List.mem_append_left _ hmem⟩

/-- How often the message is the one, once or never. -/
def times (one : Option MessageRef) (message : MessageRef) : ℕ :=
  if one = some message then 1 else 0

/-- The message that an event is about. -/
def PanelEvent.message : PanelEvent → MessageRef
  | .acknowledged message _ => message
  | .adopted message => message
  | .retired message => message
  | .dropped message => message
  | .scheduled message => message
  | .controlled message _ => message

/-- An id names one message. -/
def Identified (log : List PanelEvent) : Prop :=
  ∀ event ∈ log, ∀ other ∈ log, event.message.id = other.message.id →
    event.message = other.message

/-- No message became the player message twice. -/
def Unrepeated (log : List PanelEvent) : Prop :=
  ∀ event ∈ log, log.count (.adopted event.message) ≤ 1

namespace Panels

/-- What the acts on the player message keep. A message may be lost, which was retired
without its deletion being scheduled. -/
structure Owned (panels : Panels) (lost : Option MessageRef) : Prop where
  edits : panels.edits.len ≤ 1
  deletions : panels.deletions.len ≤ 16
  alone : ∀ message outstanding,
    .controlled message outstanding ∈ panels.log → outstanding = 0
  mine : ∀ task ∈ panels.edits.tasks, panels.panel.map Panel.ref = some task.tag.ref
  /-- What is read back was acknowledged before. -/
  checked : ∀ task ∈ panels.edits.tasks, task.tag.check = true →
    Known panels.log task.tag.message task.tag.view
  shown : ∀ panel view, panels.panel = some panel → panel.lastView = some view →
    Known panels.log panel.message view
  balanced : ∀ message, panels.log.count (.adopted message) =
    panels.log.count (.retired message) + panels.log.count (.dropped message) +
      times (panels.panel.map Panel.ref) message
  scheduled : ∀ message, panels.log.count (.retired message) =
    panels.log.count (.scheduled message) + times lost message

variable {panels : Panels} {panel next : Panel} {lost : Option MessageRef}

/-- An acknowledgement or an edit of a control is noted down. -/
theorem Owned.note (h : panels.Owned lost) {event : PanelEvent}
    (hevent : (∃ message view, event = .acknowledged message view) ∨
      ∃ message, event = .controlled message 0) :
    ({ panels with log := panels.log ++ [event] } : Panels).Owned lost where
  edits := h.edits
  deletions := h.deletions
  alone := by
    intro message outstanding hmem
    rcases List.mem_append.mp hmem with hmem | hmem
    · exact h.alone message outstanding hmem
    · rw [List.mem_singleton] at hmem
      rcases hevent with ⟨_, _, rfl⟩ | ⟨_, rfl⟩ <;> cases hmem
      rfl
  mine := h.mine
  checked := by
    intro task hmem hcheck
    exact (h.checked task hmem hcheck).append _
  shown := by
    intro panel view hpanel hview
    exact (h.shown panel view hpanel hview).append _
  balanced := by
    intro message
    rcases hevent with ⟨_, _, rfl⟩ | ⟨_, rfl⟩ <;>
      simpa [List.count_append, List.count_singleton] using h.balanced message
  scheduled := by
    intro message
    rcases hevent with ⟨_, _, rfl⟩ | ⟨_, rfl⟩ <;>
      simpa [List.count_append, List.count_singleton] using h.scheduled message

theorem Owned.noted (h : panels.Owned lost) (edit : PanelEdit) (outcome : EditOutcome) :
    (panels.noted edit outcome).Owned lost := by
  unfold Panels.noted
  split
  · exact h.note (.inl ⟨_, _, rfl⟩)
  · exact h

/-- The player message stays the same, and shows what it was acknowledged to show. -/
theorem Owned.reshow (h : panels.Owned lost) (hpanel : panels.panel = some panel)
    (href : next.ref = panel.ref)
    (hshown : ∀ view, next.lastView = some view → Known panels.log next.message view) :
    ({ panels with panel := some next } : Panels).Owned lost where
  edits := h.edits
  deletions := h.deletions
  alone := h.alone
  mine := by
    intro task hmem
    have hmine := h.mine task hmem
    rw [hpanel] at hmine
    simpa [href] using hmine
  checked := h.checked
  shown := by
    intro other view hother hview
    cases hother
    exact hshown view hview
  balanced := by
    intro message
    have hbalanced := h.balanced message
    rw [hpanel] at hbalanced
    simpa [times, href] using hbalanced
  scheduled := h.scheduled

/-- While no edit is under way, the player message may become another one, or none. -/
theorem Owned.turn (h : panels.Owned lost) (hidle : panels.edits = .new) {next : Option Panel}
    {deletions : JoinSet Panel Unit} {more : List PanelEvent} {lost' : Option MessageRef}
    (hdeletions : deletions.len ≤ 16)
    (halone : ∀ message outstanding, .controlled message outstanding ∉ more)
    (hshown : ∀ panel view, next = some panel → panel.lastView = some view →
      Known panels.log panel.message view)
    (hbalanced : ∀ message,
      more.count (.adopted message) + times (panels.panel.map Panel.ref) message =
        more.count (.retired message) + more.count (.dropped message) +
          times (next.map Panel.ref) message)
    (hscheduled : ∀ message, more.count (.retired message) + times lost message =
      more.count (.scheduled message) + times lost' message) :
    ({ panels with panel := next, deletions := deletions, log := panels.log ++ more } :
      Panels).Owned lost' where
  edits := h.edits
  deletions := hdeletions
  alone := by
    intro message outstanding hmem
    rcases List.mem_append.mp hmem with hmem | hmem
    · exact h.alone message outstanding hmem
    · exact absurd hmem (halone message outstanding)
  mine := by
    intro task hmem
    simp [hidle, JoinSet.new] at hmem
  checked := by
    intro task hmem
    simp [hidle, JoinSet.new] at hmem
  shown := by
    intro panel view hpanel hview
    exact (hshown panel view hpanel hview).append _
  balanced := by
    intro message
    have hbefore := h.balanced message
    have hmore := hbalanced message
    simp only [List.count_append]
    omega
  scheduled := by
    intro message
    have hbefore := h.scheduled message
    have hmore := hscheduled message
    simp only [List.count_append]
    omega

/-- No edit is under way any more. -/
theorem Owned.drained (h : panels.Owned lost) :
    ({ panels with edits := .new } : Panels).Owned lost :=
  { h with
    edits := Nat.zero_le 1
    mine := by simp [JoinSet.new]
    checked := by simp [JoinSet.new] }

/-- An edit of the player message came out, and no other is under way. -/
theorem Owned.settled (h : panels.Owned lost) (hidle : panels.edits = .new) {edit : PanelEdit}
    (hmine : panels.panel.map Panel.ref = some edit.ref)
    (hchecked : edit.check = true → Known panels.log edit.message edit.view)
    (how : Joined EditOutcome) : (panels.settled edit how).Owned lost := by
  cases how with
  | cancelled => exact h
  | panicked => exact h
  | finished outcome =>
      obtain ⟨panel, hpanel, href⟩ := Option.map_eq_some_iff.mp hmine
      have hsame : panel.channel = edit.channel ∧ panel.message = edit.message := by
        simpa [Panel.ref, PanelEdit.ref] using href
      have hnoted := h.noted edit outcome
      have hstays : (panels.noted edit outcome).panel = some panel := by
        rw [Panels.noted]
        split <;> exact hpanel
      have hdrained : (panels.noted edit outcome).edits = .new := by
        rw [Panels.noted]
        split <;> exact hidle
      unfold Panels.settled
      dsimp only
      rw [hstays]
      dsimp only
      rw [if_pos hsame]
      cases outcome with
      | stale =>
          dsimp only
          refine hnoted.reshow hstays rfl ?_
          intro view hview
          cases hview
      | transientFailure => exact hnoted
      | delivered =>
          dsimp only
          refine hnoted.reshow hstays rfl ?_
          intro view hview
          cases hview
          -- An edit was acknowledged just now, a check when it was sent.
          by_cases hcheck : edit.check = true
          · rw [Panels.noted, if_neg (by simp [hcheck])]
            rw [← hsame.2] at hchecked
            exact hchecked hcheck
          · rw [Panels.noted, if_pos (by simp [hcheck])]
            exact ⟨edit.ref, hsame.2.symm, by simp⟩
      | terminalFailure =>
          dsimp only
          apply hnoted.turn hdrained hnoted.deletions
          · simp
          · intro other view hnone
            cases hnone
          · intro message
            simp [hstays, times, List.count_singleton]
          · intro message
            simp

/-- The edit under way was joined. -/
theorem Owned.joined (h : panels.Owned lost) {index : ℕ} {task : Task PanelEdit EditOutcome}
    (hfound : panels.edits.tasks[index]? = some task) (how : Joined EditOutcome) :
    (({ panels with edits := ⟨panels.edits.tasks.eraseIdx index⟩ } : Panels).settled task.tag
      how).Owned lost := by
  have hmem : task ∈ panels.edits.tasks := List.mem_of_getElem? hfound
  have hone : panels.edits.tasks.length ≤ 1 := h.edits
  have hlength := JoinSet.len_eraseIdx hfound
  have hnew : (⟨panels.edits.tasks.eraseIdx index⟩ : JoinSet PanelEdit EditOutcome) = .new := by
    apply JoinSet.len_eq_zero.mp
    show (panels.edits.tasks.eraseIdx index).length = 0
    omega
  have hleft : ({ panels with edits := ⟨panels.edits.tasks.eraseIdx index⟩ } :
      Panels).Owned lost := by
    rw [hnew]
    exact h.drained
  exact hleft.settled hnew (h.mine task hmem) (h.checked task hmem) how

/-- An edit or a check of the player message was spawned, and no other is under way. -/
theorem Owned.spawned (h : panels.Owned lost) (hidle : panels.edits = .new)
    (hactive : panels.panel = some panel) {view : View} {check : Bool}
    (hshown : check = true → panel.lastView = some view) :
    ({ panels with
      edits := panels.edits.spawn ⟨panel.channel, panel.message, view, check⟩ } :
        Panels).Owned lost := by
  have htasks (task : Task PanelEdit EditOutcome)
      (hmem : task ∈ (panels.edits.spawn ⟨panel.channel, panel.message, view, check⟩).tasks) :
      task.tag = ⟨panel.channel, panel.message, view, check⟩ := by
    rw [hidle] at hmem
    simp only [JoinSet.tasks_spawn, JoinSet.new, List.nil_append, List.mem_singleton] at hmem
    rw [hmem]
  exact
    { h with
      edits := by simp [hidle, JoinSet.new, JoinSet.len]
      mine := by
        intro task hmem
        rw [htasks task hmem, hactive]
        rfl
      checked := by
        intro task hmem hcheck
        rw [htasks task hmem] at hcheck ⊢
        exact h.shown panel view hactive (hshown hcheck) }

/-- The player message was retired, and its deletion scheduled. -/
theorem Owned.discarded (h : panels.Owned lost) (hidle : panels.edits = .new)
    (hactive : panels.panel = some panel) {left : JoinSet Panel Unit} (hroom : left.len ≤ 15) :
    (panels.discarded panel left).Owned lost := by
  apply h.turn hidle
  · simpa [JoinSet.len, Nat.lt_succ_iff] using hroom
  · simp
  · intro other view hnone
    cases hnone
  · intro message
    rw [hactive]
    simp [times, List.count_cons]
  · intro message
    simp [List.count_cons]

section Adopted

variable {message : MessageRef} {token : String} {view : View}

/-- What an adopted message shows was acknowledged. -/
theorem known_adopted (hacknowledged : .acknowledged message view ∈ panels.log) :
    ∀ next shown, some (⟨message.channelId, message.id, token, some view⟩ : Panel) = some next →
      next.lastView = some shown → Known panels.log next.message shown := by
  intro next shown hnext hview
  cases hnext
  cases hview
  exact ⟨message, rfl, hacknowledged⟩

/-- A reply became the player message where there was none. -/
theorem Owned.adopted (h : panels.Owned lost) (hidle : panels.edits = .new)
    (hvacant : panels.panel = none) (hacknowledged : .acknowledged message view ∈ panels.log) :
    ({ panels with
      panel := some ⟨message.channelId, message.id, token, some view⟩
      log := panels.log ++ [.adopted message] } : Panels).Owned lost := by
  apply h.turn hidle h.deletions
  · simp
  · exact known_adopted hacknowledged
  · intro other
    rw [hvacant]
    simp [times, Panel.ref, List.count_singleton]
  · intro other
    simp

/-- A reply became the player message instead of another one. -/
theorem Owned.replaced (h : panels.Owned lost) (hidle : panels.edits = .new)
    (hactive : panels.panel = some panel) {left : JoinSet Panel Unit} (hroom : left.len ≤ 15)
    (hacknowledged : .acknowledged message view ∈ panels.log) :
    ({ panels with
      panel := some ⟨message.channelId, message.id, token, some view⟩
      deletions := left.spawn panel
      log := panels.log ++ [.adopted message, .retired panel.ref, .scheduled panel.ref] } :
        Panels).Owned lost := by
  apply h.turn hidle
  · simpa [JoinSet.len, Nat.lt_succ_iff] using hroom
  · simp
  · exact known_adopted hacknowledged
  · intro other
    rw [hactive]
    simp only [times, Panel.ref, List.count_cons, List.count_nil, Option.map_some]
    simpa using Nat.add_comm _ _
  · intro other
    simp [List.count_cons]

end Adopted

end Panels

namespace GuildSession

variable {before after : GuildSession}

theorem Withdraw.owned {lost : Option MessageRef} (hwithdraw : Withdraw before after)
    (h : before.panels.Owned lost) : after.panels.Owned lost := by
  cases hwithdraw with
  | still hstill =>
      rw [hstill.panels]
      exact h
  | forget _ hpanels _ =>
      rw [hpanels]
      exact h
  | drain hpanels _ =>
      rw [hpanels]
      exact h.drained
  | discard panel left hidle hactive hroom hpanels _ =>
      rw [hpanels]
      exact h.discarded hidle hactive hroom

theorem Act.owned {lost : Option MessageRef} (hact : Act before after)
    (h : before.panels.Owned lost) : after.panels.Owned lost := by
  cases hact with
  | withdraw hwithdraw => exact hwithdraw.owned h
  | settle index task how hfound hpanels _ =>
      rw [hpanels]
      exact h.joined hfound how
  | spawn panel view check hidle hactive hshown hpanels _ =>
      rw [hpanels]
      exact h.spawned hidle hactive hshown
  | acknowledge message view hpanels _ =>
      rw [hpanels]
      exact h.note (.inl ⟨_, _, rfl⟩)
  | renew panel token view hactive hacknowledged hpanels _ =>
      rw [hpanels]
      refine h.reshow hactive rfl ?_
      intro shown hview
      cases hview
      exact ⟨panel.ref, rfl, hacknowledged⟩
  | adopt message token view hidle hvacant hacknowledged hpanels _ =>
      rw [hpanels]
      exact h.adopted hidle hvacant hacknowledged
  | replace previous left message token view hidle hactive _ hroom hacknowledged hpanels _ =>
      rw [hpanels]
      exact h.replaced hidle hactive hroom hacknowledged
  | control message hidle hpanels _ =>
      rw [hpanels]
      exact h.note (.inr ⟨_, rfl⟩)
  | confirm panel message view hactive hsame hacknowledged hpanels _ =>
      rw [hpanels]
      refine h.reshow hactive rfl ?_
      intro shown hview
      cases hview
      exact ⟨message, hsame, hacknowledged⟩
  | thin left hle hpanels _ =>
      rw [hpanels]
      exact { h with deletions := hle.trans h.deletions }

/-- A move of the outside ends tasks at most. -/
theorem outside_owned {session : GuildSession} {lost : Option MessageRef} (move : Outside)
    (h : session.panels.Owned lost) : (session.outside move).panels.Owned lost := by
  cases move with
  | pass moment => exact h
  | endLoader index how => exact h
  | endResponse index how => exact h
  | endPreparation index how => exact h
  | endDeletion index how =>
      have hlen : (session.panelDeletions.finish index fun _ => how).len =
          session.panelDeletions.len := by
        simp [JoinSet.finish, JoinSet.len]
      exact { h with deletions := hlen.trans_le h.deletions }
  | endEdit index how =>
      have hlen : (session.panelEdits.finish index fun _ => how).len = session.panelEdits.len := by
        simp [JoinSet.finish, JoinSet.len]
      exact
        { h with
          edits := hlen.trans_le h.edits
          mine := by
            intro task hmem
            obtain ⟨old, hold, htag⟩ := JoinSet.mem_finish hmem
            rw [← htag]
            exact h.mine old hold
          checked := by
            intro task hmem
            obtain ⟨old, hold, htag⟩ := JoinSet.mem_finish hmem
            rw [← htag]
            exact h.checked old hold }

theorem acts_owned {lost : Option MessageRef} (hacts : Acts before after)
    (h : before.panels.Owned lost) : after.panels.Owned lost := by
  have hsteps := hacts h.edits
  clear hacts
  induction hsteps with
  | refl => exact h
  | tail _ hact ih => exact hact.owned ih

/-- The last cleanup, wherever its deadline cuts it off, loses the deletion of one message
at most. -/
theorem cleanupUntil_owned (session : GuildSession) (h : session.panels.Owned none) (cut : ℕ) :
    ∃ lost, (session.cleanupUntil cut).panels.Owned lost := by
  have hwithdraws : Withdraws session session.forgetPreparations.invalidate :=
    session.withdraws_forgetPreparations.then_still ⟨rfl, rfl⟩
  have hforgotten := hwithdraws.acts
  have hretired : Acts session session.forgetPreparations.invalidate.retireEdits := by
    obtain ⟨hpanels, hpreparation⟩ := session.forgetPreparations.invalidate.retireEdits_spec
    exact hforgotten.trans (Withdraws.single (.drain hpanels hpreparation)).acts
  unfold cleanupUntil
  split
  · exact ⟨none, h⟩
  · exact ⟨none, acts_owned hretired h⟩
  · have howned := acts_owned hretired h
    have hidle : session.forgetPreparations.invalidate.retireEdits.panelEdits = .new :=
      congrArg Panels.edits (retireEdits_spec _).1
    generalize session.forgetPreparations.invalidate.retireEdits = retired at howned hidle
    rw [takePanel]
    split
    · rename_i panel hpanel
      have htaken : (({ retired with panel := none } : GuildSession).note
          (.retired panel.ref)).panels = { retired.panels with
            panel := none, log := retired.panels.log ++ [.retired panel.ref] } := rfl
      rw [htaken]
      refine ⟨some panel.ref, howned.turn hidle howned.deletions ?_ ?_ ?_ ?_⟩
      · simp
      · intro other view hnone
        cases hnone
      · intro message
        rw [show retired.panels.panel = some panel from hpanel]
        simp [times, List.count_singleton]
      · intro message
        simp [times, List.count_singleton]
    · exact ⟨none, howned⟩
  · have hremoved : Acts session session.forgetPreparations.invalidate.removePanel.reset :=
      (hforgotten.trans (withdraws_removePanel _).acts).trans (.still ⟨rfl, rfl⟩)
    exact ⟨none, acts_owned hremoved h⟩
  · exact ⟨none, acts_owned (session.withdraws_cleanup none).acts h⟩

/-- What is left when the worker ends. -/
theorem close_owned {session : GuildSession} (h : session.panels.Owned none) (cut : ℕ) :
    ∃ lost, (session.close cut).panels.Owned lost := by
  -- The loaders and the preparations are asked to stop before the cleanup.
  obtain ⟨lost, hcleaned⟩ := cleanupUntil_owned { session with
    toPipeline := session.toPipeline.abort
    preparations := session.preparations.abortAll } h cut
  generalize hcleanup : ({ session with
    toPipeline := session.toPipeline.abort
    preparations := session.preparations.abortAll } : GuildSession).cleanupUntil cut =
      cleaned at hcleaned
  have hclosed : (session.close cut).panels =
      { cleaned.panels with edits := .new, deletions := .new } := by
    rw [← hcleanup]
    rfl
  rw [hclosed]
  exact ⟨lost, { hcleaned.drained with deletions := Nat.zero_le 16 }⟩

/-! ## Runs -/

/-- What holds of the player message of a session, if at most one message was lost. -/
structure Keeps (session : GuildSession) (lost : Option MessageRef) : Prop where
  edits : session.panelEdits.len ≤ 1
  deletions : session.panelDeletions.len ≤ 16
  /-- A control edits its message while no edit and no check is under way. -/
  alone : ∀ message outstanding,
    .controlled message outstanding ∈ session.panelLog → outstanding = 0
  /-- Edits and checks are those of the player message. -/
  mine : ∀ task ∈ session.panelEdits.tasks, session.panel.map Panel.ref = some task.tag.ref
  /-- What is taken to be shown was acknowledged. -/
  shown : Identified session.panelLog → ∀ panel view, session.panel = some panel →
    panel.lastView = some view → .acknowledged panel.ref view ∈ session.panelLog
  /-- A message that was adopted is the player message until it is retired or dropped. -/
  balanced : ∀ message, session.panelLog.count (.adopted message) =
    session.panelLog.count (.retired message) + session.panelLog.count (.dropped message) +
      times (session.panel.map Panel.ref) message
  /-- Every retirement schedules one deletion, and nothing else does. -/
  scheduled : ∀ message, session.panelLog.count (.retired message) =
    session.panelLog.count (.scheduled message) + times lost message
  once : Unrepeated session.panelLog → ∀ message, .retired message ∈ session.panelLog →
    lost ≠ some message → session.panelLog.count (.scheduled message) = 1
  /-- The deletion of a message that was dropped, or is the player message, was never
  scheduled. -/
  spared : Unrepeated session.panelLog → ∀ message, .dropped message ∈ session.panelLog ∨
    session.panel.map Panel.ref = some message → .scheduled message ∉ session.panelLog

end GuildSession

open GuildSession

theorem Panels.Owned.keeps {session : GuildSession} {lost : Option MessageRef}
    (h : session.panels.Owned lost) : session.Keeps lost where
  edits := h.edits
  deletions := h.deletions
  alone := h.alone
  mine := h.mine
  shown := by
    intro hidentified panel view hpanel hview
    obtain ⟨message, hid, hacknowledged⟩ := h.shown panel view hpanel hview
    have hbalanced := h.balanced panel.ref
    rw [show session.panels.panel = some panel from hpanel, times, Option.map_some, if_pos rfl]
      at hbalanced
    have hadopted : .adopted panel.ref ∈ session.panelLog := by
      apply List.count_pos_iff.mp
      show 0 < session.panels.log.count (.adopted panel.ref)
      omega
    have hsame : message = panel.ref := hidentified _ hacknowledged _ hadopted hid
    rw [← hsame]
    exact hacknowledged
  balanced := h.balanced
  scheduled := h.scheduled
  once := by
    intro hunrepeated message hretired hlost
    have hadopted : session.panels.log.count (.adopted message) ≤ 1 := hunrepeated _ hretired
    have hpositive : 0 < session.panels.log.count (.retired message) :=
      List.count_pos_iff.mpr hretired
    have hbalanced := h.balanced message
    have hscheduled := h.scheduled message
    rw [times, if_neg hlost] at hscheduled
    show session.panels.log.count (.scheduled message) = 1
    omega
  spared := by
    intro hunrepeated message hspared hmem
    have hadopted : session.panels.log.count (.adopted message) ≤ 1 := hunrepeated _ hmem
    have hpositive : 0 < session.panels.log.count (.scheduled message) :=
      List.count_pos_iff.mpr hmem
    have hbalanced := h.balanced message
    have hscheduled := h.scheduled message
    rcases hspared with hdropped | hactive
    · have hcount : 0 < session.panels.log.count (.dropped message) :=
        List.count_pos_iff.mpr hdropped
      omega
    · rw [show session.panels.panel.map Panel.ref = some message from hactive, times, if_pos rfl]
        at hbalanced
      omega

theorem noteEdit_panel (session : GuildSession) (edit : PanelEdit) (outcome : EditOutcome) :
    (session.noteEdit edit outcome).panel = session.panel := by
  rw [noteEdit]
  split <;> rfl

/-- The outcome of an edit of another message is noted down at most. -/
theorem finishRefresh_eq_noteEdit {session : GuildSession} {edit : PanelEdit}
    (hother : ∀ panel, session.panel = some panel → panel.ref ≠ edit.ref)
    (outcome : EditOutcome) :
    session.finishRefresh edit (.finished outcome) = session.noteEdit edit outcome := by
  unfold finishRefresh
  dsimp only
  rw [noteEdit_panel]
  split
  · rfl
  · rename_i panel hpanel
    have hne : ¬ (panel.channel = edit.channel ∧ panel.message = edit.message) := by
      rintro ⟨hchannel, hmessage⟩
      exact hother panel hpanel (by rw [Panel.ref, PanelEdit.ref, hchannel, hmessage])
    rw [if_neg hne]

/-- The outcome of an edit of another message changes the history at most. -/
theorem finishRefresh_other (session : GuildSession) (edit : PanelEdit) (outcome : EditOutcome)
    (hother : ∀ panel, session.panel = some panel → panel.ref ≠ edit.ref) :
    { session.finishRefresh edit (.finished outcome) with panelLog := session.panelLog } =
      session := by
  rw [finishRefresh_eq_noteEdit hother, noteEdit]
  split <;> rfl

/-- Only an edit that failed for good drops the player message, and only its own one. -/
theorem finishRefresh_drops (session : GuildSession) (edit : PanelEdit)
    (how : Joined EditOutcome) (panel : Panel) (hpanel : session.panel = some panel)
    (hdropped : (session.finishRefresh edit how).panel = none) :
    how = .finished .terminalFailure ∧ panel.ref = edit.ref := by
  cases how with
  | cancelled =>
      rw [show (session.finishRefresh edit .cancelled).panel = session.panel from rfl, hpanel]
        at hdropped
      cases hdropped
  | panicked =>
      rw [show (session.finishRefresh edit .panicked).panel = session.panel from rfl, hpanel]
        at hdropped
      cases hdropped
  | finished outcome =>
      by_cases hsame : panel.channel = edit.channel ∧ panel.message = edit.message
      · unfold finishRefresh at hdropped
        dsimp only at hdropped
        rw [noteEdit_panel, hpanel] at hdropped
        dsimp only at hdropped
        rw [if_pos hsame] at hdropped
        refine ⟨?_, by rw [Panel.ref, PanelEdit.ref, hsame.1, hsame.2]⟩
        cases outcome with
        | terminalFailure => rfl
        | delivered => cases hdropped
        | stale => cases hdropped
        | transientFailure => cases hdropped
      · have hother : ∀ other, session.panel = some other → other.ref ≠ edit.ref := by
          intro other hactive href
          rw [hpanel] at hactive
          cases hactive
          exact hsame (by simpa [Panel.ref, PanelEdit.ref] using href)
        rw [finishRefresh_eq_noteEdit hother, noteEdit_panel, hpanel] at hdropped
        cases hdropped

/-- The bounds are kept by what adds to the edits and the deletions, at once. -/
theorem bounded (session : GuildSession) (panel : Panel) :
    (session.deletePanel panel).panelDeletions.len ≤ 16 ∧
      (session.panelEdits.len ≤ 1 → session.refresh.panelEdits.len ≤ 1) := by
  constructor
  · obtain ⟨left, hleft, hpanels, -⟩ := session.deletePanel_spec panel
    have hdeletions : (session.deletePanel panel).panelDeletions = left.spawn panel :=
      congrArg Panels.deletions hpanels
    rw [hdeletions]
    simpa [JoinSet.len, Nat.lt_succ_iff] using hleft
  · intro hone
    exact edits_le_of_acts (session.acts_refresh hone) hone

/-- In every run of a session, whatever Discord answers: one edit is under way at most, and
no more than 16 deletions, also while a handler runs; a control edits its message while
neither an edit nor a check is under way; the player message is taken to show only what
was acknowledged for it; every edit is one of the player message, and the outcome of an
edit of another message would change nothing; and a message that was adopted is the player
message until it is dropped, by an edit of it that failed for good, or retired, when its
deletion is scheduled, once and at no other time. Only the last cleanup, whose time is
limited, may lose a deletion. -/
theorem Worker.run_keeps (id : ℕ) (shared : Shared) (inputs : List Input) :
    ((Worker.start id shared).run inputs).Holds (fun session => session.Keeps none)
        (fun session => ∃ lost, session.Keeps lost) ∧
      (∀ (session : GuildSession) (panel : Panel),
        (session.deletePanel panel).panelDeletions.len ≤ 16 ∧
          (session.panelEdits.len ≤ 1 → session.refresh.panelEdits.len ≤ 1)) ∧
      (∀ (session : GuildSession) (edit : PanelEdit) (outcome : EditOutcome),
        (∀ panel, session.panel = some panel → panel.ref ≠ edit.ref) →
        { session.finishRefresh edit (.finished outcome) with panelLog := session.panelLog } =
          session) ∧
      ∀ (session : GuildSession) (edit : PanelEdit) (how : Joined EditOutcome) (panel : Panel),
        session.panel = some panel → (session.finishRefresh edit how).panel = none →
        how = .finished .terminalFailure ∧ panel.ref = edit.ref := by
  refine ⟨?_, bounded, finishRefresh_other, finishRefresh_drops⟩
  have hnew : (GuildSession.new id shared).panels.Owned none :=
    { edits := Nat.zero_le 1
      deletions := Nat.zero_le 16
      alone := by simp [GuildSession.new, Messages.panels]
      mine := by simp [GuildSession.new, Messages.panels, JoinSet.new]
      checked := by simp [GuildSession.new, Messages.panels, JoinSet.new]
      shown := by simp [GuildSession.new, Messages.panels]
      balanced := by simp [GuildSession.new, Messages.panels, times]
      scheduled := by simp [GuildSession.new, Messages.panels, times] }
  have hrun := Worker.upkeep_rule (fun session => session.panels.Owned none)
    (fun session => ∃ lost, session.panels.Owned lost)
    (fun _ _ hact h => hact.owned h) (fun _ move h => outside_owned move h)
    (fun session h => by rw [session.prepareNext_panels]; exact h)
    (fun session _ _ h hafter => by rw [session.joinPreparation_panels hafter]; exact h)
    (fun _ cut h => close_owned h cut) inputs
    (show (Worker.start id shared).Holds _ _ from ⟨Nat.zero_le 1, hnew⟩)
  cases hworker : (Worker.start id shared).run inputs with
  | running session =>
      rw [hworker] at hrun
      exact hrun.2.keeps
  | ended session =>
      rw [hworker] at hrun
      obtain ⟨lost, howned⟩ := hrun
      exact ⟨lost, howned.keeps⟩

/-! ## A cleanup that is cut off -/

namespace Sample

/-- The player is summoned by a reply of its own. -/
def summon (message : ℕ) : Input :=
  .turn (.interaction (command "nowplaying" []) true) (.replicate 8 { message := .ok ⟨3, message⟩ })
    [] 4

/-- The player is summoned seventeen times while no deletion comes to its end. -/
def summoned : List Input :=
  play :: resolve [track "a"] ++ (List.range 17).map summon

/-- The bot is removed from the guild, and the last cleanup finds no room for a deletion. -/
def removed : Input :=
  .turn (.interaction (command "ping" []) false) [{ cache := some Cache.default }] [] 2

end Sample

/-- The guarantees hold of a session whose player was summoned again and again, and for the
outcome of an edit that nobody waits for. -/
theorem run_keeps_summoned :
    ((Worker.start 1 Sample.shared).run Sample.summoned).Holds (fun session => session.Keeps none)
        (fun session => ∃ lost, session.Keeps lost) ∧
      ({ (GuildSession.new 1 Sample.shared).finishRefresh ⟨3, 5, View.text "", false⟩
          (.finished .delivered) with panelLog := [] } = GuildSession.new 1 Sample.shared) :=
  ⟨(Worker.run_keeps 1 Sample.shared Sample.summoned).1,
    (Worker.run_keeps 1 Sample.shared []).2.2.1 (.new 1 Sample.shared) ⟨3, 5, View.text "", false⟩
      .delivered (by intro panel hpanel; cases hpanel)⟩

/-- With sixteen deletions under way the last cleanup may run out of time: the player
message is retired, and its deletion never scheduled. -/
theorem removal_loses_deletion :
    ((Worker.start 1 Sample.shared).run Sample.summoned).session.panelDeletions.len = 16 ∧
      .retired ⟨3, 16⟩ ∈ ((Worker.start 1 Sample.shared).run
        (Sample.summoned ++ [Sample.removed])).session.panelLog ∧
      .dropped ⟨3, 16⟩ ∉ ((Worker.start 1 Sample.shared).run
        (Sample.summoned ++ [Sample.removed])).session.panelLog ∧
      .scheduled ⟨3, 16⟩ ∉ ((Worker.start 1 Sample.shared).run
        (Sample.summoned ++ [Sample.removed])).session.panelLog := by
  decide +kernel

end Raydio.Session
