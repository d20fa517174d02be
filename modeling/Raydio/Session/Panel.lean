/-
# The player message

A session owns at most one player message. It is edited by a task of its own, one
at a time, and retired by bounded deletion tasks, so that playback never waits
for Discord longer than a handler has to.
-/

import Raydio.Session.State

namespace Raydio.Session

open Raydio.Foundation Raydio.Playback Raydio.Views Raydio.Discord

namespace GuildSession

/-- Suspend for the next moment of the script. -/
def suspend (self : GuildSession) : Moment × GuildSession :=
  let sent := self.shared.suspend
  (sent.1, { self with shared := sent.2 })

/-- Wait for the given number of deletions. -/
def awaitDeletions (self : GuildSession) : ℕ → GuildSession
  | 0 => self
  | count + 1 =>
      let sent := self.suspend
      let left := match sent.2.panelDeletions.joinAwaited sent.1.pick (.finished ()) with
        | some (_, _, left) => left
        | none => sent.2.panelDeletions
      awaitDeletions { sent.2 with panelDeletions := left } count

/-- `delete_panel`: retire a message, behind at most fifteen others. -/
def deletePanel (self : GuildSession) (panel : Panel) : GuildSession :=
  let self := self.awaitDeletions (self.panelDeletions.len - 15)
  ({ self with panelDeletions := self.panelDeletions.spawn panel } : GuildSession).note
    (.scheduled panel.ref)

/-- Cancel and drain the edits under way. -/
def retireEdits (self : GuildSession) : GuildSession :=
  let self := { self with panelChecks := 0, panelRetry := self.now }
  if self.panelEdits.isEmpty then self
  else { self.suspend.2 with panelEdits := .new }

/-- `remove_panel`. -/
def removePanel (self : GuildSession) : GuildSession :=
  let self := self.retireEdits
  match self.panel with
  | some panel =>
      (({ self with panel := none } : GuildSession).note (.retired panel.ref)).deletePanel panel
  | none => self

/-- An edit that was delivered is acknowledged; a check edits nothing. -/
def noteEdit (self : GuildSession) (edit : PanelEdit) (outcome : EditOutcome) : GuildSession :=
  if outcome = .delivered ∧ !edit.check then self.note (.acknowledged edit.ref edit.view) else self

/-- `finish_refresh`, for an edit and how its task ended. -/
def finishRefresh (self : GuildSession) (edit : PanelEdit) : Joined EditOutcome → GuildSession
  | .finished outcome =>
      let self := self.noteEdit edit outcome
      match self.panel with
      | none => self
      | some panel =>
          if panel.channel = edit.channel ∧ panel.message = edit.message then
            match outcome with
            | .stale => { self with panel := some { panel with lastView := none } }
            | .delivered =>
                { self with
                  panel := some { panel with lastView := some edit.view }
                  edits := saturatingAdd self.edits 1 }
            | .terminalFailure =>
                ({ self with
                  editTerminal := saturatingAdd self.editTerminal 1
                  panel := none } : GuildSession).note (.dropped panel.ref)
            | .transientFailure =>
                { self with
                  editErrors := saturatingAdd self.editErrors 1
                  panelRetry := self.now + 3000 }
          else self
  | _ =>
      { self with
        editErrors := saturatingAdd self.editErrors 1
        panelRetry := self.now + 3000 }

/-- `flush_refresh`: wait for the edit under way, if there is one. -/
def flushRefresh (self : GuildSession) : GuildSession :=
  if self.panelEdits.isEmpty then self
  else
    let sent := self.suspend
    match sent.2.panelEdits.joinAwaited sent.1.pick sent.1.edited with
    | some (task, how, left) =>
        ({ sent.2 with panelEdits := left } : GuildSession).finishRefresh task.tag how
    | none => sent.2

/-- `refresh`: bring the player message up to date by one edit, or check it. -/
def refresh (self : GuildSession) : GuildSession :=
  if self.queue.current.isNone then self.removePanel
  else if !self.panelEdits.isEmpty || decide (self.now < self.panelRetry) then self
  else match self.panel with
  | none => self
  | some panel =>
      let view := self.playerView
      let check := self.paused && decide (self.panelChecks > 0) &&
        decide (self.now ≥ self.panelCheckAt)
      if panel.lastView = some view then
        if check then
          { self with
            panelChecks := self.panelChecks - 1
            panelCheckAt := self.now + 1000
            panelEdits := self.panelEdits.spawn ⟨panel.channel, panel.message, view, true⟩ }
        else self
      else
        { self with
          panelEdits := self.panelEdits.spawn ⟨panel.channel, panel.message, view, false⟩ }

/-- A reply becomes the player message, and the one before it is retired. -/
def adoptPanel (self : GuildSession) (message : MessageRef) (token : String) (view : View) :
    GuildSession :=
  let adopted := { self with
    panel := some ⟨message.channelId, message.id, token, some view⟩ }
  match self.panel with
  | some previous =>
      if (previous.channel, previous.message) ≠ (message.channelId, message.id) then
        ((adopted.note (.adopted message)).note (.retired previous.ref)).deletePanel previous
      else adopted
  | none => adopted.note (.adopted message)

/-- Answer a request with the player message, under a token of its own. -/
def replyPlayer (self : GuildSession) (request : Request) (content : Option String) :
    GuildSession :=
  let token := self.shared.randomToken
  let view := Views.player self.shared.parseUrl self.queue token.1 self.paused self.volume
    self.position
  let view := { view with content := content <|> view.content }
  let sent := token.2.respond request view
  let self := { self with shared := sent.2 }
  match sent.1 with
  | .ok message =>
      let self := self.note (.acknowledged message view)
      if self.queue.current.isSome then self.adoptPanel message token.1 view else self
  | .error _ => self

/-- `present_player`. -/
def presentPlayer (self : GuildSession) (request : Request) (content : Option String) :
    GuildSession :=
  let self := if self.queue.current.isNone then self.removePanel else self
  ({ self.flushRefresh with panelChecks := 0 } : GuildSession).replyPlayer request content

end GuildSession

end Raydio.Session
