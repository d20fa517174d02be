/-
# The task of the music node's event stream

The task connects, offering the session that it holds, and reads frames until the
connection is lost; then it waits a second and connects again. A ready frame brings a
session, which the task makes resumable before it takes it up. After a minute without
a session taken up it gives up the one that it holds.

`trace` is history: the sessions that it was told of and what it did.
-/

import Raydio.Foundation.Runs
import Raydio.Node.Health

namespace Raydio.Node

open Raydio.Foundation

/-- Why the guild sessions are told that the node's session is gone. -/
inductive Cause
  /-- A ready frame that did not say that the session was resumed. -/
  | replaced
  /-- An outage that began at an instant. -/
  | outage (since : ℕ)
  deriving DecidableEq, Repr

/-- What the task was told and did. -/
inductive Action
  /-- It connects, offering a session, or none if that is empty. -/
  | attempted (offered : String)
  /-- A ready frame brings a session. -/
  | announced (session : String) (resumed : Bool)
  | published (health : Health) (at' : ℕ)
  | invalidated (cause : Cause) (at' : ℕ)
  | patched (session : String) (accepted : Bool)
  | connected (session : String)
  | payload
  deriving DecidableEq, Repr

/-- Where the task is. -/
inductive Phase
  | connecting (offered : String)
  | reading (offered : String)
  | waiting (until' : ℕ)
  | stopped
  deriving DecidableEq, Repr

/-- A message of the websocket; a text is given as the value it parses to. -/
inductive Frame
  | ping (answered : Bool)
  | text (value : Option Value)
  | close
  | other

/-- How the awaited calls of a frame come out. A `send` that does not go through
stops the task: it is cancelled, or nobody receives. -/
structure Handling where
  invalidatedSent : Bool := true
  patched : Bool := true
  sent : Bool := true
  elapsed : ℕ := 0

/-- What happens next to the task. -/
inductive Input
  | pass (elapsed : ℕ)
  | connect (succeeds sent : Bool)
  | frame (frame : Frame) (handling : Handling)
  /-- Nothing came in time, or the stream failed. -/
  | lost (sent : Bool)
  | wake
  | cancel

/-- The task. Instants are milliseconds. -/
structure Task where
  state : Health
  outage : Option ℕ
  phase : Phase
  now : ℕ
  trace : List Action

/-- A session id that is taken up. -/
def validSession (session : String) : Bool :=
  !session.isEmpty && decide (session.utf8ByteSize < 100) &&
    session.toList.all fun c => c.isAlphanum || c = '-' || c = '_'

namespace Task

/-- Note down an action. -/
def act (self : Task) (action : Action) : Task := { self with trace := self.trace ++ [action] }

/-- `health_tx.send_replace(state.clone())`. -/
def publish (self : Task) : Task := self.act (.published self.state self.now)

/-- Time passes. -/
def pass (self : Task) (elapsed : ℕ) : Task := { self with now := self.now + elapsed }

/-- Return from the task. -/
def stop (self : Task) : Task := { self with phase := .stopped }

/-- Connect, offering the session that is held. -/
def attempt (self : Task) : Task :=
  ({ self with phase := .connecting self.state.session } : Task).act
    (.attempted self.state.session)

/-- The task before its first attempt. -/
def start (now : ℕ) : Task :=
  attempt { state := .default, outage := none, phase := .stopped, now := now, trace := [] }

/-- `events.send`; if it does not go through, the task stops. -/
def emit (self : Task) (action : Action) (sent : Bool) : Task :=
  if sent then self.act action else self.stop

/-- The node is not ready any more, and the task waits for a second. -/
def withdraw (self : Task) : Task :=
  let self := { self with
    state.ready := false, state.errors := saturatingAdd self.state.errors 1 }
  { self.publish with phase := .waiting (self.now + 1000) }

/-- The outage has lasted a minute: the session is not offered any more. -/
def giveUp (self : Task) (since : ℕ) (sent : Bool) : Task :=
  let self := ({ self with state.session := "" } : Task).publish
  self.emit (.invalidated (.outage since) self.now) sent

/-- What follows the end of a connection, or a failed attempt. -/
def lose (self : Task) (sent : Bool) : Task :=
  let self := self.withdraw
  if self.state.session.isEmpty then self
  else
    let since := self.outage.getD self.now
    let self := { self with outage := some since }
    if self.now - since < 60000 then self else self.giveUp since sent

/-- A ready frame whose session id is valid, up to the PATCH: the session that is held
may be gone. -/
def announce (self : Task) (session : String) (resumed : Bool) (sent : Bool) : Task :=
  let self := self.act (.announced session resumed)
  if !self.state.session.isEmpty && !resumed then
    self.emit (.invalidated .replaced self.now) sent
  else self

/-- The PATCH went through: take up the session. -/
def takeUp (self : Task) (session : String) (sent : Bool) : Task :=
  let self := { self with
    state.session := session
    state.ready := true
    state.connections := self.state.connections + 1
    outage := none }
  self.publish.emit (.connected session) sent

/-- A ready frame. -/
def ready (self : Task) (value : Value) (handling : Handling) : Task :=
  match (value.get "sessionId").asStr.filter validSession with
  | none => self.lose handling.sent
  | some session =>
      let self := self.announce session (value.get "resumed").isTrue handling.invalidatedSent
      if self.phase = .stopped then self
      else
        let self := (self.pass handling.elapsed).act (.patched session handling.patched)
        if handling.patched then self.takeUp session handling.sent
        else self.lose handling.sent

/-- A text frame. -/
def text (self : Task) (value : Value) (handling : Handling) : Task :=
  if (value.get "op").isStr "ready" then self.ready value handling
  else if (value.get "op").isStr "stats" then
    ({ self with state.audio := self.state.audio.observe self.now (value.get "frameStats") } :
      Task).publish
  else if (value.get "op").isStr "event" || (value.get "op").isStr "playerUpdate" then
    self.emit .payload handling.sent
  else self

/-- A frame of an open connection. -/
def read (self : Task) (frame : Frame) (handling : Handling) : Task :=
  match frame with
  | .ping answered => if answered then self else self.lose handling.sent
  | .text none => self.lose handling.sent
  | .text (some value) => self.text value handling
  | .close => self.lose handling.sent
  | .other => self

/-- One step of the task; an input that does not fit its phase is left out. -/
def step (self : Task) (input : Input) : Task :=
  match input, self.phase with
  | _, .stopped => self
  | .pass elapsed, _ => self.pass elapsed
  | .cancel, _ => self.stop
  | .connect true _, .connecting offered => { self with phase := .reading offered }
  | .connect false sent, .connecting _ => self.lose sent
  | .frame frame handling, .reading _ => self.read frame handling
  | .lost sent, .reading _ => self.lose sent
  | .wake, .waiting until' => if self.now < until' then self else self.attempt
  | _, _ => self

end Task

end Raydio.Node
