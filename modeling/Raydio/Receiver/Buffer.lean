/-
# The receiver buffer helper

A script in a listener's page sets the buffer target of the incoming audio and gives it
back. It keeps a record of every receiver it has changed and of every connection it
watches, and listens for ended tracks, new tracks and closed connections.

The browser decides what an assignment to the buffer target does: each one may be
accepted, throw, or silently store another value. What the page reports besides its
records and counters is left out, and so are the hooks through which it learns of new
connections; a hook that stays behind calls the same functions.
-/

import Raydio.Foundation.OrderedMap
import Raydio.Foundation.Runs
import Raydio.Foundation.Trace

namespace Raydio.Receiver

open Raydio.Foundation

universe u v

/-- A `jitterBufferTarget`: `null`, or a number of milliseconds. -/
abbrev Target := Option ℚ

/-- What an assignment to a buffer target does. -/
inductive Reaction
  /-- It returns; the value stored may be another one than the value assigned. -/
  | stores (value : Target)
  | throws
  deriving DecidableEq

/-- What the browser decides. -/
structure Browser (Receiver : Type v) where
  /-- The receiver's track is an audio track. -/
  audio : Receiver → Bool
  /-- The receiver has a buffer target. -/
  supported : Receiver → Bool
  /-- The buffer targets before the helper came. -/
  initial : Receiver → Target
  /-- What an assignment does, by the number of assignments before it, the receiver, the
  value the receiver has and the value assigned. -/
  react : ℕ → Receiver → Target → Target → Reaction

/-- A listener of the helper, by what it listens to. -/
inductive Listener (Peer : Type u) (Receiver : Type v)
  | ended (receiver : Receiver)
  | track (peer : Peer)
  | state (peer : Peer)
  deriving DecidableEq

/-- The record of a receiver. -/
structure Record where
  original : Target
  applied : ℚ
  deriving DecidableEq

/-- What happened to the buffer targets. -/
inductive Entry (Receiver : Type v)
  /-- The helper asked for a target; the receiver had the value `before` and has `after`. -/
  | applied (receiver : Receiver) (before requested after : Target)
  /-- A restoration failed, and was counted. -/
  | unrestored (receiver : Receiver)
  deriving DecidableEq

/-- The page: what the browser keeps, what the helper keeps, and history. -/
structure Page (Peer : Type u) (Receiver : Type v) where
  live : Receiver → Bool
  value : Receiver → Target
  closed : Peer → Bool
  /-- `getReceivers`. -/
  members : Peer → List Receiver
  listeners : List (Listener Peer Receiver)
  enabled : Bool
  targetMs : ℚ
  generation : ℕ
  /-- The connections with the receivers that the helper has set on them. -/
  peers : OrderedMap Peer (List Receiver)
  receivers : OrderedMap Receiver Record
  unsupported : List Receiver
  unsupportedCount : ℕ
  changedReceivers : ℕ
  failedApplications : ℕ
  failedRestorations : ℕ
  /-- The operations of the last errors. -/
  errors : List String
  /-- The number of assignments; history. -/
  assignments : ℕ
  /-- What happened to the buffer targets; history. -/
  log : List (Entry Receiver)

namespace Page

variable {Peer : Type u} {Receiver : Type v} [DecidableEq Peer] [DecidableEq Receiver]

/-- The page before the helper does anything. -/
def start (browser : Browser Receiver) : Page Peer Receiver :=
  { live := fun _ => true, value := browser.initial, closed := fun _ => false
    members := fun _ => [], listeners := [], enabled := false, targetMs := 120, generation := 0
    peers := .empty, receivers := .empty, unsupported := [], unsupportedCount := 0
    changedReceivers := 0, failedApplications := 0, failedRestorations := 0, errors := []
    assignments := 0, log := [] }

/-- `note`, which keeps the last eight errors. -/
def note (self : Page Peer Receiver) (operation : String) : Page Peer Receiver :=
  { self with
    errors := (if self.errors.length = 8 then self.errors.tail else self.errors) ++ [operation] }

/-- Assign a buffer target: whether the assignment returns. -/
def assign (browser : Browser Receiver) (self : Page Peer Receiver) (receiver : Receiver)
    (target : Target) : Bool × Page Peer Receiver :=
  match browser.react self.assignments receiver (self.value receiver) target with
  | .stores value =>
      (true, { self with
        value := Function.update self.value receiver value
        assignments := self.assignments + 1 })
  | .throws => (false, { self with assignments := self.assignments + 1 })

/-- Note down what happened to a buffer target. -/
def record (self : Page Peer Receiver) (entry : Entry Receiver) : Page Peer Receiver :=
  { self with log := self.log ++ [entry] }

/-! ## Receivers -/

/-- `forgetReceiver`. -/
def forgetReceiver (self : Page Peer Receiver) (receiver : Receiver) : Page Peer Receiver :=
  match self.receivers.get receiver with
  | none => self
  | some _ =>
      { self with
        listeners := self.listeners.erase (.ended receiver)
        receivers := self.receivers.delete receiver
        peers := self.peers.mapValues fun owned => owned.erase receiver }

/-- The `catch` of `restoreReceiver`. -/
def failRestoration (self : Page Peer Receiver) (receiver : Receiver) : Page Peer Receiver :=
  ({ self with failedRestorations := self.failedRestorations + 1 }.note "restore").record
    (.unrestored receiver)

/-- `restoreReceiver`. -/
def restoreReceiver (browser : Browser Receiver) (self : Page Peer Receiver)
    (receiver : Receiver) : Page Peer Receiver :=
  match self.receivers.get receiver with
  | none => self
  | some record =>
      let self :=
        -- A later setting made by the application or the user is not overwritten.
        if self.value receiver = some record.applied then
          let assigned := self.assign browser receiver record.original
          if assigned.1 && assigned.2.value receiver == record.original then assigned.2
          else assigned.2.failRestoration receiver
        else self
      self.forgetReceiver receiver

/-- Create the record of a receiver that has none. -/
def remember (self : Page Peer Receiver) (receiver : Receiver) : Page Peer Receiver :=
  match self.receivers.get receiver with
  | some _ => self
  | none =>
      { self with
        listeners := self.listeners ++ [.ended receiver]
        receivers := self.receivers.set receiver ⟨self.value receiver, self.targetMs⟩ }

/-- `record.applied = targetMs`. -/
def setApplied (self : Page Peer Receiver) (receiver : Receiver) : Page Peer Receiver :=
  match self.receivers.get receiver with
  | none => self
  | some record =>
      { self with
        receivers := self.receivers.set receiver { record with applied := self.targetMs } }

/-- The `try` of `applyReceiver`. -/
def setTarget (browser : Browser Receiver) (self : Page Peer Receiver) (receiver : Receiver) :
    Page Peer Receiver :=
  let before := self.value receiver
  let target : Target := some self.targetMs
  if before = target then self.setApplied receiver
  else
    let assigned := self.assign browser receiver target
    let after := assigned.2.value receiver
    let self := assigned.2.record (.applied receiver before target after)
    if assigned.1 && after == target then
      ({ self with changedReceivers := self.changedReceivers + 1 }).setApplied receiver
    else
      ({ self with failedApplications := self.failedApplications + 1 }.note "apply").restoreReceiver
        browser receiver

/-- `applyReceiver`. -/
def applyReceiver (browser : Browser Receiver) (self : Page Peer Receiver) (receiver : Receiver) :
    Page Peer Receiver :=
  if !self.enabled || !browser.audio receiver || !self.live receiver then self
  else if !browser.supported receiver then
    if receiver ∈ self.unsupported then self
    else
      { self with
        unsupported := self.unsupported ++ [receiver]
        unsupportedCount := self.unsupportedCount + 1 }
  else (self.remember receiver).setTarget browser receiver

/-! ## Connections -/

/-- `detachPeer`. -/
def detachPeer (browser : Browser Receiver) (self : Page Peer Receiver) (peer : Peer) :
    Page Peer Receiver :=
  match self.peers.get peer with
  | none => self
  | some owned =>
      owned.foldl (restoreReceiver browser)
        { self with
          listeners := (self.listeners.erase (.track peer)).erase (.state peer)
          peers := self.peers.delete peer }

/-- `if (receivers.has(receiver)) record.receivers.add(receiver)`. -/
def enlist (self : Page Peer Receiver) (peer : Peer) (receiver : Receiver) : Page Peer Receiver :=
  match self.receivers.get receiver, self.peers.get peer with
  | some _, some owned =>
      if receiver ∈ owned then self
      else { self with peers := self.peers.set peer (owned ++ [receiver]) }
  | _, _ => self

/-- Set a receiver of a connection. -/
def own (browser : Browser Receiver) (self : Page Peer Receiver) (peer : Peer)
    (receiver : Receiver) : Page Peer Receiver :=
  (self.applyReceiver browser receiver).enlist peer receiver

/-- Watch a connection that is not watched yet. -/
def watch (self : Page Peer Receiver) (peer : Peer) : Page Peer Receiver :=
  match self.peers.get peer with
  | some _ => self
  | none =>
      { self with
        listeners := self.listeners ++ [.track peer, .state peer]
        peers := self.peers.set peer [] }

/-- `attachPeer`. -/
def attachPeer (browser : Browser Receiver) (self : Page Peer Receiver) (peer : Peer) :
    Page Peer Receiver :=
  if !self.enabled || self.closed peer then self
  else (self.members peer).foldl (fun self receiver =>
    if browser.audio receiver && self.live receiver then self.own browser peer receiver
    else self) (self.watch peer)

/-! ## The helper's functions -/

/-- `disable`. -/
def disable (browser : Browser Receiver) (self : Page Peer Receiver) : Page Peer Receiver :=
  let self := { self with enabled := false, generation := self.generation + 1 }
  let self := self.peers.keys.foldl (detachPeer browser) self
  self.receivers.keys.foldl (restoreReceiver browser) self

/-- `enable`. A target that is no integer from 0 to 300 is refused, and so is any while a
comparison runs; `hooks` says whether the hooks can be installed, and `audited` lists the
connections that an audit knows. -/
def enable (browser : Browser Receiver) (self : Page Peer Receiver) (ms : ℚ)
    (trial hooks : Bool) (audited : List Peer) : Page Peer Receiver :=
  if ms.den ≠ 1 ∨ ms < 0 ∨ ms > 300 ∨ trial then self
  else
    let installed := self.enabled || hooks
    let self := { self with targetMs := ms, enabled := true }
    if !installed then (self.note "hooks").disable browser
    else
      let self := { self with generation := self.generation + 1 }
      let self := self.peers.keys.foldl (attachPeer browser) self
      audited.foldl (attachPeer browser) self

end Page

/-! ## Runs -/

/-- What happens in the page. -/
inductive Event (Peer : Type u) (Receiver : Type v)
  | enable (ms : ℚ) (trial hooks : Bool) (audited : List Peer)
  | disable
  /-- A connection is set up or negotiated again, and has these receivers then; the
  helper learns of it if it is hooked. -/
  | negotiated (peer : Peer) (members : List Receiver) (hooked : Bool)
  | track (peer : Peer) (receiver : Receiver)
  | ended (receiver : Receiver)
  /-- A connection is closed, with or without a call that is hooked. -/
  | close (peer : Peer) (hooked : Bool)
  | stateChange (peer : Peer)

namespace Page

variable {Peer : Type u} {Receiver : Type v} [DecidableEq Peer] [DecidableEq Receiver]

/-- One event. -/
def step (browser : Browser Receiver) (self : Page Peer Receiver) :
    Event Peer Receiver → Page Peer Receiver
  | .enable ms trial hooks audited => self.enable browser ms trial hooks audited
  | .disable => self.disable browser
  | .negotiated peer members hooked =>
      let self := { self with members := Function.update self.members peer members }
      if hooked then self.attachPeer browser peer else self
  | .track peer receiver =>
      let self := { self with
        members := Function.update self.members peer (self.members peer ++ [receiver]) }
      if .track peer ∈ self.listeners ∧ browser.audio receiver then self.own browser peer receiver
      else self
  | .ended receiver =>
      let self := { self with live := Function.update self.live receiver false }
      if .ended receiver ∈ self.listeners then self.forgetReceiver receiver else self
  | .close peer hooked =>
      let self := { self with closed := Function.update self.closed peer true }
      if hooked then self.detachPeer browser peer else self
  | .stateChange peer =>
      if .state peer ∈ self.listeners ∧ self.closed peer then self.detachPeer browser peer
      else self

/-- A run. -/
def run (browser : Browser Receiver) (events : List (Event Peer Receiver)) : Page Peer Receiver :=
  Runs.run (step browser) (start browser) events

end Page

end Raydio.Receiver
