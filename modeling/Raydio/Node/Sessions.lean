/-
# The sessions of the node's event stream

What the guild sessions and the readers of the health may rely on. A session that is
taken up is announced as ready first, after its PATCH; another one is taken up only
after the guild sessions were told that theirs is gone; and they are told so only if
a session was taken up and not given up since, because the node brought another one or
because the outage has lasted a minute.

The rule speaks about the trace alone. The invariant says what the trace tells about
the state that the task goes on with.
-/

import Raydio.Foundation.Trace
import Raydio.Node.Run

namespace Raydio.Node

open Raydio.Foundation
open Raydio.Foundation.Trace (Since Always)

/-! ## The rule -/

namespace Action

def Patches : Action → Prop
  | .patched _ _ => True
  | _ => False

def Connects : Action → Prop
  | .connected _ => True
  | _ => False

def Invalidates : Action → Prop
  | .invalidated _ _ => True
  | _ => False

/-- After an outage the session is not offered any more. -/
def GivesUp : Action → Prop
  | .invalidated (.outage _) _ => True
  | _ => False

/-- The readers of the health see that the node is not ready. -/
def Withdraws : Action → Prop
  | .published health _ => health.ready = false
  | _ => False

/-- The readers of the health may see a ready node, or the task connects. -/
def Restarts : Action → Prop
  | .published health _ => health.ready = true
  | .attempted _ => True
  | _ => False

end Action

/-- A session was taken up and not given up in an outage since. -/
def Established (trace : List Action) : Prop :=
  ∃ session, Since Action.GivesUp (.connected session) trace

/-- The instant at which the node was first not ready after a session was last taken
up. -/
def LostAt (since : ℕ) (trace : List Action) : Prop :=
  ∃ session health before after, trace = before ++ .published health since :: after ∧
    health.ready = false ∧ Since Action.Withdraws (.connected session) before ∧
    ∀ other ∈ after, ¬ other.Connects

/-- The node is not ready, and was not since the task last connected. -/
def Withdrawn (trace : List Action) : Prop :=
  ∃ health instant, health.ready = false ∧ Since Action.Restarts (.published health instant) trace

/-- A session is replaced by a frame that does not resume it; an outage lasts a
minute. -/
def Cause.Justified (before : List Action) (instant : ℕ) : Cause → Prop
  | .replaced => ∃ earlier session, before = earlier ++ [.announced session false]
  | .outage since => LostAt since before ∧ since + 60000 ≤ instant

/-- What came before an action. -/
def Action.Lawful (before : List Action) : Action → Prop
  | .attempted _ => before = [] ∨ Withdrawn before
  | .published health _ => health.ready = true →
      health.session ≠ "" ∧ Since Patches (.patched health.session true) before
  | .invalidated cause instant => Established before ∧ cause.Justified before instant
  | .connected session =>
      (∃ earlier health instant, before = earlier ++ [.published health instant] ∧
        health.ready = true ∧ health.session = session) ∧
      ∀ other, Since Invalidates (.connected other) before → other = session
  | .announced _ _ | .patched _ _ | .payload => True

/-! ## What the server promises -/

/-- The session that a ready frame reports as resumed. -/
def Input.resumedSession : Input → Option String
  | .frame (.text (some value)) _ =>
      if (value.get "op").isStr "ready" ∧ (value.get "resumed").isTrue then
        (value.get "sessionId").asStr
      else none
  | _ => none

/-- The session that was offered on the open connection. -/
def Task.offered (task : Task) : Option String :=
  match task.phase with
  | .reading offered => some offered
  | _ => none

/-- A resumed session is the one that was offered on the connection. -/
def Input.Returns (task : Task) (input : Input) : Prop :=
  ∀ session ∈ input.resumedSession, ∀ offered ∈ task.offered, session = offered

/-- A resumed session is the one that was offered on the connection, and no other one
was taken up on it since. -/
def Input.Resumes (task : Task) (input : Input) : Prop :=
  ∀ session ∈ input.resumedSession, ∀ offered ∈ task.offered,
    session = offered ∧ task.state.session = offered

instance (task : Task) (input : Input) : Decidable (input.Returns task) :=
  inferInstanceAs (Decidable (∀ session ∈ input.resumedSession, ∀ offered ∈ task.offered,
    session = offered))

instance (task : Task) (input : Input) : Decidable (input.Resumes task) :=
  inferInstanceAs (Decidable (∀ session ∈ input.resumedSession, ∀ offered ∈ task.offered,
    session = offered ∧ task.state.session = offered))

/-! ## What the trace tells -/

/-- What the trace tells about the session that is held. -/
structure Told (state : Health) (outage : Option ℕ) (trace : List Action) : Prop where
  taken : ∀ session, Since Action.Invalidates (.connected session) trace →
    state.session ≠ "" ∧ session = state.session
  established : state.session ≠ "" → Established trace
  fresh : state.session ≠ "" → outage = none →
    state.ready = true ∧ ∃ session, Since Action.Withdraws (.connected session) trace
  lost : state.session ≠ "" → ∀ since, outage = some since → LostAt since trace

/-- A node that is ready has a session, and its PATCH went through. -/
def Backed (state : Health) (trace : List Action) : Prop :=
  state.ready = true →
    state.session ≠ "" ∧ Since Action.Patches (.patched state.session true) trace

/-- The task keeps the rule, and its trace tells what it will need. -/
structure Faithful (task : Task) : Prop where
  lawful : Always Action.Lawful task.trace
  told : task.phase ≠ .stopped → Told task.state task.outage task.trace
  backed : task.phase ≠ .stopped → Backed task.state task.trace
  withdrawn : ∀ until', task.phase = .waiting until' →
    task.state.ready = false ∧ Withdrawn task.trace

variable {state : Health} {outage : Option ℕ} {trace : List Action} {action : Action}
  {task : Task}

/-! ## The trace grows -/

theorem Established.concat (h : Established trace) (hkept : ¬ action.GivesUp) :
    Established (trace ++ [action]) := by
  obtain ⟨session, hsince⟩ := h
  exact ⟨session, hsince.append (by simpa using hkept)⟩

theorem LostAt.concat {since : ℕ} (h : LostAt since trace) (hconnects : ¬ action.Connects) :
    LostAt since (trace ++ [action]) := by
  obtain ⟨session, health, before, after, rfl, hready, hsince, hafter⟩ := h
  refine ⟨session, health, before, after ++ [action], by simp, hready, hsince, ?_⟩
  intro other hmem
  rcases List.mem_append.mp hmem with hmem | hmem
  · exact hafter other hmem
  · rw [List.mem_singleton.mp hmem]
    exact hconnects

theorem Withdrawn.concat (h : Withdrawn trace) (hrestarts : ¬ action.Restarts) :
    Withdrawn (trace ++ [action]) := by
  obtain ⟨health, instant, hready, hsince⟩ := h
  exact ⟨health, instant, hready, hsince.append (by simpa using hrestarts)⟩

theorem Backed.concat (h : Backed state trace) (hpatches : ¬ action.Patches) :
    Backed state (trace ++ [action]) := by
  intro hready
  obtain ⟨hsession, hsince⟩ := h hready
  exact ⟨hsession, hsince.append (by simpa using hpatches)⟩

/-- Nothing is taken up or given up, and the readiness is withdrawn only in an outage. -/
theorem Told.concat (h : Told state outage trace) (hconnects : ¬ action.Connects)
    (hkept : ¬ action.GivesUp) (hready : action.Withdraws → state.ready = false) :
    Told state outage (trace ++ [action]) where
  taken := by
    intro session hsince
    have hnone : Action.connected session ∉ [action] := by
      rintro hmem
      rw [← List.mem_singleton.mp hmem] at hconnects
      exact hconnects trivial
    exact h.taken session (hsince.of_append hnone).1
  established := fun hsession => (h.established hsession).concat hkept
  fresh := by
    intro hsession houtage
    obtain ⟨htrue, session, hsince⟩ := h.fresh hsession houtage
    refine ⟨htrue, session, hsince.append ?_⟩
    intro other hmem hwithdraws
    rw [List.mem_singleton.mp hmem] at hwithdraws
    rw [hready hwithdraws] at htrue
    cases htrue
  lost := fun hsession since houtage => (h.lost hsession since houtage).concat hconnects

/-- Another health with the same session and readiness. -/
theorem Told.congr {other : Health} (h : Told state outage trace)
    (hready : other.ready = state.ready)
    (hsession : other.session = state.session) : Told other outage trace where
  taken := hsession ▸ h.taken
  established := hsession ▸ h.established
  fresh := by
    rw [hready, hsession]
    exact h.fresh
  lost := hsession ▸ h.lost

/-- With an invalidation the session that is held may change. -/
theorem not_since_invalidated (trace : List Action) (cause : Cause) (instant : ℕ)
    (session : String) : ¬ Since Action.Invalidates (.connected session)
      (trace ++ [.invalidated cause instant]) := by
  intro hsince
  have hmem : Action.connected session ∈ [Action.invalidated cause instant] :=
    hsince.mem_of_barrier trivial
  simp at hmem

/-! ## The steps -/

theorem Task.withdraw_session (task : Task) :
    task.withdraw.state.session = task.state.session := rfl

theorem faithful_stop (h : Always Action.Lawful task.trace) : Faithful task.stop where
  lawful := h
  told := fun hphase => absurd rfl hphase
  backed := fun hphase => absurd rfl hphase
  withdrawn := by
    intro until' hphase
    cases hphase

/-- A message that does not go through stops the task. -/
theorem faithful_emit (h : Always Action.Lawful task.trace) (sent : Bool)
    (hsent : Faithful (task.act action)) : Faithful (task.emit action sent) := by
  cases sent with
  | true => exact hsent
  | false => exact faithful_stop h

theorem lawful_published (state : Health) (hready : state.ready = false) (now : ℕ) :
    (Action.published state now).Lawful trace := by
  intro htrue
  rw [hready] at htrue
  cases htrue

theorem withdrawn_published (hready : state.ready = false) (now : ℕ) :
    Withdrawn (trace ++ [.published state now]) :=
  ⟨state, now, hready, Trace.since_concat _ _ _⟩

theorem backed_of_not_ready (hready : state.ready = false) : Backed state trace := by
  intro htrue
  rw [hready] at htrue
  cases htrue

/-- The task is left without a session. -/
theorem told_none (hsession : state.session = "")
    (htaken : ∀ session, ¬ Since Action.Invalidates (.connected session) trace) :
    Told state outage trace where
  taken := fun session hsince => absurd hsince (htaken session)
  established := fun hne => absurd hsession hne
  fresh := fun hne => absurd hsession hne
  lost := fun hne => absurd hsession hne

/-- Without a session no outage is counted. -/
theorem Told.withdraw_empty (h : Told state outage trace) (health : Health)
    (hsame : health.session = state.session)
    (hsession : state.session = "") (now : ℕ) :
    Told health outage (trace ++ [.published health now]) := by
  apply told_none (hsame.trans hsession)
  intro session hsince
  exact (h.taken session (hsince.of_append (by simp)).1).1 hsession

/-- With a session held, the outage goes on or begins with the publication. -/
theorem Told.withdraw (h : Told state outage trace) (health : Health)
    (hready : health.ready = false) (hsame : health.session = state.session) (now : ℕ) :
    Told health (some (outage.getD now)) (trace ++ [.published health now]) where
  taken := by
    intro session hsince
    rw [hsame]
    exact h.taken session (hsince.of_append (by simp)).1
  established := by
    intro hsession
    rw [hsame] at hsession
    exact (h.established hsession).concat id
  fresh := by
    intro _ hnone
    cases hnone
  lost := by
    intro hsession since hsome
    rw [hsame] at hsession
    cases hsome
    cases houtage : outage with
    | none =>
        obtain ⟨-, session, hsince⟩ := h.fresh hsession houtage
        exact ⟨session, health, trace, [], rfl, hready, hsince, by simp⟩
    | some first => exact (h.lost hsession first houtage).concat id

/-- The session that is held is given up after a minute. -/
theorem Told.giveUp (task : Task) {since : ℕ} (h : Told task.state (some since) task.trace)
    (hlawful : Always Action.Lawful task.trace) (hready : task.state.ready = false)
    (hwithdrawn : Withdrawn task.trace) (hsession : task.state.session ≠ "")
    (hlong : since + 60000 ≤ task.now) (sent : Bool) : Faithful (task.giveUp since sent) := by
  rw [Task.giveUp]
  have hpublished : Always Action.Lawful
      (task.trace ++ [.published { task.state with session := "" } task.now]) :=
    hlawful.concat (lawful_published { task.state with session := "" } hready task.now)
  have hinvalidated : Action.Lawful
      (task.trace ++ [.published { task.state with session := "" } task.now])
      (.invalidated (.outage since) task.now) :=
    ⟨(h.established hsession).concat id, (h.lost hsession since rfl).concat id, hlong⟩
  refine faithful_emit hpublished sent ⟨hpublished.concat hinvalidated, ?_, ?_, ?_⟩
  · intro _
    exact told_none rfl (not_since_invalidated _ _ _)
  · intro _
    exact backed_of_not_ready hready
  · intro _ _
    refine ⟨hready, (hwithdrawn.concat ?_).concat id⟩
    intro htrue
    rw [show task.state.ready = true from htrue] at hready
    cases hready

/-- A connection ends, or an attempt fails. -/
theorem Told.lose (h : Told task.state task.outage task.trace)
    (hlawful : Always Action.Lawful task.trace) (sent : Bool) : Faithful (task.lose sent) := by
  have hpublished : Always Action.Lawful task.withdraw.trace :=
    hlawful.concat (lawful_published _ rfl task.now)
  have hwithdrawn : Withdrawn task.withdraw.trace := withdrawn_published rfl task.now
  rw [Task.lose]
  by_cases hsession : task.state.session = ""
  · rw [if_pos (by simpa [Task.withdraw_session] using hsession)]
    exact ⟨hpublished, fun _ => h.withdraw_empty task.withdraw.state rfl hsession _,
      fun _ => backed_of_not_ready rfl, fun _ _ => ⟨rfl, hwithdrawn⟩⟩
  · rw [if_neg (by simpa [Task.withdraw_session] using hsession)]
    have htold := h.withdraw task.withdraw.state rfl rfl task.now
    show Faithful (if task.now - task.outage.getD task.now < 60000 then _ else _)
    split
    · exact ⟨hpublished, fun _ => htold, fun _ => backed_of_not_ready rfl,
        fun _ _ => ⟨rfl, hwithdrawn⟩⟩
    · rename_i hlong
      have hexpired : task.outage.getD task.now + 60000 ≤ task.now := by omega
      exact Told.giveUp { task.withdraw with outage := some (task.outage.getD task.now) } htold
        hpublished rfl hwithdrawn hsession hexpired sent

/-- The session of a PATCH that went through is published, and then taken up. -/
theorem faithful_takeUp {session : String} (hlawful : Always Action.Lawful task.trace)
    (hsession : session ≠ "") (hreading : ∀ until', task.phase ≠ .waiting until')
    (hpatched : Since Action.Patches (.patched session true) task.trace)
    (htaken : ∀ other, Since Action.Invalidates (.connected other) task.trace → other = session)
    (sent : Bool) : Faithful (task.takeUp session sent) := by
  let health : Health := { task.state with
    session := session, ready := true, connections := task.state.connections + 1 }
  let shown := task.trace ++ [.published health task.now]
  have hpublished : Always Action.Lawful shown :=
    hlawful.concat (fun _ => ⟨hsession, hpatched⟩)
  have htaken' : ∀ other, Since Action.Invalidates (.connected other) shown → other = session :=
    fun other hsince => htaken other (hsince.of_append (by simp)).1
  have hconnected : Action.Lawful shown (.connected session) :=
    ⟨⟨task.trace, health, task.now, rfl, rfl, rfl⟩, htaken'⟩
  refine faithful_emit hpublished sent ⟨hpublished.concat hconnected, ?_, ?_, ?_⟩
  · intro _
    refine ⟨?_, ?_, ?_, ?_⟩
    · intro other hsince
      refine ⟨hsession, ?_⟩
      show other = session
      by_contra hne
      have hnone : Action.connected other ∉ [Action.connected session] := by
        simpa using hne
      exact hne (htaken' other (hsince.of_append hnone).1)
    · intro _
      exact ⟨session, Trace.since_concat _ _ _⟩
    · intro _ _
      exact ⟨rfl, session, Trace.since_concat _ _ _⟩
    · intro _ since hsome
      cases hsome
  · intro _ _
    refine ⟨hsession, (hpatched.append ?_).append ?_⟩
    · simp [Action.Patches]
    · simp [Action.Patches]
  · intro until' hphase
    exact absurd hphase (hreading until')

theorem validSession_ne_empty {session : String} (h : validSession session = true) :
    session ≠ "" := by
  rintro rfl
  simp [validSession] at h

/-- Before the PATCH of another session the guild sessions are told that theirs is
gone. -/
theorem Faithful.announce {session : String} {resumed : Bool} (h : Faithful task)
    {offered : String} (hphase : task.phase = .reading offered)
    (hresumed : resumed = true → task.state.session = session) (sent : Bool) :
    let after := task.announce session resumed sent
    Always Action.Lawful after.trace ∧ (after.phase = .stopped ∨ after.phase = .reading offered ∧
      Told after.state after.outage after.trace ∧
      ∀ other, Since Action.Invalidates (.connected other) after.trace → other = session) := by
  have hrunning : task.phase ≠ .stopped := by simp [hphase]
  have hannounced : Always Action.Lawful (task.act (.announced session resumed)).trace :=
    h.lawful.concat trivial
  have htold : Told task.state task.outage (task.act (.announced session resumed)).trace :=
    (h.told hrunning).concat id id False.elim
  rw [Task.announce]
  split
  · rename_i hgone
    obtain ⟨hheld, rfl⟩ : task.state.session ≠ "" ∧ resumed = false := by
      simpa [Task.act] using hgone
    have hinvalidated : Action.Lawful (task.act (.announced session false)).trace
        (.invalidated .replaced task.now) :=
      ⟨htold.established hheld, task.trace, session, rfl⟩
    cases sent with
    | false => exact ⟨hannounced, Or.inl rfl⟩
    | true =>
        refine ⟨hannounced.concat hinvalidated, Or.inr ⟨hphase, ?_, ?_⟩⟩
        · exact htold.concat id id False.elim
        · intro other hsince
          exact absurd hsince (not_since_invalidated _ _ _ _)
  · rename_i hkept
    refine ⟨hannounced, Or.inr ⟨hphase, htold, ?_⟩⟩
    intro other hsince
    obtain ⟨hheld, rfl⟩ := htold.taken other hsince
    have htrue : resumed = true := by
      simpa [Task.act, hheld] using hkept
    exact hresumed htrue

/-- A ready frame: its session is taken up after its PATCH, or the connection ends. -/
theorem Faithful.ready (h : Faithful task) {offered : String}
    (hphase : task.phase = .reading offered) (value : Value) (handling : Handling)
    (hresumed : ∀ session, (value.get "resumed").isTrue = true →
      (value.get "sessionId").asStr = some session → task.state.session = session) :
    Faithful (task.ready value handling) := by
  have hrunning : task.phase ≠ .stopped := by simp [hphase]
  rw [Task.ready]
  cases hread : (value.get "sessionId").asStr.filter validSession with
  | none => exact (h.told hrunning).lose h.lawful handling.sent
  | some session =>
      obtain ⟨hsession, hvalid⟩ := Option.filter_eq_some_iff.mp hread
      obtain ⟨hlawful, hafter⟩ := h.announce hphase
        (fun htrue => hresumed session htrue hsession) handling.invalidatedSent
      dsimp only
      generalize task.announce session (value.get "resumed").isTrue handling.invalidatedSent =
        after at hlawful hafter
      split
      · rename_i hstopped
        exact ⟨hlawful, fun hne => absurd hstopped hne, fun hne => absurd hstopped hne,
          fun until' hwaiting => absurd (hstopped.symm.trans hwaiting) (by simp)⟩
      · rename_i hgoing
        obtain ⟨hreading, htold, htaken⟩ := hafter.resolve_left hgoing
        have hpatched : Always Action.Lawful
            ((after.pass handling.elapsed).act (.patched session handling.patched)).trace :=
          hlawful.concat trivial
        have htold' : Told after.state after.outage
            ((after.pass handling.elapsed).act (.patched session handling.patched)).trace :=
          htold.concat id id False.elim
        split
        · rename_i haccepted
          refine faithful_takeUp hpatched (validSession_ne_empty hvalid) ?_ ?_ ?_ handling.sent
          · intro until'
            show after.phase ≠ _
            simp [hreading]
          · rw [haccepted]
            exact Trace.since_concat _ _ _
          · intro other hsince
            exact htaken other (hsince.of_append (by simp)).1
        · exact Told.lose htold' hpatched handling.sent

/-- The task goes on without an action. -/
theorem Faithful.keep (h : Faithful task) {after : Task} (hstate : after.state = task.state)
    (houtage : after.outage = task.outage) (htrace : after.trace = task.trace)
    (hrunning : task.phase ≠ .stopped)
    (hwaiting : ∀ until', after.phase = .waiting until' → task.phase = .waiting until') :
    Faithful after where
  lawful := htrace ▸ h.lawful
  told := by
    rw [hstate, houtage, htrace]
    exact fun _ => h.told hrunning
  backed := by
    rw [hstate, htrace]
    exact fun _ => h.backed hrunning
  withdrawn := by
    rw [hstate, htrace]
    exact fun until' hphase => h.withdrawn until' (hwaiting until' hphase)

theorem Faithful.text (h : Faithful task) {offered : String}
    (hphase : task.phase = .reading offered) (value : Value) (handling : Handling)
    (hresumed : ∀ session, (value.get "op").isStr "ready" = true →
      (value.get "resumed").isTrue = true → (value.get "sessionId").asStr = some session →
      task.state.session = session) : Faithful (task.text value handling) := by
  have hrunning : task.phase ≠ .stopped := by simp [hphase]
  have hwaiting : ∀ until', task.phase ≠ .waiting until' := by simp [hphase]
  rw [Task.text]
  split
  · rename_i hready
    exact h.ready hphase value handling (fun session => hresumed session hready)
  split
  · -- The window is published; the session and the readiness are as they were.
    let health : Health := { task.state with
      audio := task.state.audio.observe task.now (value.get "frameStats") }
    have htold : Told health task.outage task.trace := (h.told hrunning).congr rfl rfl
    refine ⟨h.lawful.concat (h.backed hrunning), ?_, ?_, ?_⟩
    · intro _
      exact htold.concat id id id
    · intro _
      exact Backed.concat (h.backed hrunning) id
    · intro until' hphase'
      exact absurd hphase' (hwaiting until')
  split
  · refine faithful_emit h.lawful _ ⟨h.lawful.concat trivial, ?_, ?_, ?_⟩
    · intro _
      exact (h.told hrunning).concat id id False.elim
    · intro _
      exact (h.backed hrunning).concat id
    · intro until' hphase'
      exact absurd hphase' (hwaiting until')
  · exact h

theorem Faithful.read (h : Faithful task) {offered : String}
    (hphase : task.phase = .reading offered) (frame : Frame) (handling : Handling)
    (hresumes : (Input.frame frame handling).Resumes task) :
    Faithful (task.read frame handling) := by
  have hlose : Faithful (task.lose handling.sent) :=
    (h.told (by simp [hphase])).lose h.lawful handling.sent
  cases frame with
  | ping answered =>
      cases answered with
      | true => exact h
      | false => exact hlose
  | text value =>
      cases value with
      | none => exact hlose
      | some value =>
          apply h.text hphase value handling
          intro session hop hresumed hsession
          have hoffered : offered ∈ task.offered := by simp [Task.offered, hphase]
          obtain ⟨rfl, hheld⟩ := hresumes session (by
            simp [Input.resumedSession, hop, hresumed, hsession]) offered hoffered
          exact hheld
  | close => exact hlose
  | other => exact h

/-- The second passed: the node is known not to be ready, and the task connects. -/
theorem Faithful.attempt (h : Faithful task) {until' : ℕ} (hphase : task.phase = .waiting until') :
    Faithful task.attempt where
  lawful := h.lawful.concat (Or.inr (h.withdrawn until' hphase).2)
  told := fun _ => (h.told (by simp [hphase])).concat id id False.elim
  backed := fun _ => (h.backed (by simp [hphase])).concat id
  withdrawn := by
    intro instant hwaiting
    cases hwaiting

theorem Faithful.step (h : Faithful task) (input : Input) (hresumes : input.Resumes task) :
    Faithful (task.step input) := by
  unfold Task.step
  split
  · exact h
  · rename_i hrunning
    exact h.keep rfl rfl rfl (fun hstopped => hrunning hstopped) (fun _ hwaiting => hwaiting)
  · exact faithful_stop h.lawful
  · rename_i hphase
    exact h.keep rfl rfl rfl (by simp [hphase]) (fun _ hwaiting => by cases hwaiting)
  · rename_i hphase
    exact (h.told (by simp [hphase])).lose h.lawful _
  · rename_i hphase
    exact h.read hphase _ _ hresumes
  · rename_i hphase
    exact (h.told (by simp [hphase])).lose h.lawful _
  · rename_i hphase
    split
    · exact h
    · exact h.attempt hphase
  · exact h

theorem faithful_start (now : ℕ) : Faithful (.start now) where
  lawful := (Trace.always_nil _).concat (Or.inl rfl)
  told := by
    intro _
    apply told_none rfl
    intro session hsince
    have hmem := hsince.mem
    simp [Task.start, Task.attempt, Task.act] at hmem
  backed := fun _ => backed_of_not_ready rfl
  withdrawn := by
    intro until' hwaiting
    cases hwaiting

/-! ## Runs -/

/-- A session is taken up after it was published as ready, which it is only after its
PATCH, and another one only after an invalidation; there are invalidations only of a
session that was taken up and not given up, for a frame that replaces it or an outage
of a minute; and before the task connects again the node is not ready any more. -/
theorem run_lawful (now : ℕ) (inputs : List Input)
    (h : Runs.Along Task.step (fun task input => input.Resumes task) (.start now) inputs) :
    Always Action.Lawful (Runs.run Task.step (.start now) inputs).trace :=
  (h.invariant Faithful (fun _ input hresumes hfaithful => hfaithful.step input hresumes)
    (faithful_start now)).lawful

namespace Sample

/-- A ready frame. -/
def ready (session : String) (resumed : Bool) : Input :=
  .frame (.text (some (.object [("op", .string "ready"), ("sessionId", .string session),
    ("resumed", .bool resumed)]))) {}

/-- The connection is lost, and a second later there is another one. -/
def reconnect : List Input := [.lost true, .pass 1000, .wake, .connect true true]

/-- After a reconnection another session is taken up, and then the connection reports
that it resumed the one that was offered. -/
def overtaken : List Input :=
  [.connect true true, ready "a" false] ++ reconnect ++ [ready "b" false, ready "a" true]

end Sample

/-- A session that is resumed after a reconnection. -/
theorem run_lawful_resumed : Always Action.Lawful (Runs.run Task.step (.start 0)
    ([.connect true true, Sample.ready "a" false] ++ Sample.reconnect ++
      [Sample.ready "a" true])).trace :=
  run_lawful 0 _ (by decide +kernel)

/-- Every resumed session was the one offered on its connection; still the session that
was taken up in between is replaced without an invalidation. -/
theorem overtaken_unlawful :
    Runs.Along Task.step (fun task input => input.Returns task) (.start 0) Sample.overtaken ∧
      ¬ Always Action.Lawful (Runs.run Task.step (.start 0) Sample.overtaken).trace := by
  refine ⟨by decide +kernel, ?_⟩
  intro hlawful
  let trace := (Runs.run Task.step (.start 0) Sample.overtaken).trace
  let shown : List Action := [.announced "a" true, .patched "a" true,
    .published ⟨true, "a", 3, 1, .default⟩ 1000]
  have htrace : trace = (trace.take 11 ++ .connected "b" :: shown) ++ .connected "a" :: [] := by
    decide +kernel
  have hsame : "b" = "a" := by
    refine (hlawful _ _ _ htrace).2 "b" ⟨trace.take 11, shown, rfl, ?_⟩
    simp [shown, Action.Invalidates]
  simp at hsame

end Raydio.Node
