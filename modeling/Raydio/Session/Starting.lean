/-
# The rule for starting the current track

`start_current` attempts, fails over and attempts again. What holds after it
follows from what one attempt and one failover preserve; the induction over the
rounds is made once, in `startLoop_rule`.
-/

import Raydio.Session.Quiet

namespace Raydio.Session

open Raydio.Foundation Raydio.Playback

/-- The course with which an attempt to start begins. -/
def Course.begun (self : Course) : Course :=
  { self with
    generation := wrappingSucc self.generation, starts := self.starts + 1, paused := false }

/-- The course after the queue was advanced past an ended track. -/
def Course.advanced (self : Course) (kind : Advance.Kind) (queue : Queue) : Course :=
  { self with
    queue := queue
    advances := self.advances ++ [⟨kind, self.generation, self.starts⟩] }

namespace GuildSession

variable (self : GuildSession)

/-! ## One round -/

/-- The update of an attempt. -/
theorem attemptStart_update :
    self.attemptStart.1 = (self.shared.update self.beginStart.startPatch).1 ∧
      self.attemptStart.2.shared = (self.shared.update self.beginStart.startPatch).2 :=
  ⟨rfl, rfl⟩

/-- The update of an attempt starts a track exactly if one is current. -/
theorem startPatch_startsTrack :
    self.beginStart.startPatch.startsTrack = self.queue.current.isSome := by
  have hqueue : self.beginStart.queue.current = self.queue.current := rfl
  rw [startPatch, hqueue]
  cases self.queue.current <;> rfl

/-- A failover advances the queue, and otherwise at most sends a notice. -/
theorem failOver_spec :
    self.failOver.toPipeline = self.toPipeline ∧ self.failOver.id = self.id ∧
      self.failOver.course = self.course.advanced .fail self.queue.failed ∧
      Shared.Drifts self.shared self.failOver.shared := by
  have hadvance : (self.advance .fail).course = self.course.advanced .fail self.queue.failed := by
    show ({ self.course with
      queue := self.queue.fail.value self.queue.fail_returns
      advances := self.advances ++ [⟨.fail, self.generation, self.starts⟩] } : Course) = _
    rw [Queue.value_fail]
    rfl
  rw [failOver]
  dsimp only
  split
  · have hquiet := quiet_notify (advance { self with
      events.failed := saturatingAdd self.events.failed 1 } .fail) failureNotice
    exact ⟨hquiet.pipeline, hquiet.id, hquiet.course.trans hadvance, hquiet.shared⟩
  · exact ⟨rfl, rfl, hadvance, .refl _⟩

/-! ## All rounds -/

/-- What one round preserves, the whole loop preserves. -/
theorem startLoop_rule (Before After : GuildSession → Prop)
    (accepted : ∀ session, Before session → session.attemptStart.1 = true →
      After session.attemptStart.2.settleStart)
    (stopped : ∀ session, Before session → session.attemptStart.1 = false →
      session.queue.current = none →
      After { session.attemptStart.2 with idleAt := some session.attemptStart.2.now })
    (refused : ∀ session, Before session → session.attemptStart.1 = false →
      session.queue.current.isSome → Before session.attemptStart.2.failOver)
    {rounds : ℕ} (failed : Bool) (hrounds : self.queue.startsLeft < rounds)
    (hbefore : Before self) : After (self.startLoop failed rounds).2 := by
  induction rounds generalizing self failed with
  | zero => exact absurd hrounds (Nat.not_lt_zero _)
  | succ rounds ih =>
      rw [startLoop]
      dsimp only
      split
      · rename_i haccepted
        exact accepted self hbefore haccepted
      · rename_i hrefused
        rw [Bool.not_eq_true] at hrefused
        split
        · rename_i hcurrent
          apply ih
          · exact Nat.lt_of_lt_of_le (startsLeft_failOver_lt hcurrent)
              (Nat.le_of_lt_succ hrounds)
          · exact refused self hbefore hrefused hcurrent
        · rename_i hcurrent
          exact stopped self hbefore hrefused (Option.not_isSome_iff_eq_none.mp hcurrent)

theorem startCurrent_rule (Before After : GuildSession → Prop)
    (accepted : ∀ session, Before session → session.attemptStart.1 = true →
      After session.attemptStart.2.settleStart)
    (stopped : ∀ session, Before session → session.attemptStart.1 = false →
      session.queue.current = none →
      After { session.attemptStart.2 with idleAt := some session.attemptStart.2.now })
    (refused : ∀ session, Before session → session.attemptStart.1 = false →
      session.queue.current.isSome → Before session.attemptStart.2.failOver)
    (hbefore : Before self) : After self.startCurrent.2 :=
  self.startLoop_rule Before After accepted stopped refused false (Nat.lt_succ_self _) hbefore

/-- A fact that no round touches. -/
theorem startCurrent_keeps (Fact : GuildSession → Prop)
    (attempt : ∀ session, Fact session → Fact session.attemptStart.2)
    (idle : ∀ session at', Fact session → Fact { session with idleAt := at' })
    (failOver : ∀ session, Fact session → Fact session.failOver)
    (hbefore : Fact self) : Fact self.startCurrent.2 :=
  self.startCurrent_rule Fact Fact
    (fun session h _ => idle _ _ (attempt session h))
    (fun session h _ _ => idle _ _ (attempt session h))
    (fun session h _ _ => failOver _ (attempt session h)) hbefore

theorem startCurrent_pipeline : self.startCurrent.2.toPipeline = self.toPipeline := by
  apply startCurrent_keeps self (fun session => session.toPipeline = self.toPipeline)
  · intro session h
    exact h
  · intro session at' h
    exact h
  · intro session h
    exact session.failOver_spec.1.trans h
  · rfl

/-- Starting leaves the voice channel and the volume alone. -/
theorem startCurrent_channel :
    self.startCurrent.2.channel = self.channel ∧ self.startCurrent.2.volume = self.volume := by
  apply startCurrent_keeps self
    (fun session => session.channel = self.channel ∧ session.volume = self.volume)
  · intro session h
    exact h
  · intro session at' h
    exact h
  · intro session h
    have hcourse := session.failOver_spec.2.2.1
    exact ⟨(congrArg Course.channel hcourse).trans h.1,
      (congrArg Course.volume hcourse).trans h.2⟩
  · exact ⟨rfl, rfl⟩

theorem later_update (shared : Shared) (patch : Patch) :
    Shared.Later shared (shared.update patch).2 := by
  cases h : (shared.update patch).1
  · exact (Shared.drifts_update h).toLater
  · exact (Shared.applies_update h).later

theorem startCurrent_later : Shared.Later self.shared self.startCurrent.2.shared := by
  apply startCurrent_keeps self (fun session => Shared.Later self.shared session.shared)
  · intro session h
    exact h.trans (later_update _ _)
  · intro session at' h
    exact h
  · intro session h
    exact h.trans session.failOver_spec.2.2.2.toLater
  · exact .refl _

/-- With nothing current there is one attempt, which leaves the queue alone. -/
theorem startCurrent_of_none (h : self.queue.current = none) :
    self.startCurrent.2.queue = self.queue := by
  have hleft : self.queue.startsLeft = 0 := by
    simp [Queue.startsLeft, h]
  rw [startCurrent, hleft, startLoop]
  dsimp only
  split
  · rfl
  · rw [attemptStart_queue, h]
    rfl

end GuildSession

end Raydio.Session
