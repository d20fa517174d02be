/-
# The idle timer runs exactly while nothing plays

Without a voice channel a session is as good as new: nothing is queued and no timer
runs. In a voice channel the idle timer runs exactly while there is no current track,
and only a current track can be paused.
-/

import Raydio.Session.Generations

namespace Raydio.Session

open Raydio.Foundation Raydio.Playback GuildSession

/-- The timers, the credentials and the pause go with the channel and the queue. -/
structure Course.Timed (course : Course) : Prop where
  away : course.channel = none →
    course.queue = .default ∧ course.idleAt = none ∧ course.aloneAt = none
  idle : course.channel.isSome → (course.idleAt.isSome ↔ course.queue.current = none)
  credentials : course.credentials.isSome = course.channel.isSome
  paused : course.paused = true → course.queue.current.isSome

namespace Course

variable {limit : ℕ} {ends : ℕ → Prop} {before after : Course}

theorem Edit.timed (h : Edit limit before after) (hbefore : before.Timed) : after.Timed := by
  cases h with
  | queue queue live current admitted =>
      constructor
      · intro hnone
        have hnone : before.channel = none := hnone
        rw [hnone] at live
        cases live
      · intro hlive
        show before.idleAt.isSome ↔ queue.current = none
        rw [current]
        exact hbefore.idle hlive
      · exact hbefore.credentials
      · intro hpaused
        show queue.current.isSome
        rw [current]
        exact hbefore.paused hpaused
  | alone at' live =>
      refine ⟨?_, hbefore.idle, hbefore.credentials, hbefore.paused⟩
      intro hnone
      obtain ⟨hqueue, hidle, -⟩ := hbefore.away hnone
      exact ⟨hqueue, hidle, live hnone⟩
  | playing current =>
      refine ⟨?_, ?_, hbefore.credentials, hbefore.paused⟩
      · intro hnone
        obtain ⟨hqueue, -, halone⟩ := hbefore.away hnone
        exact ⟨hqueue, rfl, halone⟩
      · intro _
        constructor
        · intro habsurd
          cases habsurd
        · intro hnone
          have hnone : before.queue.current = none := hnone
          rw [hnone] at current
          cases current
  | idle at' live current =>
      refine ⟨?_, ?_, hbefore.credentials, hbefore.paused⟩
      · intro hnone
        have hnone : before.channel = none := hnone
        rw [hnone] at live
        cases live
      · intro _
        exact ⟨fun _ => current, fun _ => rfl⟩

theorem Steer.timed {patch : Patch} (h : Steer patch before after) (hbefore : before.Timed) :
    after.Timed := by
  cases h with
  | pause before paused current =>
      exact ⟨hbefore.away, hbefore.idle, hbefore.credentials, fun _ => current⟩
  | volume before volume live =>
    exact ⟨hbefore.away, hbefore.idle, hbefore.credentials, hbefore.paused⟩
  | voice before voice credentials live =>
      exact ⟨hbefore.away, hbefore.idle, live.symm, hbefore.paused⟩
  | join before voice channel credentials at' fresh =>
      obtain ⟨hqueue, -, -⟩ := hbefore.away fresh
      refine ⟨?_, ?_, rfl, hbefore.paused⟩
      · intro habsurd
        cases habsurd
      · intro _
        refine ⟨fun _ => ?_, fun _ => rfl⟩
        show before.queue.current = none
        rw [hqueue]
        rfl

theorem timed_left (course : Course) (volume : ℕ) : (course.left volume).Timed where
  away _ := ⟨rfl, rfl, rfl⟩
  idle habsurd := by cases habsurd
  credentials := rfl
  paused habsurd := by cases habsurd

/-- A session begins without a voice channel. -/
theorem timed_new (id : ℕ) (shared : Shared) : (GuildSession.new id shared).course.Timed where
  away _ := ⟨rfl, rfl, rfl⟩
  idle habsurd := by cases habsurd
  credentials := rfl
  paused habsurd := by cases habsurd

theorem Timed.halted (h : before.Timed) (at' : ℕ) : (before.halted at').Timed where
  away hnone := by
    have hnone : before.channel = none := hnone
    obtain ⟨hqueue, hidle, halone⟩ := h.away hnone
    refine ⟨?_, ?_, halone⟩
    · show before.queue.stop = .default
      rw [hqueue]
      rfl
    · show (if before.channel.isSome then some at' else before.idleAt) = none
      rw [hnone]
      exact hidle
  idle hlive := by
    have hlive : before.channel.isSome := hlive
    refine ⟨fun _ => rfl, fun _ => ?_⟩
    show (if before.channel.isSome then some at' else before.idleAt).isSome
    rw [if_pos hlive]
    rfl
  credentials := h.credentials
  paused habsurd := by cases habsurd

/-- Tracks are started in a voice channel only. -/
theorem Select.channel_isSome (h : Select ends limit before after) (hbefore : before.Timed) :
    after.channel.isSome := by
  rw [h.channel]
  rcases h.live with hlive | hcurrent
  · exact hlive
  · by_contra hnone
    rw [Option.not_isSome_iff_eq_none] at hnone
    rw [(hbefore.away hnone).1] at hcurrent
    cases hcurrent

theorem Select.credentials_isSome (h : Select ends limit before after) (hbefore : before.Timed) :
    after.credentials.isSome := by
  rw [h.credentials, hbefore.credentials, ← h.channel]
  exact h.channel_isSome hbefore

end Course

namespace GuildSession

variable (self : GuildSession)

/-- Starting what is current sets the idle timer as the outcome needs. -/
theorem startCurrent_timed (live : self.channel.isSome)
    (credentials : self.credentials.isSome) : self.startCurrent.2.course.Timed := by
  apply startCurrent_rule self
    (fun session => session.channel.isSome ∧ session.credentials.isSome)
    (fun session => session.course.Timed)
  · intro session ⟨hlive, hcredentials⟩ _
    constructor
    · intro hnone
      have hnone : session.channel = none := hnone
      rw [hnone] at hlive
      cases hlive
    · intro _
      show (if session.queue.current.isNone then some _ else none).isSome ↔
        session.queue.current = none
      cases session.queue.current <;> simp
    · exact hcredentials.trans hlive.symm
    · intro habsurd
      cases habsurd
  · intro session ⟨hlive, hcredentials⟩ _ hnone
    constructor
    · intro hchannel
      have hchannel : session.channel = none := hchannel
      rw [hchannel] at hlive
      cases hlive
    · intro _
      exact ⟨fun _ => hnone, fun _ => rfl⟩
    · exact hcredentials.trans hlive.symm
    · intro habsurd
      cases habsurd
  · intro session ⟨hlive, hcredentials⟩ _ _
    have hcourse := session.attemptStart.2.failOver_spec.2.2.1
    have hchannel : session.attemptStart.2.failOver.channel = session.channel :=
      congrArg Course.channel hcourse
    have hsame : session.attemptStart.2.failOver.credentials = session.credentials :=
      congrArg Course.credentials hcourse
    rw [hchannel, hsame]
    exact ⟨hlive, hcredentials⟩
  · exact ⟨live, credentials⟩

theorem Move.timed {ends : ℕ → Prop} {before after : GuildSession} (h : Move ends before after)
    (hbefore : before.course.Timed) : after.course.Timed := by
  cases h with
  | quiet h => exact h.course ▸ hbefore
  | request course _ _ _ => exact course ▸ hbefore
  | edit _ _ _ edit => exact edit.timed hbefore
  | steer _ _ _ steer => exact steer.timed hbefore
  | leave _ _ _ course => exact course ▸ Course.timed_left _ _
  | clear _ _ _ _ course => exact course ▸ hbefore
  | halt _ _ _ _ at' course => exact course ▸ hbefore.halted at'
  | restart _ _ _ select =>
      exact startCurrent_timed _ (select.channel_isSome hbefore)
        (select.credentials_isSome hbefore)

end GuildSession

namespace Worker

/-- In every state of a run between two handlers: without a voice channel the queue is
empty and no timer runs; in a voice channel the idle timer runs exactly while there is
no current track; there are credentials exactly in a voice channel; and what is paused
is a current track. -/
theorem run_timed (id : ℕ) (shared : Shared) (inputs : List Input) :
    ((start id shared).run inputs).Holds (fun session =>
      (session.channel = none →
        session.queue = .default ∧ session.idleAt = none ∧ session.aloneAt = none) ∧
      (session.channel.isSome → (session.idleAt.isSome ↔ session.queue.current = none)) ∧
      (session.credentials.isSome = session.channel.isSome) ∧
      (session.paused = true → session.queue.current.isSome)) fun _ => True := by
  have hholds := run_rule (fun session => session.course.Timed) (fun _ => True) ?_ ?_
    (start id shared) inputs (along_true _ _) ?_
  · cases hrun : (start id shared).run inputs with
    | running session =>
        rw [hrun] at hholds
        obtain ⟨away, idle, credentials, paused⟩ := hholds
        exact ⟨away, idle, credentials, paused⟩
    | ended session => trivial
  · intro session input after _ htimed hmoves
    refine hmoves.invariant (fun session => session.course.Timed)
      (fun _ _ move hbefore => move.timed hbefore) ?_
    rw [input.ready_course]
    exact htimed
  · intro session cut _
    trivial
  · exact Course.timed_new id shared

end Worker

end Raydio.Session
