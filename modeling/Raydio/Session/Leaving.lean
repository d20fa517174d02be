/-
# Why a session leaves its voice channel

In every run the voice channel of a session is the one that the gateway was asked for last,
as long as the gateway is open; and a session that leaves on its own was idle, or had no
listeners, for as long as it is configured to wait.
-/

import Raydio.Session.Tenure

namespace Raydio.Session

open Raydio.Foundation Raydio.Playback Raydio.Voice GuildSession

/-! ## What a run keeps -/

/-- An input during which the gateway is not closed. -/
def Input.Open : Input → Prop
  | .outside (.pass moment) => moment.Open
  | .outside _ => True
  | .turn _ script _ _ => ∀ moment ∈ script, moment.Open
  | .close script _ _ => ∀ moment ∈ script, moment.Open

namespace GuildSession

variable (self : GuildSession) {first second third : GuildSession}

/-- From one moment of a run to a later one: the instants since when nothing plays and since
when nobody listens are kept, unless they lie in between. -/
structure Lasts (first second : GuildSession) : Prop where
  later : first.now ≤ second.now
  idle : ∀ t, second.idleAt = some t → first.idleAt = some t ∨ first.now ≤ t
  alone : ∀ t, second.aloneAt = some t → first.aloneAt = some t ∨ first.now ≤ t

theorem Stays.lasts (h : Stays first second) : Lasts first second :=
  ⟨h.passes.later, h.idle, h.alone⟩

theorem Lasts.refl : Lasts self self := (Stays.refl self).lasts

theorem Lasts.trans (h : Lasts first second) (h' : Lasts second third) : Lasts first third where
  later := h.later.trans h'.later
  idle := kept_or_set_trans h.later h.idle h'.idle
  alone := kept_or_set_trans h.later h.alone h'.alone

/-- What an arm takes is neither an instant nor a channel. -/
theorem stays_accepted (arm : Arm) : Stays (self.accepted arm) self := by
  cases arm <;> exact .keep rfl rfl rfl (.of_eq rfl rfl rfl rfl)

theorem stays_outside (move : Outside) :
    Stays (Input.ready self (.outside move)) (self.outside move) := by
  cases move <;> exact .keep rfl rfl rfl (.of_eq rfl rfl rfl rfl)

end GuildSession

namespace Input

variable (session : GuildSession) (input : Input)

theorem ready_asked : (input.ready session).shared.asked = session.shared.asked := by
  apply Shared.asked_of_calls
  cases input with
  | outside move =>
      cases move with
      | pass moment => exact session.shared.calls_pass moment
      | _ => rfl
  | turn arm script random cut => cases arm <;> rfl
  | close script random cut => rfl

theorem ready_channel : (input.ready session).channel = session.channel :=
  congrArg Course.channel (input.ready_course session)

/-- The gateway stays open when an input is taken. -/
theorem Open.ready {session : GuildSession} {input : Input} (h : input.Open)
    (hsession : session.shared.Open) : (input.ready session).shared.Open := by
  cases input with
  | outside move =>
      cases move with
      | pass moment => exact hsession.pass h
      | _ => exact hsession
  | turn arm script random cut => cases arm <;> exact ⟨hsession.gateway, h⟩
  | close script random cut => exact ⟨hsession.gateway, h⟩

end Input

namespace Worker

variable (session : GuildSession) (input : Input)

/-- What follows a handler in its turn. -/
theorem stays_turn {session : GuildSession} {arm : Arm} {script : List Moment} {random : List ℕ}
    {handled : GuildSession} (cut : ℕ)
    (hhandled : (session.prepare script random).handle arm = some handled) :
    Stays handled ((running session).step (.turn arm script random cut)).session := by
  by_cases hgone : handled.followUp.guild.isNone = true
  · simp only [step, hhandled, if_pos hgone]
    exact (stays_close _ cut).after handled.stays_followUp
  · simp only [step, hhandled, if_neg hgone]
    exact handled.stays_followUp

/-- A step of a running worker: nothing happens, or its session stays. -/
theorem step_stays : (running session).step input = running session ∨
    Stays (input.ready session) ((running session).step input).session := by
  cases input with
  | outside move => exact .inr (session.stays_outside move)
  | close script random cut => exact .inr (stays_close _ cut)
  | turn arm script random cut =>
      cases hhandled : (session.prepare script random).handle arm with
      | none =>
          apply Or.inl
          simp only [step, hhandled]
      | some handled =>
          exact .inr ((stays_turn cut hhandled).after
            ((stays_handle _ hhandled).after (stays_accepted _ arm)))

theorem holds_session (P : GuildSession → Prop) (worker : Worker) :
    worker.Holds P P ↔ P worker.session := by
  cases worker <;> exact .rfl

/-- What every step preserves of the session, a run preserves of it. -/
theorem run_session (P : GuildSession → Prop) {condition : Input → Prop}
    (step : ∀ session input, condition input → P session →
      P ((running session).step input).session)
    (worker : Worker) {inputs : List Input} (hinputs : ∀ input ∈ inputs, condition input)
    (hworker : P worker.session) : P (worker.run inputs).session := by
  apply (holds_session P _).mp
  refine run_steps P P ?_ worker inputs (along_of_forall hinputs worker)
    ((holds_session P worker).mpr hworker)
  intro session input hinput hsession
  exact (holds_session P _).mpr (step session input hinput hsession)

/-! ## The channel that was asked for -/

/-- The channel of the session is the one that was asked for last. -/
def Told (session : GuildSession) : Prop :=
  ∀ c, session.channel = some c → session.shared.asked = some c

theorem step_told (h : Told session) : Told ((running session).step input).session := by
  rcases step_stays session input with hsame | hstays
  · rw [hsame]
    exact h
  · apply hstays.told
    intro c hc
    rw [input.ready_asked]
    rw [input.ready_channel] at hc
    exact h c hc

theorem step_agrees {input : Input} (hinput : input.Open) (hopen : session.shared.Open)
    (h : session.shared.asked = session.channel) :
    ((running session).step input).session.shared.Open ∧
      ((running session).step input).session.shared.asked =
        ((running session).step input).session.channel := by
  rcases step_stays session input with hsame | hstays
  · rw [hsame]
    exact ⟨hopen, h⟩
  · have hready := hinput.ready hopen
    refine ⟨hstays.passes.opens hready, hstays.agrees hready ?_⟩
    rw [input.ready_asked, h, input.ready_channel]

/-- In every run, and also after it: the voice channel that a session believes to be in is the
one that the gateway was asked for last. If the gateway is never closed, the session has
also taken back every channel that it left. -/
theorem run_asks (id : ℕ) (shared : Shared) (inputs : List Input) :
    (∀ c, ((start id shared).run inputs).session.channel = some c →
      ((start id shared).run inputs).session.shared.asked = some c) ∧
    (shared.Open ∧ shared.asked = none ∧ (∀ input ∈ inputs, input.Open) →
      ((start id shared).run inputs).session.shared.asked =
        ((start id shared).run inputs).session.channel) := by
  constructor
  · refine run_session Told (fun session input _ => step_told session input) (start id shared)
      (fun input _ => trivial) ?_
    intro c hnone
    cases hnone
  · rintro ⟨hopen, hasked, hinputs⟩
    have hrun := run_session (fun session => session.shared.Open ∧
      session.shared.asked = session.channel) (fun session input hinput hsession =>
        step_agrees session hinput hsession.1 hsession.2) (start id shared) hinputs ?_
    · exact hrun.2
    · exact ⟨⟨hopen.gateway, hopen.script⟩, hasked⟩

/-- The user has the bot join. -/
def invited : List Input := Sample.play :: Sample.resolve [Sample.track "a"]

/-- The user has the bot leave again. -/
def dismissed : List Input := invited ++ [Sample.turn (Sample.command "leave" [])]

theorem run_asks_dismissed :
    ((start 1 Sample.shared).run invited).session.channel = some 5 ∧
      ((start 1 Sample.shared).run dismissed).session.shared.asked = none := by
  have hinputs : ∀ input ∈ dismissed, input.Open := by
    simp [dismissed, invited, Sample.play, Sample.resolve, Sample.turn, Input.Open, Moment.Open]
  have hasks := (run_asks 1 Sample.shared dismissed).2
    ⟨⟨rfl, by simp [Sample.shared, Shared.start]⟩, rfl, hinputs⟩
  refine ⟨by decide +kernel, hasks.trans ?_⟩
  decide +kernel

end Worker

/-! ## Leaving on its own -/

namespace GuildSession

variable (self : GuildSession)

theorem failOver_channel : self.failOver.channel = self.channel :=
  congrArg Course.channel self.failOver_spec.2.2.1

theorem trackFailure_channel : self.trackFailure.channel = self.channel :=
  (startCurrent_channel _).1.trans self.failOver_channel

theorem trackFinished_channel : self.trackFinished.channel = self.channel :=
  (startCurrent_channel _).1

theorem recover_channel (finished : Bool) : (self.recover finished).channel = self.channel := by
  rw [recover]
  dsimp only
  split
  · exact trackFinished_channel _
  · exact trackFailure_channel _

theorem recoverUnverifiableStall_channel :
    self.recoverUnverifiableStall.channel = self.channel := by
  rw [recoverUnverifiableStall]
  split
  · exact trackFailure_channel _
  · rfl

theorem recoverPlayback_channel (player : Value) :
    (self.recoverPlayback player).channel = self.channel := by
  have hobserved : (self.observeProgress player).channel = self.channel :=
    congrArg Course.channel (self.quiet_observeProgress player).course
  rw [recoverPlayback]
  split
  · dsimp only
    split
    · exact hobserved
    · exact (recover_channel _ _).trans hobserved
  · split
    · exact self.recover_channel _
    · exact recoverUnverifiableStall_channel _

theorem checkPlayback_channel : self.checkPlayback.channel = self.channel := by
  rw [checkPlayback]
  split
  · rfl
  · dsimp only
    split
    · rfl
    · split
      · exact recoverUnverifiableStall_channel _
      · exact recoverPlayback_channel _ _

end GuildSession

namespace Worker

/-- The timers run as they should, under the configuration that the session began with. -/
def Settled (config : Config) (session : GuildSession) : Prop :=
  session.course.Timed ∧ session.shared.config = config

end Worker

end Raydio.Session
