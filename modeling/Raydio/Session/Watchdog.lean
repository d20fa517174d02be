/-
# What the watchdog does to the queue

A check of a playing session may ask the node for the player, and judges the answer by
the time since the last progress. Below a minute only a verified end of the current
generation advances the queue. From a minute and a half on the queue is always advanced,
unless the answer shows that the track is paused or has moved on.

An advance is one `finish` or `fail` of the queue, after which what is current then is
started; what the node refuses after that is the matter of `start_current`.
-/

import Raydio.Session.Clock

namespace Raydio.Session

open Raydio.Foundation Raydio.Playback

namespace GuildSession

variable {self : GuildSession}

/-! ## Asking the node -/

/-- The check asks for the player: there was no progress for a minute, or the deadline
of the track has come. -/
def Asks (self : GuildSession) : Prop :=
  60000 ≤ self.elapsed self.progressAt ∨ ∃ deadline, self.endDeadline = some deadline ∧
    deadline ≤ self.now

/-- The session when the answer is there. -/
def asked (self : GuildSession) : GuildSession :=
  { self with watchdogRetry := self.now + 5000, shared := self.shared.getPlayer.2 }

/-- The session when the answer is judged: progress that it shows was absorbed. -/
def evaluated (self : GuildSession) : GuildSession :=
  match self.shared.getPlayer.1 with
  | none => self.asked
  | some player => self.asked.observeProgress player

/-- The time since the last progress, when the answer is judged. -/
def age (self : GuildSession) : ℕ := self.evaluated.elapsed self.evaluated.progressAt

/-- The snapshot is one of the generation, and shows that the track is paused or further
than the session knew. -/
def Alive (self : GuildSession) (player : Value) : Prop :=
  snapshotGeneration player = some self.generation ∧
    ((player.get "paused").isTrue = true ∨
      ∃ position, ((player.get "state").get "position").asU64 = some position ∧
        self.positionMs < position)

/-- The snapshot verifies that the track of the generation is over: nothing plays, and
the last track that ended is that one. -/
def Over (self : GuildSession) (player : Value) : Prop :=
  (player.get "track").isNull = true ∧ terminalGeneration player = some self.generation ∧
    snapshotGeneration player ≠ some self.generation

/-- The reason for which the last track ended is its natural end. -/
def saysFinished (player : Value) : Bool :=
  (((player.get "crust").get "terminal").get "reason").isStr "finished"

/-- How the queue is advanced past a track that is over. -/
def endKind (player : Value) : Advance.Kind := if saysFinished player then .finish else .fail

/-- The queue was advanced once, and what is current then was started. -/
def Advanced (kind : Advance.Kind) (before after : GuildSession) : Prop :=
  ∃ selected : GuildSession,
    (match kind with
      | .finish => before.queue.finish
      | .fail => before.queue.fail) = .ok selected.queue ∧
    selected.advances = before.advances ++ [⟨kind, before.generation, before.starts⟩] ∧
    after = selected.startCurrent.2

/-- The queue was left alone. -/
def Retained (before after : GuildSession) : Prop :=
  after.queue = before.queue ∧ after.advances = before.advances

theorem Quiet.retained {before after : GuildSession} (h : Quiet before after) :
    Retained before after :=
  ⟨congrArg Course.queue h.course, congrArg Course.advances h.course⟩

theorem Advanced.of_course {kind : Advance.Kind} {before between after : GuildSession}
    (h : Advanced kind between after) (hcourse : between.course = before.course) :
    Advanced kind before after := by
  have hqueue : between.queue = before.queue := congrArg Course.queue hcourse
  have hadvances : between.advances = before.advances := congrArg Course.advances hcourse
  have hgeneration : between.generation = before.generation :=
    congrArg Course.generation hcourse
  have hstarts : between.starts = before.starts := congrArg Course.starts hcourse
  obtain ⟨selected, hadvance, hlog, hafter⟩ := h
  rw [hqueue] at hadvance
  rw [hadvances, hgeneration, hstarts] at hlog
  exact ⟨selected, hadvance, hlog, hafter⟩

/-! ## The ways to go on -/

theorem advanced_trackFailure (self : GuildSession) : Advanced .fail self self.trackFailure := by
  have hcourse := self.failOver_spec.2.2.1
  refine ⟨self.failOver, ?_, congrArg Course.advances hcourse, rfl⟩
  dsimp only
  rw [Queue.fail_eq, failOver_queue]

theorem advanced_trackFinished (self : GuildSession) :
    Advanced .finish self self.trackFinished := by
  refine ⟨_, ?_, rfl, rfl⟩
  dsimp only
  rw [Queue.finish_eq, ← Queue.value_finish]
  rfl

theorem advanced_recover (finished : Bool) :
    Advanced (if finished then .finish else .fail) self (self.recover finished) := by
  rw [recover]
  cases finished
  · exact (advanced_trackFailure _).of_course rfl
  · exact (advanced_trackFinished _).of_course rfl

/-- Without verification the queue is advanced after a minute and a half. -/
theorem advanced_recoverUnverifiableStall (h : 90000 ≤ self.elapsed self.progressAt) :
    Advanced .fail self self.recoverUnverifiableStall := by
  rw [recoverUnverifiableStall, if_pos h]
  exact (advanced_trackFailure _).of_course rfl

theorem retained_recoverUnverifiableStall (h : self.elapsed self.progressAt < 90000) :
    Retained self self.recoverUnverifiableStall := by
  rw [recoverUnverifiableStall, if_neg (Nat.not_le.mpr h)]
  exact ⟨rfl, rfl⟩

/-! ## The clock during the check -/

theorem elapsed_le_asked (self : GuildSession) (since : ℕ) :
    self.elapsed since ≤ self.asked.elapsed since := by
  have hnow : self.now ≤ self.asked.now :=
    now_le_suspend (self.shared.record (.player self.shared.health.session))
  exact Nat.sub_le_sub_right hnow since

/-- Only a position that is further than known is progress. -/
theorem elapsed_observeProgress {payload : Value}
    (h : ∀ position ∈ reportedPosition payload self.generation, position ≤ self.positionMs) :
    (self.observeProgress payload).elapsed (self.observeProgress payload).progressAt =
      self.elapsed self.progressAt := by
  cases hreport : reportedPosition payload self.generation with
  | none => rw [self.observeProgress_of_none hreport]
  | some position =>
      obtain ⟨hclock, hnow⟩ := self.observeProgress_of_some hreport
      have hnot : ¬ self.clock.positionMs < position := Nat.not_lt.mpr (h position hreport)
      rw [Clock.observed, if_neg hnot] at hclock
      have hprogress : (self.observeProgress payload).progressAt = self.progressAt :=
        congrArg Clock.progressAt hclock
      rw [elapsed, elapsed, hnow, hprogress]

/-- A snapshot of another generation is not absorbed. -/
theorem observeProgress_of_ne {payload : Value}
    (h : snapshotGeneration payload ≠ some self.generation) :
    self.observeProgress payload = self :=
  self.observeProgress_of_none (if_neg h)

/-! ## One answer -/

/-- A snapshot of the generation: the queue is advanced unless the track is paused or
made progress in the last minute. -/
theorem recoverPlayback_of_eq {player : Value}
    (h : snapshotGeneration player = some self.generation) :
    ((player.get "paused").isTrue = true ∨
        (self.observeProgress player).elapsed (self.observeProgress player).progressAt < 60000 →
      Retained self (self.recoverPlayback player)) ∧
    (¬ ((player.get "paused").isTrue = true ∨
        (self.observeProgress player).elapsed (self.observeProgress player).progressAt < 60000) →
      Advanced .fail self (self.recoverPlayback player)) := by
  have hquiet := self.quiet_observeProgress player
  rw [recoverPlayback, if_pos h]
  dsimp only
  simp only [Bool.or_eq_true, decide_eq_true_eq]
  constructor
  · intro halive
    rw [if_pos halive]
    exact (hquiet.trans (quiet_scheduleEnd _)).retained
  · intro hstalled
    rw [if_neg hstalled]
    exact (advanced_recover false).of_course hquiet.course

/-- A snapshot that verifies the end of the generation. -/
theorem recoverPlayback_of_over {player : Value} (h : self.Over player) :
    Advanced (endKind player) self (self.recoverPlayback player) := by
  obtain ⟨hnull, hterminal, hother⟩ := h
  rw [recoverPlayback, if_neg hother, if_pos ⟨hnull, hterminal⟩]
  exact advanced_recover (saysFinished player)

/-- Any other snapshot verifies nothing. -/
theorem recoverPlayback_of_stale {player : Value}
    (hother : snapshotGeneration player ≠ some self.generation) (h : ¬ self.Over player) :
    (self.elapsed self.progressAt < 90000 → Retained self (self.recoverPlayback player)) ∧
    (90000 ≤ self.elapsed self.progressAt →
      Advanced .fail self (self.recoverPlayback player)) := by
  have hstale : ¬ ((player.get "track").isNull = true ∧
      terminalGeneration player = some self.generation) :=
    fun ⟨hnull, hterminal⟩ => h ⟨hnull, hterminal, hother⟩
  rw [recoverPlayback, if_neg hother, if_neg hstale]
  constructor
  · intro hyoung
    exact retained_recoverUnverifiableStall (by exact hyoung)
  · intro hold
    exact (advanced_recoverUnverifiableStall (by exact hold)).of_course rfl

/-! ## A whole check -/

theorem not_asks_iff : ((!decide (self.elapsed self.progressAt ≥ 60000)) &&
    self.endDeadline.all fun deadline => decide (self.now < deadline)) = true ↔
      ¬ self.Asks := by
  rw [Asks, not_or, Bool.and_eq_true, Bool.not_eq_true', decide_eq_false_iff_not,
    Option.all_eq_true]
  constructor
  · rintro ⟨hfresh, hearly⟩
    refine ⟨hfresh, ?_⟩
    rintro ⟨deadline, hdeadline, hdue⟩
    exact absurd hdue (Nat.not_le.mpr (of_decide_eq_true (hearly deadline hdeadline)))
  · rintro ⟨hfresh, hearly⟩
    refine ⟨hfresh, ?_⟩
    intro deadline hdeadline
    exact decide_eq_true (Nat.lt_of_not_le fun hdue => hearly ⟨deadline, hdeadline, hdue⟩)

/-- The answer to the question is judged. -/
def judged (self : GuildSession) : GuildSession :=
  match self.shared.getPlayer.1 with
  | none => ({ self.asked with endDeadline := some (self.asked.now + 5000) } :
      GuildSession).recoverUnverifiableStall
  | some player => self.asked.recoverPlayback player

/-- A check that is due asks if there is reason to, and does nothing otherwise. -/
theorem checkPlayback_of_due (hcurrent : self.queue.current.isSome) (hpaused : self.paused = false)
    (hready : self.shared.health.ready = true) (hretry : self.watchdogRetry ≤ self.now) :
    (self.Asks → self.checkPlayback = self.judged) ∧
      (¬ self.Asks → self.checkPlayback = self) := by
  have hdue : ¬ (self.queue.current.isNone || self.paused || !self.shared.health.ready ||
      decide (self.now < self.watchdogRetry)) = true := by
    have hsome : self.queue.current.isNone = false := Option.isNone_eq_false_iff.mpr hcurrent
    have hlate : ¬ self.now < self.watchdogRetry := Nat.not_lt.mpr hretry
    simp [hsome, hpaused, hready, hlate]
  rw [checkPlayback, if_neg hdue]
  dsimp only
  constructor
  · intro hasks
    rw [if_neg fun hquiet => not_asks_iff.mp hquiet hasks]
    rfl
  · intro hquiet
    rw [if_pos (not_asks_iff.mpr hquiet)]

/-- A check that is not due does nothing. -/
theorem checkPlayback_of_not_due (h : ¬ (self.queue.current.isSome ∧ self.paused = false ∧
    self.shared.health.ready = true ∧ self.watchdogRetry ≤ self.now)) :
    self.checkPlayback = self := by
  rw [checkPlayback, if_pos]
  by_contra hdue
  simp only [Bool.or_eq_true, Bool.not_eq_true', decide_eq_true_eq, not_or, Bool.not_eq_true,
    Bool.not_eq_false, Nat.not_lt, Option.isNone_eq_false_iff] at hdue
  exact h ⟨hdue.1.1.1, hdue.1.1.2, hdue.1.2, hdue.2⟩

/-- The check asks for the player, and the answer verifies that the track is over. -/
def Verifies (self : GuildSession) (player : Value) : Prop :=
  self.Asks ∧ self.shared.getPlayer.1 = some player ∧ self.Over player

/-- A verified end advances the queue. -/
theorem judged_of_over {player : Value} (hanswer : self.shared.getPlayer.1 = some player)
    (hover : self.Over player) : Advanced (endKind player) self self.judged := by
  have hasked : self.asked.Over player := hover
  rw [judged, hanswer]
  exact (recoverPlayback_of_over hasked).of_course rfl

/-- Below a minute nothing else does. -/
theorem retained_judged (hage : self.age < 60000)
    (h : ∀ player, self.shared.getPlayer.1 = some player → ¬ self.Over player) :
    Retained self self.judged := by
  rw [age, evaluated] at hage
  rw [judged]
  cases hanswer : self.shared.getPlayer.1 with
  | none =>
      rw [hanswer] at hage
      exact retained_recoverUnverifiableStall (Nat.lt_trans hage (by decide))
  | some player =>
      rw [hanswer] at hage
      dsimp only at hage ⊢
      by_cases hgeneration : snapshotGeneration player = some self.asked.generation
      · exact (recoverPlayback_of_eq hgeneration).1 (.inr hage)
      · rw [observeProgress_of_ne hgeneration] at hage
        have hyoung : self.asked.elapsed self.asked.progressAt < 90000 :=
          Nat.lt_trans hage (by decide)
        exact (recoverPlayback_of_stale hgeneration (h player hanswer)).1 hyoung

/-- A snapshot of the generation that shows no life of the track is no progress. -/
theorem stalled_of_not_alive {player : Value}
    (hgeneration : snapshotGeneration player = some self.generation)
    (hold : 90000 ≤ self.elapsed self.progressAt) (h : ¬ self.Alive player) :
    ¬ ((player.get "paused").isTrue = true ∨
      (self.observeProgress player).elapsed (self.observeProgress player).progressAt < 60000) := by
  rintro (hpaused | hfresh)
  · exact h ⟨hgeneration, .inl hpaused⟩
  · have hknown : ∀ position ∈ reportedPosition player self.generation,
        position ≤ self.positionMs := by
      intro position hposition
      rw [reportedPosition, if_pos hgeneration] at hposition
      exact Nat.le_of_not_lt fun hfurther =>
        h ⟨hgeneration, .inr ⟨position, hposition, hfurther⟩⟩
    rw [elapsed_observeProgress hknown] at hfresh
    omega

/-- From a minute and a half on the queue is advanced, unless the snapshot shows that the
track is paused or went on. -/
theorem advanced_judged (hold : 90000 ≤ self.elapsed self.progressAt)
    (h : ∀ player, self.shared.getPlayer.1 = some player → ¬ self.Alive player) :
    ∃ kind, Advanced kind self self.judged ∧
      (kind = .finish ↔ ∃ player, self.shared.getPlayer.1 = some player ∧ self.Over player ∧
        saysFinished player = true) := by
  have hasked : 90000 ≤ self.asked.elapsed self.asked.progressAt :=
    hold.trans (self.elapsed_le_asked self.progressAt)
  cases hanswer : self.shared.getPlayer.1 with
  | none =>
      refine ⟨.fail, ?_, by simp⟩
      rw [judged, hanswer]
      exact (advanced_recoverUnverifiableStall (by exact hasked)).of_course rfl
  | some player =>
      by_cases hover : self.Over player
      · refine ⟨endKind player, judged_of_over hanswer hover, ?_⟩
        rw [endKind]
        cases hsays : saysFinished player <;> simp [hover, hsays]
      · refine ⟨.fail, ?_, by simp [hover]⟩
        rw [judged, hanswer]
        dsimp only
        by_cases hgeneration : snapshotGeneration player = some self.asked.generation
        · have hstalled := stalled_of_not_alive hgeneration hasked (h player hanswer)
          exact ((recoverPlayback_of_eq hgeneration).2 hstalled).of_course rfl
        · exact ((recoverPlayback_of_stale hgeneration hover).2 hasked).of_course rfl

/-- A check that is due: as long as the last progress is not a minute old when the answer
is judged, the queue is advanced exactly if the end of the track is verified; if it is a
minute and a half old to begin with, the queue is advanced unless the track shows signs
of life. It counts as finished only where its natural end is verified. -/
theorem checkPlayback_watchdog (hcurrent : self.queue.current.isSome)
    (hpaused : self.paused = false) (hready : self.shared.health.ready = true)
    (hretry : self.watchdogRetry ≤ self.now) :
    (self.age < 60000 →
      (∀ player, self.Verifies player → Advanced (endKind player) self self.checkPlayback) ∧
      ((∀ player, ¬ self.Verifies player) → Retained self self.checkPlayback)) ∧
    (90000 ≤ self.elapsed self.progressAt →
      (∀ player, self.shared.getPlayer.1 = some player → ¬ self.Alive player) →
        ∃ kind, Advanced kind self self.checkPlayback ∧
          (kind = .finish ↔ ∃ player, self.shared.getPlayer.1 = some player ∧
            self.Over player ∧ saysFinished player = true)) := by
  obtain ⟨hasking, hquiet⟩ := checkPlayback_of_due hcurrent hpaused hready hretry
  constructor
  · intro hage
    constructor
    · rintro player ⟨hasks, hanswer, hover⟩
      rw [hasking hasks]
      exact judged_of_over hanswer hover
    · intro hnone
      by_cases hasks : self.Asks
      · rw [hasking hasks]
        exact retained_judged hage fun player hanswer hover =>
          hnone player ⟨hasks, hanswer, hover⟩
      · rw [hquiet hasks]
        exact ⟨rfl, rfl⟩
  · intro hold hdead
    rw [hasking (.inl (le_trans (by decide) hold))]
    exact advanced_judged hold hdead

/-- A session whose track was started and not heard of for a hundred seconds. -/
def silent : GuildSession := oneTrack.startCurrent.2.signal (.pass { elapsed := 100000 })

/-- The node does not answer, and the track has failed. -/
theorem checkPlayback_watchdog_silent : ∃ kind, Advanced kind silent silent.checkPlayback ∧
    (kind = .finish ↔ ∃ player, silent.shared.getPlayer.1 = some player ∧
      silent.Over player ∧ saysFinished player = true) :=
  (checkPlayback_watchdog (by decide +kernel) (by decide +kernel) (by decide +kernel)
    (by decide +kernel)).2 (by decide +kernel) (by
      intro player hanswer
      cases hanswer)

end GuildSession

end Raydio.Session
