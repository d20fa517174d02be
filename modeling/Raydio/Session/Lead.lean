/-
# The successor that is wanted

A session wants the next track prepared while at most 45 seconds of the current one are
left. What is left is judged by the extrapolated position, which every report of the node
sets to the known position: the end comes closer while nothing is reported, and a report
may move it away again. Such a report, if it leaves more than 45 seconds, is the only
thing that withdraws the successor of a track that goes on undisturbed.

A report is a message of the node, or the player that the check of a tick has asked for.
-/

import Raydio.Playback.Succession
import Raydio.Session.Leaving
import Raydio.Session.Position
import Raydio.Session.Watchdog

namespace Raydio.Session

open Raydio.Foundation Raydio.Playback

/-- What a clock wants prepared. -/
def Clock.desired (self : Clock) (now : ℕ) : Option String :=
  if self.playing && self.channel.isSome then
    (self.queue.preparationTarget (self.position now)).map Track.encoded
  else none

/-- The signal neither pauses nor resumes. -/
def Signal.undisturbed : Signal → Bool
  | .control _ _ => false
  | _ => true

namespace Clock

/-- More than 45 seconds of the current track are left at a position. -/
def far (self : Clock) (position : ℕ) : Bool :=
  self.queue.current.any fun current => decide (45000 < current.durationMs - position)

/-- Another clock of the same track, which is heard on both or on neither. -/
structure Alike (first second : Clock) : Prop where
  queue : second.queue = first.queue
  channel : second.channel = first.channel
  started : second.started = first.started
  paused : second.paused = first.paused

variable {self other : Clock} {now later : ℕ} {target : String}

theorem Alike.refl (self : Clock) : Alike self self := ⟨rfl, rfl, rfl, rfl⟩

theorem Alike.trans {first second third : Clock} (h : Alike first second)
    (h' : Alike second third) : Alike first third :=
  ⟨h'.queue.trans h.queue, h'.channel.trans h.channel, h'.started.trans h.started,
    h'.paused.trans h.paused⟩

theorem far_mono {position further : ℕ} (hle : position ≤ further)
    (h : self.far position = false) : self.far further = false := by
  rw [far, Option.any_eq_false] at h ⊢
  intro current hcurrent
  have hnear := h current hcurrent
  rw [decide_eq_false_iff_not] at hnear ⊢
  omega

/-- Clocks of the same track want the same one prepared, unless they are far from its
end. -/
theorem Alike.desired (halike : Alike self other) (h : self.desired now = some target)
    (at' : ℕ) :
    other.desired at' = if self.far (other.position at') then none else some target := by
  have hplaying : other.playing = self.playing := by
    rw [playing, playing, halike.started, halike.paused]
  rw [Clock.desired] at h ⊢
  rw [hplaying, halike.channel]
  split at h
  · rename_i hopen
    rw [Option.map_eq_some_iff] at h
    obtain ⟨track, htrack, rfl⟩ := h
    rw [if_pos hopen, halike.queue, Queue.preparationTarget_of_near htrack, far]
    split <;> rfl
  · cases h

/-- Where a successor is wanted the end is near. -/
theorem far_of_desired (h : self.desired now = some target) :
    self.far (self.position now) = false := by
  have hsame := (Alike.refl self).desired h now
  rw [h] at hsame
  split at hsame
  · cases hsame
  · rename_i hnear
    exact Bool.eq_false_iff.mpr hnear

/-- What happens to the clock of a track that goes on, from an instant to a later one, and
the position of the report that was absorbed, if one was. -/
inductive Goes (self : Clock) (now : ℕ) : Option ℕ → ℕ → Clock → Prop
  | waits {later : ℕ} {next : Clock} (alike : Alike self next)
      (stopwatch : next.stopwatch = self.stopwatch) (hle : now ≤ later) :
      Goes self now none later next
  | observes {position later : ℕ} {next : Clock} (h : position ≤ u64Max)
      (alike : Alike self next)
      (stopwatch : next.stopwatch = ⟨max self.positionMs position, later, self.playing⟩) :
      Goes self now (some position) later next

variable {next : Clock} {report : Option ℕ}

theorem goes_observed {position : ℕ} (h : position ≤ u64Max) :
    Goes self now (some position) later (self.observed position later) := by
  rw [observed]
  split
  · rename_i hfurther
    refine .observes h ⟨rfl, rfl, rfl, rfl⟩ ?_
    rw [max_eq_right (Nat.le_of_lt hfurther)]
    rfl
  · rename_i hnot
    refine .observes h ⟨rfl, rfl, rfl, rfl⟩ ?_
    rw [max_eq_left (Nat.le_of_not_lt hnot)]
    rfl

/-- Nothing depends on the deadline. -/
theorem Goes.deadline (h : Goes self now report later next) (deadline : Option ℕ) :
    Goes self now report later { next with endDeadline := deadline } := by
  cases h with
  | waits alike stopwatch hle => exact .waits ⟨alike.1, alike.2, alike.3, alike.4⟩ stopwatch hle
  | observes h alike stopwatch =>
      exact .observes h ⟨alike.1, alike.2, alike.3, alike.4⟩ stopwatch

theorem Goes.since {earlier : ℕ} (h : Goes self now report later next) (hle : earlier ≤ now) :
    Goes self earlier report later next := by
  cases h with
  | waits alike stopwatch hlater => exact .waits alike stopwatch (hle.trans hlater)
  | observes h alike stopwatch => exact .observes h alike stopwatch

/-- The position stays a `u64`. -/
theorem Goes.positionMs_le (h : Goes self now report later next)
    (hmax : self.positionMs ≤ u64Max) : next.positionMs ≤ u64Max := by
  cases h with
  | waits _ stopwatch =>
      have hbase : next.positionMs = self.positionMs := congrArg Stopwatch.base stopwatch
      exact hbase.trans_le hmax
  | @observes position _ _ h _ stopwatch =>
      have hbase : next.positionMs = max self.positionMs position :=
        congrArg Stopwatch.base stopwatch
      exact hbase.trans_le (max_le hmax h)

theorem Goes.alike (h : Goes self now report later next) : Alike self next := by
  cases h with
  | waits alike => exact alike
  | observes _ alike => exact alike

/-- A successor that is wanted is withdrawn exactly by a report that leaves the track far from
its end. -/
theorem Goes.desired (h : Goes self now report later next) (hmax : self.positionMs ≤ u64Max)
    (hdesired : self.desired now = some target) :
    next.desired later =
      if report.any fun position => self.far (max self.positionMs position) then none
      else some target := by
  rw [h.alike.desired hdesired later]
  cases h with
  | waits _ stopwatch hle =>
      have hread : next.position later = self.position later :=
        congrArg (fun stopwatch => Stopwatch.read stopwatch u64Max later) stopwatch
      have hnear : self.far (self.position later) = false :=
        far_mono (Stopwatch.read_mono hle) (far_of_desired hdesired)
      rw [hread, hnear]
      rfl
  | @observes position _ _ h _ stopwatch =>
      have hread : next.position later = max self.positionMs position := by
        rw [Clock.position, stopwatch]
        exact Stopwatch.read_mark (max_le hmax h)
      rw [hread, Option.any_some]

end Clock

/-- What happens to a track between its start and the next: a signal, or a tick, whose check
may ask the node for the player. -/
inductive Happening
  | signal (signal : Signal)
  | tick (script : List Moment) (random : List ℕ)

namespace GuildSession

variable {self : GuildSession} {signal : Signal} {happening : Happening} {target : String}

/-- Handle it. -/
def happen (self : GuildSession) : Happening → GuildSession
  | .signal signal => self.signal signal
  | .tick script random => (self.prepare script random).tick

/-- The track goes on: nobody pauses or resumes it, and no tick starts another one or takes
the session out of its voice channel. -/
def GoesOn (self : GuildSession) : Happening → Prop
  | .signal signal => signal.undisturbed = true
  | .tick script random =>
      (self.prepare script random).tick.starts = self.starts ∧
        (self.prepare script random).tick.channel.isSome

instance : Decidable (self.GoesOn happening) :=
  match happening with
  | .signal _ => inferInstanceAs (Decidable (_ = true))
  | .tick _ _ => inferInstanceAs (Decidable (_ ∧ _))

instance : Decidable self.Asks :=
  decidable_of_iff (60000 ≤ self.elapsed self.progressAt ∨
    (self.endDeadline.any fun deadline => decide (deadline ≤ self.now)) = true)
    (by simp only [Asks, Option.any_eq_true, decide_eq_true_eq])

/-- The player that a check asks for, if it asks and is answered. -/
def snapshot (self : GuildSession) : Option Value :=
  if self.queue.current.isSome ∧ self.paused = false ∧ self.shared.health.ready = true ∧
      self.watchdogRetry ≤ self.now ∧ self.Asks then self.shared.getPlayer.1
  else none

/-- The position that is reported for the generation, by a message or by the player that the
check of a tick has asked for, after the look at the voice state. -/
def reported (self : GuildSession) : Happening → Option ℕ
  | .signal signal => self.absorbs signal
  | .tick script random =>
      let checked := (self.prepare script random).voiceChanged
      checked.snapshot.bind fun player => reportedPosition player checked.generation

/-- It is a report after which more than 45 seconds of the track are left. -/
def rewinds (self : GuildSession) (happening : Happening) : Bool :=
  (self.reported happening).any fun position => self.clock.far (max self.positionMs position)

theorem desiredTarget_eq_clock (self : GuildSession) :
    self.desiredTarget = self.clock.desired self.now := by
  rw [desiredTarget, position_eq_clock]
  rfl

theorem started_of_desired (h : self.desiredTarget = some target) : self.started = true := by
  rw [desiredTarget] at h
  split at h
  · rename_i hopen
    simp only [Bool.and_eq_true] at hopen
    exact hopen.1.1
  · cases h

/-! ## One signal -/

/-- A signal to a started track that neither pauses nor resumes it. -/
theorem goes_signal (hstarted : self.started = true) (h : signal.undisturbed = true) :
    Clock.Goes self.clock self.now (self.absorbs signal) (self.signal signal).now
      (self.signal signal).clock := by
  cases signal with
  | pass moment => exact .waits (.refl _) rfl (Nat.le_add_right _ _)
  | control turn script => cases h
  | backend message =>
      cases habsorbs : self.absorbs (.backend message) with
      | some position =>
          obtain ⟨hmax, hclock, hnow⟩ := self.backend_of_absorbed habsorbs
          have hgoes : Clock.Goes self.clock self.now (some position) self.now
              (self.clock.observed position self.now) := Clock.goes_observed hmax
          rw [← hclock] at hgoes
          exact hnow.symm ▸ hgoes
      | none =>
          have hsame : self.backend message.payload = self := by
            by_cases hop : (message.payload.get "op").isStr "playerUpdate" = true
            · exact self.backend_of_unabsorbed hop habsorbs
            · obtain hsame | ⟨hnot, -⟩ :=
                self.backend_of_start hop (message.isProgress.resolve_left hop)
              · exact hsame
              · rw [hstarted] at hnot
                cases hnot
          have hsignal : self.signal (.backend message) = self := hsame
          rw [hsignal]
          exact .waits (.refl _) rfl le_rfl

/-! ## One tick -/

/-- Every start begins a generation. -/
theorem lt_starts_startCurrent (self : GuildSession) :
    self.starts < self.startCurrent.2.starts := by
  refine startCurrent_rule self (fun session => self.starts ≤ session.starts)
    (fun session => self.starts < session.starts) ?_ ?_ ?_ le_rfl
  · intro session hle _
    exact Nat.lt_succ_of_le hle
  · intro session hle _ _
    exact Nat.lt_succ_of_le hle
  · intro session hle _ _
    have hsame : session.attemptStart.2.failOver.starts = session.attemptStart.2.starts :=
      congrArg Course.starts session.attemptStart.2.failOver_spec.2.2.1
    rw [hsame]
    exact Nat.le_succ_of_le hle

theorem lt_starts_trackFailure (self : GuildSession) : self.starts < self.trackFailure.starts := by
  have hsame : self.failOver.starts = self.starts := congrArg Course.starts self.failOver_spec.2.2.1
  exact hsame ▸ lt_starts_startCurrent self.failOver

theorem lt_starts_trackFinished (self : GuildSession) :
    self.starts < self.trackFinished.starts :=
  lt_starts_startCurrent { self.advance .finish with
    events.finished := saturatingAdd self.events.finished 1 }

theorem lt_starts_recover (self : GuildSession) (finished : Bool) :
    self.starts < (self.recover finished).starts := by
  cases finished with
  | true =>
      exact lt_starts_trackFinished
        { self with events.watchdog := saturatingAdd self.events.watchdog 1 }
  | false =>
      exact lt_starts_trackFailure
        { self with events.watchdog := saturatingAdd self.events.watchdog 1 }

/-- If the session is in its voice channel, nothing happened but that time went by. -/
def Waited (before after : GuildSession) : Prop :=
  after.channel.isSome →
    after.clock = before.clock ∧ after.starts = before.starts ∧ before.now ≤ after.now

/-- A cleanup takes the session out of its voice channel. -/
theorem not_isSome_cleanup (notification : Option String) :
    ¬ (self.cleanup notification).channel.isSome = true := by
  rw [(leaves_cleanup _ _).channel]
  exact Bool.false_ne_true

/-- A look at the voice state takes its time, unless it takes the session out of its voice
channel. -/
theorem waited_voiceChanged (self : GuildSession) : Waited self self.voiceChanged := by
  have hsame : Waited self self := fun _ => ⟨rfl, rfl, le_rfl⟩
  have halone : Waited self self.updateAlone := fun _ => ⟨rfl, rfl, le_rfl⟩
  have hleft : ∀ (session : GuildSession) (notification : Option String),
      Waited self (session.cleanup notification) :=
    fun _ _ hsome => absurd hsome (not_isSome_cleanup _)
  rw [voiceChanged]
  split
  · exact hsame
  · split
    · exact hleft _ _
    · split
      · exact hsame
      · split
        · exact hleft _ _
        · split
          · exact halone
          · split
            · dsimp only
              split
              · exact fun _ => ⟨rfl, rfl, self.now_le_update _⟩
              · exact hleft _ _
            · exact halone

/-- A stall that cannot be verified ends the generation, or nothing happens. -/
theorem recoverUnverifiableStall_of_starts
    (h : self.recoverUnverifiableStall.starts = self.starts) :
    self.recoverUnverifiableStall = self := by
  rw [recoverUnverifiableStall] at h ⊢
  split
  · rename_i hstalled
    rw [if_pos hstalled] at h
    exact absurd h (lt_starts_trackFailure
      { self with events.watchdog := saturatingAdd self.events.watchdog 1 }).ne'
  · rfl

/-- A report is absorbed. -/
theorem goes_observeProgress {payload : Value} {position now : ℕ}
    (h : reportedPosition payload self.generation = some position) :
    Clock.Goes self.clock now (some position) (self.observeProgress payload).now
      (self.observeProgress payload).clock := by
  obtain ⟨hclock, hnow⟩ := self.observeProgress_of_some h
  rw [hclock, hnow]
  exact Clock.goes_observed (reportedPosition_le_max h)

/-- A snapshot that is judged is absorbed, unless the generation ends. -/
theorem goes_recoverPlayback (self : GuildSession) {player : Value} {now : ℕ}
    (hle : now ≤ self.now) (h : (self.recoverPlayback player).starts = self.starts) :
    Clock.Goes self.clock now (reportedPosition player self.generation)
      (self.recoverPlayback player).now (self.recoverPlayback player).clock := by
  have hobserved : Clock.Goes self.clock now (reportedPosition player self.generation)
      (self.observeProgress player).now (self.observeProgress player).clock := by
    cases hreport : reportedPosition player self.generation with
    | none =>
        rw [self.observeProgress_of_none hreport]
        exact .waits (.refl _) rfl hle
    | some position => exact goes_observeProgress hreport
  have hstarts : (self.observeProgress player).starts = self.starts :=
    congrArg Course.starts (self.quiet_observeProgress player).course
  rw [recoverPlayback] at h ⊢
  split
  · rename_i hgeneration
    rw [if_pos hgeneration] at h
    dsimp only at h ⊢
    split
    · exact hobserved.deadline _
    · rename_i hstalled
      rw [if_neg hstalled, ← hstarts] at h
      exact absurd h (lt_starts_recover _ _).ne'
  · rename_i hgeneration
    rw [if_neg hgeneration] at h
    split
    · rename_i hover
      rw [if_pos hover] at h
      exact absurd h (lt_starts_recover _ _).ne'
    · rename_i hstale
      rw [if_neg hstale] at h
      rw [recoverUnverifiableStall_of_starts h, reportedPosition, if_neg hgeneration]
      exact .waits ⟨rfl, rfl, rfl, rfl⟩ rfl hle

/-- A check takes up the position that it was told, unless the generation ends. -/
theorem goes_checkPlayback (h : self.checkPlayback.starts = self.starts) :
    Clock.Goes self.clock self.now
      (self.snapshot.bind fun player => reportedPosition player self.generation)
      self.checkPlayback.now self.checkPlayback.clock := by
  have hasked : self.now ≤ self.asked.now :=
    now_le_suspend (self.shared.record (.player self.shared.health.session))
  by_cases hdue : self.queue.current.isSome ∧ self.paused = false ∧
      self.shared.health.ready = true ∧ self.watchdogRetry ≤ self.now
  · obtain ⟨hcurrent, hpaused, hready, hretry⟩ := hdue
    obtain ⟨hjudged, hleft⟩ := checkPlayback_of_due hcurrent hpaused hready hretry
    by_cases hasks : self.Asks
    · rw [snapshot, if_pos ⟨hcurrent, hpaused, hready, hretry, hasks⟩]
      rw [hjudged hasks, judged] at h ⊢
      cases hanswer : self.shared.getPlayer.1 with
      | none =>
          rw [hanswer] at h
          dsimp only at h ⊢
          rw [recoverUnverifiableStall_of_starts h]
          exact .waits ⟨rfl, rfl, rfl, rfl⟩ rfl hasked
      | some player =>
          rw [hanswer] at h
          exact self.asked.goes_recoverPlayback hasked h
    · rw [snapshot, if_neg fun hall => hasks hall.2.2.2.2, hleft hasks]
      exact .waits (.refl _) rfl le_rfl
  · rw [snapshot, if_neg fun hall => hdue ⟨hall.1, hall.2.1, hall.2.2.1, hall.2.2.2.1⟩,
      checkPlayback_of_not_due hdue]
    exact .waits (.refl _) rfl le_rfl

/-- A tick that keeps the session in its voice channel checks the playback. -/
theorem tick_of_isSome (h : self.tick.channel.isSome) :
    self.tick = self.voiceChanged.checkPlayback.refresh := by
  unfold tick at h ⊢
  dsimp only at h ⊢
  split
  · rename_i halone
    rw [if_pos halone] at h
    exact absurd h (not_isSome_cleanup _)
  · rename_i halone
    rw [if_neg halone] at h
    split
    · rename_i hidle
      rw [if_pos hidle] at h
      exact absurd h (not_isSome_cleanup _)
    · rfl

/-- A tick that keeps the track. -/
theorem goes_tick (self : GuildSession) (hcurrent : self.queue.current.isSome)
    (h : self.tick.starts = self.starts) (hchannel : self.tick.channel.isSome) :
    Clock.Goes self.clock self.now
      (self.voiceChanged.snapshot.bind fun player =>
        reportedPosition player self.voiceChanged.generation)
      self.tick.now self.tick.clock := by
  have htick := tick_of_isSome hchannel
  rw [htick] at h hchannel ⊢
  have hrefresh := self.voiceChanged.checkPlayback.quiet_refresh.course
  have hvoice : self.voiceChanged.channel.isSome := by
    have hsame : self.voiceChanged.checkPlayback.refresh.channel =
        self.voiceChanged.checkPlayback.channel := congrArg Course.channel hrefresh
    rw [← self.voiceChanged.checkPlayback_channel, ← hsame]
    exact hchannel
  obtain ⟨hclock, hstarts, hle⟩ := self.waited_voiceChanged hvoice
  have hchecked : self.voiceChanged.checkPlayback.starts = self.voiceChanged.starts :=
    (congrArg Course.starts hrefresh).symm.trans (h.trans hstarts.symm)
  have hgoes := (goes_checkPlayback hchecked).since hle
  rw [hclock] at hgoes
  have hsome : self.voiceChanged.checkPlayback.queue.current.isSome := by
    have hqueue : self.voiceChanged.checkPlayback.queue = self.queue := hgoes.alike.queue
    rw [hqueue]
    exact hcurrent
  obtain ⟨hsame, hnow⟩ := self.voiceChanged.checkPlayback.refresh_of_isSome hsome
  rw [hsame, hnow]
  exact hgoes

/-- A started track that goes on. -/
theorem goes_happen (hstarted : self.started = true) (hcurrent : self.queue.current.isSome)
    (h : self.GoesOn happening) :
    Clock.Goes self.clock self.now (self.reported happening) (self.happen happening).now
      (self.happen happening).clock := by
  cases happening with
  | signal signal => exact goes_signal hstarted h
  | tick script random => exact (self.prepare script random).goes_tick hcurrent h.1 h.2

/-! ## A run of them -/

theorem current_of_desired (h : self.desiredTarget = some target) :
    self.queue.current.isSome := by
  rw [desiredTarget] at h
  split at h
  · rw [Option.map_eq_some_iff] at h
    obtain ⟨track, htrack, -⟩ := h
    rw [Queue.preparationTarget] at htrack
    split at htrack
    · cases htrack
    · rename_i current hcurrent
      rw [hcurrent]
      rfl
  · cases h

/-- What goes on with a track withdraws the successor exactly if it is a report that leaves
more than 45 seconds. -/
theorem desiredTarget_happen (h : self.desiredTarget = some target)
    (hmax : self.positionMs ≤ u64Max) (hgoes : self.GoesOn happening) :
    (self.happen happening).desiredTarget =
      if self.rewinds happening then none else some target := by
  have hclock := goes_happen (started_of_desired h) (current_of_desired h) hgoes
  rw [desiredTarget_eq_clock] at h ⊢
  exact hclock.desired hmax h

/-- The track is the same and goes on, and its position is a `u64`. -/
def Undisturbed (self session : GuildSession) : Prop :=
  Clock.Alike self.clock session.clock ∧ session.positionMs ≤ u64Max

theorem Undisturbed.step {session : GuildSession} (hself : self.desiredTarget = some target)
    (h : self.Undisturbed session) (hgoes : session.GoesOn happening) :
    self.Undisturbed (session.happen happening) := by
  have hstarted : session.started = true := h.1.started.trans (started_of_desired hself)
  have hqueue : session.queue = self.queue := h.1.queue
  have hcurrent : session.queue.current.isSome := hqueue ▸ current_of_desired hself
  have hclock := goes_happen hstarted hcurrent hgoes
  exact ⟨h.1.trans hclock.alike, hclock.positionMs_le h.2⟩

/-- The successor that a session wants for a track that goes on undisturbed is never
another one. It is withdrawn exactly by a report after which more than 45 seconds are
left, and stays wanted as long as there is none. -/
theorem desiredTarget_lead (h : self.desiredTarget = some target)
    (hmax : self.positionMs ≤ u64Max) {happenings : List Happening}
    (hgoes : Runs.Along happen GoesOn self happenings) :
    let last := Runs.run happen self happenings
    (last.desiredTarget = some target ∨ last.desiredTarget = none) ∧
      (Runs.Along happen (fun session happening => session.rewinds happening = false)
        self happenings → last.desiredTarget = some target) ∧
      ∀ next : Happening, last.GoesOn next → last.desiredTarget = some target →
        ((last.happen next).desiredTarget = none ↔ last.rewinds next = true) := by
  have hlast : self.Undisturbed (Runs.run happen self happenings) :=
    hgoes.invariant self.Undisturbed (fun _ _ hnext hsession => hsession.step h hnext)
      ⟨.refl _, hmax⟩
  refine ⟨?_, ?_, ?_⟩
  · rw [desiredTarget_eq_clock] at h ⊢
    rw [hlast.1.desired h]
    split
    · exact .inr rfl
    · exact .inl rfl
  · intro hnear
    have halong : Runs.Along happen (fun session happening =>
        session.GoesOn happening ∧ session.rewinds happening = false) self happenings :=
      fun before happening after hsplit =>
        ⟨hgoes before happening after hsplit, hnear before happening after hsplit⟩
    have hboth := halong.invariant
      (fun session => self.Undisturbed session ∧ session.desiredTarget = some target)
      (by
        rintro session happening ⟨hnext, hkeeps⟩ ⟨hsession, hdesired⟩
        refine ⟨hsession.step h hnext, ?_⟩
        rw [desiredTarget_happen hdesired hsession.2 hnext, hkeeps]
        rfl)
      ⟨⟨.refl _, hmax⟩, h⟩
    exact hboth.2
  · intro next hnext hdesired
    rw [desiredTarget_happen hdesired hlast.2 hnext]
    simp

/-- A session whose first track, of a minute, is followed by another. -/
def followed : GuildSession :=
  { oneTrack with queue := { oneTrack.queue with upcoming := [Sample.track "b"] } }

/-- The first track goes on from its fourteenth second for two seconds. -/
def sixteenSeconds : GuildSession :=
  Runs.run GuildSession.signal followed.startCurrent.2
    [.backend startOfTrack, .backend (reportOf 14000), .pass { elapsed := 2000 }]

/-- Nothing more is reported, until the watchdog asks for the player and is told a position
that is half a second further. -/
def verified : List Happening :=
  [.signal (.pass { elapsed := 59000 }),
    .tick [.quiet, .quiet, { snapshot := some (reportOf 14500).payload }] []]

theorem desiredTarget_lead_sixteenSeconds :
    let last := Runs.run happen sixteenSeconds verified
    (last.desiredTarget = some "b" ∨ last.desiredTarget = none) ∧
      (Runs.Along happen (fun session happening => session.rewinds happening = false)
        sixteenSeconds verified → last.desiredTarget = some "b") ∧
      ∀ next : Happening, last.GoesOn next → last.desiredTarget = some "b" →
        ((last.happen next).desiredTarget = none ↔ last.rewinds next = true) :=
  desiredTarget_lead (by decide +kernel) (by decide +kernel) (by decide +kernel)

/-- What the watchdog is told withdraws the successor. -/
example : (Runs.run happen sixteenSeconds verified).desiredTarget = none := by decide +kernel

/-- A report that lags behind the extrapolated position withdraws the successor. -/
theorem desiredTarget_withdrawn :
    ¬ ∀ (self : GuildSession) (first rest : List Signal) (target : String),
      (∀ signal ∈ rest, signal.undisturbed = true) →
      (Runs.run GuildSession.signal self.startCurrent.2 first).desiredTarget = some target →
        (Runs.run GuildSession.signal (Runs.run GuildSession.signal self.startCurrent.2 first)
          rest).desiredTarget = some target := by
  intro h
  have hlast := h followed
    [.backend startOfTrack, .backend (reportOf 14000), .pass { elapsed := 2000 }]
    [.backend (reportOf 14500)] "b" (by simp [Signal.undisturbed]) (by decide +kernel)
  revert hlast
  decide +kernel

end GuildSession

end Raydio.Session
