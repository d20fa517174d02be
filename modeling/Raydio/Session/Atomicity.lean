/-
# Which controls leave a trace when they fail

A control that answers with an error is promised to have changed nothing. Pausing,
the volume and everything local keep the promise. Going back, jumping, skipping and
stopping change the queue before they ask the node, and the loop that starts a track
fails over until nothing is left, so that they break it exactly if the node refuses
everything that they try.
-/

import Raydio.Session.Timers

namespace Raydio.Session

open Raydio.Foundation Raydio.Playback Raydio.Discord Raydio.Node

/-! ## What the node will refuse -/

/-- Whether the node is ready, and the moments to come. -/
structure Outlook where
  ready : Bool
  script : List Moment

namespace Outlook

/-- After a suspension. -/
def suspend (self : Outlook) : Outlook :=
  match self.script with
  | [] => self
  | moment :: rest => ⟨(moment.health.map Health.ready).getD self.ready, rest⟩

/-- The next request is refused. -/
def refuses (self : Outlook) (startsTrack : Bool) : Bool :=
  !self.ready || (self.script.headD .quiet).refusal.refuses startsTrack

/-- The next requests to start a track are all refused. A request that reaches the node
is suspended on the way there and on the way back. -/
def refusesStarts : ℕ → Outlook → Bool
  | 0, _ => true
  | count + 1, self =>
      self.refuses true && (!self.ready || refusesStarts count self.suspend.suspend)

end Outlook

namespace Shared

def outlook (self : Shared) : Outlook := ⟨self.health.ready, self.script⟩

theorem outlook_suspend (self : Shared) : self.suspend.2.outlook = self.outlook.suspend := by
  rw [suspend]
  cases hscript : self.script with
  | nil => simp [Outlook.suspend, outlook, hscript]
  | cons moment rest =>
      have hready : ((({ self with script := rest } : Shared).pass moment)).health.ready =
          (moment.health.map Health.ready).getD self.health.ready := by
        show (moment.health.getD self.health).ready = _
        cases moment.health <;> rfl
      have hrest := script_pass { self with script := rest } moment
      simp only [Outlook.suspend, outlook, hscript, hready, hrest]

/-- A suspension returns the first moment of the script. -/
theorem suspend_fst (self : Shared) : self.suspend.1 = self.script.headD .quiet := by
  rw [suspend]
  cases self.script <;> rfl

/-- Whether an update is accepted, and what is to come after it. -/
theorem update_outlook (self : Shared) (patch : Patch) :
    (self.update patch).1 = !self.outlook.refuses patch.startsTrack ∧
      (self.update patch).2.outlook =
        if self.outlook.ready then self.outlook.suspend.suspend else self.outlook := by
  rw [update]
  cases hready : self.health.ready with
  | false => simp [Outlook.refuses, outlook, hready]
  | true =>
      have hreceive : ∀ session accepted, (self.suspend.2.receive session patch accepted).outlook =
          self.suspend.2.outlook := fun _ _ => rfl
      simp only [Bool.not_true, Bool.false_eq_true, if_false, outlook_suspend, hreceive,
        suspend_fst]
      simp [Outlook.refuses, outlook, hready]

end Shared

/-! ## How many starts are tried -/

/-- How many tracks are tried if all of them are refused: the current one and those
that wait behind it, as far as the streak of failures allows. -/
def attempts (waiting failures : ℕ) : ℕ := min (waiting + 1) (max 1 (failureLimit - failures))

theorem attempts_of_failed_none {queue : Queue} (h : queue.current.isSome)
    (hfailed : queue.failed.current = none) :
    attempts queue.upcoming.length queue.consecutiveFailures = 1 := by
  obtain ⟨track, htrack⟩ := Option.isSome_iff_exists.mp h
  rw [Queue.failed] at hfailed
  simp only [htrack, Option.isNone_some, Bool.false_eq_true, if_false] at hfailed
  rw [attempts]
  split at hfailed
  · omega
  · have hempty : queue.upcoming = [] := List.head?_eq_none_iff.mp hfailed
    rw [hempty]
    simp

theorem attempts_of_failed_some {queue : Queue} (h : queue.current.isSome)
    (hfailed : queue.failed.current.isSome) :
    attempts queue.upcoming.length queue.consecutiveFailures =
        attempts queue.failed.upcoming.length queue.failed.consecutiveFailures + 1 ∧
      queue.failed.consecutiveFailures < failureLimit := by
  obtain ⟨track, htrack⟩ := Option.isSome_iff_exists.mp h
  rw [Queue.failed] at hfailed ⊢
  simp only [htrack, Option.isNone_some, Bool.false_eq_true, if_false] at hfailed ⊢
  split at hfailed
  · cases hfailed
  · rename_i hlimit
    rw [if_neg hlimit]
    have hpos : 0 < queue.upcoming.length := by
      rw [List.length_pos_iff_ne_nil]
      intro hempty
      rw [hempty] at hfailed
      cases hfailed
    unfold attempts
    simp only [List.length_tail]
    omega

namespace GuildSession

variable (self : GuildSession)

/-! ## Starting fails exactly if everything is refused -/

theorem attemptStart_outlook :
    self.attemptStart.1 = !self.shared.outlook.refuses self.queue.current.isSome ∧
      self.attemptStart.2.shared.outlook =
        if self.shared.outlook.ready then self.shared.outlook.suspend.suspend
        else self.shared.outlook := by
  rw [← self.startPatch_startsTrack]
  exact self.shared.update_outlook self.beginStart.startPatch

/-- A failover that does not end the streak sends no notice. -/
theorem failOver_shared (h : self.queue.failed.consecutiveFailures < failureLimit) :
    self.failOver.shared = self.shared := by
  rw [failOver]
  dsimp only
  rw [if_neg]
  · rfl
  · intro hlimit
    simp only [advance, Queue.value_fail] at hlimit
    exact absurd h (Nat.not_lt_of_le hlimit)

/-- After a failure the loop fails once nothing is current. -/
theorem startLoop_of_none {rounds : ℕ} (h : self.queue.current = none) :
    (self.startLoop true (rounds + 1)).1 = false := by
  rw [startLoop]
  dsimp only
  rw [attemptStart_queue, h]
  split <;> rfl

/-- The loop fails exactly if every start that it tries is refused. -/
theorem startLoop_eq_false_iff {rounds : ℕ} (failed : Bool)
    (hrounds : self.queue.startsLeft < rounds) (hcurrent : self.queue.current.isSome) :
    (self.startLoop failed rounds).1 = false ↔
      self.shared.outlook.refusesStarts
        (attempts self.queue.upcoming.length self.queue.consecutiveFailures) = true := by
  induction rounds generalizing self failed with
  | zero => exact absurd hrounds (Nat.not_lt_zero _)
  | succ rounds ih =>
      obtain ⟨hattempt, houtlook⟩ := self.attemptStart_outlook
      rw [hcurrent] at hattempt
      have hsome : self.attemptStart.2.queue.current.isSome := hcurrent
      have hlt : self.attemptStart.2.failOver.queue.startsLeft < rounds :=
        Nat.lt_of_lt_of_le (startsLeft_failOver_lt hsome) (Nat.le_of_lt_succ hrounds)
      rw [startLoop]
      dsimp only
      cases hrefuses : self.shared.outlook.refuses true with
      | false =>
          have hpos : ∃ rest, attempts self.queue.upcoming.length
              self.queue.consecutiveFailures = rest + 1 :=
            Nat.exists_eq_succ_of_ne_zero (by unfold attempts; omega)
          obtain ⟨rest, hrest⟩ := hpos
          rw [hattempt, hrefuses, hrest, Outlook.refusesStarts, hrefuses]
          simp [Option.isNone_eq_false_iff.mpr hcurrent]
      | true =>
          rw [hattempt, hrefuses, Bool.not_true, if_neg Bool.false_ne_true, if_pos hsome]
          cases hfailed : self.queue.failed.current with
          | none =>
              have hnone : self.attemptStart.2.failOver.queue.current = none := by
                rw [failOver_queue, attemptStart_queue]
                exact hfailed
              obtain ⟨rest, rfl⟩ : ∃ rest, rounds = rest + 1 :=
                Nat.exists_eq_succ_of_ne_zero (Nat.ne_zero_of_lt hlt)
              rw [startLoop_of_none _ hnone, attempts_of_failed_none hcurrent hfailed,
                Outlook.refusesStarts, hrefuses, Outlook.refusesStarts]
              simp
          | some track =>
              have hnext : self.queue.failed.current.isSome := by
                rw [hfailed]
                rfl
              obtain ⟨hattempts, hstreak⟩ := attempts_of_failed_some hcurrent hnext
              have hshared : self.attemptStart.2.failOver.shared = self.attemptStart.2.shared :=
                failOver_shared _ hstreak
              have hnextSome : self.attemptStart.2.failOver.queue.current.isSome := by
                rw [failOver_queue, attemptStart_queue]
                exact hnext
              rw [ih _ true hlt hnextSome, hshared, houtlook, failOver_queue, attemptStart_queue,
                hattempts, Outlook.refusesStarts, hrefuses]
              cases hready : self.shared.outlook.ready with
              | true => simp
              | false =>
                  have hstays : ∀ count, self.shared.outlook.refusesStarts count = true := by
                    intro count
                    cases count <;> simp [Outlook.refusesStarts, Outlook.refuses, hready]
                  simp [hstays]

/-- A start that fails leaves nothing current. -/
theorem startLoop_current {rounds : ℕ} (failed : Bool) (hrounds : self.queue.startsLeft < rounds)
    (hfalse : (self.startLoop failed rounds).1 = false) :
    (self.startLoop failed rounds).2.queue.current = none := by
  induction rounds generalizing self failed with
  | zero => exact absurd hrounds (Nat.not_lt_zero _)
  | succ rounds ih =>
      rw [startLoop] at hfalse ⊢
      dsimp only at hfalse ⊢
      split at hfalse
      · rename_i haccepted
        rw [if_pos haccepted]
        simp only [Bool.not_eq_false', Bool.and_eq_true] at hfalse
        exact Option.isNone_iff_eq_none.mp hfalse.2
      · rename_i hrefused
        rw [if_neg hrefused]
        split at hfalse
        · rename_i hsome
          rw [if_pos hsome]
          exact ih _ true (Nat.lt_of_lt_of_le (startsLeft_failOver_lt hsome)
            (Nat.le_of_lt_succ hrounds)) hfalse
        · rename_i hnone
          rw [if_neg hnone]
          exact Option.not_isSome_iff_eq_none.mp hnone

theorem startCurrent_eq_false_iff (hcurrent : self.queue.current.isSome) :
    self.startCurrent.1 = false ↔
      self.shared.outlook.refusesStarts
        (attempts self.queue.upcoming.length self.queue.consecutiveFailures) = true :=
  self.startLoop_eq_false_iff false (Nat.lt_succ_self _) hcurrent

theorem startCurrent_current (hfalse : self.startCurrent.1 = false) :
    self.startCurrent.2.queue.current = none :=
  self.startLoop_current false (Nat.lt_succ_self _) hfalse

/-- With nothing current there is one request, which stops playback. -/
theorem startCurrent_stops (h : self.queue.current = none) :
    self.startCurrent.1 = !self.shared.outlook.refuses false ∧
      self.startCurrent.2.paused = false := by
  have hleft : self.queue.startsLeft = 0 := by
    simp [Queue.startsLeft, h]
  obtain ⟨hattempt, -⟩ := self.attemptStart_outlook
  rw [h] at hattempt
  rw [startCurrent, hleft, startLoop]
  dsimp only
  rw [attemptStart_queue, h]
  split
  · rename_i haccepted
    exact ⟨haccepted.symm.trans hattempt, rfl⟩
  · rename_i hrefused
    rw [Bool.not_eq_true] at hrefused
    exact ⟨hrefused.symm.trans hattempt, rfl⟩

/-! ## Answers that leave a trace -/

/-- The queue, the volume, the pause and the channel are as before. -/
structure Unchanged (before after : GuildSession) : Prop where
  current : after.queue.current = before.queue.current
  upcoming : after.queue.upcoming = before.queue.upcoming
  history : after.queue.history = before.queue.history
  loopMode : after.queue.loopMode = before.queue.loopMode
  volume : after.volume = before.volume
  paused : after.paused = before.paused
  channel : after.channel = before.channel

/-- An answer with an error changed nothing. -/
def Atomic (answer : Answer) : Prop :=
  ∀ error, answer.1 = .error error → self.Unchanged answer.2

theorem unchanged_refl : self.Unchanged self := ⟨rfl, rfl, rfl, rfl, rfl, rfl, rfl⟩

theorem atomic_ok {answer : Answer} {text : String} (h : answer.1 = .ok text) :
    self.Atomic answer := by
  intro error herror
  rw [h] at herror
  cases herror

theorem atomic_unchanged {answer : Answer} (h : self.Unchanged answer.2) : self.Atomic answer :=
  fun _ _ => h

/-- A transport fails exactly if the start fails, and then nothing is current. -/
theorem transport_atomic_iff (selected : GuildSession) (verb : String)
    (hcurrent : self.queue.current.isSome) :
    self.Atomic (selected.transport verb) ↔ selected.startCurrent.1 = true := by
  unfold transport
  dsimp only
  cases hstart : selected.startCurrent.1 with
  | true =>
      refine iff_of_true ?_ rfl
      rw [Bool.not_true, if_neg Bool.false_ne_true]
      exact self.atomic_ok rfl
  | false =>
      refine iff_of_false ?_ Bool.false_ne_true
      rw [Bool.not_false, if_pos rfl]
      intro hatomic
      have hsame := (hatomic transportError rfl).current
      rw [selected.startCurrent_current hstart] at hsame
      rw [← hsame] at hcurrent
      cases hcurrent

/-! ## When a control is torn -/

/-- The start of a current track with others waiting behind it will be refused. -/
def startRefused (waiting : ℕ) : Prop :=
  self.shared.outlook.refusesStarts (attempts waiting self.queue.consecutiveFailures) = true

/-- There is a track to go back to and room for it, but no track will start. -/
def tornPrevious : Prop :=
  self.queue.current.isSome ∧ ∃ last, self.queue.history.getLast? = some last ∧
    match self.queue.duplicate last with
    | some _ => self.startRefused self.queue.upcoming.length
    | none => self.queue.len < self.shared.config.limits.queue ∧
        self.startRefused (self.queue.upcoming.length + 1)

/-- There is a track to jump to, but no track will start. -/
def tornJump (position : ℕ) : Prop :=
  self.queue.current.isSome ∧ 0 < position ∧ position ≤ self.queue.upcoming.length ∧
    self.startRefused (self.queue.upcoming.length - 1)

/-- There is a track to skip, but no track will start, or playback will not stop. -/
def tornSkip : Prop :=
  self.queue.current.isSome ∧
    match self.queue.upcoming with
    | [] => self.shared.outlook.refuses false = true
    | _ :: waiting => self.startRefused waiting.length

/-- There is something to stop, but playback will not stop. -/
def tornStop : Prop :=
  self.channel.isSome ∧ self.shared.outlook.refuses false = true ∧
    ¬ (self.queue.current = none ∧ self.queue.upcoming = [] ∧ self.queue.history = [] ∧
      self.paused = false)

/-- A control that the caller may use, on a node that is ready, will be torn. -/
def Torn (request : Request) : Prop :=
  self.refusal request = none ∧ self.shared.health.ready = true ∧
    match request.name with
    | "previous" => self.tornPrevious
    | "jump" => self.tornJump (request.index "position")
    | "skip" => self.tornSkip
    | "stop" => self.tornStop
    | _ => False

/-- A track is selected; its start fails if it is refused. -/
theorem selected_starts (track : Track) (upcoming history : List Track) :
    ({ self with queue := { self.queue with
      current := some track, upcoming := upcoming, history := history } } :
        GuildSession).startCurrent.1 = true ↔ ¬ self.startRefused upcoming.length := by
  rw [← Bool.not_eq_false, startCurrent_eq_false_iff _ rfl]
  rfl

/-- Going over to a selected track is torn exactly if its start is refused. -/
theorem selected_atomic_iff (hlive : self.queue.current.isSome) (track : Track)
    (upcoming history : List Track) (verb : String) :
    self.Atomic (({ self with queue := { self.queue with
      current := some track, upcoming := upcoming, history := history } } :
        GuildSession).transport verb) ↔ ¬ self.startRefused upcoming.length :=
  (self.transport_atomic_iff _ verb hlive).trans (self.selected_starts track upcoming history)

theorem previous_atomic_iff : self.Atomic self.previous ↔ ¬ self.tornPrevious := by
  unfold previous tornPrevious
  dsimp only
  rw [Queue.value_previous]
  cases hcurrent : self.queue.current with
  | none =>
      have hrestored : self.queue.restored self.shared.config.limits.queue =
          (.noHistory, self.queue) := by simp [Queue.restored, hcurrent]
      rw [hrestored]
      exact iff_of_true (self.atomic_ok rfl) fun h => Bool.false_ne_true h.1
  | some current =>
      have hlive : self.queue.current.isSome := by
        rw [hcurrent]
        rfl
      cases hlast : self.queue.history.getLast? with
      | none =>
          have hrestored : self.queue.restored self.shared.config.limits.queue =
              (.noHistory, self.queue) := by simp [Queue.restored, hcurrent, hlast]
          rw [hrestored]
          apply iff_of_true (self.atomic_ok rfl)
          rintro ⟨-, last, habsurd, -⟩
          cases habsurd
      | some last =>
          cases hduplicate : self.queue.duplicate last with
          | some index =>
              have hlt := Queue.duplicate_lt hduplicate
              have hrestored : self.queue.restored self.shared.config.limits.queue =
                  (.started, { self.queue with
                    current := some last
                    upcoming := current :: self.queue.upcoming.eraseIdx index
                    history := self.queue.history.dropLast }) := by
                simp [Queue.restored, hcurrent, hlast, hduplicate]
              have hlength : (current :: self.queue.upcoming.eraseIdx index).length =
                  self.queue.upcoming.length := by
                rw [List.length_cons, List.length_eraseIdx_of_lt hlt]
                omega
              rw [hrestored]
              apply (self.selected_atomic_iff hlive _ _ _ _).trans
              rw [hlength]
              simp [hduplicate]
          | none =>
              by_cases hfull : self.queue.len ≥ self.shared.config.limits.queue
              · have hrestored : self.queue.restored self.shared.config.limits.queue =
                    (.full, self.queue) := by
                  simp [Queue.restored, hcurrent, hlast, hduplicate, hfull]
                rw [hrestored]
                apply iff_of_true (self.atomic_ok rfl)
                rintro ⟨-, other, hother, htorn⟩
                cases hother
                rw [hduplicate] at htorn
                exact absurd hfull (Nat.not_le_of_lt htorn.1)
              · have hrestored : self.queue.restored self.shared.config.limits.queue =
                    (.started, { self.queue with
                      current := some last
                      upcoming := current :: self.queue.upcoming
                      history := self.queue.history.dropLast }) := by
                  simp [Queue.restored, hcurrent, hlast, hduplicate, hfull]
                rw [hrestored]
                apply (self.selected_atomic_iff hlive _ _ _ _).trans
                simp [hduplicate, Nat.lt_of_not_le hfull]

theorem jump_atomic_iff (position : ℕ) :
    self.Atomic (self.jump position) ↔ ¬ self.tornJump position := by
  unfold jump tornJump
  dsimp only
  rw [Queue.value_jump]
  cases hcurrent : self.queue.current with
  | none =>
      have hjumped : self.queue.jumped position = (false, self.queue) := by
        simp [Queue.jumped, hcurrent]
      rw [hjumped]
      exact iff_of_true (self.atomic_ok rfl) fun h => Bool.false_ne_true h.1
  | some current =>
      have hlive : self.queue.current.isSome := by
        rw [hcurrent]
        rfl
      by_cases hposition : 0 < position ∧ position ≤ self.queue.upcoming.length
      · have hlt : position - 1 < self.queue.upcoming.length := by omega
        have hjumped : self.queue.jumped position = (true, { self.queue with
            current := some self.queue.upcoming[position - 1]
            upcoming := self.queue.upcoming.eraseIdx (position - 1)
            history := Queue.remembered self.queue.history current }) := by
          simp [Queue.jumped, Queue.removed, hcurrent, hlt, Nat.ne_of_gt hposition.1]
        rw [hjumped]
        apply (self.selected_atomic_iff hlive _ _ _ _).trans
        rw [List.length_eraseIdx_of_lt hlt]
        simp [hposition]
      · have hjumped : self.queue.jumped position = (false, self.queue) := by
          by_cases hzero : position = 0
          · simp [Queue.jumped, Queue.removed, hcurrent, hzero]
          · have hge : self.queue.upcoming.length ≤ position - 1 := by omega
            simp [Queue.jumped, Queue.removed, hcurrent, hzero, List.getElem?_eq_none hge]
        rw [hjumped]
        apply iff_of_true (self.atomic_ok rfl)
        rintro ⟨-, hpos, hle, -⟩
        exact hposition ⟨hpos, hle⟩

theorem skip_atomic_iff : self.Atomic self.skip ↔ ¬ self.tornSkip := by
  rw [skip, tornSkip]
  rw [Queue.value_skip]
  cases hcurrent : self.queue.current with
  | none =>
      exact iff_of_true (self.atomic_ok rfl) fun h => Bool.false_ne_true h.1
  | some current =>
      have hlive : self.queue.current.isSome := by
        rw [hcurrent]
        rfl
      rw [Option.isNone_some, if_neg Bool.false_ne_true]
      apply (self.transport_atomic_iff _ _ hlive).trans
      cases hupcoming : self.queue.upcoming with
      | nil =>
          have hnone : self.queue.skipped.current = none := by
            simp [Queue.skipped, hcurrent, hupcoming]
          have hstops := (startCurrent_stops { self with queue := self.queue.skipped } hnone).1
          rw [hstops]
          simp
      | cons first waiting =>
          have hskipped : self.queue.skipped = { self.queue with
              current := some first
              upcoming := waiting
              history := Queue.remembered self.queue.history current } := by
            simp [Queue.skipped, hcurrent, hupcoming]
          rw [hskipped]
          apply (self.selected_starts _ _ _).trans
          simp

/-- A stop whose start failed changed nothing exactly if nothing was there to stop. -/
theorem unchanged_halted_iff : self.Unchanged self.invalidate.halt.startCurrent.2 ↔
    self.queue.current = none ∧ self.queue.upcoming = [] ∧ self.queue.history = [] ∧
      self.paused = false := by
  have hpaused := (startCurrent_stops self.invalidate.halt rfl).2
  obtain ⟨hchannel, hvolume⟩ := startCurrent_channel self.invalidate.halt
  have hqueue := startCurrent_of_none self.invalidate.halt rfl
  constructor
  · intro h
    have hcurrent := h.current
    have hupcoming := h.upcoming
    have hhistory := h.history
    have hpause := h.paused
    rw [hqueue] at hcurrent hupcoming hhistory
    rw [hpaused] at hpause
    exact ⟨hcurrent.symm, hupcoming.symm, hhistory.symm, hpause.symm⟩
  · rintro ⟨hcurrent, hupcoming, hhistory, hpause⟩
    refine ⟨?_, ?_, ?_, ?_, hvolume, hpaused.trans hpause.symm, hchannel⟩
    · rw [hqueue, hcurrent]
      rfl
    · rw [hqueue, hupcoming]
      rfl
    · rw [hqueue, hhistory]
      rfl
    · rw [hqueue]
      rfl

theorem stop_atomic_iff (hready : self.shared.health.ready = true) :
    self.Atomic self.stop ↔ ¬ self.tornStop := by
  rw [stop, tornStop]
  dsimp only
  split
  · rename_i hnone
    have hnone : self.channel = none := Option.isNone_iff_eq_none.mp hnone
    refine iff_of_true (self.atomic_ok rfl) fun h => ?_
    rw [hnone] at h
    cases h.1
  · rename_i hsome
    have hlive : self.channel.isSome := by
      rwa [Bool.not_eq_true, ← Option.not_isSome, Bool.not_eq_false'] at hsome
    rw [if_pos (show self.invalidate.halt.shared.health.ready = true from hready)]
    have hstops := (startCurrent_stops self.invalidate.halt rfl).1
    have houtlook : self.invalidate.halt.shared.outlook = self.shared.outlook := rfl
    rw [houtlook] at hstops
    cases hrefuses : self.shared.outlook.refuses false with
    | false =>
        rw [hrefuses] at hstops
        rw [hstops, Bool.not_false, Bool.not_true, if_neg Bool.false_ne_true]
        exact iff_of_true (self.atomic_ok rfl) fun h => Bool.false_ne_true h.2.1
    | true =>
        rw [hrefuses] at hstops
        rw [hstops, Bool.not_true, Bool.not_false, if_pos rfl]
        constructor
        · intro hatomic htorn
          exact htorn.2.2 (self.unchanged_halted_iff.mp (hatomic transportError rfl))
        · intro hnot
          apply self.atomic_unchanged
          rw [unchanged_halted_iff]
          by_contra hidle
          exact hnot ⟨hlive, rfl, hidle⟩

/-! ## Controls that are never torn -/

theorem setPaused_atomic (paused : Bool) : self.Atomic (self.setPaused paused) := by
  rw [setPaused]
  split
  · exact self.atomic_ok rfl
  · split
    · exact self.atomic_ok rfl
    · dsimp only
      split
      · exact self.atomic_unchanged ⟨rfl, rfl, rfl, rfl, rfl, rfl, rfl⟩
      · exact self.atomic_ok rfl

theorem setVolume_atomic (level : String) : self.Atomic (self.setVolume level) := by
  rw [setVolume]
  split
  · exact self.atomic_unchanged self.unchanged_refl
  · split
    · exact self.atomic_ok rfl
    · dsimp only
      split
      · exact self.atomic_unchanged ⟨rfl, rfl, rfl, rfl, rfl, rfl, rfl⟩
      · exact self.atomic_ok rfl

theorem setLoopMode_atomic (mode : String) : self.Atomic (self.setLoopMode mode) := by
  rw [setLoopMode]
  split
  · exact self.atomic_unchanged self.unchanged_refl
  · exact self.atomic_ok rfl

/-- An unready node is not asked to stop. -/
theorem stop_atomic_of_unready (hready : self.shared.health.ready = false) :
    self.Atomic self.stop := by
  rw [stop]
  dsimp only
  split
  · exact self.atomic_ok rfl
  · rw [if_neg (show ¬ self.invalidate.halt.shared.health.ready = true from
      fun h => Bool.false_ne_true (hready.symm.trans h))]
    exact self.atomic_ok rfl

/-- Once it is carried out, a control is torn exactly under its condition. -/
theorem perform_atomic_iff (request : Request) (hrefusal : self.refusal request = none)
    (hready : (!self.shared.health.ready && nodeControls.contains request.name) = false) :
    self.Atomic (self.perform request) ↔ ¬ self.Torn request := by
  have hneeds : nodeControls.contains request.name = true → self.shared.health.ready = true := by
    intro hcontains
    rwa [hcontains, Bool.and_true, Bool.not_eq_false'] at hready
  rw [perform, Torn]
  split
  · rename_i hname
    exact iff_of_true (self.setPaused_atomic true) fun h => by simp [hname] at h
  · rename_i hname
    exact iff_of_true (self.setPaused_atomic false) fun h => by simp [hname] at h
  · rename_i hname
    exact iff_of_true (self.setVolume_atomic _) fun h => by simp [hname] at h
  · rename_i hname
    exact iff_of_true (self.setLoopMode_atomic _) fun h => by simp [hname] at h
  · rename_i hname
    exact iff_of_true (self.atomic_ok rfl) fun h => by simp [hname] at h
  · rename_i hname
    exact iff_of_true (self.atomic_ok rfl) fun h => by simp [hname] at h
  · rename_i hname
    exact iff_of_true (self.atomic_ok rfl) fun h => by simp [hname] at h
  · rename_i hname
    exact iff_of_true (self.atomic_ok rfl) fun h => by simp [hname] at h
  · rename_i hname
    rw [self.previous_atomic_iff]
    simp [hname, hrefusal, hneeds (by rw [hname]; decide)]
  · rename_i hname
    rw [self.jump_atomic_iff]
    simp [hname, hrefusal, hneeds (by rw [hname]; decide)]
  · rename_i hname
    rw [self.skip_atomic_iff]
    simp [hname, hrefusal, hneeds (by rw [hname]; decide)]
  · rename_i hname
    cases hstate : self.shared.health.ready with
    | false =>
        exact iff_of_true (self.stop_atomic_of_unready hstate) fun h => Bool.false_ne_true h.2.1
    | true =>
        rw [self.stop_atomic_iff hstate]
        simp [hname, hrefusal]
  · apply iff_of_true (self.atomic_ok rfl)
    rintro ⟨-, -, htorn⟩
    split at htorn <;> simp_all

/-- A control that answers with an error has left the queue, the volume, the pause and
the channel as they were, except exactly for a torn one. -/
theorem control_atomic_iff (request : Request) :
    self.Atomic (self.control request) ↔ ¬ self.Torn request := by
  rw [control]
  split
  · rename_i hvolume
    apply iff_of_true (self.atomic_ok rfl)
    rintro ⟨-, -, htorn⟩
    rw [hvolume.1] at htorn
    exact htorn
  · split
    · rename_i hunknown
      apply iff_of_true (self.atomic_unchanged self.unchanged_refl)
      rintro ⟨-, -, htorn⟩
      split at htorn
      all_goals first
        | exact htorn
        | (rename_i hname
           rw [hname] at hunknown
           exact absurd hunknown (by decide))
    · split
      · rename_i hunready
        apply iff_of_true (self.atomic_unchanged self.unchanged_refl)
        rintro ⟨-, hready, -⟩
        rw [hready] at hunready
        cases hunready
      · rename_i hready
        rw [Bool.not_eq_true] at hready
        split
        · rename_i hrefusal
          apply iff_of_true (self.atomic_unchanged self.unchanged_refl)
          rintro ⟨hnone, -⟩
          rw [hrefusal] at hnone
          cases hnone
        · rename_i hrefusal
          exact self.perform_atomic_iff request hrefusal hready

/-- A session that plays a track with another one waiting, before a turn in which the
node refuses to start tracks. -/
def refusedSkip : GuildSession :=
  (((Worker.start 1 Sample.shared).run
    (Sample.play :: Sample.resolve [Sample.track "a", Sample.track "b"])).session.prepare
      (.replicate 4 { refusal := .trackStarts }) [])

/-- The skip is answered with an error, but the track is gone, and so is the next. -/
theorem refusedSkip_not_atomic :
    ¬ refusedSkip.Atomic (refusedSkip.control (Sample.command "skip" [])) := by
  intro hatomic
  have hanswer : (refusedSkip.control (Sample.command "skip" [])).1 = .error transportError := by
    decide +kernel
  have hcurrent := (hatomic transportError hanswer).current
  have hbefore : refusedSkip.queue.current.isSome = true := by decide +kernel
  have hafter : (refusedSkip.control (Sample.command "skip" [])).2.queue.current = none := by
    decide +kernel
  rw [← hcurrent, hafter] at hbefore
  cases hbefore

end GuildSession

end Raydio.Session
