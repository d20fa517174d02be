/-
# The rounds of starting a track

The loop of `start_current` has no counter. It ends because every refused track is
failed over, which either takes the next one or reaches the failure limit and empties
the queue. `Rounds` is the loop without a bound on its rounds, together with the updates
it makes; `startLoop` agrees with it as soon as its rounds suffice. What the loop does to
the queue, the generation and the idle timer is read off the rounds, and what it sends to
the node is what the rounds list.
-/

import Raydio.Session.Moves
import Raydio.Session.Replies

namespace Raydio.Session

open Raydio.Foundation Raydio.Playback

/-! ## What the node is sent -/

/-- The update that a call sends to the node, with whether it accepted it. -/
def Call.sent? : Call → Option (Patch × Bool)
  | .update _ patch accepted => some (patch, accepted)
  | _ => none

namespace Shared

/-- The updates that the node was sent. -/
def sent (self : Shared) : List (Patch × Bool) := self.calls.filterMap Call.sent?

/-- The node was sent these updates and no others, but for those that failed because it was
not ready. -/
def Sends (updates : List (Patch × Bool)) (before after : Shared) : Prop :=
  ∃ sent, after.sent = before.sent ++ sent ∧ sent.Sublist updates ∧
    sent.filter Prod.snd = updates.filter Prod.snd ∧ (before.Steady → sent = updates)

variable {first second third : Shared}

theorem Sends.of_eq (h : second.sent = first.sent) : Sends [] first second :=
  ⟨[], by rw [h, List.append_nil], List.Sublist.refl _, rfl, fun _ => rfl⟩

theorem Sends.trans {updates more : List (Patch × Bool)} (h : Sends updates first second)
    (hlater : Later first second) (h' : Sends more second third) :
    Sends (updates ++ more) first third := by
  obtain ⟨sent, hsent, hsub, haccepted, hall⟩ := h
  obtain ⟨sent', hsent', hsub', haccepted', hall'⟩ := h'
  refine ⟨sent ++ sent', ?_, hsub.append hsub', ?_, ?_⟩
  · rw [hsent', hsent, List.append_assoc]
  · rw [List.filter_append, haccepted, haccepted', List.filter_append]
  · intro hsteady
    rw [hall hsteady, hall' (hlater.steady hsteady)]

/-- A call with its suspension, which is no update. -/
theorem sent_call (self : Shared) {call : Call} (hcall : call.sent? = none) :
    (self.record call).suspend.2.sent = self.sent := by
  rw [sent, calls_suspend]
  show (self.calls ++ [call]).filterMap Call.sent? = _
  rw [List.filterMap_append, List.filterMap_cons_none hcall, List.filterMap_nil, List.append_nil]
  rfl

/-- A ready node is sent the update. -/
theorem sends_update (self : Shared) (patch : Patch) :
    Sends [(patch, (self.update patch).1)] self (self.update patch).2 := by
  rw [update]
  cases hready : self.health.ready with
  | false =>
      refine ⟨[], (List.append_nil _).symm, List.nil_sublist _, rfl, ?_⟩
      intro hsteady
      rw [hsteady.ready] at hready
      cases hready
  | true =>
      refine ⟨_, ?_, List.Sublist.refl _, rfl, fun _ => rfl⟩
      simp only [Bool.not_true, Bool.false_eq_true, if_false, sent, calls_suspend, receive,
        List.filterMap_append]
      rfl

end Shared

namespace GuildSession

theorem sends_attemptStart (self : GuildSession) :
    Shared.Sends [(self.beginStart.startPatch, self.attemptStart.1)] self.shared
      self.attemptStart.2.shared :=
  self.shared.sends_update _

theorem sent_failOver (self : GuildSession) : self.failOver.shared.sent = self.shared.sent := by
  rw [failOver]
  dsimp only
  split
  · rw [notify]
    split
    · exact Shared.sent_call _ rfl
    · rfl
  · rfl

/-- The rounds from a session on: the updates they make, each with whether the node
accepted it, and what the loop returns. -/
inductive Rounds : Bool → GuildSession → List (Patch × Bool) → Bool × GuildSession → Prop
  | accepted {self : GuildSession} (failed : Bool) (accepted : self.attemptStart.1 = true) :
      Rounds failed self [(self.beginStart.startPatch, true)]
        (!(failed && self.queue.current.isNone), self.attemptStart.2.settleStart)
  | stopped {self : GuildSession} (failed : Bool) (refused : self.attemptStart.1 = false)
      (nothing : self.queue.current = none) :
      Rounds failed self [(self.beginStart.startPatch, false)]
        (false, { self.attemptStart.2 with idleAt := some self.attemptStart.2.now })
  | refused {self : GuildSession} (failed : Bool) (refused : self.attemptStart.1 = false)
      (something : self.queue.current.isSome) {updates : List (Patch × Bool)}
      {result : Bool × GuildSession}
      (rest : Rounds true self.attemptStart.2.failOver updates result) :
      Rounds failed self ((self.beginStart.startPatch, false) :: updates) result

/-! ## The loop ends -/

theorem startsLeft_le (queue : Queue) : max 1 queue.startsLeft ≤ 4 := by
  rw [Queue.startsLeft]
  split
  · simp only [failureLimit]
    omega
  · omega

/-- A refused track costs one of the starts that are left. -/
theorem startsLeft_failed {queue : Queue} {limit : ℕ} (h : queue.Admitted limit)
    (hcurrent : queue.current.isSome) :
    max 1 queue.failed.startsLeft + 1 ≤ max 1 queue.startsLeft := by
  have hnone : queue.current.isNone = false := by
    rw [← Option.not_isSome, hcurrent, Bool.not_true]
  have hstreak := h.failures_lt hcurrent
  have hleft : queue.startsLeft = 1 + (failureLimit - queue.consecutiveFailures) := if_pos hcurrent
  rw [hleft, Queue.failed, hnone]
  simp only [failureLimit] at *
  by_cases hlimit : queue.consecutiveFailures + 1 ≥ 3
  · simp only [hlimit, Queue.startsLeft, Bool.false_eq_true, if_false, if_true,
      Option.isSome_none]
    omega
  · simp only [hlimit, Queue.startsLeft, Bool.false_eq_true, if_false, failureLimit]
    split <;> omega

theorem admitted_failOver {self : GuildSession} {limit : ℕ} (h : self.queue.Admitted limit) :
    self.attemptStart.2.failOver.queue.Admitted limit := by
  rw [failOver_queue, attemptStart_queue]
  exact h.failed

/-- The loop ends after as many updates as there are starts left, and at least one. -/
theorem exists_rounds {self : GuildSession} {limit bound : ℕ} (h : self.queue.Admitted limit)
    (hbound : max 1 self.queue.startsLeft ≤ bound) (failed : Bool) :
    ∃ updates result, Rounds failed self updates result ∧ updates.length ≤ bound := by
  induction bound generalizing self failed with
  | zero => omega
  | succ bound ih =>
      cases haccepted : self.attemptStart.1
      · cases hcurrent : self.queue.current with
        | none => exact ⟨_, _, .stopped failed haccepted hcurrent, by simp⟩
        | some track =>
            have hsome : self.queue.current.isSome := by
              rw [hcurrent]
              rfl
            have hless : max 1 self.attemptStart.2.failOver.queue.startsLeft ≤ bound := by
              rw [failOver_queue, attemptStart_queue]
              have hstep := startsLeft_failed h hsome
              omega
            obtain ⟨updates, result, hrest, hlength⟩ := ih (admitted_failOver h) hless true
            exact ⟨_, _, .refused failed haccepted hsome hrest, Nat.succ_le_succ hlength⟩
      · exact ⟨_, _, .accepted failed haccepted, by simp⟩

/-- As many rounds as there are updates are enough for the counted loop. -/
theorem Rounds.startLoop_eq {failed : Bool} {self : GuildSession} {updates : List (Patch × Bool)}
    {result : Bool × GuildSession} (h : Rounds failed self updates result) {rounds : ℕ}
    (hrounds : updates.length ≤ rounds) : self.startLoop failed rounds = result := by
  induction h generalizing rounds with
  | @accepted self failed haccepted =>
      obtain ⟨rounds, rfl⟩ := Nat.exists_eq_add_of_le' hrounds
      rw [List.length_singleton, startLoop]
      dsimp only
      rw [if_pos haccepted, attemptStart_queue]
  | @stopped self failed hrefused hnothing =>
      obtain ⟨rounds, rfl⟩ := Nat.exists_eq_add_of_le' hrounds
      rw [List.length_singleton, startLoop]
      dsimp only
      rw [if_neg (by rw [hrefused]; exact Bool.false_ne_true), attemptStart_queue, hnothing]
      rfl
  | @refused self failed hrefused hsomething updates result rest ih =>
      obtain ⟨rounds, rfl⟩ := Nat.exists_eq_add_of_le' hrounds
      rw [List.length_cons, ← Nat.add_assoc, startLoop]
      dsimp only
      rw [if_neg (by rw [hrefused]; exact Bool.false_ne_true), attemptStart_queue,
        if_pos hsomething]
      exact ih (Nat.le_add_left _ _)

/-! ## What the rounds leave -/

/-- What updates carry that start the tracks one after the other, each of them under a
new generation. -/
def carried (generation : ℕ) : List Track → List (Option (Option (String × ℕ)))
  | [] => []
  | track :: tracks =>
      some (some (track.encoded, wrappingSucc generation)) ::
        carried (wrappingSucc generation) tracks

/-- What the loop did from a session on, by its updates and its result. A track that
plays now was accepted after the tracks before it were refused, and nothing but the
tracks after it is left; without success nothing is left. The node was sent the updates and
no others. -/
structure Tried (before : GuildSession) (updates : List (Patch × Bool))
    (result : Bool × GuildSession) : Prop where
  generation : result.2.generation = wrappingSucc^[updates.length] before.generation
  history : result.2.queue.history = before.queue.history
  loopMode : result.2.queue.loopMode = before.queue.loopMode
  idle : result.2.idleAt.isSome ↔ result.2.queue.current = none
  started : result.1 = true → ∀ track, result.2.queue.current = some track → ∃ passed,
    before.queue.current.toList ++ before.queue.upcoming =
        passed ++ track :: result.2.queue.upcoming ∧
      updates.map Prod.snd = passed.map (fun _ => false) ++ [true] ∧
      updates.map (fun update => update.1.track) = carried before.generation (passed ++ [track])
  last : result.1 = true → ∀ track, result.2.queue.current = some track →
    ∃ patch, updates.getLast? = some (patch, true) ∧
      patch.track = some (some (track.encoded, result.2.generation))
  failed : result.1 = false → result.2.queue.current = none ∧ result.2.queue.upcoming = []
  sent : Shared.Sends updates before.shared result.2.shared

/-- A queue whose current track failed plays on with what was upcoming, or not at all. -/
theorem tracks_failed {queue : Queue} (h : queue.current.isSome) :
    queue.failed.current.toList ++ queue.failed.upcoming = [] ∨
      queue.failed.current.toList ++ queue.failed.upcoming = queue.upcoming := by
  have hnone : queue.current.isNone = false := by
    rw [← Option.not_isSome, h, Bool.not_true]
  rw [Queue.failed, hnone]
  simp only [Bool.false_eq_true, if_false]
  split
  · exact Or.inl rfl
  · right
    cases queue.upcoming <;> rfl

theorem failed_history (queue : Queue) : queue.failed.history = queue.history ∧
    queue.failed.loopMode = queue.loopMode := by
  rw [Queue.failed]
  split
  · exact ⟨rfl, rfl⟩
  · split <;> exact ⟨rfl, rfl⟩

/-- The update of an attempt to start a track carries the track and its generation. -/
theorem startPatch_track {self : GuildSession} {track : Track}
    (h : self.queue.current = some track) :
    self.beginStart.startPatch.track =
      some (some (track.encoded, wrappingSucc self.generation)) := by
  have hqueue : self.beginStart.queue.current = some track := h
  rw [startPatch, hqueue]
  rfl

theorem tried_accepted {self : GuildSession} {limit : ℕ} (h : self.queue.Admitted limit)
    (failed : Bool) (haccepted : self.attemptStart.1 = true) :
    self.Tried [(self.beginStart.startPatch, true)]
      (!(failed && self.queue.current.isNone), self.attemptStart.2.settleStart) where
  generation := rfl
  history := rfl
  loopMode := rfl
  idle := by
    show (if self.queue.current.isNone then some _ else none).isSome ↔ self.queue.current = none
    cases self.queue.current <;> simp
  started _ track hcurrent := by
    have hcurrent : self.queue.current = some track := hcurrent
    refine ⟨[], ?_, rfl, ?_⟩
    · rw [hcurrent]
      rfl
    · rw [List.map_singleton, startPatch_track hcurrent]
      rfl
  last _ track hcurrent := ⟨_, rfl, startPatch_track hcurrent⟩
  failed hfailed := by
    have hnone : self.queue.current = none := by
      simp only [Bool.not_eq_false', Bool.and_eq_true, Option.isNone_iff_eq_none] at hfailed
      exact hfailed.2
    exact ⟨hnone, h.nothing_waits hnone⟩
  sent := haccepted ▸ self.sends_attemptStart

theorem tried_stopped {self : GuildSession} {limit : ℕ} (h : self.queue.Admitted limit)
    (hrefused : self.attemptStart.1 = false) (hnone : self.queue.current = none) :
    self.Tried [(self.beginStart.startPatch, false)]
      (false, { self.attemptStart.2 with idleAt := some self.attemptStart.2.now }) where
  generation := rfl
  history := rfl
  loopMode := rfl
  idle := ⟨fun _ => hnone, fun _ => rfl⟩
  started habsurd := by cases habsurd
  last habsurd := by cases habsurd
  failed _ := ⟨hnone, h.nothing_waits hnone⟩
  sent := hrefused ▸ self.sends_attemptStart

theorem tried_refused {self : GuildSession} (hrefused : self.attemptStart.1 = false)
    (hcurrent : self.queue.current.isSome) {updates : List (Patch × Bool)}
    {result : Bool × GuildSession} (hne : updates ≠ [])
    (h : self.attemptStart.2.failOver.Tried updates result) :
    self.Tried ((self.beginStart.startPatch, false) :: updates) result := by
  obtain ⟨current, htrack⟩ := Option.isSome_iff_exists.mp hcurrent
  obtain ⟨-, -, hcourse, hdrifts⟩ := self.attemptStart.2.failOver_spec
  have hgeneration : self.attemptStart.2.failOver.generation = wrappingSucc self.generation :=
    congrArg Course.generation hcourse
  have hqueue : self.attemptStart.2.failOver.queue = self.queue.failed := by
    rw [failOver_queue, attemptStart_queue]
  obtain ⟨hhistory, hmode⟩ := failed_history self.queue
  refine ⟨?_, ?_, ?_, h.idle, ?_, ?_, h.failed, ?_⟩
  · rw [h.generation, hgeneration, List.length_cons, Function.iterate_succ_apply]
  · rw [h.history, hqueue, hhistory]
  · rw [h.loopMode, hqueue, hmode]
  · intro hstarted track hplays
    obtain ⟨passed, htracks, haccepted, hcarried⟩ := h.started hstarted track hplays
    rw [hqueue] at htracks
    rcases tracks_failed hcurrent with hnone | hupcoming
    · rw [hnone] at htracks
      simp at htracks
    · refine ⟨current :: passed, ?_, ?_, ?_⟩
      · rw [htrack, ← hupcoming, htracks]
        rfl
      · rw [List.map_cons, haccepted]
        rfl
      · rw [List.map_cons, hcarried, hgeneration, startPatch_track htrack]
        rfl
  · intro hstarted track hplays
    rw [List.getLast?_cons_of_ne_nil hne]
    exact h.last hstarted track hplays
  · have hattempt : Shared.Sends [(self.beginStart.startPatch, false)] self.shared
        self.attemptStart.2.shared := hrefused ▸ self.sends_attemptStart
    have hfailed := Shared.Sends.of_eq self.attemptStart.2.sent_failOver
    exact (hattempt.trans (later_update _ _) hfailed).trans
      ((later_update _ _).trans hdrifts.toLater) h.sent

theorem Rounds.ne_nil {failed : Bool} {self : GuildSession} {updates : List (Patch × Bool)}
    {result : Bool × GuildSession} (h : Rounds failed self updates result) : updates ≠ [] := by
  cases h <;> simp

theorem Rounds.tried {failed : Bool} {self : GuildSession} {updates : List (Patch × Bool)}
    {result : Bool × GuildSession} {limit : ℕ} (h : Rounds failed self updates result)
    (hadmitted : self.queue.Admitted limit) : self.Tried updates result := by
  induction h with
  | accepted failed accepted => exact tried_accepted hadmitted failed accepted
  | stopped failed refused nothing => exact tried_stopped hadmitted refused nothing
  | refused failed refused something rest ih =>
      exact tried_refused refused something rest.ne_nil (ih (admitted_failOver hadmitted))

/-- Starting the current track ends after at most four updates, each of which opens a
generation, and sends the node no others. The first track that the node accepts plays, with
the tracks after it upcoming; without one nothing is left. The history and the loop mode
stay, and the idle timer runs exactly if nothing plays. -/
theorem startCurrent_rounds (self : GuildSession) {limit : ℕ}
    (h : self.queue.Admitted limit) :
    ∃ updates, Rounds false self updates self.startCurrent ∧ updates.length ≤ 4 ∧
      (∀ rounds ≥ updates.length, self.startLoop false rounds = self.startCurrent) ∧
      self.Tried updates self.startCurrent := by
  obtain ⟨updates, result, hrounds, hlength⟩ := exists_rounds h (Nat.le_refl _) false
  have henough : updates.length ≤ self.queue.startsLeft + 1 := by omega
  have hresult : self.startCurrent = result := hrounds.startLoop_eq henough
  rw [hresult]
  exact ⟨updates, hrounds, hlength.trans (startsLeft_le _),
    fun rounds hle => hrounds.startLoop_eq hle, hrounds.tried h⟩

/-- A session in which one track is about to be started and another one waits. -/
def twoTracks : GuildSession :=
  { GuildSession.new 1 Sample.shared with
    queue := { Queue.default with
      current := some (Sample.track "a"), upcoming := [Sample.track "b"] } }

theorem admitted_twoTracks : twoTracks.queue.Admitted 20 :=
  ⟨by decide, by decide, by decide, by decide, by decide⟩

theorem startCurrent_rounds_twoTracks :
    ∃ updates, Rounds false twoTracks updates twoTracks.startCurrent ∧ updates.length ≤ 4 ∧
      (∀ rounds ≥ updates.length, twoTracks.startLoop false rounds = twoTracks.startCurrent) ∧
      twoTracks.Tried updates twoTracks.startCurrent :=
  startCurrent_rounds twoTracks admitted_twoTracks

end GuildSession

end Raydio.Session
