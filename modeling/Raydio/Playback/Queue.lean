/-
# The playback queue

One current track, the tracks after it and the last tracks that were heard.
Every operation is the source's sequence of vector calls, each of which may
abort; the equation after an operation says that it does not, and what the
queue becomes.
-/

import Raydio.Foundation.Checked
import Raydio.Foundation.Text

namespace Raydio.Playback

open Raydio.Foundation

/-- How many heard tracks the history keeps. -/
def historyLimit : ℕ := 20

/-- The failure streak at which the queue is given up. -/
def failureLimit : ℕ := 3

/-- The outcome of going back one track. -/
inductive PreviousOutcome
  | started
  | noHistory
  | full
  deriving DecidableEq, Repr

/-- What a natural end repeats. -/
inductive LoopMode
  | off
  | track
  | queue
  deriving DecidableEq, Repr, Inhabited

/-- A track as the node resolved it, with the user who asked for it. A duration
of zero on a finite track means that its length is unknown. -/
structure Track where
  encoded : String
  identifier : String
  title : String
  author : String
  durationMs : ℕ
  stream : Bool
  uri : Option String
  requesterId : String
  requestedBy : String
  deriving DecidableEq, Repr

/-- A position or duration as the player shows it. -/
def formatDuration (ms : ℕ) (stream : Bool) : String :=
  if stream then "LIVE"
  else
    let seconds := ms / 1000
    let h := seconds / 3600
    let m := seconds % 3600 / 60
    let s := seconds % 60
    if h > 0 then s!"{h}:" ++ Text.pad2 m ++ ":" ++ Text.pad2 s
    else s!"{m}:" ++ Text.pad2 s

/-- The queue of one guild. -/
structure Queue where
  current : Option Track
  upcoming : List Track
  history : List Track
  loopMode : LoopMode
  consecutiveFailures : ℕ
  deriving DecidableEq, Repr

namespace Queue

/-- `Queue::default`. -/
def default : Queue := ⟨none, [], [], .off, 0⟩

/-- The immediate finite successor, within a bounded lead time of the end. -/
def preparationTarget (self : Queue) (positionMs : ℕ) : Option Track :=
  match self.current with
  | none => none
  | some current =>
      if current.stream || current.durationMs == 0 || self.loopMode == .track ||
          decide (current.durationMs - positionMs > 45000) then none
      else self.upcoming.head?.filter fun next =>
        !next.stream && next.encoded != current.encoded

/-- The number of tracks that count towards the admission limit. -/
def len (self : Queue) : ℕ := (if self.current.isSome then 1 else 0) + self.upcoming.length

/-- `Queue::is_empty`. -/
def isEmpty (self : Queue) : Bool := self.len == 0

/-- Admit as many of the tracks as fit, the first one as current if nothing is. -/
def enqueue (self : Queue) (tracks : List Track) (maxTracks : ℕ) : ℕ × Queue :=
  let capacity := maxTracks - self.len
  let tracks := tracks.take capacity
  match self.current, tracks with
  | some _, tracks => (tracks.length, { self with upcoming := self.upcoming ++ tracks })
  | none, [] => (0, self)
  | none, first :: rest =>
      (rest.length + 1,
        { self with
          current := some first
          consecutiveFailures := 0
          upcoming := self.upcoming ++ rest })

/-- Let the first upcoming track become current. -/
def next (self : Queue) : Checked Queue :=
  if self.upcoming.isEmpty then .ok { self with current := none }
  else do
    let (track, upcoming) ← Vec.remove self.upcoming 0
    return { self with current := some track, upcoming := upcoming }

/-- Record a heard track, forgetting the oldest one past the limit. -/
def remember (self : Queue) (track : Track) : Checked Queue :=
  let history := self.history ++ [track]
  if history.length > historyLimit then do
    let (_, history) ← Vec.remove history 0
    return { self with history := history }
  else .ok { self with history := history }

/-- The current track came to its natural end. -/
def finish (self : Queue) : Checked Queue :=
  match self.current with
  | none => .ok self
  | some old =>
      let self := { self with current := none, consecutiveFailures := 0 }
      if self.loopMode = .track then .ok { self with current := some old }
      else do
        let self := if self.loopMode = .queue then
            { self with upcoming := self.upcoming ++ [old] } else self
        let self ← self.remember old
        self.next

/-- The current track could not be played. -/
def fail (self : Queue) : Checked Queue :=
  if self.current.isNone then .ok self
  else
    let self := { self with
      consecutiveFailures := min (self.consecutiveFailures + 1) (2 ^ 8 - 1) }
    if self.consecutiveFailures ≥ failureLimit then
      .ok { self with upcoming := [], current := none }
    else self.next

/-- Explicit skip bypasses the loop mode; only a natural end repeats. -/
def skip (self : Queue) : Checked Queue :=
  match self.current with
  | none => .ok self
  | some old => do
      let self ← ({ self with current := none } : Queue).remember old
      self.next

/-- `Iterator::rposition`: the last index at which `p` holds. -/
def rposition (p : Track → Bool) (tracks : List Track) : Option ℕ :=
  (tracks.reverse.findIdx? p).map fun index => tracks.length - 1 - index

/-- In queue-loop mode, where the copy of the last heard track is waiting. -/
def duplicate (self : Queue) (previous : Track) : Option ℕ :=
  if self.loopMode = .queue then
    rposition (fun track => track.encoded == previous.encoded &&
      track.requesterId == previous.requesterId) self.upcoming
  else none

/-- Go back to the last heard track, unless the queue has no room for it. -/
def previous (self : Queue) (maxTracks : ℕ) : Checked (PreviousOutcome × Queue) :=
  if self.current.isNone then .ok (.noHistory, self)
  else match self.history.getLast? with
  | none => .ok (.noHistory, self)
  | some previous =>
      let duplicate := self.duplicate previous
      if duplicate.isNone && decide (self.len ≥ maxTracks) then .ok (.full, self)
      else do
        let (previous, history) ← match self.history.getLast? with
          | some last => Except.ok (last, self.history.dropLast)
          | none => Except.error (Panic.expected "checked history")
        let self := { self with history := history }
        let upcoming ← match duplicate with
          | some index => (Vec.remove self.upcoming index).map Prod.snd
          | none => .ok self.upcoming
        let upcoming ← match self.current with
          | some current => Vec.insert upcoming 0 current
          | none => .ok upcoming
        return (.started, { self with upcoming := upcoming, current := some previous })

/-- Take out the upcoming track at a one-based position. -/
def remove (self : Queue) (position : ℕ) : Checked (Option Track × Queue) :=
  if position > 0 && position ≤ self.upcoming.length then do
    let (track, upcoming) ← Vec.remove self.upcoming (position - 1)
    return (some track, { self with upcoming := upcoming })
  else .ok (none, self)

/-- Play the upcoming track at a one-based position now. -/
def jump (self : Queue) (position : ℕ) : Checked (Bool × Queue) :=
  if self.current.isNone then .ok (false, self)
  else do
    let (target, self) ← self.remove position
    match target with
    | none => return (false, self)
    | some target =>
        let self ← match self.current with
          | some old => ({ self with current := none } : Queue).remember old
          | none => .ok self
        return (true, { self with current := some target })

/-- Forget everything but the loop mode. -/
def stop (self : Queue) : Queue :=
  { self with current := none, upcoming := [], history := [], consecutiveFailures := 0 }

/-- Drop the upcoming tracks and say how many there were. -/
def clear (self : Queue) : ℕ × Queue :=
  (self.upcoming.length, { self with upcoming := [] })

/-- Put the upcoming tracks in a random order. -/
def shuffle (self : Queue) (draws : List ℕ) : Bool × Queue :=
  if self.upcoming.length < 2 then (false, self)
  else (true, { self with upcoming := Vec.shuffle draws self.upcoming })

/-- Move an upcoming track between two one-based positions. -/
def moveTo (self : Queue) (source target : ℕ) : Checked (Option Track × Queue) :=
  if source = 0 ∨ target = 0 ∨ source > self.upcoming.length ∨
      target > self.upcoming.length then .ok (none, self)
  else do
    let (track, upcoming) ← Vec.remove self.upcoming (source - 1)
    let upcoming ← Vec.insert upcoming (target - 1) track
    return (upcoming[target - 1]?, { self with upcoming := upcoming })

/-! ## What each operation does -/

/-- The history after one more heard track. -/
def remembered (history : List Track) (track : Track) : List Track :=
  if history.length < historyLimit then history ++ [track] else history.tail ++ [track]

theorem length_remembered {history : List Track} (h : history.length ≤ historyLimit)
    (track : Track) : (remembered history track).length ≤ historyLimit := by
  rw [remembered]
  split
  · simpa using ‹history.length < historyLimit›
  · have : history.tail.length = history.length - 1 := List.length_tail
    simp only [List.length_append, List.length_singleton, this]
    simp only [historyLimit] at *
    omega

theorem enqueue_of_some {self : Queue} {current : Track} (h : self.current = some current)
    (tracks : List Track) (maxTracks : ℕ) :
    self.enqueue tracks maxTracks = ((tracks.take (maxTracks - self.len)).length,
      { self with upcoming := self.upcoming ++ tracks.take (maxTracks - self.len) }) := by
  simp only [enqueue, h]

theorem enqueue_of_none_of_nil {self : Queue} (h : self.current = none) {tracks : List Track}
    {maxTracks : ℕ} (htake : tracks.take (maxTracks - self.len) = []) :
    self.enqueue tracks maxTracks = (0, self) := by
  simp only [enqueue, h, htake]

theorem enqueue_of_none_of_cons {self : Queue} (h : self.current = none)
    {tracks rest : List Track} {first : Track} {maxTracks : ℕ}
    (htake : tracks.take (maxTracks - self.len) = first :: rest) :
    self.enqueue tracks maxTracks = (rest.length + 1, { self with
      current := some first
      consecutiveFailures := 0
      upcoming := self.upcoming ++ rest }) := by
  simp only [enqueue, h, htake]

theorem next_eq (self : Queue) :
    self.next = .ok { self with
      current := self.upcoming.head?, upcoming := self.upcoming.tail } := by
  rw [next]
  cases h : self.upcoming with
  | nil => simp
  | cons track rest => rfl

theorem remember_eq (self : Queue) (track : Track) :
    self.remember track = .ok { self with history := remembered self.history track } := by
  rw [remember, remembered]
  by_cases h : self.history.length < historyLimit
  · have hle : ¬ (self.history ++ [track]).length > historyLimit := by
      simp only [List.length_append, List.length_singleton]
      omega
    rw [if_neg hle, if_pos h]
  · have hgt : (self.history ++ [track]).length > historyLimit := by
      simp only [List.length_append, List.length_singleton]
      omega
    rw [if_pos hgt, if_neg h]
    cases hh : self.history with
    | nil => simp [hh, historyLimit] at h
    | cons first rest => rfl

/-- The upcoming tracks after a natural end, before the successor is taken. -/
def rotated (self : Queue) (old : Track) : List Track :=
  if self.loopMode = .queue then self.upcoming ++ [old] else self.upcoming

/-- `finish` as one update. -/
def finished (self : Queue) : Queue :=
  match self.current with
  | none => self
  | some old =>
      if self.loopMode = .track then { self with consecutiveFailures := 0 }
      else { self with
        current := (self.rotated old).head?
        upcoming := (self.rotated old).tail
        history := remembered self.history old
        consecutiveFailures := 0 }

theorem finish_eq (self : Queue) : self.finish = .ok self.finished := by
  rw [finish, finished]
  cases hc : self.current with
  | none => rfl
  | some old =>
      by_cases htrack : self.loopMode = .track
      · simp only [htrack, if_true]
      · by_cases hqueue : self.loopMode = .queue
        · simp only [hqueue, if_false, if_true, reduceCtorEq, remember_eq, next_eq, rotated,
            bind, Except.bind]
        · simp only [htrack, hqueue, if_false, remember_eq, next_eq, rotated, bind, Except.bind]

/-- `fail` as one update. -/
def failed (self : Queue) : Queue :=
  if self.current.isNone then self
  else if self.consecutiveFailures + 1 ≥ failureLimit then
    { self with
      current := none
      upcoming := []
      consecutiveFailures := min (self.consecutiveFailures + 1) (2 ^ 8 - 1) }
  else { self with
    current := self.upcoming.head?
    upcoming := self.upcoming.tail
    consecutiveFailures := self.consecutiveFailures + 1 }

theorem fail_eq (self : Queue) : self.fail = .ok self.failed := by
  rw [fail, failed]
  by_cases hc : self.current.isNone
  · simp only [hc, if_true]
  · by_cases hlimit : self.consecutiveFailures + 1 ≥ failureLimit
    · have hmin : min (self.consecutiveFailures + 1) (2 ^ 8 - 1) ≥ failureLimit := by
        simp only [failureLimit] at *
        omega
      simp only [hc, hlimit, hmin, if_true, Bool.false_eq_true, if_false]
    · have hmin : min (self.consecutiveFailures + 1) (2 ^ 8 - 1) =
          self.consecutiveFailures + 1 := by
        simp only [failureLimit] at hlimit
        omega
      simp only [hc, hlimit, hmin, next_eq, Bool.false_eq_true, if_false]

/-- `skip` as one update. -/
def skipped (self : Queue) : Queue :=
  match self.current with
  | none => self
  | some old => { self with
      current := self.upcoming.head?
      upcoming := self.upcoming.tail
      history := remembered self.history old }

theorem skip_eq (self : Queue) : self.skip = .ok self.skipped := by
  rw [skip, skipped]
  cases hc : self.current with
  | none => rfl
  | some old => simp only [remember_eq, next_eq, bind, Except.bind]

/-- `remove` as one update. -/
def removed (self : Queue) (position : ℕ) : Option Track × Queue :=
  if position = 0 then (none, self)
  else match self.upcoming[position - 1]? with
    | none => (none, self)
    | some track => (some track, { self with upcoming := self.upcoming.eraseIdx (position - 1) })

theorem remove_eq (self : Queue) (position : ℕ) :
    self.remove position = .ok (self.removed position) := by
  rw [remove, removed]
  by_cases hzero : position = 0
  · simp [hzero]
  · by_cases hle : position ≤ self.upcoming.length
    · have hlt : position - 1 < self.upcoming.length := by omega
      simp only [Nat.pos_of_ne_zero hzero, hle, hzero, Vec.remove_of_lt hlt,
        List.getElem?_eq_getElem hlt, decide_true, Bool.and_self, if_true, if_false,
        bind, Except.bind, pure, Except.pure]
    · have hge : self.upcoming.length ≤ position - 1 := by omega
      simp [hzero, hle, List.getElem?_eq_none hge]

/-- `jump` as one update. -/
def jumped (self : Queue) (position : ℕ) : Bool × Queue :=
  match self.current, self.removed position with
  | some old, (some target, rest) => (true, { rest with
      current := some target, history := remembered self.history old })
  | _, _ => (false, self)

/-- Removing a track touches nothing but the upcoming tracks. -/
theorem removed_snd (self : Queue) (position : ℕ) :
    (self.removed position).2 = { self with
      upcoming := (self.removed position).2.upcoming } := by
  rw [removed]
  split
  · rfl
  · split <;> rfl

theorem removed_eq_self_of_none {self : Queue} {position : ℕ}
    (h : (self.removed position).1 = none) : (self.removed position).2 = self := by
  rw [removed] at h ⊢
  split at h
  · simp [*]
  · split at h
    · simp [*]
    · cases h

theorem jump_eq (self : Queue) (position : ℕ) :
    self.jump position = .ok (self.jumped position) := by
  rw [jump, jumped]
  cases hc : self.current with
  | none => rfl
  | some old =>
      have hrest := self.removed_snd position
      have hnone := @removed_eq_self_of_none self position
      rw [remove_eq]
      rcases hr : self.removed position with ⟨target, rest⟩
      rw [hr] at hrest hnone
      simp only [Option.isNone_some, Bool.false_eq_true, if_false, bind, Except.bind, pure,
        Except.pure]
      cases target with
      | none =>
          have hself : rest = self := hnone rfl
          simp only [hself]
      | some target =>
          have hcurrent := (congrArg Queue.current hrest).trans hc
          have hhistory := congrArg Queue.history hrest
          simp only at hcurrent hhistory
          simp only [hcurrent, hhistory, remember_eq]

/-- `previous` as one update. -/
def restored (self : Queue) (maxTracks : ℕ) : PreviousOutcome × Queue :=
  match self.current, self.history.getLast? with
  | some current, some previous =>
      match self.duplicate previous with
      | none =>
          if self.len ≥ maxTracks then (.full, self)
          else (.started, { self with
            current := some previous
            upcoming := current :: self.upcoming
            history := self.history.dropLast })
      | some index => (.started, { self with
          current := some previous
          upcoming := current :: self.upcoming.eraseIdx index
          history := self.history.dropLast })
  | _, _ => (.noHistory, self)

/-- The duplicate that `previous` takes out is an upcoming track. -/
theorem duplicate_lt {self : Queue} {previous : Track} {index : ℕ}
    (h : self.duplicate previous = some index) : index < self.upcoming.length := by
  rw [duplicate] at h
  split at h
  · simp only [rposition, Option.map_eq_some_iff] at h
    obtain ⟨found, hfound, rfl⟩ := h
    have hlt := (List.findIdx?_eq_some_iff_getElem.mp hfound).1
    rw [List.length_reverse] at hlt
    omega
  · cases h

theorem previous_eq (self : Queue) (maxTracks : ℕ) :
    self.previous maxTracks = .ok (self.restored maxTracks) := by
  rw [previous, restored]
  cases hc : self.current with
  | none => rfl
  | some current =>
      cases hl : self.history.getLast? with
      | none => rfl
      | some last =>
          simp only [Option.isNone_some, Bool.false_eq_true, if_false]
          cases hd : self.duplicate last with
          | none =>
              by_cases hfull : self.len ≥ maxTracks
              · simp only [hfull, Option.isNone_none, decide_true, Bool.and_self, if_true]
              · simp only [hfull, decide_false, Bool.and_false, Bool.false_eq_true, if_false,
                  Vec.insert_zero, bind, Except.bind, pure, Except.pure]
          | some index =>
              simp only [Vec.remove_of_lt (duplicate_lt hd), Vec.insert_zero,
                Option.isNone_some, Bool.false_and, Bool.false_eq_true, if_false, Except.map,
                bind, Except.bind, pure, Except.pure]

/-- Going back is refused without a change. -/
theorem restored_of_ne_started {self : Queue} {maxTracks : ℕ}
    (h : (self.restored maxTracks).1 ≠ .started) : (self.restored maxTracks).2 = self := by
  rw [restored] at h ⊢
  split at h
  · split at h
    · split at h
      · simp [*]
      · exact absurd rfl h
    · exact absurd rfl h
  · rfl

/-- Jumping is refused without a change. -/
theorem jumped_of_false {self : Queue} {position : ℕ} (h : (self.jumped position).1 = false) :
    (self.jumped position).2 = self := by
  rw [jumped] at h ⊢
  split at h
  · cases h
  · rfl

/-- `moveTo` as one update. -/
def moved (self : Queue) (source target : ℕ) : Option Track × Queue :=
  if source = 0 ∨ target = 0 ∨ source > self.upcoming.length ∨
      target > self.upcoming.length then (none, self)
  else match self.upcoming[source - 1]? with
    | none => (none, self)
    | some track => (some track, { self with
        upcoming := (self.upcoming.eraseIdx (source - 1)).insertIdx (target - 1) track })

theorem moveTo_eq (self : Queue) (source target : ℕ) :
    self.moveTo source target = .ok (self.moved source target) := by
  rw [moveTo, moved]
  split
  · rfl
  · rename_i hrange
    have hsource : source - 1 < self.upcoming.length := by omega
    have htarget : target - 1 ≤ (self.upcoming.eraseIdx (source - 1)).length := by
      rw [List.length_eraseIdx_of_lt hsource]
      omega
    simp only [Vec.remove_of_lt hsource, Vec.insert_of_le htarget,
      List.getElem?_eq_getElem hsource, List.getElem?_insertIdx_self, bind, Except.bind, pure,
      Except.pure]
    rw [if_pos htarget]

/-! ## The values of the operations -/

theorem finish_returns (self : Queue) : self.finish.Returns := ⟨_, self.finish_eq⟩

theorem fail_returns (self : Queue) : self.fail.Returns := ⟨_, self.fail_eq⟩

theorem skip_returns (self : Queue) : self.skip.Returns := ⟨_, self.skip_eq⟩

theorem previous_returns (self : Queue) (maxTracks : ℕ) : (self.previous maxTracks).Returns :=
  ⟨_, self.previous_eq maxTracks⟩

theorem remove_returns (self : Queue) (position : ℕ) : (self.remove position).Returns :=
  ⟨_, self.remove_eq position⟩

theorem jump_returns (self : Queue) (position : ℕ) : (self.jump position).Returns :=
  ⟨_, self.jump_eq position⟩

theorem moveTo_returns (self : Queue) (source target : ℕ) :
    (self.moveTo source target).Returns :=
  ⟨_, self.moveTo_eq source target⟩

@[simp]
theorem value_finish (self : Queue) : self.finish.value self.finish_returns = self.finished :=
  Checked.value_eq self.finish_eq _

@[simp]
theorem value_fail (self : Queue) : self.fail.value self.fail_returns = self.failed :=
  Checked.value_eq self.fail_eq _

@[simp]
theorem value_skip (self : Queue) : self.skip.value self.skip_returns = self.skipped :=
  Checked.value_eq self.skip_eq _

@[simp]
theorem value_previous (self : Queue) (maxTracks : ℕ) :
    (self.previous maxTracks).value (self.previous_returns maxTracks) =
      self.restored maxTracks :=
  Checked.value_eq (self.previous_eq maxTracks) _

@[simp]
theorem value_remove (self : Queue) (position : ℕ) :
    (self.remove position).value (self.remove_returns position) = self.removed position :=
  Checked.value_eq (self.remove_eq position) _

@[simp]
theorem value_jump (self : Queue) (position : ℕ) :
    (self.jump position).value (self.jump_returns position) = self.jumped position :=
  Checked.value_eq (self.jump_eq position) _

@[simp]
theorem value_moveTo (self : Queue) (source target : ℕ) :
    (self.moveTo source target).value (self.moveTo_returns source target) =
      self.moved source target :=
  Checked.value_eq (self.moveTo_eq source target) _

/-! ## How many starts can fail -/

/-- A bound on the starts that a queue can still ask for before nothing is left to
start: every failed one lengthens the streak. -/
def startsLeft (self : Queue) : ℕ :=
  if self.current.isSome then 1 + (failureLimit - self.consecutiveFailures) else 0

/-- Giving up on a track leaves fewer starts. -/
theorem startsLeft_failed_lt {self : Queue} (h : self.current.isSome) :
    self.failed.startsLeft < self.startsLeft := by
  have hnone : self.current.isNone = false := by
    rw [← Option.not_isSome, h, Bool.not_true]
  have hleft : self.startsLeft = 1 + (failureLimit - self.consecutiveFailures) := if_pos h
  rw [hleft, failed, hnone]
  by_cases hlimit : self.consecutiveFailures + 1 ≥ failureLimit
  · simp [hlimit, startsLeft]
  · simp only [hlimit, startsLeft, Bool.false_eq_true, if_false]
    split
    · omega
    · exact Nat.zero_lt_of_lt (Nat.lt_add_right _ Nat.one_pos)

end Queue

end Raydio.Playback
