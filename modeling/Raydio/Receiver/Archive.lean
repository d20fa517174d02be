/-
# The archive of a receiver audit

The audit in a listener's page numbers its events and keeps the last 4096 of them in its
report. Once a minute it posts the report, and a collector on the same machine appends the
events that are new to a file, counts the numbers that it never saw, stores every terminal
report under the digest of its content and every revision of a diagnostic window, as long
as all of it fits into 64 MiB.

How a report, an event or a window is written as bytes, and the digest, are those of the
Python library; they are the parameters of the model. Writing to the disk succeeds.
-/

import Raydio.Foundation.Replica
import Raydio.Foundation.Runs
import Raydio.Foundation.Window

namespace Raydio.Receiver

open Raydio.Foundation

/-- An event of the audit. Its number is absent if the report has no integer there. -/
structure AuditEvent where
  sequence : Option ℤ
  body : String
  deriving DecidableEq, Repr

/-- A diagnostic window. -/
structure AuditWindow where
  id : Option ℤ
  body : String
  deriving DecidableEq, Repr

/-- A report, as far as the collector reads it, and what else is in it. -/
structure AuditReport where
  version : Option ℤ
  requestedSeconds : Option ℤ
  requestedAt : Option String
  status : Option String
  events : List AuditEvent
  diagnosticWindows : List AuditWindow
  rest : String
  deriving DecidableEq, Repr

/-- How the collector writes things. -/
structure Coding where
  report : AuditReport → List UInt8
  /-- A line of the file of events, with the run that it belongs to. -/
  eventRow : Option String → AuditEvent → List UInt8
  /-- A line of the file of windows, with the run and the revision. -/
  windowRow : Option String → ℕ → AuditWindow → List UInt8
  window : AuditWindow → List UInt8
  digest : List UInt8 → String

/-! ## The page -/

/-- The events of the page. -/
structure AuditLog where
  events : List AuditEvent
  eventsTruncated : Bool
  eventsDropped : ℕ
  eventSequence : ℕ
  deriving DecidableEq, Repr

namespace AuditLog

/-- The log of a new audit. -/
def new : AuditLog := ⟨[], false, 0, 0⟩

/-- `event`. -/
def event (self : AuditLog) (body : String) : AuditLog :=
  let self := if self.events.length ≥ 4096 then
    { self with
      eventsTruncated := true
      eventsDropped := self.eventsDropped + 1
      events := self.events.tail }
    else self
  { self with
    eventSequence := self.eventSequence + 1
    events := self.events ++ [⟨some (self.eventSequence + 1), body⟩] }

end AuditLog

/-! ## The collector -/

/-- Why a report is not saved. -/
inductive SaveError
  | invalidReport
  | contentMismatch
  | archiveFull
  | invalidWindow
  deriving DecidableEq, Repr

/-- The collector, with the files that it writes. -/
structure Collector where
  archiveRun : Option String
  archivedSequence : ℤ
  archiveMissingEvents : ℤ
  archiveBytes : ℕ
  windowRun : Option String
  /-- The revisions of the windows of the run, with the digest of the latest one. -/
  windowRevisions : List (ℤ × ℕ × String)
  receiver : Option AuditReport
  finals : List (String × List UInt8)
  eventRows : List (Option String × AuditEvent)
  windowRows : List (Option String × ℕ × AuditWindow)

namespace Collector

/-- A new collector, whose directory is empty. -/
def new : Collector :=
  { archiveRun := none, archivedSequence := 0, archiveMissingEvents := 0, archiveBytes := 0
    windowRun := none, windowRevisions := [], receiver := none, finals := [], eventRows := []
    windowRows := [] }

/-- `archive_limit_bytes`. -/
def archiveLimit : ℕ := 64 * 1024 * 1024

/-- The statuses of a report that will not change any more. -/
def terminal (status : Option String) : Bool :=
  status = some "completed" || status = some "stopped" || status = some "failed"

/-- `archive_final`. -/
def archiveFinal (coding : Coding) (self : Collector) (data : AuditReport) :
    Collector × Except SaveError Unit :=
  if !terminal data.status then (self, .ok ())
  else
    let payload := coding.report data
    match self.finals.lookup (coding.digest payload) with
    | some stored => (self, if stored ≠ payload then .error .contentMismatch else .ok ())
    | none =>
        if self.archiveBytes + payload.length > archiveLimit then (self, .error .archiveFull)
        else ({ self with
          finals := self.finals ++ [(coding.digest payload, payload)]
          archiveBytes := self.archiveBytes + payload.length }, .ok ())

/-- The new values of the counters after an event was appended. -/
def countEvent (counters : ℤ × ℤ) (event : AuditEvent) : ℤ × ℤ :=
  (counters.1 + max 0 (event.sequence.getD 0 - counters.2 - 1), event.sequence.getD 0)

/-- The counters of the events start anew with another run. -/
def eventsOf (self : Collector) (run : Option String) : Collector :=
  if run ≠ self.archiveRun then
    { self with archiveRun := run, archivedSequence := 0, archiveMissingEvents := 0 }
  else self

/-- `archive_events`. -/
def archiveEvents (coding : Coding) (self : Collector) (data : AuditReport) :
    Collector × Except SaveError Unit :=
  let self := self.eventsOf data.requestedAt
  let events := data.events.filter fun event =>
    event.sequence.any fun sequence => self.archivedSequence < sequence
  if events.isEmpty then (self, .ok ())
  else
    let size := (events.map fun event => (coding.eventRow data.requestedAt event).length).sum
    if self.archiveBytes + size > archiveLimit then (self, .error .archiveFull)
    else
      let counters := events.foldl countEvent (self.archiveMissingEvents, self.archivedSequence)
      ({ self with
        eventRows := self.eventRows ++ events.map fun event => (data.requestedAt, event)
        archiveMissingEvents := counters.1
        archivedSequence := counters.2
        archiveBytes := self.archiveBytes + size }, .ok ())

/-- The rows for the windows that changed, with their identities and revisions, or an
error for an identity out of range. The revisions are those from before the report. -/
def changedWindows (coding : Coding) (revisions : List (ℤ × ℕ × String)) :
    List AuditWindow → Except SaveError (List (ℤ × ℕ × AuditWindow))
  | [] => .ok []
  | window :: windows =>
      match window.id with
      | none => .error .invalidWindow
      | some identity =>
          if identity < 1 || 21600 < identity then .error .invalidWindow
          else
            let known := (revisions.lookup identity).map Prod.snd
            let revision := ((revisions.lookup identity).map Prod.fst).getD 0
            match changedWindows coding revisions windows with
            | .error error => .error error
            | .ok rest =>
                if known = some (coding.digest (coding.window window)) then .ok rest
                else .ok ((identity, revision + 1, window) :: rest)

/-- `dict.__setitem__`. -/
def setRevision (revisions : List (ℤ × ℕ × String)) (identity : ℤ) (entry : ℕ × String) :
    List (ℤ × ℕ × String) :=
  (identity, entry) :: revisions.filter fun known => known.1 ≠ identity

/-- The revisions of the windows start anew with another run. -/
def windowsOf (self : Collector) (run : Option String) : Collector :=
  if run ≠ self.windowRun then { self with windowRun := run, windowRevisions := [] } else self

/-- `archive_windows`. -/
def archiveWindows (coding : Coding) (self : Collector) (data : AuditReport) :
    Collector × Except SaveError Unit :=
  let self := self.windowsOf data.requestedAt
  match changedWindows coding self.windowRevisions data.diagnosticWindows with
  | .error error => (self, .error error)
  | .ok rows =>
      let size := (rows.map fun row =>
        (coding.windowRow data.requestedAt row.2.1 row.2.2).length).sum
      if self.archiveBytes + size > archiveLimit then (self, .error .archiveFull)
      else if size = 0 then (self, .ok ())
      else ({ self with
        windowRows := self.windowRows ++ rows.map fun row => (data.requestedAt, row.2)
        archiveBytes := self.archiveBytes + size
        windowRevisions := rows.foldl (fun revisions row => setRevision revisions row.1
          (row.2.1, coding.digest (coding.window row.2.2))) self.windowRevisions }, .ok ())

/-- Go on after a part of `save` unless it failed. -/
def andThen (done : Collector × Except SaveError Unit)
    (next : Collector → Collector × Except SaveError Unit) : Collector × Except SaveError Unit :=
  match done.2 with
  | .ok _ => next done.1
  | .error error => (done.1, .error error)

/-- `save`. -/
def save (coding : Coding) (self : Collector) (data : AuditReport) :
    Collector × Except SaveError Unit :=
  if data.version ≠ some 1 ||
      !data.requestedSeconds.any (fun seconds => 10 ≤ seconds && seconds ≤ 21600) then
    (self, .error .invalidReport)
  else
    andThen (self.archiveFinal coding data) fun self =>
      andThen (archiveEvents coding { self with receiver := some data } data) fun self =>
        self.archiveWindows coding data

/-- What is left after the reports, in their order; a report that is refused leaves what
its part before the refusal did. -/
def saves (coding : Coding) : Collector → List AuditReport → Collector :=
  Runs.run fun self data => (self.save coding data).1

end Collector

/-! ## The log of an audit -/

/-- The events of an audit, with their numbers. -/
def numbered (start : ℕ) (bodies : List String) : List AuditEvent :=
  (bodies.zipIdx (start + 1)).map fun entry => ⟨some entry.2, entry.1⟩

@[simp]
theorem numbered_cons (start : ℕ) (body : String) (bodies : List String) :
    numbered start (body :: bodies) =
      ⟨some ((start + 1 : ℕ) : ℤ), body⟩ :: numbered (start + 1) bodies :=
  rfl

@[simp]
theorem length_numbered (start : ℕ) (bodies : List String) :
    (numbered start bodies).length = bodies.length := by
  rw [numbered, List.length_map, List.length_zipIdx]

/-- The first events are those of the first bodies. -/
theorem take_numbered (start : ℕ) (bodies : List String) (count : ℕ) :
    (numbered start bodies).take count = numbered start (bodies.take count) := by
  induction count generalizing start bodies with
  | zero => rfl
  | succ count ih =>
      cases bodies with
      | nil => rfl
      | cons body bodies =>
          rw [numbered_cons, List.take_succ_cons, List.take_succ_cons, numbered_cons, ih]

/-- Leaving out the first events leaves the numbers of the others. -/
theorem drop_numbered (start : ℕ) (bodies : List String) (count : ℕ) :
    (numbered start bodies).drop count = numbered (start + count) (bodies.drop count) := by
  induction count generalizing start bodies with
  | zero => rfl
  | succ count ih =>
      cases bodies with
      | nil => rfl
      | cons body bodies =>
          rw [numbered_cons, List.drop_succ_cons, List.drop_succ_cons, ih]
          congr 1
          omega

/-- The events behind a number are those after that many. -/
theorem filter_numbered (start : ℕ) (bodies : List String) (upto : ℕ) :
    ((numbered start bodies).filter fun event =>
      event.sequence.any fun sequence => (upto : ℤ) < sequence) =
      (numbered start bodies).drop (upto - start) := by
  induction bodies generalizing start with
  | nil => simp [numbered]
  | cons body bodies ih =>
      rw [numbered_cons, List.filter_cons, ih]
      by_cases hnew : upto < start + 1
      · have hall : upto - (start + 1) = 0 := by omega
        have hnone : upto - start = 0 := by omega
        rw [if_pos (by simpa using hnew), hall, hnone, List.drop_zero, List.drop_zero]
      · obtain ⟨rest, hrest⟩ : ∃ rest, upto - start = rest + 1 := ⟨upto - start - 1, by omega⟩
        have hless : upto - (start + 1) = rest := by omega
        rw [if_neg (by simpa using hnew), hless, hrest, List.drop_succ_cons]

/-- What the counters become over consecutive events: only the first of them can follow
after a gap. -/
theorem foldl_countEvent (missing upto : ℤ) (start : ℕ) (bodies : List String)
    (hsome : bodies ≠ []) :
    (numbered start bodies).foldl Collector.countEvent (missing, upto) =
      (missing + max 0 (start - upto), ((start + bodies.length : ℕ) : ℤ)) := by
  induction bodies generalizing missing upto start with
  | nil => exact absurd rfl hsome
  | cons body bodies ih =>
      rw [numbered_cons, List.foldl_cons]
      cases bodies with
      | nil =>
          simp only [numbered, List.zipIdx_nil, List.map_nil, List.foldl_nil,
            Collector.countEvent, Option.getD_some, List.length_singleton]
          push_cast
          ring_nf
      | cons next bodies =>
          rw [ih _ _ _ (List.cons_ne_nil _ _)]
          simp only [Collector.countEvent, Option.getD_some, List.length_cons]
          push_cast
          rw [sub_self, max_self, add_zero]
          ring_nf

namespace AuditLog

/-- The log after the events. -/
def after (history : List String) : AuditLog := history.foldl event new

theorem after_concat (history : List String) (body : String) :
    after (history ++ [body]) = (after history).event body := by
  rw [after, after, List.foldl_append, List.foldl_cons, List.foldl_nil]

theorem eventSequence_event (self : AuditLog) (body : String) :
    (self.event body).eventSequence = self.eventSequence + 1 := by
  rw [event]
  split <;> rfl

theorem eventSequence_after (history : List String) :
    (after history).eventSequence = history.length := by
  induction history using List.reverseRecOn with
  | nil => rfl
  | append_singleton history body ih =>
      rw [after_concat, eventSequence_event, ih, List.length_append, List.length_singleton]

theorem events_event (self : AuditLog) (body : String) :
    (self.event body).events =
      Window.push 4096 self.events ⟨some ((self.eventSequence + 1 : ℕ) : ℤ), body⟩ := by
  rw [event, Window.push]
  by_cases hfull : self.events.length ≥ 4096
  · simp only [if_pos hfull, if_neg (not_lt.mpr hfull)]
    rfl
  · simp only [if_neg hfull, if_pos (not_le.mp hfull)]
    rfl

/-- The log holds the last 4096 events of the audit. -/
theorem events_after (history : List String) :
    (after history).events = (numbered 0 history).drop (history.length - 4096) := by
  have hfold : (after history).events = (numbered 0 history).foldl (Window.push 4096) [] := by
    induction history using List.reverseRecOn with
    | nil => rfl
    | append_singleton history body ih =>
        have hlast : numbered 0 (history ++ [body]) =
            numbered 0 history ++ [⟨some ((history.length + 1 : ℕ) : ℤ), body⟩] := by
          rw [numbered, List.zipIdx_append, List.map_append, numbered]
          congr 2
          rw [zero_add, Nat.add_comm]
          rfl
        rw [after_concat, events_event, eventSequence_after, ih, hlast, List.foldl_append]
        rfl
  rw [hfold, Window.foldl_push (by norm_num), List.nil_append, List.rtake, length_numbered]
  rfl

end AuditLog

/-! ## Every event once -/

namespace Collector

/-- What concerns the events. -/
def eventState (self : Collector) :
    Option String × ℤ × ℤ × List (Option String × AuditEvent) :=
  (self.archiveRun, self.archivedSequence, self.archiveMissingEvents, self.eventRows)

theorem eventState_archiveFinal (coding : Coding) (self : Collector) (data : AuditReport) :
    (self.archiveFinal coding data).1.eventState = self.eventState := by
  rw [archiveFinal]
  split
  · rfl
  · dsimp only
    split
    · rfl
    · split <;> rfl

theorem eventState_archiveWindows (coding : Coding) (self : Collector) (data : AuditReport) :
    (self.archiveWindows coding data).1.eventState = self.eventState := by
  have hstart : (self.windowsOf data.requestedAt).eventState = self.eventState := by
    rw [windowsOf]
    split <;> rfl
  rw [archiveWindows]
  dsimp only
  split
  · exact hstart
  · split
    · exact hstart
    · split
      · exact hstart
      · exact hstart

/-- A report changes what concerns the events as `archiveEvents` does, if it comes so
far. -/
theorem eventState_save (coding : Coding) (self : Collector) (data : AuditReport) :
    (self.save coding data).1.eventState = self.eventState ∨
      ∃ other : Collector, other.eventState = self.eventState ∧
        (self.save coding data).1.eventState =
          (other.archiveEvents coding data).1.eventState := by
  rw [save]
  split
  · exact Or.inl rfl
  · have hfinal := eventState_archiveFinal coding self data
    rcases hdone : (self.archiveFinal coding data) with ⟨final, refused | stored⟩
    · rw [hdone] at hfinal
      exact Or.inl hfinal
    · rw [hdone] at hfinal
      right
      refine ⟨{ final with receiver := some data }, hfinal, ?_⟩
      rcases hevents : archiveEvents coding { final with receiver := some data } data with
        ⟨later, refused | appended⟩
      · simp only [andThen, hevents]
      · simp only [andThen, hevents]
        exact eventState_archiveWindows coding later data

/-- The number of the last archived event of the audit. -/
def archived (self : Collector) (run : Option String) : ℤ :=
  if self.archiveRun = run then self.archivedSequence else 0

/-- The events of the audit that are known to be missing. -/
def missed (self : Collector) (run : Option String) : ℤ :=
  if self.archiveRun = run then self.archiveMissingEvents else 0

/-- Since `before`, the collector has appended what a reader of the log of the audit holds. -/
structure Mirrors (run : Option String) (before : List (Option String × AuditEvent))
    (replica : Replica AuditEvent) (collector : Collector) : Prop where
  rows : collector.eventRows = before ++ replica.held.map fun event => (run, event)
  archived : collector.archived run = replica.upto
  missed : collector.missed run = ((replica.upto - replica.held.length : ℕ) : ℤ)

/-- Only what concerns the events matters. -/
theorem Mirrors.congr {run : Option String} {before : List (Option String × AuditEvent)}
    {replica : Replica AuditEvent} {self other : Collector} (h : Mirrors run before replica self)
    (hsame : other.eventState = self.eventState) : Mirrors run before replica other := by
  simp only [eventState, Prod.mk.injEq] at hsame
  obtain ⟨hrun, hsequence, hmissing, hrows⟩ := hsame
  constructor
  · rw [hrows, h.rows]
  · rw [← h.archived, Collector.archived, Collector.archived, hrun, hsequence]
  · rw [← h.missed, Collector.missed, Collector.missed, hrun, hmissing]

end Collector

/-- The report shows the audit as it was after its first `count` events. -/
structure AuditReport.Shows (data : AuditReport) (run : Option String) (history : List String)
    (count : ℕ) : Prop where
  requestedAt : data.requestedAt = run
  events : data.events = (AuditLog.after (history.take count)).events

namespace Collector

variable {run : Option String} {history : List String} {count : ℕ} {data : AuditReport}
  {before : List (Option String × AuditEvent)} {replica : Replica AuditEvent} {self : Collector}

/-- The events of a report that are new are those that a reader of the log takes. -/
theorem new_events (hshows : data.Shows run history count) (hcount : count ≤ history.length)
    (upto : ℕ) :
    (data.events.filter fun event => event.sequence.any fun sequence => (upto : ℤ) < sequence) =
      ((numbered 0 history).take count).drop (max upto (count - 4096)) := by
  have hlength : (history.take count).length = count := List.length_take_of_le hcount
  have hplace : count - 4096 + (upto - (0 + (count - 4096))) = max upto (count - 4096) := by
    omega
  rw [hshows.events, AuditLog.events_after, hlength, drop_numbered, filter_numbered,
    ← drop_numbered, List.drop_drop, hplace, take_numbered]

theorem Mirrors.eventsOf (h : Mirrors run before replica self) :
    Mirrors run before replica (self.eventsOf run) := by
  rw [Collector.eventsOf]
  split
  · rename_i hother
    have harchived := h.archived
    have hmissed := h.missed
    rw [Collector.archived, if_neg (Ne.symm hother)] at harchived
    rw [Collector.missed, if_neg (Ne.symm hother)] at hmissed
    constructor
    · exact h.rows
    · rw [← harchived, Collector.archived, if_pos rfl]
    · rw [← hmissed, Collector.missed, if_pos rfl]
  · exact h

theorem archiveRun_eventsOf (self : Collector) (run : Option String) :
    (self.eventsOf run).archiveRun = run := by
  rw [eventsOf]
  split
  · rfl
  · rename_i hsame
    exact (not_not.mp hsame).symm

/-- Appending the new events of a report receives them. -/
theorem Mirrors.appended (h : Mirrors run before replica self) (hrun : self.archiveRun = run)
    (hfollows : Replica.Follows (numbered 0 history) replica) (hcount : count ≤ history.length)
    (hlater : ¬count ≤ replica.upto) (bytes : ℕ) (events : List AuditEvent)
    (hevents : events =
      ((numbered 0 history).take count).drop (max replica.upto (count - 4096))) :
    Mirrors run before (replica.receive 4096 (numbered 0 history) count)
      { self with
        eventRows := self.eventRows ++ events.map fun event => (run, event)
        archiveMissingEvents :=
          (events.foldl countEvent (self.archiveMissingEvents, self.archivedSequence)).1
        archivedSequence :=
          (events.foldl countEvent (self.archiveMissingEvents, self.archivedSequence)).2
        archiveBytes := bytes } := by
  have hmissing := hfollows.missing_receive 4096 ((length_numbered 0 history).symm ▸ hcount)
  have hreceive : replica.receive 4096 (numbered 0 history) count =
      ⟨replica.held ++ events, count⟩ := by
    rw [Replica.receive, if_neg hlater, hevents]
  have harchived : self.archivedSequence = replica.upto := by
    rw [← h.archived, Collector.archived, if_pos hrun]
  have hmissed : self.archiveMissingEvents = ((replica.upto - replica.held.length : ℕ) : ℤ) := by
    rw [← h.missed, Collector.missed, if_pos hrun]
  -- The events are consecutive, so that the gap is what has left the window before the first.
  have hcounters : events.foldl countEvent (self.archiveMissingEvents, self.archivedSequence) =
      (self.archiveMissingEvents + max 0
        (((max replica.upto (count - 4096) : ℕ) : ℤ) - replica.upto), ((count : ℕ) : ℤ)) := by
    have hlength : ((history.take count).drop (max replica.upto (count - 4096))).length =
        count - max replica.upto (count - 4096) := by
      rw [List.length_drop, List.length_take_of_le hcount]
    rw [hevents, take_numbered, drop_numbered, zero_add, harchived, foldl_countEvent, hlength]
    · congr 2
      omega
    · rw [ne_eq, ← List.length_eq_zero_iff, hlength]
      omega
  rw [hreceive] at hmissing ⊢
  constructor
  · rw [h.rows, List.map_append, List.append_assoc]
  · rw [hcounters, Collector.archived, if_pos hrun]
  · rw [hcounters, Collector.missed, if_pos hrun, hmissed]
    dsimp only at hmissing ⊢
    omega

/-- A report that shows the audit is refused, or its events are received. -/
theorem Mirrors.archiveEvents (h : Mirrors run before replica self) (coding : Coding)
    (hshows : data.Shows run history count) (hcount : count ≤ history.length)
    (hfollows : Replica.Follows (numbered 0 history) replica) :
    Mirrors run before replica (self.archiveEvents coding data).1 ∨
      Mirrors run before (replica.receive 4096 (numbered 0 history) count)
        (self.archiveEvents coding data).1 := by
  have hmirrors := h.eventsOf
  have hrun := archiveRun_eventsOf self run
  rw [Collector.archiveEvents, hshows.requestedAt]
  dsimp only
  generalize self.eventsOf run = other at hmirrors hrun ⊢
  have harchived : other.archivedSequence = replica.upto := by
    rw [← hmirrors.archived, Collector.archived, if_pos hrun]
  have hnew := new_events hshows hcount replica.upto
  rw [harchived, hnew]
  split
  · exact Or.inl hmirrors
  · rename_i hsome
    split
    · exact Or.inl hmirrors
    · right
      have hlater : ¬count ≤ replica.upto := by
        intro hle
        apply hsome
        rw [List.isEmpty_iff, List.drop_eq_nil_iff, List.length_take]
        omega
      have happended := fun bytes => hmirrors.appended hrun hfollows hcount hlater bytes _ rfl
      rw [harchived] at happended
      exact happended _

/-- Whether it is refused or not, a report that shows the audit keeps the collector a
reader of its log. -/
theorem Mirrors.save (h : Mirrors run before replica self) (coding : Coding)
    (hshows : data.Shows run history count) (hcount : count ≤ history.length)
    (hfollows : Replica.Follows (numbered 0 history) replica) :
    Mirrors run before replica (self.save coding data).1 ∨
      Mirrors run before (replica.receive 4096 (numbered 0 history) count)
        (self.save coding data).1 := by
  rcases eventState_save coding self data with hsame | ⟨other, hother, hsave⟩
  · exact Or.inl (h.congr hsame)
  · rcases (h.congr hother).archiveEvents coding hshows hcount hfollows with hkept | hreceived
    · exact Or.inl (hkept.congr hsave)
    · exact Or.inr (hreceived.congr hsave)

theorem archiveRun_archiveEvents (coding : Coding) (self : Collector) (data : AuditReport) :
    (self.archiveEvents coding data).1.archiveRun = data.requestedAt := by
  have hstart := archiveRun_eventsOf self data.requestedAt
  rw [Collector.archiveEvents]
  dsimp only
  split
  · exact hstart
  · split
    · exact hstart
    · exact hstart

/-- Nothing is known about an audit after reports of others. -/
theorem archived_others (coding : Coding) {others : List AuditReport}
    (hothers : ∀ data ∈ others, data.requestedAt ≠ run) :
    (saves coding new others).archived run = 0 ∧ (saves coding new others).missed run = 0 := by
  rw [saves]
  induction others using List.reverseRecOn with
  | nil =>
      constructor
      · exact ite_self _
      · exact ite_self _
  | append_singleton others data ih =>
      obtain ⟨harchived, hmissed⟩ := ih fun data hdata =>
        hothers data (List.mem_append_left _ hdata)
      rw [Runs.run_concat]
      generalize Runs.run _ new others = self at harchived hmissed ⊢
      rcases eventState_save coding self data with hsame | ⟨other, -, hsave⟩
      · simp only [eventState, Prod.mk.injEq] at hsame
        obtain ⟨hrun, hsequence, hmissing, -⟩ := hsame
        rw [archived, hrun, hsequence, missed, hrun, hmissing]
        exact ⟨harchived, hmissed⟩
      · have hlast : (self.save coding data).1.archiveRun =
            (other.archiveEvents coding data).1.archiveRun := congrArg Prod.fst hsave
        have hrun : (self.save coding data).1.archiveRun ≠ run := by
          rw [hlast, archiveRun_archiveEvents]
          exact hothers data (List.mem_append_right _ (List.mem_singleton_self data))
        rw [archived, if_neg hrun, missed, if_neg hrun]
        exact ⟨rfl, rfl⟩

/-- After the reports of other audits, the reports of one, in any order and any number of
times, append each of its events at most once, unchanged and in the order of the numbers.
Those up to the last one that are not there are counted as missing. None is if every
report comes before the audit has 4096 events more than are archived. -/
theorem saves_once (coding : Coding) (others reports : List AuditReport)
    (run : Option String) (history : List String)
    (hothers : ∀ data ∈ others, data.requestedAt ≠ run)
    (hreports : ∀ data ∈ reports, ∃ count ≤ history.length, data.Shows run history count) :
    ∃ rows upto, upto ≤ history.length ∧ rows.Sublist ((numbered 0 history).take upto) ∧
      (saves coding new (others ++ reports)).eventRows =
        (saves coding new others).eventRows ++ rows.map (fun event => (run, event)) ∧
      (saves coding new (others ++ reports)).archived run = upto ∧
      (saves coding new (others ++ reports)).missed run = ((upto - rows.length : ℕ) : ℤ) ∧
      (Runs.Along (fun self data => (save coding self data).1)
          (fun self data => ∃ count ≤ history.length, data.Shows run history count ∧
            (count : ℤ) ≤ self.archived run + 4096) (saves coding new others) reports →
        rows = (numbered 0 history).take upto) := by
  obtain ⟨harchived, hmissed⟩ := archived_others coding hothers
  have hsplit : saves coding new (others ++ reports) =
      saves coding (saves coding new others) reports := List.foldl_append
  rw [hsplit]
  generalize saves coding new others = start at harchived hmissed ⊢
  have hstart : Mirrors run start.eventRows Replica.start start := by
    constructor
    · rw [Replica.start, List.map_nil, List.append_nil]
    · exact harchived
    · exact hmissed
  generalize hsoon : Runs.Along (fun self data => (save coding self data).1) _ start reports = soon
  have halong : Runs.Along (fun self data => (save coding self data).1)
      (fun self data => ∃ count ≤ history.length, data.Shows run history count ∧
        (soon → (count : ℤ) ≤ self.archived run + 4096)) start reports := by
    intro front data back hback
    by_cases hhold : soon
    · obtain ⟨count, hcount, hshows, hle⟩ := (hsoon ▸ hhold) front data back hback
      exact ⟨count, hcount, hshows, fun _ => hle⟩
    · obtain ⟨count, hcount, hshows⟩ := hreports data (by rw [hback]; simp)
      exact ⟨count, hcount, hshows, fun h => absurd h hhold⟩
  obtain ⟨replica, hfollows, hwhole, hmirrors⟩ := halong.invariant
    (fun self => ∃ replica, Replica.Follows (numbered 0 history) replica ∧
      (soon → replica.held = (numbered 0 history).take replica.upto) ∧
      Mirrors run start.eventRows replica self)
    (by
      rintro self data ⟨count, hcount, hshows, hsoon⟩ ⟨replica, hfollows, hwhole, hmirrors⟩
      rcases hmirrors.save coding hshows hcount hfollows with hkept | hreceived
      · exact ⟨replica, hfollows, hwhole, hkept⟩
      · refine ⟨_, hfollows.receive ((length_numbered 0 history).symm ▸ hcount), ?_, hreceived⟩
        intro hhold
        have hle := hsoon hhold
        rw [hmirrors.archived] at hle
        exact Replica.receive_whole (hwhole hhold) (by exact_mod_cast hle))
    ⟨Replica.start, Replica.follows_start _, fun _ => rfl, hstart⟩
  refine ⟨replica.held, replica.upto, ?_, hfollows.held, hmirrors.rows, hmirrors.archived,
    hmirrors.missed, hwhole⟩
  rw [← length_numbered 0 history]
  exact hfollows.within

/-- After the report of another audit, a second report repeats the events of the first one. -/
theorem saves_once_repeated :
    let coding : Coding := ⟨fun _ => [0], fun _ _ => [1], fun _ _ _ => [2], fun _ => [3],
      fun _ => ""⟩
    let report (run : String) (count : ℕ) : AuditReport :=
      { version := some 1, requestedSeconds := some 60, requestedAt := some run
        status := some "running", diagnosticWindows := [], rest := ""
        events := (AuditLog.after (["start", "quiet", "end"].take count)).events }
    ∃ (rows : List AuditEvent) (upto : ℕ), upto ≤ 3 ∧
      rows.Sublist ((numbered 0 ["start", "quiet", "end"]).take upto) ∧
      (saves coding new ([report "09:00" 1] ++ [report "10:00" 2, report "10:00" 3])).eventRows =
        (saves coding new [report "09:00" 1]).eventRows ++
          rows.map (fun event => (some "10:00", event)) ∧
      (saves coding new
        ([report "09:00" 1] ++ [report "10:00" 2, report "10:00" 3])).archived "10:00" = upto := by
  intro coding report
  obtain ⟨rows, upto, hupto, hrows, happended, harchived, -, -⟩ := saves_once coding
    [report "09:00" 1] [report "10:00" 2, report "10:00" 3] (some "10:00")
    ["start", "quiet", "end"]
    (by
      intro data hdata
      rw [List.mem_singleton.mp hdata]
      decide)
    (by
      intro data hdata
      rcases List.mem_pair.mp hdata with rfl | rfl
      · exact ⟨2, by decide, rfl, rfl⟩
      · exact ⟨3, by decide, rfl, rfl⟩)
  exact ⟨rows, upto, hupto, hrows, happended, harchived⟩

/-! ## What is stored stays -/

/-- The files are as the collector counts them: a final report is stored once, under the
digest of its content, and everything fits. -/
structure Sound (coding : Coding) (collector : Collector) : Prop where
  named : ∀ entry ∈ collector.finals, entry.1 = coding.digest entry.2
  nodup : (collector.finals.map Prod.fst).Nodup
  bytes : collector.archiveBytes =
    (collector.finals.map fun entry => entry.2.length).sum +
      (collector.eventRows.map fun row => (coding.eventRow row.1 row.2).length).sum +
      (collector.windowRows.map fun row => (coding.windowRow row.1 row.2.1 row.2.2).length).sum
  bounded : collector.archiveBytes ≤ archiveLimit

/-- Nothing that is stored has been changed or removed. -/
structure Extends (collector later : Collector) : Prop where
  finals : collector.finals <+: later.finals
  eventRows : collector.eventRows <+: later.eventRows
  windowRows : collector.windowRows <+: later.windowRows

theorem Extends.refl (self : Collector) : Extends self self :=
  ⟨List.prefix_refl _, List.prefix_refl _, List.prefix_refl _⟩

theorem Extends.trans {later last : Collector} (h : Extends self later)
    (hlater : Extends later last) : Extends self last :=
  ⟨h.finals.trans hlater.finals, h.eventRows.trans hlater.eventRows,
    h.windowRows.trans hlater.windowRows⟩

/-- A part of `save` keeps the files sound and what is in them. -/
def Appends (coding : Coding) (self later : Collector) : Prop :=
  (self.Sound coding → later.Sound coding) ∧ Extends self later

theorem Appends.trans {coding : Coding} {later last : Collector}
    (h : Appends coding self later) (hlater : Appends coding later last) :
    Appends coding self last :=
  ⟨fun hsound => hlater.1 (h.1 hsound), h.2.trans hlater.2⟩

theorem appends_archiveFinal (coding : Coding) (self : Collector) (data : AuditReport) :
    Appends coding self (self.archiveFinal coding data).1 := by
  have hsame : Appends coding self self := ⟨id, Extends.refl self⟩
  rw [archiveFinal]
  split
  · exact hsame
  · dsimp only
    split
    · exact hsame
    · rename_i hnone
      split
      · exact hsame
      · rename_i hroom
        refine ⟨fun hsound => ?_, ⟨List.prefix_append _ _, List.prefix_refl _,
          List.prefix_refl _⟩⟩
        constructor
        · intro entry hentry
          rcases List.mem_append.mp hentry with hold | hnew
          · exact hsound.named entry hold
          · rw [List.mem_singleton.mp hnew]
        · rw [List.map_append, List.nodup_append]
          refine ⟨hsound.nodup, List.nodup_singleton _, ?_⟩
          intro name hname other hother heq
          rw [List.lookup_eq_none_iff] at hnone
          obtain ⟨entry, hentry, rfl⟩ := List.mem_map.mp hname
          rw [List.map_singleton, List.mem_singleton] at hother
          have := hnone entry hentry
          rw [heq, hother] at this
          simp at this
        · show self.archiveBytes + _ = _
          rw [hsound.bytes, List.map_append, List.sum_append, List.map_singleton,
            List.sum_singleton]
          dsimp only
          omega
        · exact not_lt.mp hroom

theorem appends_eventsOf (coding : Coding) (self : Collector) (run : Option String) :
    Appends coding self (self.eventsOf run) := by
  rw [eventsOf]
  split
  · exact ⟨fun hsound => ⟨hsound.named, hsound.nodup, hsound.bytes, hsound.bounded⟩,
      ⟨List.prefix_refl _, List.prefix_refl _, List.prefix_refl _⟩⟩
  · exact ⟨id, Extends.refl self⟩

theorem appends_archiveEvents (coding : Coding) (self : Collector) (data : AuditReport) :
    Appends coding self (self.archiveEvents coding data).1 := by
  apply (appends_eventsOf coding self data.requestedAt).trans
  have hsame := fun other : Collector =>
    (⟨id, Extends.refl other⟩ : Appends coding other other)
  rw [archiveEvents]
  dsimp only
  generalize self.eventsOf data.requestedAt = other
  split
  · exact hsame other
  · split
    · exact hsame other
    · rename_i hroom
      refine ⟨fun hsound => ⟨hsound.named, hsound.nodup, ?_, not_lt.mp hroom⟩,
        ⟨List.prefix_refl _, List.prefix_append _ _, List.prefix_refl _⟩⟩
      show other.archiveBytes + _ = _
      rw [hsound.bytes, List.map_append, List.sum_append, List.map_map]
      simp only [Function.comp_def]
      omega

theorem appends_windowsOf (coding : Coding) (self : Collector) (run : Option String) :
    Appends coding self (self.windowsOf run) := by
  rw [windowsOf]
  split
  · exact ⟨fun hsound => ⟨hsound.named, hsound.nodup, hsound.bytes, hsound.bounded⟩,
      ⟨List.prefix_refl _, List.prefix_refl _, List.prefix_refl _⟩⟩
  · exact ⟨id, Extends.refl self⟩

theorem appends_archiveWindows (coding : Coding) (self : Collector) (data : AuditReport) :
    Appends coding self (self.archiveWindows coding data).1 := by
  apply (appends_windowsOf coding self data.requestedAt).trans
  have hsame := fun other : Collector =>
    (⟨id, Extends.refl other⟩ : Appends coding other other)
  rw [archiveWindows]
  dsimp only
  generalize self.windowsOf data.requestedAt = other
  split
  · exact hsame other
  · split
    · exact hsame other
    · rename_i hroom
      split
      · exact hsame other
      · refine ⟨fun hsound => ⟨hsound.named, hsound.nodup, ?_, not_lt.mp hroom⟩,
          ⟨List.prefix_refl _, List.prefix_refl _, List.prefix_append _ _⟩⟩
        show other.archiveBytes + _ = _
        rw [hsound.bytes, List.map_append, List.sum_append, List.map_map]
        simp only [Function.comp_def]
        omega

theorem appends_andThen {coding : Coding} {done : Collector × Except SaveError Unit}
    {next : Collector → Collector × Except SaveError Unit} (h : Appends coding self done.1)
    (hnext : ∀ other, Appends coding other (next other).1) :
    Appends coding self (andThen done next).1 := by
  rw [andThen]
  split
  · exact h.trans (hnext done.1)
  · exact h

theorem appends_save (coding : Coding) (self : Collector) (data : AuditReport) :
    Appends coding self (self.save coding data).1 := by
  rw [save]
  split
  · exact ⟨id, Extends.refl self⟩
  · apply appends_andThen (appends_archiveFinal coding self data)
    intro other
    apply appends_andThen
    · have hevents := appends_archiveEvents coding { other with receiver := some data } data
      exact ⟨fun hsound => hevents.1
        ⟨hsound.named, hsound.nodup, hsound.bytes, hsound.bounded⟩,
        ⟨hevents.2.finals, hevents.2.eventRows, hevents.2.windowRows⟩⟩
    · intro other
      exact appends_archiveWindows coding other data

theorem appends_saves (coding : Coding) (self : Collector) (reports : List AuditReport) :
    Appends coding self (saves coding self reports) :=
  Runs.run_invariant (Appends coding self) (fun other data hother =>
    hother.trans (appends_save coding other data)) ⟨id, Extends.refl self⟩

theorem sound_new (coding : Coding) : new.Sound coding :=
  ⟨fun _ hentry => absurd hentry List.not_mem_nil, List.nodup_nil, rfl, Nat.zero_le _⟩

/-- An entry of the front of a list is found in the whole list. -/
theorem lookup_of_prefix {stored later : List (String × List UInt8)} (h : stored <+: later)
    {name : String} {content : List UInt8} (hfound : stored.lookup name = some content) :
    later.lookup name = some content := by
  obtain ⟨rest, rfl⟩ := h
  rw [List.lookup_append, hfound, Option.some_or]

theorem lookup_archiveFinal {coding : Coding} (hterminal : terminal data.status = true)
    (haccepted : (self.archiveFinal coding data).2 = .ok ()) :
    (self.archiveFinal coding data).1.finals.lookup (coding.digest (coding.report data)) =
      some (coding.report data) := by
  rw [archiveFinal, if_neg (by simp [hterminal])] at haccepted ⊢
  dsimp only at haccepted ⊢
  cases hfound : self.finals.lookup (coding.digest (coding.report data)) with
  | some stored =>
      rw [hfound] at haccepted
      dsimp only at haccepted ⊢
      by_cases hdiffer : stored ≠ coding.report data
      · rw [if_pos hdiffer] at haccepted
        cases haccepted
      · rw [hfound, not_not.mp hdiffer]
  | none =>
      rw [hfound] at haccepted
      dsimp only at haccepted ⊢
      by_cases hfull : self.archiveBytes + (coding.report data).length > archiveLimit
      · rw [if_pos hfull] at haccepted
        cases haccepted
      · rw [if_neg hfull, List.lookup_append, hfound, Option.none_or]
        exact List.lookup_cons_self

/-- A terminal report that is accepted is stored under the digest of its content. -/
theorem lookup_save {coding : Coding} (hterminal : terminal data.status = true)
    (haccepted : (self.save coding data).2 = .ok ()) :
    (self.save coding data).1.finals.lookup (coding.digest (coding.report data)) =
      some (coding.report data) := by
  rw [save] at haccepted ⊢
  split at haccepted
  · cases haccepted
  · rename_i hvalid
    rw [if_neg hvalid]
    rcases hfinal : self.archiveFinal coding data with ⟨final, refused | ⟨⟩⟩
    · rw [hfinal, andThen] at haccepted
      cases haccepted
    · have hkept : (self.archiveFinal coding data).2 = .ok () := by rw [hfinal]
      have hstored := lookup_archiveFinal hterminal hkept
      rw [hfinal] at hstored
      have hrest : Appends coding { final with receiver := some data }
          (andThen (archiveEvents coding { final with receiver := some data } data)
            fun self => self.archiveWindows coding data).1 :=
        appends_andThen (appends_archiveEvents coding _ data)
          fun other => appends_archiveWindows coding other data
      exact lookup_of_prefix hrest.2.finals hstored

/-- Whatever reports come, everything that is stored fits into the archive, a final report
is stored once, under the digest of its content, and no file is changed but by appending
to it, so that a terminal report that was accepted is found ever after. -/
theorem saves_stored (coding : Coding) (reports more : List AuditReport) :
    Sound coding (saves coding new reports) ∧
      Extends (saves coding new reports) (saves coding new (reports ++ more)) ∧
      ∀ front data back, reports = front ++ data :: back → terminal data.status = true →
        (save coding (saves coding new front) data).2 = .ok () →
        (saves coding new reports).finals.lookup (coding.digest (coding.report data)) =
          some (coding.report data) := by
  have hsplit : ∀ (self : Collector) (front back : List AuditReport),
      saves coding self (front ++ back) = saves coding (saves coding self front) back :=
    fun self front back => List.foldl_append
  refine ⟨(appends_saves coding new reports).1 (sound_new coding), ?_, ?_⟩
  · rw [hsplit]
    exact (appends_saves coding _ more).2
  · rintro front data back rfl hterminal haccepted
    rw [hsplit]
    exact lookup_of_prefix (appends_saves coding _ back).2.finals
      (lookup_save hterminal haccepted)

end Collector

end Raydio.Receiver
