/-
# The meter on the audio thread

While the receiver plays, a worklet looks at every frame of the audio: it counts samples,
those near full scale and those that are no numbers, and notes down the stretches of quiet.
About four times a second, and when it is asked, it posts what has come up since its last
report. The audio comes in blocks, which matter to nobody: what the reports say together is
a property of the frames.

A sample is a rational number, or none if it is not finite. The sum of the squares, which is
rounded at every step, is left out. The bounds are taken as they are written: a sample of
single precision compares the same with the rounded ones.
-/

import Raydio.Foundation.Runs
import Raydio.Foundation.Stretches
import Raydio.Foundation.Throttle

namespace Raydio.Receiver

open Raydio.Foundation

/-- The samples of the channels at one time. -/
abbrev Frame := List (Option ℚ)

/-- A quiet stretch: how long it is, and the number of the frame that ended it. -/
structure QuietRun where
  endFrame : ℕ
  frames : ℕ
  deriving DecidableEq, Repr

/-- What the meter posts. -/
structure MeterReport where
  frames : ℕ
  samples : ℕ
  peak : ℚ
  clipped : ℕ
  nonFinite : ℕ
  empty : ℕ
  longestQuietFrames : ℕ
  ongoingQuietFrames : ℕ
  quietRuns : List QuietRun
  truncated : Bool
  deriving DecidableEq

/-- `RaydioMeter`, with what it has posted since the last reset. -/
structure Meter where
  frames : ℕ
  lastReport : ℕ
  quiet : ℕ
  longestQuiet : ℕ
  samples : ℕ
  peak : ℚ
  clipped : ℕ
  nonFinite : ℕ
  empty : ℕ
  quietRuns : List QuietRun
  truncated : Bool
  posted : List MeterReport
  deriving DecidableEq

/-- What the meter gets: the channels of a block, or a request for a report. -/
inductive MeterEvent
  | block (channels : List (List (Option ℚ)))
  | ask

namespace Meter

/-- `reset`. -/
def reset : Meter :=
  { frames := 0, lastReport := 0, quiet := 0, longestQuiet := 0, samples := 0, peak := 0
    clipped := 0, nonFinite := 0, empty := 0, quietRuns := [], truncated := false, posted := [] }

/-- `report`. -/
def report (self : Meter) : Meter :=
  { self with
    posted := self.posted ++ [{
      frames := self.frames, samples := self.samples, peak := self.peak
      clipped := self.clipped, nonFinite := self.nonFinite, empty := self.empty
      longestQuietFrames := self.longestQuiet, ongoingQuietFrames := self.quiet
      quietRuns := self.quietRuns, truncated := self.truncated }]
    samples := 0, peak := 0, clipped := 0, nonFinite := 0, empty := 0, quietRuns := []
    truncated := false, lastReport := self.frames }

/-- The sample is near full scale. -/
def near (sample : Option ℚ) : Bool := sample.any fun x => 99997 / 100000 ≤ |x|

/-- The frame is quiet: no finite sample of it is above the bound. -/
def silent (frame : Frame) : Bool := frame.all fun sample => sample.all fun x => |x| ≤ 1 / 100000

/-- The body of the loop over the channels. -/
def hear (self : Meter) (sample : Option ℚ) : Meter :=
  match sample with
  | none => { self with nonFinite := self.nonFinite + 1 }
  | some x =>
      { self with
        peak := max self.peak |x|
        samples := self.samples + 1
        clipped := if near (some x) then self.clipped + 1 else self.clipped }

/-- The body of the loop over the frames. -/
def measure (sampleRate : ℕ) (self : Meter) (frame : Frame) : Meter :=
  let self := frame.foldl hear self
  let self := { self with frames := self.frames + 1 }
  if silent frame then
    { self with quiet := self.quiet + 1, longestQuiet := max self.longestQuiet (self.quiet + 1) }
  else if self.quiet ≠ 0 then
    let self := if sampleRate ≤ 50 * self.quiet then
        if self.quietRuns.length < 32 then
          { self with quietRuns := self.quietRuns ++ [⟨self.frames - 1, self.quiet⟩] }
        else { self with truncated := true }
      else self
    { self with quiet := 0 }
  else self

/-- The frames of a block; a channel that ends early has no number there. -/
def framesOf (channels : List (List (Option ℚ))) : List Frame :=
  (List.range (match channels with
    | [] => 128
    | first :: _ => if first.length = 0 then 128 else first.length)).map fun index =>
    channels.map fun channel => (channel[index]?).join

/-- `process`. -/
def process (sampleRate : ℕ) (self : Meter) (channels : List (List (Option ℚ))) : Meter :=
  let frames := framesOf channels
  let self := if channels.isEmpty then { self with empty := self.empty + frames.length } else self
  let self := frames.foldl (measure sampleRate) self
  if sampleRate ≤ 4 * (self.frames - self.lastReport) then self.report else self

/-- What the meter does with an event. -/
def step (sampleRate : ℕ) (self : Meter) : MeterEvent → Meter
  | .block channels => self.process sampleRate channels
  | .ask => self.report

/-- A meter after the events since its last reset. -/
def run (sampleRate : ℕ) (events : List MeterEvent) : Meter :=
  Runs.run (step sampleRate) reset events

end Meter

/-- The frames of an event. -/
def MeterEvent.frames : MeterEvent → List Frame
  | .block channels => Meter.framesOf channels
  | .ask => []

namespace Meter

variable {sampleRate : ℕ} {stream : List Frame} {self : Meter}

/-- The quiet stretches that were reported, and those that will be. -/
def told (self : Meter) : List QuietRun :=
  self.posted.flatMap MeterReport.quietRuns ++ self.quietRuns

/-- What the reports, and the meter for its next one, say of the frames. -/
structure Tells (sampleRate : ℕ) (stream : List Frame) (meter : Meter) : Prop where
  frames : meter.frames = stream.length
  /-- No frame waits longer than a quarter of a second. -/
  recent : 4 * (meter.frames - meter.lastReport) ≤ sampleRate
  /-- Every quiet stretch of a fiftieth of a second or more is told once, in order. -/
  stretches : ∀ run, run ∈ meter.told ↔
    StretchEnds (stream.map silent) run.endFrame run.frames ∧ sampleRate ≤ 50 * run.frames
  order : meter.told.Pairwise fun earlier later => earlier.endFrame < later.endFrame
  /-- None of them is dropped. -/
  whole : meter.truncated = false ∧ ∀ report ∈ meter.posted, report.truncated = false
  ongoing : StretchGoesOn (stream.map silent) meter.quiet
  longest : ∀ bound, meter.longestQuiet ≤ bound ↔ meter.quiet ≤ bound ∧
    ∀ stop length, StretchEnds (stream.map silent) stop length → length ≤ bound
  samples : (meter.posted.map MeterReport.samples).sum + meter.samples =
    stream.flatten.countP Option.isSome
  clipped : (meter.posted.map MeterReport.clipped).sum + meter.clipped =
    stream.flatten.countP near
  nonFinite : (meter.posted.map MeterReport.nonFinite).sum + meter.nonFinite =
    stream.flatten.countP Option.isNone
  empty : (meter.posted.map MeterReport.empty).sum + meter.empty = stream.countP List.isEmpty
  peak : ∀ bound ≥ 0, (meter.peak ≤ bound ∧ ∀ report ∈ meter.posted, report.peak ≤ bound) ↔
    ∀ x, some x ∈ stream.flatten → |x| ≤ bound

/-- What the loops keep of the quiet stretches, next to a scanner of the same frames. -/
structure Scans (sampleRate : ℕ) (stream : List Frame) (scan : Stretches) (meter : Meter) :
    Prop where
  frames : meter.frames = stream.length
  reported : meter.lastReport ≤ meter.frames
  knows : scan.Knows (stream.map silent)
  quiet : meter.quiet = scan.current
  told : meter.told = (scan.ended.filter fun entry => sampleRate ≤ 50 * entry.2).map fun entry =>
    ⟨entry.1, entry.2⟩
  pending : ∀ run ∈ meter.quietRuns, meter.lastReport ≤ run.endFrame
  whole : meter.truncated = false ∧ ∀ report ∈ meter.posted, report.truncated = false
  longest : ∀ bound, meter.longestQuiet ≤ bound ↔
    scan.current ≤ bound ∧ ∀ entry ∈ scan.ended, entry.2 ≤ bound

/-- What they keep of the samples. -/
structure Counts (stream : List Frame) (meter : Meter) : Prop where
  samples : (meter.posted.map MeterReport.samples).sum + meter.samples =
    stream.flatten.countP Option.isSome
  clipped : (meter.posted.map MeterReport.clipped).sum + meter.clipped =
    stream.flatten.countP near
  nonFinite : (meter.posted.map MeterReport.nonFinite).sum + meter.nonFinite =
    stream.flatten.countP Option.isNone
  peak : ∀ bound ≥ 0, (meter.peak ≤ bound ∧ ∀ report ∈ meter.posted, report.peak ≤ bound) ↔
    ∀ x, some x ∈ stream.flatten → |x| ≤ bound

/-- A frame adds to the counts, and nothing else. -/
theorem foldl_hear (frame : Frame) (self : Meter) :
    ∃ peak, (∀ bound, peak ≤ bound ↔ self.peak ≤ bound ∧ ∀ x, some x ∈ frame → |x| ≤ bound) ∧
      frame.foldl hear self =
        { self with
          peak := peak
          samples := self.samples + frame.countP Option.isSome
          clipped := self.clipped + frame.countP near
          nonFinite := self.nonFinite + frame.countP Option.isNone } := by
  induction frame generalizing self with
  | nil =>
      refine ⟨self.peak, ?_, rfl⟩
      intro bound
      simp
  | cons sample frame ih =>
      obtain ⟨peak, hpeak, hfold⟩ := ih (self.hear sample)
      refine ⟨peak, ?_, ?_⟩
      · intro bound
        rw [hpeak]
        cases sample with
        | none => simp [hear]
        | some x =>
            simp only [hear, max_le_iff, List.mem_cons, Option.some.injEq, and_assoc]
            constructor
            · rintro ⟨hold, hx, hrest⟩
              refine ⟨hold, ?_⟩
              rintro other (rfl | hother)
              · exact hx
              · exact hrest other hother
            · rintro ⟨hold, hall⟩
              exact ⟨hold, hall x (Or.inl rfl), fun other hother => hall other (Or.inr hother)⟩
      · rw [List.foldl_cons, hfold]
        cases sample with
        | none =>
            simp [hear, near, Nat.add_assoc, Nat.add_comm]
        | some x =>
            by_cases hnear : near (some x) = true
            · simp [hear, hnear, Nat.add_assoc, Nat.add_comm, Nat.add_left_comm]
            · simp [hear, hnear, Nat.add_assoc, Nat.add_comm]

theorem Counts.measure (h : Counts stream self) (frame : Frame) :
    Counts (stream ++ [frame]) (measure sampleRate self frame) := by
  obtain ⟨peak, hpeak, hfold⟩ := foldl_hear frame self
  have hkept : (Meter.measure sampleRate self frame).posted = self.posted ∧
      (Meter.measure sampleRate self frame).samples = self.samples + frame.countP Option.isSome ∧
      (Meter.measure sampleRate self frame).clipped = self.clipped + frame.countP near ∧
      (Meter.measure sampleRate self frame).nonFinite =
        self.nonFinite + frame.countP Option.isNone ∧
      (Meter.measure sampleRate self frame).peak = peak := by
    rw [Meter.measure, hfold]
    dsimp only
    split_ifs <;> exact ⟨rfl, rfl, rfl, rfl, rfl⟩
  obtain ⟨hposted, hsamples, hclipped, hnonFinite, hpeakKept⟩ := hkept
  have hflatten : (stream ++ [frame]).flatten = stream.flatten ++ frame := by simp
  constructor
  · rw [hposted, hsamples, hflatten, List.countP_append, ← h.samples, Nat.add_assoc]
  · rw [hposted, hclipped, hflatten, List.countP_append, ← h.clipped, Nat.add_assoc]
  · rw [hposted, hnonFinite, hflatten, List.countP_append, ← h.nonFinite, Nat.add_assoc]
  · intro bound hbound
    rw [hposted, hpeakKept, hpeak, hflatten, and_right_comm, h.peak bound hbound]
    simp only [List.mem_append]
    constructor
    · rintro ⟨hold, hnew⟩ x (hx | hx)
      · exact hold x hx
      · exact hnew x hx
    · intro hall
      exact ⟨fun x hx => hall x (Or.inl hx), fun x hx => hall x (Or.inr hx)⟩

/-- A report hands over what was counted. -/
theorem Counts.report (h : Counts stream self) : Counts stream self.report := by
  constructor
  · rw [← h.samples]
    simp [Meter.report]
  · rw [← h.clipped]
    simp [Meter.report]
  · rw [← h.nonFinite]
    simp [Meter.report]
  · intro bound hbound
    rw [← h.peak bound hbound]
    simp only [Meter.report, List.mem_append, List.mem_singleton]
    constructor
    · rintro ⟨-, hall⟩
      exact ⟨hall _ (Or.inr rfl), fun report hreport => hall report (Or.inl hreport)⟩
    · rintro ⟨hpeak, hall⟩
      refine ⟨hbound, ?_⟩
      rintro report (hreport | rfl)
      · exact hall report hreport
      · exact hpeak

/-- Less than thirty-three quiet stretches end between two reports. -/
theorem Scans.room {scan : Stretches} (h : Scans sampleRate stream scan self) (last : QuietRun)
    (hroom : 2 * (self.frames - self.lastReport) ≤ sampleRate)
    (hlast : last.endFrame = self.frames)
    (hapart : (self.quietRuns ++ [last]).Pairwise fun earlier later =>
      earlier.endFrame + later.frames + 1 ≤ later.endFrame)
    (hlong : ∀ run ∈ self.quietRuns ++ [last], sampleRate ≤ 50 * run.frames) :
    self.quietRuns.length < 32 := by
  have hreported := h.reported
  have hspaced : ((self.quietRuns ++ [last]).map fun run => (run.endFrame : ℤ)).Pairwise
      fun earlier later : ℤ => earlier + (sampleRate / 50 + 1 : ℕ) ≤ later := by
    rw [List.pairwise_map]
    refine hapart.imp_of_mem ?_
    intro earlier later _ hlater hspaced
    have hlater := hlong later hlater
    omega
  have hwithin : ∀ run ∈ self.quietRuns ++ [last],
      self.lastReport ≤ run.endFrame ∧ run.endFrame ≤ self.frames := by
    intro run hrun
    have hlater := (List.pairwise_append.mp hapart).2.2
    rcases List.mem_append.mp hrun with hold | hnew
    · have hbefore := hlater run hold last (List.mem_singleton_self last)
      exact ⟨h.pending run hold, by omega⟩
    · rw [List.mem_singleton.mp hnew, hlast]
      exact ⟨hreported, le_refl _⟩
  have hlength := @length_le_of_spaced _ _ hspaced self.lastReport 32 (by
      intro time htime
      obtain ⟨run, hrun, rfl⟩ := List.mem_map.mp htime
      exact Int.ofNat_le.mpr (hwithin run hrun).1) (by
      intro time htime
      obtain ⟨run, hrun, rfl⟩ := List.mem_map.mp htime
      have hend := (hwithin run hrun).2
      omega)
  rw [List.length_map, List.length_append, List.length_singleton] at hlength
  omega

theorem Scans.measure {scan : Stretches} (h : Scans sampleRate stream scan self)
    (hroom : 2 * (self.frames - self.lastReport) ≤ sampleRate) (frame : Frame) :
    Scans sampleRate (stream ++ [frame]) (scan.see (silent frame))
      (measure sampleRate self frame) := by
  obtain ⟨peak, -, hfold⟩ := foldl_hear frame self
  have hframes : self.frames + 1 = (stream ++ [frame]).length := by
    rw [List.length_append, h.frames, List.length_singleton]
  have hreported : self.lastReport ≤ self.frames + 1 := Nat.le_succ_of_le h.reported
  have hknows : (scan.see (silent frame)).Knows ((stream ++ [frame]).map silent) := by
    rw [List.map_append]
    exact h.knows.see (silent frame)
  rw [Meter.measure, hfold]
  dsimp only
  cases hsilent : silent frame with
  | true =>
      rw [hsilent] at hknows
      rw [if_pos rfl]
      refine ⟨hframes, hreported, hknows, ?_, h.told, h.pending, h.whole, ?_⟩
      · show self.quiet + 1 = scan.current + 1
        rw [h.quiet]
      · intro bound
        show max self.longestQuiet (self.quiet + 1) ≤ bound ↔
          scan.current + 1 ≤ bound ∧ ∀ entry ∈ scan.ended, entry.2 ≤ bound
        rw [max_le_iff, h.longest, h.quiet]
        constructor
        · rintro ⟨⟨-, hended⟩, hlong⟩
          exact ⟨hlong, hended⟩
        · rintro ⟨hlong, hended⟩
          exact ⟨⟨by omega, hended⟩, hlong⟩
  | false =>
      rw [hsilent] at hknows
      rw [if_neg Bool.false_ne_true]
      by_cases hquiet : self.quiet = 0
      · have hcurrent : scan.current = 0 := by rw [← h.quiet, hquiet]
        have hended : (scan.see false).ended = scan.ended := by simp [Stretches.see, hcurrent]
        rw [if_neg (not_not_intro hquiet)]
        refine ⟨hframes, hreported, hknows, hquiet, ?_, h.pending, h.whole, ?_⟩
        · rw [hended]
          exact h.told
        · intro bound
          rw [hended]
          show self.longestQuiet ≤ bound ↔ 0 ≤ bound ∧ _
          rw [h.longest, hcurrent]
      · -- The stretch ends here.
        have hended : (scan.see false).ended = scan.ended ++ [(self.frames, self.quiet)] := by
          have hseen : scan.seen = self.frames := by
            rw [h.knows.seen, List.length_map, h.frames]
          have hcurrent : scan.current ≠ 0 := by rwa [← h.quiet]
          simp [Stretches.see, hcurrent, hseen, h.quiet]
        have hlongest : ∀ bound, self.longestQuiet ≤ bound ↔
            0 ≤ bound ∧ ∀ entry ∈ (scan.see false).ended, entry.2 ≤ bound := by
          intro bound
          rw [h.longest, hended, ← h.quiet]
          simp only [List.mem_append, List.mem_singleton]
          constructor
          · rintro ⟨hnow, hall⟩
            refine ⟨Nat.zero_le bound, ?_⟩
            rintro entry (hentry | rfl)
            · exact hall entry hentry
            · exact hnow
          · rintro ⟨-, hall⟩
            exact ⟨hall _ (Or.inr rfl), fun entry hentry => hall entry (Or.inl hentry)⟩
        rw [if_pos hquiet]
        by_cases hlong : sampleRate ≤ 50 * self.quiet
        · let last : QuietRun := ⟨self.frames, self.quiet⟩
          have htold : self.told ++ [last] =
              ((scan.see false).ended.filter fun entry => sampleRate ≤ 50 * entry.2).map
                fun entry => ⟨entry.1, entry.2⟩ := by
            rw [hended, h.told, List.filter_append, List.map_append]
            simp [last, hlong]
          have hsub : (self.quietRuns ++ [last]).Sublist (self.told ++ [last]) :=
            (List.sublist_append_right _ _).append_right _
          have hspace : self.quietRuns.length < 32 := by
            refine h.room last hroom rfl ?_ ?_
            · refine List.Pairwise.sublist hsub ?_
              rw [htold, List.pairwise_map]
              exact hknows.apart.sublist List.filter_sublist
            · intro run hrun
              have hrun := hsub.subset hrun
              rw [htold] at hrun
              obtain ⟨entry, hentry, rfl⟩ := List.mem_map.mp hrun
              simpa using (List.mem_filter.mp hentry).2
          rw [if_pos hlong, if_pos hspace]
          refine ⟨hframes, hreported, hknows, rfl, ?_, ?_, h.whole, hlongest⟩
          · rw [← htold]
            exact (List.append_assoc _ _ _).symm
          · intro run hrun
            rcases List.mem_append.mp hrun with hold | hnew
            · exact h.pending run hold
            · rw [List.mem_singleton.mp hnew]
              exact h.reported
        · rw [if_neg hlong]
          refine ⟨hframes, hreported, hknows, rfl, ?_, h.pending, h.whole, hlongest⟩
          have hsame : ((scan.see false).ended.filter fun entry => sampleRate ≤ 50 * entry.2) =
              scan.ended.filter fun entry => sampleRate ≤ 50 * entry.2 := by
            rw [hended, List.filter_append]
            simp [hlong]
          rw [hsame]
          exact h.told

/-- A report hands over the stretches that were noted down. -/
theorem Scans.report {scan : Stretches} (h : Scans sampleRate stream scan self) :
    Scans sampleRate stream scan self.report where
  frames := h.frames
  reported := le_refl _
  knows := h.knows
  quiet := h.quiet
  told := by
    rw [← h.told]
    simp [Meter.told, Meter.report]
  pending := by
    intro run hrun
    cases hrun
  whole := by
    refine ⟨rfl, ?_⟩
    intro report hreport
    rcases List.mem_append.mp hreport with hold | hnew
    · exact h.whole.2 report hold
    · rw [List.mem_singleton.mp hnew]
      exact h.whole.1
  longest := h.longest

/-- A loop over frames that fit before the next report. -/
theorem scans_foldl_measure {scan : Stretches} (h : Scans sampleRate stream scan self)
    (hcounts : Counts stream self) (frames : List Frame)
    (hroom : 2 * (self.frames + frames.length - self.lastReport) ≤ sampleRate) :
    (∃ scan, Scans sampleRate (stream ++ frames) scan (frames.foldl (measure sampleRate) self)) ∧
      Counts (stream ++ frames) (frames.foldl (measure sampleRate) self) ∧
      (frames.foldl (measure sampleRate) self).lastReport = self.lastReport := by
  induction frames using List.reverseRecOn with
  | nil =>
      rw [List.append_nil]
      exact ⟨⟨scan, h⟩, hcounts, rfl⟩
  | append_singleton frames frame ih =>
      rw [List.length_append, List.length_singleton] at hroom
      obtain ⟨⟨scan, hscans⟩, hcounts, hlast⟩ := ih (by omega)
      have hframes := hscans.frames
      rw [List.length_append, ← h.frames] at hframes
      rw [List.foldl_append, List.foldl_cons, List.foldl_nil, ← List.append_assoc]
      refine ⟨⟨_, hscans.measure ?_ frame⟩, hcounts.measure frame, ?_⟩
      · rw [hframes, hlast]
        omega
      · rw [← hlast]
        obtain ⟨peak, -, hfold⟩ := foldl_hear frame (frames.foldl (Meter.measure sampleRate) self)
        rw [Meter.measure, hfold]
        dsimp only
        split_ifs <;> rfl

/-- The loops do not count the frames without channels. -/
theorem foldl_measure_empty (frames : List Frame) (self : Meter) :
    (frames.foldl (measure sampleRate) self).empty = self.empty ∧
      (frames.foldl (measure sampleRate) self).posted = self.posted := by
  induction frames using List.reverseRecOn with
  | nil => exact ⟨rfl, rfl⟩
  | append_singleton frames frame ih =>
      rw [List.foldl_append, List.foldl_cons, List.foldl_nil]
      obtain ⟨peak, -, hfold⟩ := foldl_hear frame (frames.foldl (measure sampleRate) self)
      rw [measure, hfold, ← ih.1, ← ih.2]
      dsimp only
      split_ifs <;> exact ⟨rfl, rfl⟩

/-- The frames of a block have channels or not, all of them. -/
theorem countP_framesOf (channels : List (List (Option ℚ))) :
    (framesOf channels).countP List.isEmpty =
      if channels.isEmpty then (framesOf channels).length else 0 := by
  have hframe : ∀ frame ∈ framesOf channels, frame.isEmpty = channels.isEmpty := by
    intro frame hframe
    obtain ⟨index, -, rfl⟩ := List.mem_map.mp hframe
    rw [List.isEmpty_map]
  split
  · rename_i hnone
    rw [List.countP_eq_length]
    intro frame hmem
    rw [hframe frame hmem, hnone]
  · rename_i hsome
    rw [List.countP_eq_zero]
    intro frame hmem
    rw [hframe frame hmem]
    exact hsome

/-- What the meter keeps from event to event. -/
def Keeps (sampleRate : ℕ) (stream : List Frame) (self : Meter) : Prop :=
  (∃ scan, Scans sampleRate stream scan self) ∧ Counts stream self ∧
    4 * (self.frames - self.lastReport) ≤ sampleRate ∧
    (self.posted.map MeterReport.empty).sum + self.empty = stream.countP List.isEmpty

theorem keeps_report {scan : Stretches} (hscans : Scans sampleRate stream scan self)
    (hcounts : Counts stream self)
    (hempty : (self.posted.map MeterReport.empty).sum + self.empty =
      stream.countP List.isEmpty) : Keeps sampleRate stream self.report := by
  refine ⟨⟨scan, hscans.report⟩, hcounts.report, ?_, ?_⟩
  · show 4 * (self.frames - self.frames) ≤ sampleRate
    omega
  · rw [← hempty]
    simp [report]

theorem Keeps.process (h : Keeps sampleRate stream self) (channels : List (List (Option ℚ)))
    (hshort : 4 * (framesOf channels).length ≤ sampleRate) :
    Keeps sampleRate (stream ++ framesOf channels) (self.process sampleRate channels) := by
  obtain ⟨⟨scan, hscans⟩, hcounts, hrecent, hempty⟩ := h
  let counted : Meter := if channels.isEmpty then
    { self with empty := self.empty + (framesOf channels).length } else self
  let looped : Meter := (framesOf channels).foldl (measure sampleRate) counted
  have hcounted : counted = { self with
      empty := self.empty + (framesOf channels).countP List.isEmpty } := by
    rw [countP_framesOf]
    show (if channels.isEmpty then _ else _) = _
    split <;> rfl
  have hscansCounted : Scans sampleRate stream scan counted := by
    rw [hcounted]
    exact ⟨hscans.frames, hscans.reported, hscans.knows, hscans.quiet, hscans.told,
      hscans.pending, hscans.whole, hscans.longest⟩
  have hcountsCounted : Counts stream counted := by
    rw [hcounted]
    exact ⟨hcounts.samples, hcounts.clipped, hcounts.nonFinite, hcounts.peak⟩
  have hframes : counted.frames = self.frames := by rw [hcounted]
  have hlast : counted.lastReport = self.lastReport := by rw [hcounted]
  obtain ⟨⟨scan, hscansLooped⟩, hcountsLooped, -⟩ :=
    scans_foldl_measure hscansCounted hcountsCounted (framesOf channels) (by omega)
  have hemptyLooped : (looped.posted.map MeterReport.empty).sum + looped.empty =
      (stream ++ framesOf channels).countP List.isEmpty := by
    obtain ⟨hsame, hposted⟩ := @foldl_measure_empty sampleRate (framesOf channels) counted
    show (List.map _ looped.posted).sum + looped.empty = _
    rw [hsame, hposted, List.countP_append, ← hempty, hcounted]
    exact (Nat.add_assoc _ _ _).symm
  show Keeps _ _ (if sampleRate ≤ 4 * (looped.frames - looped.lastReport) then looped.report
    else looped)
  split
  · exact keeps_report hscansLooped hcountsLooped hemptyLooped
  · rename_i hearly
    exact ⟨⟨scan, hscansLooped⟩, hcountsLooped, by omega, hemptyLooped⟩

theorem keeps_run (events : List MeterEvent)
    (hshort : ∀ event ∈ events, 4 * event.frames.length ≤ sampleRate) :
    Keeps sampleRate (events.flatMap MeterEvent.frames) (run sampleRate events) := by
  induction events using List.reverseRecOn with
  | nil =>
      refine ⟨⟨Stretches.start, ?_⟩, ?_, Nat.zero_le _, rfl⟩
      · refine ⟨rfl, le_refl 0, Stretches.knows_start, rfl, rfl, ?_, ⟨rfl, ?_⟩, ?_⟩
        · intro run hrun
          cases hrun
        · intro report hreport
          cases hreport
        · intro bound
          simp [run, Runs.run, reset, Stretches.start]
      · refine ⟨rfl, rfl, rfl, ?_⟩
        intro bound hbound
        simpa [run, Runs.run, reset] using hbound
  | append_singleton events event ih =>
      have hbefore := ih fun other hother => hshort other (List.mem_append_left _ hother)
      have hevent := hshort event (List.mem_append_right _ (List.mem_singleton_self event))
      rw [List.flatMap_append, List.flatMap_singleton, run, Runs.run_concat]
      cases event with
      | block channels => exact hbefore.process channels hevent
      | ask =>
          obtain ⟨⟨scan, hscans⟩, hcounts, -, hempty⟩ := hbefore
          rw [MeterEvent.frames, List.append_nil]
          exact keeps_report hscans hcounts hempty

/-- In every run of blocks of a quarter of a second at most, the reports tell all of the
audio and no more: each quiet stretch once, however the blocks and the reports cut it up,
each sample in one count, and none of the quiet stretches is dropped. -/
theorem run_tells (sampleRate : ℕ) (events : List MeterEvent)
    (hshort : ∀ event ∈ events, 4 * event.frames.length ≤ sampleRate) :
    Tells sampleRate (events.flatMap MeterEvent.frames) (run sampleRate events) := by
  obtain ⟨⟨scan, hscans⟩, hcounts, hrecent, hempty⟩ := keeps_run events hshort
  refine ⟨hscans.frames, hrecent, ?_, ?_, hscans.whole, ?_, ?_, hcounts.samples,
    hcounts.clipped, hcounts.nonFinite, hempty, hcounts.peak⟩
  · intro quietRun
    rw [hscans.told, ← hscans.knows.ended]
    simp only [List.mem_map, List.mem_filter, decide_eq_true_eq]
    constructor
    · rintro ⟨entry, hentry, rfl⟩
      exact hentry
    · intro hentry
      exact ⟨(quietRun.endFrame, quietRun.frames), hentry, rfl⟩
  · rw [hscans.told, List.pairwise_map]
    refine (hscans.knows.apart.sublist List.filter_sublist).imp ?_
    intro earlier later happart
    dsimp only
    omega
  · rw [hscans.quiet]
    exact hscans.knows.current
  · intro bound
    rw [hscans.longest, hscans.quiet]
    constructor
    · rintro ⟨hnow, hall⟩
      exact ⟨hnow, fun stop length h => hall (stop, length) ((hscans.knows.ended _ _).mpr h)⟩
    · rintro ⟨hnow, hall⟩
      exact ⟨hnow, fun entry hentry => hall _ _ ((hscans.knows.ended _ _).mp hentry)⟩

/-- A quiet stretch over three blocks, with a report in the middle of it. -/
theorem run_tells_quiet :
    (run 8000 [.block [List.replicate 128 (some (1 / 2))], .block [List.replicate 128 (some 0)],
      .ask, .block [List.replicate 128 (some 0)], .block [[some 0, some 1]]]).told =
      [⟨385, 257⟩] ∧
    Tells 8000 ([MeterEvent.block [List.replicate 128 (some (1 / 2))],
      .block [List.replicate 128 (some 0)], .ask, .block [List.replicate 128 (some 0)],
      .block [[some 0, some 1]]].flatMap MeterEvent.frames)
      (run 8000 [.block [List.replicate 128 (some (1 / 2))],
        .block [List.replicate 128 (some 0)], .ask, .block [List.replicate 128 (some 0)],
        .block [[some 0, some 1]]]) :=
  ⟨by decide +kernel, run_tells 8000 _ (by decide +kernel)⟩

end Meter

end Raydio.Receiver
