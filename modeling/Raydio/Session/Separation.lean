/-
# Stops separate play requests

An invalidation, which every stop, every leave and every cleanup makes, separates
the play requests admitted before it from those admitted after it: the former never
join or enqueue any more, the latter are not cancelled by it.

The requests under way carry the argument. All of them were admitted since the last
invalidation, so that a milestone of one of them is lawful where it is noted down.
-/

import Raydio.Foundation.Trace
import Raydio.Session.Requests

namespace Raydio.Session

open Raydio.Foundation GuildSession

/-! ## Lawful ledgers -/

/-- The request that a milestone admits. -/
def Milestone.admission? : Milestone → Option ℕ
  | .admitted admission => some admission
  | _ => none

/-- The request was admitted, and nothing was invalidated since. -/
def Recent (admission : ℕ) (ledger : List Milestone) : Prop :=
  Trace.Since (· = .invalidated) (.admitted admission) ledger

/-- What may precede a milestone: only a recent request is committed, joins or
enqueues, and what is cancelled was recent when it was invalidated. -/
def Milestone.Lawful (before : List Milestone) : Milestone → Prop
  | .committed admission | .joined admission | .enqueued admission => Recent admission before
  | .cancelled admission _ => ∃ earlier drained, before = earlier ++ .invalidated :: drained ∧
      Recent admission earlier ∧ ∀ other ∈ drained, ∃ k answered, other = .cancelled k answered
  | _ => True

/-- Every invalidation separates the requests admitted before it from those admitted
after it. -/
def Separated (ledger : List Milestone) : Prop :=
  ∀ before after, ledger = before ++ .invalidated :: after →
    (∀ admission, .admitted admission ∈ before →
      .joined admission ∉ after ∧ .enqueued admission ∉ after) ∧
    ∀ admission answered drained rest, after = drained ++ .cancelled admission answered :: rest →
      .invalidated ∉ drained → .admitted admission ∉ after

/-- In a ledger that admits every request once, a request that an invalidation has
passed is not recent. -/
theorem not_recent {ledger before middle : List Milestone} (rest : List Milestone) {admission : ℕ}
    (hnodup : (ledger.filterMap Milestone.admission?).Nodup)
    (hledger : ledger = before ++ .invalidated :: middle ++ rest)
    (hmem : .admitted admission ∈ before) :
      ¬ Recent admission (before ++ .invalidated :: middle) := by
  intro hrecent
  obtain ⟨first, second, rfl⟩ := List.append_of_mem hmem
  have hsplit : ledger =
      first ++ .admitted admission :: (second ++ .invalidated :: middle ++ rest) := by
    rw [hledger]
    simp
  rw [hsplit, List.filterMap_append, List.filterMap_cons] at hnodup
  have honce := (List.nodup_middle (a := admission)).mp hnodup
  rw [List.nodup_cons, ← List.filterMap_append] at honce
  have hnone : ∀ part, part ⊆ first ++ (second ++ .invalidated :: middle ++ rest) →
      Milestone.admitted admission ∉ part := by
    intro part hsubset hpart
    exact honce.1 (List.mem_filterMap.mpr ⟨_, hsubset hpart, rfl⟩)
  have hshape : first ++ .admitted admission :: second ++ .invalidated :: middle =
      first ++ .admitted admission :: (second ++ .invalidated :: middle) := by simp
  rw [hshape] at hrecent
  refine hrecent.of_split (hnone first ?_) (hnone _ ?_) .invalidated (by simp) rfl
  · exact List.subset_append_left _ _
  · intro other hother
    simp only [List.mem_append] at hother ⊢
    exact Or.inr (Or.inl hother)

/-- A lawful ledger is separated. -/
theorem separated_of_lawful {ledger : List Milestone}
    (hnodup : (ledger.filterMap Milestone.admission?).Nodup)
    (hlawful : Trace.Always (fun before event => event.Lawful before) ledger) :
    Separated ledger := by
  intro before after hledger
  constructor
  · intro admission hadmitted
    constructor
    · intro hjoined
      obtain ⟨middle, rest, rfl⟩ := List.append_of_mem hjoined
      refine not_recent (.joined admission :: rest) hnodup ?_ hadmitted
        (hlawful (before ++ .invalidated :: middle) (.joined admission) rest ?_)
      · simp [hledger]
      · simp [hledger]
    · intro henqueued
      obtain ⟨middle, rest, rfl⟩ := List.append_of_mem henqueued
      refine not_recent (.enqueued admission :: rest) hnodup ?_ hadmitted
        (hlawful (before ++ .invalidated :: middle) (.enqueued admission) rest ?_)
      · simp [hledger]
      · simp [hledger]
  · rintro admission answered drained rest rfl hnone hadmitted
    obtain ⟨earlier, drained', heq, hrecent, hcancelled⟩ :=
      hlawful (before ++ .invalidated :: drained) (.cancelled admission answered) rest
        (by simp [hledger])
    have hnone' : Milestone.invalidated ∉ drained' := by
      intro hmem
      obtain ⟨_, _, habsurd⟩ := hcancelled _ hmem
      cases habsurd
    obtain ⟨rfl, -⟩ := Trace.last_split heq hnone hnone'
    have hbefore : admission ∈ before.filterMap Milestone.admission? :=
      List.mem_filterMap.mpr ⟨_, hrecent.mem, rfl⟩
    have hafter : admission ∈ (Milestone.invalidated :: (drained ++
        .cancelled admission answered :: rest)).filterMap Milestone.admission? :=
      List.mem_filterMap.mpr ⟨_, List.mem_cons_of_mem _ hadmitted, rfl⟩
    rw [hledger, List.filterMap_append] at hnodup
    exact (List.nodup_append.mp hnodup).2.2 _ hbefore _ hafter rfl

namespace Pipeline

/-! ## The requests under way -/

/-- Every request under way is recent, and the ledger is lawful. -/
structure Lawful (requests : Pipeline) : Prop where
  admitted : requests.ledger.filterMap Milestone.admission? = List.range' 1 requests.admissions
  recent : ∀ pending ∈ requests.underWay,
    pending.epoch = requests.epoch ∧ Recent pending.admission requests.ledger
  lawful : Trace.Always (fun before event => event.Lawful before) requests.ledger

theorem lawful_new : Pipeline.new.Lawful where
  admitted := rfl
  recent := by
    intro pending hmem
    cases hmem
  lawful := Trace.always_nil _

variable {first last : Pipeline}

theorem Lawful.separated (h : first.Lawful) : Separated first.ledger := by
  apply separated_of_lawful _ h.lawful
  rw [h.admitted]
  exact List.nodup_range'

/-- Milestones that neither admit nor invalidate keep a pipeline lawful. -/
theorem Lawful.extend (h : first.Lawful) (more : List Milestone) (epoch : last.epoch = first.epoch)
    (admissions : last.admissions = first.admissions)
    (underWay : ∀ pending ∈ last.underWay, pending ∈ first.underWay)
    (ledger : last.ledger = first.ledger ++ more)
    (plain : ∀ milestone ∈ more, milestone ≠ .invalidated ∧ milestone.admission? = none)
    (lawful : Trace.Always (fun before event => event.Lawful before) (first.ledger ++ more)) :
    last.Lawful where
  admitted := by
    have hmore : more.filterMap Milestone.admission? = [] :=
      List.filterMap_eq_nil_iff.mpr fun milestone hmem => (plain milestone hmem).2
    rw [ledger, admissions, List.filterMap_append, hmore, List.append_nil]
    exact h.admitted
  recent := by
    intro pending hmem
    obtain ⟨hepoch, hrecent⟩ := h.recent pending (underWay pending hmem)
    rw [epoch, ledger]
    exact ⟨hepoch, hrecent.append fun milestone hmem => (plain milestone hmem).1⟩
  lawful := ledger ▸ lawful

/-- Without a milestone. -/
theorem Lawful.keep (h : first.Lawful) (epoch : last.epoch = first.epoch)
    (admissions : last.admissions = first.admissions)
    (underWay : ∀ pending ∈ last.underWay, pending ∈ first.underWay)
    (ledger : last.ledger = first.ledger) : last.Lawful := by
  apply h.extend [] epoch admissions underWay
  · rw [ledger, List.append_nil]
  · intro milestone hmem
    cases hmem
  · rw [List.append_nil]
    exact h.lawful

/-- A milestone is noted down that neither admits nor invalidates. -/
theorem Lawful.mark (h : first.Lawful) (milestone : Milestone) (barrier : milestone ≠ .invalidated)
    (plain : milestone.admission? = none) (lawful : milestone.Lawful first.ledger) :
    (first.mark milestone).Lawful := by
  refine h.extend [milestone] rfl rfl ?_ rfl ?_ (h.lawful.concat lawful)
  · intro pending hmem
    exact hmem
  · intro other hmem
    rw [List.mem_singleton.mp hmem]
    exact ⟨barrier, plain⟩

theorem Lawful.committing (h : first.Lawful) {pending : Pending}
    (hcommitting : first.committing = some pending) :
    pending.epoch = first.epoch ∧ Recent pending.admission first.ledger :=
  h.recent pending (by simp [underWay, waiting, hcommitting])

theorem Lawful.loading (h : first.Lawful) {pending : Pending}
    (hloading : first.loading = some pending) : Recent pending.admission first.ledger :=
  (h.recent pending (by simp [underWay, waiting, hloading])).2

/-! ## Admitting and invalidating -/

theorem Lawful.enter (h : first.Lawful) (request : Discord.Request) (channel : ℕ) :
    (first.enter request channel).Lawful where
  admitted := by
    show (first.ledger ++ [_]).filterMap Milestone.admission? = List.range' 1 (first.admissions + 1)
    rw [List.filterMap_append, h.admitted, List.range'_1_concat, Nat.add_comm 1]
    rfl
  recent := by
    intro pending hmem
    have hcases : pending ∈ first.underWay ∨ pending = ⟨request, channel, first.epoch,
        wrappingSucc first.sequence, first.admissions + 1⟩ := by
      simpa [underWay, waiting, Pipeline.enter, or_assoc] using hmem
    rcases hcases with hold | rfl
    · obtain ⟨hepoch, hrecent⟩ := h.recent pending hold
      refine ⟨hepoch, hrecent.append ?_⟩
      intro other hother
      rw [List.mem_singleton.mp hother]
      exact Milestone.noConfusion
    · exact ⟨rfl, Trace.since_concat _ _ _⟩
  lawful := h.lawful.concat trivial

theorem Lawful.invalidate (h : first.Lawful) : first.invalidate.Lawful := by
  obtain ⟨drained, hledger, hdrained⟩ := first.invalidate_ledger
  have hcancelled := cancelled_of_drained hdrained
  constructor
  · have hnone : (Milestone.invalidated :: drained).filterMap Milestone.admission? = [] := by
      rw [List.filterMap_eq_nil_iff]
      intro milestone hmem
      rcases List.mem_cons.mp hmem with rfl | hmem
      · rfl
      · obtain ⟨_, _, rfl⟩ := hcancelled milestone hmem
        rfl
    show first.invalidate.ledger.filterMap _ = List.range' 1 first.admissions
    rw [hledger, List.filterMap_append, hnone, List.append_nil, h.admitted]
  · intro pending hmem
    cases hmem
  · rw [hledger]
    apply h.lawful.append
    intro before event after heq
    cases before with
    | nil =>
        cases heq
        trivial
    | cons start before =>
        obtain ⟨rfl, rfl⟩ := List.cons.inj heq
        obtain ⟨pending, hpending, answered, rfl⟩ := hdrained event (by simp)
        have hrecent := (h.recent pending (List.mem_append_right _ hpending)).2
        refine ⟨first.ledger, before, rfl, hrecent, ?_⟩
        intro other hother
        exact hcancelled other (by simp [hother])

/-! ## Steps -/

/-- Every step keeps a pipeline lawful. -/
theorem Lawful.step {limit : ℕ} (h : first.Lawful) (hstep : Step limit first last) :
    last.Lawful := by
  cases hstep with
  | enter request channel room => exact h.enter request channel
  | startLoad capacity =>
      rw [Pipeline.startLoad]
      split
      · rename_i pending rest hloading hpending
        refine h.keep rfl rfl ?_ rfl
        intro other hmem
        simpa [underWay, waiting, hloading, hpending] using hmem
      · exact h
  | endLoader index how => exact ⟨h.admitted, h.recent, h.lawful⟩
  | respond responses => exact ⟨h.admitted, h.recent, h.lawful⟩
  | invalidate => exact h.invalidate
  | stale pending committing stale => exact absurd (h.committing committing).1 stale
  | join pending committing =>
      exact h.mark _ Milestone.noConfusion rfl (h.committing committing).2
  | enqueue pending committing =>
      exact h.mark _ Milestone.noConfusion rfl (h.committing committing).2
  | settle =>
      refine h.keep rfl rfl ?_ rfl
      intro pending hmem
      have hmem : pending ∈ first.waiting := hmem
      exact List.mem_append_right _ hmem

theorem Lawful.abort (h : first.Lawful) : first.abort.Lawful :=
  ⟨h.admitted, h.recent, h.lawful⟩

theorem Lawful.joinLoader (h : first.Lawful) (index : ℕ) : (first.joinLoader index).2.Lawful := by
  have hjoins := first.joinLoader_joins index
  generalize first.joinLoader index = joined at hjoins
  cases hjoins with
  | nothing _ => exact h
  | aside task how loaders _ _ => exact ⟨h.admitted, h.recent, h.lawful⟩
  | discarded task resolution loaders _ _ =>
      have hkept : ({ first with loaders := loaders } : Pipeline).Lawful :=
        ⟨h.admitted, h.recent, h.lawful⟩
      exact hkept.mark (.discarded task.tag.admission) Milestone.noConfusion rfl
        trivial
  | resolved task resolution loaders pending _ loading _ =>
      have hrecent := h.loading loading
      have hfree : (Milestone.taken pending.admission task.tag.admission).Lawful first.ledger :=
        trivial
      refine h.extend [.taken pending.admission task.tag.admission,
        .committed pending.admission] rfl rfl ?_ rfl ?_ ?_
      · intro other hmem
        have hmem : other ∈ [pending] ++ first.pending := hmem
        simp only [underWay, waiting, loading]
        exact List.mem_append_right _ hmem
      · simp [Milestone.admission?]
      · rw [List.append_cons]
        refine (h.lawful.concat hfree).concat (hrecent.append ?_)
        simp
  | panicked task loaders pending _ loading =>
      have hfree : (Milestone.taken pending.admission task.tag.admission).Lawful first.ledger :=
        trivial
      refine h.extend [.taken pending.admission task.tag.admission] rfl rfl ?_ rfl ?_
        (h.lawful.concat hfree)
      · intro other hmem
        have hmem : other ∈ first.committing.toList ++ first.pending := hmem
        rcases List.mem_append.mp hmem with hmem | hmem
        · exact List.mem_append_left _ hmem
        · exact List.mem_append_right _ (List.mem_append_right _ hmem)
      · simp [Milestone.admission?]

end Pipeline

/-! ## Runs -/

/-- An invalidation happened, and cancelled what it found. -/
def Invalidates (before after : GuildSession) : Prop :=
  ∃ drained, after.ledger = before.ledger ++ .invalidated :: drained ∧
    ∀ milestone ∈ drained, ∃ admission answered, milestone = .cancelled admission answered

namespace GuildSession

variable (self : GuildSession)

theorem invalidates_of_pipeline {before after : GuildSession}
    (h : after.toPipeline = before.toPipeline.invalidate) : Invalidates before after := by
  obtain ⟨drained, hledger, hdrained⟩ := before.toPipeline.invalidate_ledger
  refine ⟨drained, ?_, Pipeline.cancelled_of_drained hdrained⟩
  rw [h, hledger]

theorem invalidates_cleanup (notification : Option String) :
    Invalidates self (self.cleanup notification) :=
  invalidates_of_pipeline (self.settles_cleanup notification).pipeline_eq

theorem stop_pipeline : self.stop.2.toPipeline = self.toPipeline.invalidate := by
  rw [stop]
  dsimp only
  split
  · rfl
  · split
    · split
      · exact startCurrent_pipeline _
      · exact startCurrent_pipeline _
    · rfl

end GuildSession

namespace Worker

/-- Every stop, leave and cleanup invalidates, and every invalidation of a run separates
the play requests: those admitted before it neither join a voice channel nor add tracks
to the queue after it, and those admitted after it are not among those it cancels. -/
theorem run_separated (id : ℕ) (shared : Shared) (inputs : List Input) :
    (∀ session : GuildSession, Invalidates session session.stop.2 ∧
      Invalidates session session.leave.2 ∧
        ∀ notification, Invalidates session (session.cleanup notification)) ∧
      Separated ((start id shared).run inputs).session.ledger := by
  constructor
  · intro session
    exact ⟨invalidates_of_pipeline session.stop_pipeline, session.invalidates_cleanup none,
      session.invalidates_cleanup⟩
  · have hlawful : ((start id shared).run inputs).session.toPipeline.Lawful :=
      (start id shared).requests_invariant Pipeline.Lawful (fun _ _ hstep h => h.step hstep)
        (fun _ index h => h.joinLoader index) (fun _ h => h.abort) rfl Pipeline.lawful_new inputs
    exact hlawful.separated

end Worker

end Raydio.Session
