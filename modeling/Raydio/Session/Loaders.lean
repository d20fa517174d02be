/-
# Which loader takes which request

A completion that carries a resolution names the request it is for; one that reports
a panic does not, and takes whatever is loading. A loader that was aborted keeps a
panic that came before the abort, so that it can take a request that was admitted
after the abort, whose own resolution is then thrown away.

Unless such a superseded loader is joined while a request is loading, a completion
takes exactly the request that its loader was spawned for.
-/

import Raydio.Session.Separation

namespace Raydio.Session

open Raydio.Foundation Raydio.Resolver Raydio.Playback Raydio.Node Raydio.Voice Raydio.Discord
  GuildSession

/-! ## Fair ledgers -/

/-- What may precede the end of a loader: it takes the request it was spawned for, or
that request was invalidated when its resolution is thrown away. -/
def Milestone.Fair (before : List Milestone) : Milestone → Prop
  | .taken admission loader => admission = loader
  | .discarded loader => ¬ Recent loader before
  | _ => True

/-- Every loader ended fairly. -/
def Fair (ledger : List Milestone) : Prop :=
  Trace.Always (fun before event => event.Fair before) ledger

/-- The milestones that are fair anywhere. -/
def Milestone.Neutral : Milestone → Prop
  | .taken _ _ | .discarded _ => False
  | _ => True

theorem Fair.append {ledger more : List Milestone} (h : Fair ledger)
    (neutral : ∀ milestone ∈ more, milestone.Neutral) : Fair (ledger ++ more) := by
  apply Trace.Always.append h
  intro before event after hmore
  have hneutral := neutral event (by simp [hmore])
  cases event with
  | taken admission loader => exact hneutral.elim
  | discarded loader => exact hneutral.elim
  | _ => trivial

/-! ## Matched loaders -/

namespace Pipeline

/-- A loader that was aborted would take the loading request if it were joined now. -/
def superseded (self : Pipeline) (index : ℕ) : Bool :=
  match self.loaders.joinNext index, self.loading with
  | some (task, .panicked, _), some _ => task.aborted
  | some (task, .finished _, _), some pending =>
      task.aborted && pending.sequence == task.tag.sequence
  | _, _ => false

/-- At most one loader was not aborted, and it was spawned for the loading request. -/
structure Matched (requests : Pipeline) : Prop where
  fair : Fair requests.ledger
  old : ∀ mark ∈ requests.loaders.marks, mark.1.admission ≤ requests.admissions
  single : requests.loaders.marks.Pairwise fun mark other => mark.2 = true ∨ other.2 = true
  live : ∀ loader, (loader, false) ∈ requests.loaders.marks →
    ∃ pending, requests.loading = some pending ∧ pending.admission = loader.admission ∧
      pending.sequence = loader.sequence
  stale : ∀ loader, (loader, true) ∈ requests.loaders.marks →
    ¬ Recent loader.admission requests.ledger

theorem matched_new : Pipeline.new.Matched where
  fair := Trace.always_nil _
  old := by
    intro mark hmem
    cases hmem
  single := List.Pairwise.nil
  live := by
    intro loader hmem
    cases hmem
  stale := by
    intro loader hmem
    cases hmem

variable {first last : Pipeline}

/-- A recent request was admitted. -/
theorem Lawful.le_admissions (h : first.Lawful) {admission : ℕ}
    (hrecent : Recent admission first.ledger) : admission ≤ first.admissions := by
  have hmem : admission ∈ first.ledger.filterMap Milestone.admission? :=
    List.mem_filterMap.mpr ⟨_, hrecent.mem, rfl⟩
  rw [h.admitted, List.mem_range'_1] at hmem
  omega

/-- Loaders stay as they are, and what is noted down is neutral. -/
theorem Matched.extend (h : first.Matched) (more : List Milestone)
    (loaders : last.loaders.marks = first.loaders.marks) (loading : last.loading = first.loading)
    (admissions : first.admissions ≤ last.admissions) (ledger : last.ledger = first.ledger ++ more)
    (neutral : ∀ milestone ∈ more, milestone.Neutral)
    (later : ∀ admission, .admitted admission ∈ more → first.admissions < admission) :
    last.Matched where
  fair := ledger ▸ h.fair.append neutral
  old := by
    rw [loaders]
    intro mark hmem
    exact (h.old mark hmem).trans admissions
  single := loaders ▸ h.single
  live := by
    rw [loaders, loading]
    exact h.live
  stale := by
    rw [loaders, ledger]
    intro loader hmem hrecent
    have hold := h.old _ hmem
    apply h.stale loader hmem
    refine (hrecent.of_append ?_).1
    intro hadmitted
    exact absurd (later _ hadmitted) (Nat.not_lt_of_le hold)

theorem Matched.keep (h : first.Matched) (loaders : last.loaders.marks = first.loaders.marks)
    (loading : last.loading = first.loading) (admissions : last.admissions = first.admissions)
    (ledger : last.ledger = first.ledger) : last.Matched := by
  apply h.extend [] loaders loading (Nat.le_of_eq admissions.symm)
  · rw [ledger, List.append_nil]
  · intro milestone hmem
    cases hmem
  · intro admission hmem
    cases hmem

theorem Matched.mark (h : first.Matched) (milestone : Milestone) (neutral : milestone.Neutral)
    (admitted : milestone.admission? = none) : (first.mark milestone).Matched := by
  refine h.extend [milestone] rfl rfl (Nat.le_refl _) rfl ?_ ?_
  · intro other hmem
    rw [List.mem_singleton.mp hmem]
    exact neutral
  · intro admission hmem
    rw [← List.mem_singleton.mp hmem] at admitted
    cases admitted

/-! ## Steps -/

/-- A loader is spawned for the first waiting request. -/
theorem Matched.startLoad (h : first.Matched) (hlawful : first.Lawful) (capacity : ℕ) :
    (first.startLoad capacity).Matched := by
  rw [Pipeline.startLoad]
  split
  · rename_i pending rest hloading hpending
    have hrecent : Recent pending.admission first.ledger :=
      (hlawful.recent pending (by simp [underWay, waiting, hpending])).2
    constructor
    · exact h.fair
    · intro mark hmem
      rw [JoinSet.marks_spawn] at hmem
      rcases List.mem_append.mp hmem with hold | hnew
      · exact h.old mark hold
      · rw [List.mem_singleton.mp hnew]
        exact hlawful.le_admissions hrecent
    · rw [JoinSet.marks_spawn, List.pairwise_append]
      refine ⟨h.single, List.pairwise_singleton _ _, ?_⟩
      intro mark hmem other _
      by_contra hnot
      rw [not_or, Bool.not_eq_true] at hnot
      obtain ⟨_, hsome, -⟩ := h.live mark.1 (hnot.1 ▸ hmem)
      rw [hloading] at hsome
      cases hsome
    · intro loader hmem
      rw [JoinSet.marks_spawn] at hmem
      rcases List.mem_append.mp hmem with hold | hnew
      · obtain ⟨_, hsome, -⟩ := h.live loader hold
        rw [hloading] at hsome
        cases hsome
      · cases List.mem_singleton.mp hnew
        exact ⟨pending, rfl, rfl, rfl⟩
    · intro loader hmem
      rw [JoinSet.marks_spawn] at hmem
      rcases List.mem_append.mp hmem with hold | hnew
      · exact h.stale loader hold
      · cases List.mem_singleton.mp hnew
  · exact h

/-- An invalidation aborts every loader, and nothing stays recent. -/
theorem Matched.invalidate (h : first.Matched) : first.invalidate.Matched := by
  obtain ⟨drained, hledger, hdrained⟩ := first.invalidate_ledger
  have hcancelled := cancelled_of_drained hdrained
  constructor
  · rw [hledger]
    apply h.fair.append
    intro milestone hmem
    rcases List.mem_cons.mp hmem with rfl | hmem
    · trivial
    · obtain ⟨_, _, rfl⟩ := hcancelled milestone hmem
      trivial
  · intro mark hmem
    obtain ⟨-, asked, hold⟩ := JoinSet.mem_marks_abortAll hmem
    exact h.old (mark.1, asked) hold
  · apply List.pairwise_of_forall_mem_list
    intro mark hmem _ _
    exact Or.inl (JoinSet.mem_marks_abortAll hmem).1
  · intro loader hmem
    cases (JoinSet.mem_marks_abortAll hmem).1
  · intro loader _ hrecent
    rw [hledger] at hrecent
    rcases List.mem_cons.mp (hrecent.mem_of_barrier rfl) with heq | hmem
    · cases heq
    · obtain ⟨_, _, heq⟩ := hcancelled _ hmem
      cases heq

theorem Matched.step {limit : ℕ} (h : first.Matched) (hlawful : first.Lawful)
    (hstep : Step limit first last) : last.Matched := by
  cases hstep with
  | enter request channel room =>
      refine h.extend [.admitted (first.admissions + 1)] rfl rfl (Nat.le_succ _) rfl ?_ ?_
      · intro milestone hmem
        rw [List.mem_singleton.mp hmem]
        trivial
      · intro admission hmem
        cases List.mem_singleton.mp hmem
        exact Nat.lt_succ_self _
  | startLoad capacity => exact h.startLoad hlawful capacity
  | endLoader index how => exact h.keep (JoinSet.marks_finish _ _ _) rfl rfl rfl
  | respond responses => exact h.keep rfl rfl rfl rfl
  | invalidate => exact h.invalidate
  | stale pending _ _ => exact h.mark _ trivial rfl
  | join pending _ => exact h.mark _ trivial rfl
  | enqueue pending _ => exact h.mark _ trivial rfl
  | settle => exact h.keep rfl rfl rfl rfl

/-- The steps alone keep a ledger fair. -/
theorem fair_step {limit : ℕ} (h : Fair first.ledger) (hstep : Step limit first last) :
    Fair last.ledger := by
  cases hstep with
  | startLoad capacity =>
      rw [Pipeline.startLoad]
      split <;> exact h
  | endLoader _ _ => exact h
  | respond _ => exact h
  | settle => exact h
  | invalidate =>
      obtain ⟨drained, hledger, hdrained⟩ := first.invalidate_ledger
      rw [hledger]
      apply h.append
      intro milestone hmem
      rcases List.mem_cons.mp hmem with rfl | hmem
      · trivial
      · obtain ⟨_, -, _, rfl⟩ := hdrained milestone hmem
        trivial
  | _ =>
      apply h.append
      intro milestone hmem
      rw [List.mem_singleton.mp hmem]
      trivial

/-! ## Joining a loader -/

/-- The loaders that are left when one was joined, and the ledger grew. -/
theorem Matched.leave (h : first.Matched) {index : ℕ}
    {task : Task Loader (Except Failure Resolution)} {how : Joined (Except Failure Resolution)}
    {loaders : JoinSet Loader (Except Failure Resolution)}
    (hjoin : first.loaders.joinNext index = some (task, how, loaders))
    (hloaders : last.loaders = loaders) (admissions : last.admissions = first.admissions)
    (more : List Milestone) (ledger : last.ledger = first.ledger ++ more)
    (fair : Fair (first.ledger ++ more)) (plain : ∀ milestone ∈ more, milestone.admission? = none)
    (loading : last.loading = first.loading ∨ task.aborted = false) : last.Matched := by
  have hperm := JoinSet.marks_joinNext hjoin
  have hmem : ∀ mark ∈ loaders.marks, mark ∈ first.loaders.marks := by
    intro mark hmark
    exact hperm.subset (List.mem_cons_of_mem _ hmark)
  have hsingle := (hperm.pairwise_iff (fun hor => hor.symm)).mpr h.single
  rw [List.pairwise_cons] at hsingle
  constructor
  · exact ledger ▸ fair
  · rw [hloaders, admissions]
    intro mark hmark
    exact h.old mark (hmem mark hmark)
  · rw [hloaders]
    exact hsingle.2
  · rw [hloaders]
    intro loader hlive
    rcases loading with hsame | hjoined
    · rw [hsame]
      exact h.live loader (hmem _ hlive)
    · rcases hsingle.1 _ hlive with habsurd | habsurd
      · rw [hjoined] at habsurd
        cases habsurd
      · cases habsurd
  · rw [hloaders, ledger]
    intro loader hstale hrecent
    apply h.stale loader (hmem _ hstale)
    refine (hrecent.of_append ?_).1
    intro hadmitted
    cases plain _ hadmitted

/-- A loader that was not aborted was spawned for the loading request. -/
theorem Matched.loading (h : first.Matched) {index : ℕ}
    {task : Task Loader (Except Failure Resolution)} {how : Joined (Except Failure Resolution)}
    {loaders : JoinSet Loader (Except Failure Resolution)}
    (hjoin : first.loaders.joinNext index = some (task, how, loaders))
    (hlive : task.aborted = false) : ∃ pending, first.loading = some pending ∧
      pending.admission = task.tag.admission ∧ pending.sequence = task.tag.sequence := by
  have hmem := (JoinSet.marks_joinNext hjoin).subset List.mem_cons_self
  rw [hlive] at hmem
  exact h.live _ hmem

/-- A completion that takes the loading request takes the one of its own loader. -/
theorem Matched.take (h : first.Matched) {index : ℕ}
    {task : Task Loader (Except Failure Resolution)} {how : Joined (Except Failure Resolution)}
    {loaders : JoinSet Loader (Except Failure Resolution)} {pending : Pending}
    (hjoin : first.loaders.joinNext index = some (task, how, loaders))
    (hloading : first.loading = some pending) (hlive : task.aborted = false) :
    Fair (first.ledger ++ [.taken pending.admission task.tag.admission]) := by
  obtain ⟨other, hother, hadmission, -⟩ := h.loading hjoin hlive
  cases hloading.symm.trans hother
  exact Trace.Always.concat h.fair hadmission

theorem Matched.joinLoader (h : first.Matched) (index : ℕ)
    (hnot : first.superseded index = false) : (first.joinLoader index).2.Matched := by
  have hjoins := first.joinLoader_joins index
  generalize first.joinLoader index = joined at hjoins
  cases hjoins with
  | nothing _ => exact h
  | aside task how loaders hjoin _ =>
      refine h.leave hjoin rfl rfl [] (List.append_nil _).symm ?_ ?_ (Or.inl rfl)
      · rw [List.append_nil]
        exact h.fair
      · intro milestone hmem
        cases hmem
  | discarded task resolution loaders hjoin other =>
      have hstale : ¬ Recent task.tag.admission first.ledger := by
        have hmem := (JoinSet.marks_joinNext hjoin).subset List.mem_cons_self
        cases hasked : task.aborted with
        | false =>
            obtain ⟨pending, hloading, -, hsame⟩ := h.loading hjoin hasked
            exact absurd hsame (other pending hloading)
        | true =>
            rw [hasked] at hmem
            exact h.stale _ hmem
      refine h.leave hjoin rfl rfl [.discarded task.tag.admission] rfl
        (Trace.Always.concat h.fair hstale) ?_ (Or.inl rfl)
      simp [Milestone.admission?]
  | resolved task resolution loaders pending hjoin loading same =>
      have hlive : task.aborted = false := by
        simpa [superseded, hjoin, loading, same] using hnot
      have hfree : (Milestone.committed pending.admission).Fair
          (first.ledger ++ [.taken pending.admission task.tag.admission]) := trivial
      have hfair := Trace.Always.concat (h.take hjoin loading hlive) hfree
      rw [List.append_assoc] at hfair
      refine h.leave hjoin rfl rfl _ rfl hfair ?_ (Or.inr hlive)
      simp [Milestone.admission?]
  | panicked task loaders pending hjoin loading =>
      have hlive : task.aborted = false := by
        simpa [superseded, hjoin, loading] using hnot
      refine h.leave hjoin rfl rfl _ rfl (h.take hjoin loading hlive) ?_ (Or.inr hlive)
      simp [Milestone.admission?]

/-- A superseded loader that is joined takes a request that is not its own. -/
theorem Matched.unfair (h : first.Matched) (hlawful : first.Lawful) (index : ℕ)
    (hsuperseded : first.superseded index = true) :
    ¬ Fair (first.joinLoader index).2.ledger := by
  have hjoins := first.joinLoader_joins index
  have htaken : ∀ (task : Task Loader (Except Failure Resolution)) how loaders pending after,
      first.loaders.joinNext index = some (task, how, loaders) →
      first.loading = some pending → task.aborted = true →
      ¬ Fair (first.ledger ++ .taken pending.admission task.tag.admission :: after) := by
    intro task how loaders pending after hjoin hloading hasked hfair
    have hmem := (JoinSet.marks_joinNext hjoin).subset List.mem_cons_self
    rw [hasked] at hmem
    have heq : pending.admission = task.tag.admission := hfair _ _ _ rfl
    exact h.stale _ hmem (heq ▸ hlawful.loading hloading)
  generalize first.joinLoader index = joined at hjoins
  cases hjoins with
  | nothing hjoin => simp [superseded, hjoin] at hsuperseded
  | aside task how loaders hjoin idle =>
      rcases idle with rfl | hidle
      · simp [superseded, hjoin] at hsuperseded
      · simp [superseded, hidle] at hsuperseded
  | discarded task resolution loaders hjoin other =>
      cases hloading : first.loading with
      | none => simp [superseded, hloading] at hsuperseded
      | some pending => simp [superseded, hjoin, hloading, other pending hloading] at hsuperseded
  | resolved task resolution loaders pending hjoin loading same =>
      have hasked : task.aborted = true := by
        simpa [superseded, hjoin, loading, same] using hsuperseded
      exact htaken _ _ _ _ _ hjoin loading hasked
  | panicked task loaders pending hjoin loading =>
      have hasked : task.aborted = true := by
        simpa [superseded, hjoin, loading] using hsuperseded
      exact htaken _ _ _ _ _ hjoin loading hasked

end Pipeline

/-! ## Runs -/

namespace Worker

/-- In a run in which no superseded loader is joined while a request is loading, every
completion takes the request that its loader was spawned for, and a resolution is
thrown away only if its request was invalidated. -/
theorem run_fair (id : ℕ) (shared : Shared) (inputs : List Input)
    (h : (start id shared).Along
      (Input.Joining fun requests index => requests.superseded index = false) inputs) :
    Fair ((start id shared).run inputs).session.ledger := by
  have hholds := requests_rule (fun requests => requests.Lawful ∧ requests.Matched)
    (fun requests => Fair requests.ledger)
    (fun _ _ hstep hbefore => ⟨hbefore.1.step hstep, hbefore.2.step hbefore.1 hstep⟩)
    (fun _ index hnot hbefore => ⟨hbefore.1.joinLoader index, hbefore.2.joinLoader index hnot⟩)
    (fun _ hbefore => hbefore.2.fair) (fun _ _ hstep hfair => Pipeline.fair_step hfair hstep)
    h rfl ⟨Pipeline.lawful_new, Pipeline.matched_new⟩
  cases hrun : (start id shared).run inputs with
  | running session =>
      rw [hrun] at hholds
      exact hholds.2.fair
  | ended session =>
      rw [hrun] at hholds
      exact hholds

/-- A request whose resolution fails is an ordinary end. -/
theorem run_fair_failed :
    Fair ((start 1 Sample.shared).run [Sample.play,
      .outside (.endLoader 0 (.finished (.error .noMatch))),
      .turn (.joinLoader 0) [] [] 4]).session.ledger :=
  run_fair 1 Sample.shared _ (by decide +kernel)

/-- The first loader panics and is aborted by a stop before it is joined; the second
request is then loading. -/
def superseding : List Input :=
  [Sample.play, .outside (.endLoader 0 .panicked), Sample.turn (Sample.command "stop" []),
    Sample.play, .turn (.joinLoader 0) [] [] 4,
    .outside (.endLoader 0 (.finished (.error .noMatch))), .turn (.joinLoader 0) [] [] 4]

/-- The panic of the first request's loader takes the second request. -/
theorem superseding_unfair :
    ¬ Fair ((start 1 Sample.shared).run superseding).session.ledger := by
  have hledger : ((start 1 Sample.shared).run superseding).session.ledger =
      [.admitted 1, .invalidated, .cancelled 1 true, .admitted 2] ++
        .taken 2 1 :: [.discarded 2] := by decide +kernel
  intro hfair
  have htaken : (2 : ℕ) = 1 := hfair _ _ _ hledger
  cases htaken

end Worker

end Raydio.Session
