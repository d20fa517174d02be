/-
# Play requests are committed in order

A request is admitted at the end of a line, and the line only loses requests: to a
commit, which takes the first one, or to an invalidation, which takes all. What was
committed and what still waits is therefore one increasing list of admissions.
-/

import Raydio.Session.Requests

namespace Raydio.Session

open Raydio.Foundation GuildSession

/-- The request that a milestone commits. -/
def Milestone.commit? : Milestone → Option ℕ
  | .committed admission => some admission
  | _ => none

/-- The request whose tracks a milestone adds to the queue. -/
def Milestone.enqueue? : Milestone → Option ℕ
  | .enqueued admission => some admission
  | _ => none

namespace Pipeline

/-- The requests that were committed, oldest commit first. -/
def commits (self : Pipeline) : List ℕ := self.ledger.filterMap Milestone.commit?

/-- The requests whose tracks entered the queue, in the order in which they did. -/
def enqueues (self : Pipeline) : List ℕ := self.ledger.filterMap Milestone.enqueue?

/-- What was committed, followed by what waits. -/
def line (self : Pipeline) : List ℕ := self.commits ++ self.waiting.map Pending.admission

/-- The line is in the order of admission, and as long as the limit allows. -/
structure Ordered (limit : ℕ) (requests : Pipeline) : Prop where
  bounded : requests.waiting.length ≤ limit
  sequence : requests.sequence = requests.admissions % 2 ^ 64
  numbered : ∀ pending ∈ requests.underWay, pending.sequence = pending.admission % 2 ^ 64
  increasing : requests.line.Pairwise (· < ·)
  admitted : ∀ admission ∈ requests.line, admission ≤ requests.admissions
  committing : ∀ pending, requests.committing = some pending →
    ∃ earlier, requests.commits = earlier ++ [pending.admission]
  enqueued : requests.enqueues.Pairwise (· ≤ ·)
  committed : ∀ admission ∈ requests.enqueues, admission ∈ requests.commits

/-- The requests in flight are those that wait. -/
theorem inFlight_eq (self : Pipeline) : self.inFlight = self.waiting.length := by
  cases h : self.loading <;> simp [inFlight, waiting, h]

theorem ordered_new (limit : ℕ) : Pipeline.new.Ordered limit where
  bounded := Nat.zero_le _
  sequence := rfl
  numbered := by
    intro pending hmem
    cases hmem
  increasing := List.Pairwise.nil
  admitted := by
    intro admission hmem
    cases hmem
  committing := by
    intro pending h
    cases h
  enqueued := List.Pairwise.nil
  committed := by
    intro admission hmem
    cases hmem

variable {limit : ℕ} {first last : Pipeline}

theorem mark_ledger (self : Pipeline) (milestone : Milestone) :
    (self.mark milestone).ledger = self.ledger ++ [milestone] := rfl

/-- A milestone that neither commits nor enqueues. -/
def Plain (milestone : Milestone) : Prop := milestone.commit? = none ∧ milestone.enqueue? = none

theorem commits_append {more : List Milestone} (ledger : last.ledger = first.ledger ++ more) :
    last.commits = first.commits ++ more.filterMap Milestone.commit? := by
  rw [commits, ledger, List.filterMap_append]
  rfl

theorem enqueues_append {more : List Milestone} (ledger : last.ledger = first.ledger ++ more) :
    last.enqueues = first.enqueues ++ more.filterMap Milestone.enqueue? := by
  rw [enqueues, ledger, List.filterMap_append]
  rfl

theorem commits_plain {more : List Milestone} (ledger : last.ledger = first.ledger ++ more)
    (plain : ∀ milestone ∈ more, Plain milestone) : last.commits = first.commits := by
  rw [commits_append ledger, List.filterMap_eq_nil_iff.mpr fun m hmem => (plain m hmem).1,
    List.append_nil]

theorem enqueues_plain {more : List Milestone} (ledger : last.ledger = first.ledger ++ more)
    (plain : ∀ milestone ∈ more, Plain milestone) : last.enqueues = first.enqueues := by
  rw [enqueues_append ledger, List.filterMap_eq_nil_iff.mpr fun m hmem => (plain m hmem).2,
    List.append_nil]

/-- The line may lose requests. -/
theorem Ordered.lose (h : first.Ordered limit) (more : List Milestone)
    (sequence : last.sequence = first.sequence)
    (admissions : last.admissions = first.admissions)
    (waiting : last.waiting.Sublist first.waiting)
    (committing : ∀ pending, last.committing = some pending → first.committing = some pending)
    (ledger : last.ledger = first.ledger ++ more)
    (plain : ∀ milestone ∈ more, Plain milestone) : last.Ordered limit where
  bounded := waiting.length_le.trans h.bounded
  sequence := by rw [sequence, admissions, h.sequence]
  numbered := by
    intro pending hmem
    apply h.numbered
    rcases List.mem_append.mp hmem with hcommitting | hwaiting
    · have hsome := committing pending (Option.mem_toList.mp hcommitting)
      exact List.mem_append_left _ (Option.mem_toList.mpr hsome)
    · exact List.mem_append_right _ (waiting.subset hwaiting)
  increasing := by
    rw [line, commits_plain ledger plain]
    exact h.increasing.sublist ((waiting.map _).append_left _)
  admitted := by
    intro admission hmem
    rw [line, commits_plain ledger plain] at hmem
    rw [admissions]
    exact h.admitted admission (((waiting.map _).append_left _).subset hmem)
  committing := by
    intro pending hcommitting
    rw [commits_plain ledger plain]
    exact h.committing pending (committing pending hcommitting)
  enqueued := by
    rw [enqueues_plain ledger plain]
    exact h.enqueued
  committed := by
    rw [enqueues_plain ledger plain, commits_plain ledger plain]
    exact h.committed

/-- The requests that wait stay, and nothing is noted down. -/
theorem Ordered.keep (h : first.Ordered limit) (sequence : last.sequence = first.sequence)
    (admissions : last.admissions = first.admissions) (waiting : last.waiting = first.waiting)
    (committing : ∀ pending, last.committing = some pending → first.committing = some pending)
    (ledger : last.ledger = first.ledger) : last.Ordered limit := by
  apply h.lose [] sequence admissions (waiting ▸ List.Sublist.refl _) committing
  · rw [ledger, List.append_nil]
  · intro milestone hmem
    cases hmem

theorem Ordered.mark (h : first.Ordered limit) {milestone : Milestone} (plain : Plain milestone) :
    (first.mark milestone).Ordered limit := by
  have hplain : ∀ other ∈ [milestone], Plain other := by
    intro other hmem
    rw [List.mem_singleton.mp hmem]
    exact plain
  exact h.lose [milestone] rfl rfl (List.Sublist.refl _) (fun _ hsome => hsome) rfl hplain

/-! ## Steps that the order is about -/

/-- A request joins the end of the line. -/
theorem Ordered.enter (h : first.Ordered limit) (request : Discord.Request) (channel : ℕ)
    (room : first.inFlight < limit) : (first.enter request channel).Ordered limit := by
  generalize hlast : first.enter request channel = last
  have hledger : last.ledger = first.ledger ++ [.admitted (first.admissions + 1)] := hlast ▸ rfl
  have hplain : ∀ milestone ∈ [Milestone.admitted (first.admissions + 1)], Plain milestone := by
    intro milestone hmem
    rw [List.mem_singleton.mp hmem]
    exact ⟨rfl, rfl⟩
  have hcommits := commits_plain hledger hplain
  have henqueues := enqueues_plain hledger hplain
  have hsequence : wrappingSucc first.sequence = (first.admissions + 1) % 2 ^ 64 := by
    rw [wrappingSucc, h.sequence, Nat.mod_add_mod]
  have hwaiting : last.waiting = first.waiting ++
      [⟨request, channel, first.epoch, wrappingSucc first.sequence, first.admissions + 1⟩] := by
    rw [← hlast]
    exact (List.append_assoc _ _ _).symm
  have hline : last.line = first.line ++ [first.admissions + 1] := by
    rw [line, hwaiting, hcommits, List.map_append, ← List.append_assoc]
    rfl
  constructor
  · rw [hwaiting, List.length_append, ← inFlight_eq]
    exact room
  · rw [← hlast]
    exact hsequence
  · intro pending hmem
    rw [underWay, hwaiting, ← List.append_assoc] at hmem
    rcases List.mem_append.mp hmem with hold | hnew
    · exact h.numbered pending (by rwa [← hlast] at hold)
    · rw [List.mem_singleton.mp hnew]
      exact hsequence
  · rw [hline, List.pairwise_append]
    refine ⟨h.increasing, List.pairwise_singleton _ _, ?_⟩
    intro admission hmem other hother
    rw [List.mem_singleton.mp hother]
    exact Nat.lt_succ_of_le (h.admitted admission hmem)
  · intro admission hmem
    rw [← hlast]
    rw [hline] at hmem
    rcases List.mem_append.mp hmem with hold | hnew
    · exact Nat.le_succ_of_le (h.admitted admission hold)
    · exact Nat.le_of_eq (List.mem_singleton.mp hnew)
  · intro pending hcommitting
    rw [hcommits]
    exact h.committing pending (by rwa [← hlast] at hcommitting)
  · rw [henqueues]
    exact h.enqueued
  · rw [henqueues, hcommits]
    exact h.committed

/-- The tracks of the request that was committed last enter the queue. -/
theorem Ordered.enqueue (h : first.Ordered limit) {pending : Pending}
    (hcommitting : first.committing = some pending) :
    (first.mark (.enqueued pending.admission)).Ordered limit := by
  obtain ⟨earlier, hearlier⟩ := h.committing pending hcommitting
  have hcommits : (first.mark (.enqueued pending.admission)).commits = first.commits := by
    have hledger := commits_append (first.mark_ledger (.enqueued pending.admission))
    exact hledger.trans (List.append_nil _)
  have henqueues : (first.mark (.enqueued pending.admission)).enqueues =
      first.enqueues ++ [pending.admission] := by
    exact enqueues_append (first.mark_ledger (.enqueued pending.admission))
  have hline : (first.mark (.enqueued pending.admission)).line = first.line := by
    rw [line, hcommits]
    rfl
  constructor
  · exact h.bounded
  · exact h.sequence
  · exact h.numbered
  · rw [hline]
    exact h.increasing
  · rw [hline]
    exact h.admitted
  · rw [hcommits]
    exact h.committing
  · rw [henqueues, List.pairwise_append]
    refine ⟨h.enqueued, List.pairwise_singleton _ _, ?_⟩
    intro admission hmem other hother
    rw [List.mem_singleton.mp hother]
    have hcommitted := h.committed admission hmem
    have hsorted := (List.pairwise_append.mp h.increasing).1
    rw [hearlier] at hcommitted hsorted
    rcases List.mem_append.mp hcommitted with hold | hlast
    · exact Nat.le_of_lt ((List.pairwise_append.mp hsorted).2.2 _ hold _ (by simp))
    · exact Nat.le_of_eq (List.mem_singleton.mp hlast)
  · intro admission hmem
    rw [henqueues] at hmem
    rw [hcommits]
    rcases List.mem_append.mp hmem with hold | hnew
    · exact h.committed admission hold
    · rw [List.mem_singleton.mp hnew, hearlier]
      simp

/-- The first of the line is committed. -/
theorem Ordered.commit (h : first.Ordered limit) {pending : Pending} {loader : ℕ}
    (hloading : first.loading = some pending) (loading : last.loading = none)
    (pendings : last.pending = first.pending) (sequence : last.sequence = first.sequence)
    (admissions : last.admissions = first.admissions)
    (committing : last.committing = some pending)
    (ledger : last.ledger =
      first.ledger ++ [.taken pending.admission loader, .committed pending.admission]) :
    last.Ordered limit := by
  have hcommits : last.commits = first.commits ++ [pending.admission] := commits_append ledger
  have henqueues : last.enqueues = first.enqueues :=
    (enqueues_append ledger).trans (List.append_nil _)
  have hbefore : first.waiting = pending :: first.pending := by simp [waiting, hloading]
  have hafter : last.waiting = first.pending := by simp [waiting, loading, pendings]
  have hline : last.line = first.line := by
    rw [line, line, hcommits, hbefore, hafter]
    simp
  constructor
  · have hbounded := h.bounded
    rw [hbefore] at hbounded
    rw [hafter]
    exact Nat.le_of_succ_le hbounded
  · rw [sequence, admissions, h.sequence]
  · intro other hmem
    apply h.numbered
    rw [underWay, hbefore]
    apply List.mem_append_right
    rw [underWay, committing, hafter] at hmem
    exact hmem
  · rw [hline]
    exact h.increasing
  · rw [hline, admissions]
    exact h.admitted
  · intro other hother
    cases committing.symm.trans hother
    exact ⟨first.commits, hcommits⟩
  · rw [henqueues]
    exact h.enqueued
  · intro admission hmem
    rw [henqueues] at hmem
    rw [hcommits]
    exact List.mem_append_left _ (h.committed admission hmem)

/-! ## All steps -/

theorem Ordered.step (h : first.Ordered limit) (hstep : Step limit first last) :
    last.Ordered limit := by
  cases hstep with
  | enter request channel room => exact h.enter request channel room
  | startLoad capacity =>
      rw [Pipeline.startLoad]
      split
      · rename_i pending rest hloading hpending
        refine h.keep rfl rfl ?_ (fun _ hsome => hsome) rfl
        simp [waiting, hloading, hpending]
      · exact h
  | endLoader index how => exact h.keep rfl rfl rfl (fun _ hsome => hsome) rfl
  | respond responses => exact h.keep rfl rfl rfl (fun _ hsome => hsome) rfl
  | invalidate =>
      obtain ⟨drained, hledger, hdrained⟩ := first.invalidate_ledger
      refine h.lose _ rfl rfl (List.nil_sublist _) ?_ hledger ?_
      · intro pending hsome
        cases hsome
      · intro milestone hmem
        rcases List.mem_cons.mp hmem with rfl | hmem
        · exact ⟨rfl, rfl⟩
        · obtain ⟨pending, -, answered, rfl⟩ := hdrained milestone hmem
          exact ⟨rfl, rfl⟩
  | stale pending _ _ => exact h.mark ⟨rfl, rfl⟩
  | join pending _ => exact h.mark ⟨rfl, rfl⟩
  | enqueue pending committing => exact h.enqueue committing
  | settle =>
      refine h.keep rfl rfl rfl ?_ rfl
      intro pending hsome
      cases hsome

theorem Ordered.abort (h : first.Ordered limit) : first.abort.Ordered limit :=
  h.keep rfl rfl rfl (fun _ hsome => hsome) rfl

theorem Ordered.joinLoader (h : first.Ordered limit) (index : ℕ) :
    (first.joinLoader index).2.Ordered limit := by
  have hjoins := first.joinLoader_joins index
  generalize first.joinLoader index = joined at hjoins
  cases hjoins with
  | nothing _ => exact h
  | aside task how loaders _ _ => exact h.keep rfl rfl rfl (fun _ hsome => hsome) rfl
  | discarded task resolution loaders _ _ =>
      have hkept : ({ first with loaders := loaders } : Pipeline).Ordered limit :=
        h.keep rfl rfl rfl (fun _ hsome => hsome) rfl
      exact hkept.mark ⟨rfl, rfl⟩
  | resolved task resolution loaders pending _ loading _ =>
      exact h.commit loading rfl rfl rfl rfl rfl rfl
  | panicked task loaders pending _ loading =>
      refine h.lose [.taken pending.admission task.tag.admission] rfl rfl ?_
        (fun _ hsome => hsome) rfl ?_
      · show first.pending.Sublist (first.loading.toList ++ first.pending)
        exact List.sublist_append_right _ _
      · intro milestone hmem
        rw [List.mem_singleton.mp hmem]
        exact ⟨rfl, rfl⟩

end Pipeline

/-! ## Runs -/

/-- In every run the requests are committed in the order of their admission, each at
most once, and their tracks enter the queue in that order. The sequence numbers are
the admissions, as unsigned 64-bit integers, and what waits stays within the limit. -/
theorem Worker.run_ordered (id : ℕ) (shared : Shared) (inputs : List Input) :
    ∃ requests, ((start id shared).run inputs).session.toPipeline = requests ∧
      requests.commits.Pairwise (· < ·) ∧
      requests.enqueues.Pairwise (· ≤ ·) ∧
      (∀ admission ∈ requests.enqueues, admission ∈ requests.commits) ∧
      (∀ pending ∈ requests.underWay, pending.sequence = pending.admission % 2 ^ 64) ∧
      (∀ earlier ∈ requests.commits, ∀ pending ∈ requests.waiting, earlier < pending.admission) ∧
      requests.inFlight ≤ shared.config.pending := by
  have hordered : ((start id shared).run inputs).session.toPipeline.Ordered
      shared.config.pending :=
    (start id shared).requests_invariant (Pipeline.Ordered shared.config.pending)
      (fun _ _ hstep h => h.step hstep) (fun _ index h => h.joinLoader index)
      (fun _ h => h.abort) rfl (Pipeline.ordered_new _) inputs
  have hline := List.pairwise_append.mp hordered.increasing
  refine ⟨_, rfl, hline.1, hordered.enqueued, hordered.committed, hordered.numbered, ?_, ?_⟩
  · intro earlier hearlier pending hpending
    exact hline.2.2 earlier hearlier _ (List.mem_map_of_mem hpending)
  · rw [Pipeline.inFlight_eq]
    exact hordered.bounded

end Raydio.Session
