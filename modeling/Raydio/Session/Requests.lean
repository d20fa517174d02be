/-
# The play requests in a run

What joining a loader does to the play requests, case by case, and the rule for
invariants that speak of nothing but the requests: what the steps of the requests
preserve holds in every run.
-/

import Raydio.Session.Refinement

namespace Raydio.Session

open Raydio.Foundation Raydio.Resolver

/-! ## Joining a loader -/

namespace Pipeline

/-- What joining the loader at an index does to the requests. -/
inductive Joins (self : Pipeline) (index : ℕ) : Option Delivery × Pipeline → Prop
  | nothing (h : self.loaders.joinNext index = none) : Joins self index (none, self)
  | aside (task : Task Loader (Except Failure Resolution))
      (how : Joined (Except Failure Resolution))
      (loaders : JoinSet Loader (Except Failure Resolution))
      (h : self.loaders.joinNext index = some (task, how, loaders))
      (idle : how = .cancelled ∨ self.loading = none) :
      Joins self index (none, { self with loaders := loaders })
  | discarded (task : Task Loader (Except Failure Resolution))
      (resolution : Except Failure Resolution)
      (loaders : JoinSet Loader (Except Failure Resolution))
      (h : self.loaders.joinNext index = some (task, .finished resolution, loaders))
      (other : ∀ pending, self.loading = some pending → pending.sequence ≠ task.tag.sequence) :
      Joins self index
        (none, ({ self with loaders := loaders } : Pipeline).mark (.discarded task.tag.admission))
  | resolved (task : Task Loader (Except Failure Resolution))
      (resolution : Except Failure Resolution)
      (loaders : JoinSet Loader (Except Failure Resolution)) (pending : Pending)
      (h : self.loaders.joinNext index = some (task, .finished resolution, loaders))
      (loading : self.loading = some pending) (same : pending.sequence = task.tag.sequence) :
      Joins self index (some (.resolved pending resolution), { self with
        loaders := loaders
        loading := none
        committing := some pending
        ledger := self.ledger ++
          [.taken pending.admission task.tag.admission, .committed pending.admission] })
  | panicked (task : Task Loader (Except Failure Resolution))
      (loaders : JoinSet Loader (Except Failure Resolution)) (pending : Pending)
      (h : self.loaders.joinNext index = some (task, .panicked, loaders))
      (loading : self.loading = some pending) :
      Joins self index (some (.panicked pending), { self with
        loaders := loaders
        loading := none
        ledger := self.ledger ++ [.taken pending.admission task.tag.admission] })

theorem joinLoader_joins (self : Pipeline) (index : ℕ) :
    self.Joins index (self.joinLoader index) := by
  rw [joinLoader]
  split
  · rename_i hjoin
    exact .nothing hjoin
  · rename_i task how loaders hjoin
    dsimp only
    split
    · rename_i resolution pending hloading
      split
      · rename_i hsame
        exact .resolved task resolution loaders pending hjoin hloading hsame
      · rename_i hother
        refine .discarded task resolution loaders hjoin ?_
        intro other hother'
        cases hloading.symm.trans hother'
        exact hother
    · rename_i resolution hloading
      refine .discarded task resolution loaders hjoin ?_
      intro other hother
      cases hloading.symm.trans hother
    · rename_i pending hloading
      exact .panicked task loaders pending hjoin hloading
    · rename_i hloading
      exact .aside task .panicked loaders hjoin (Or.inr hloading)
    · exact .aside task .cancelled loaders hjoin (Or.inl rfl)

/-- The requests that wait for a commit, in the order in which they get one. -/
def waiting (self : Pipeline) : List Pending := self.loading.toList ++ self.pending

/-- The requests that may still have an effect. -/
def underWay (self : Pipeline) : List Pending := self.committing.toList ++ self.waiting

/-- What is drained was waiting. -/
theorem mem_drain {responses : JoinSet Pending Unit} {waiting : List Pending}
    {milestone : Milestone}
    (hmem : milestone ∈ (drain responses waiting).2) :
    ∃ pending ∈ waiting, ∃ answered, milestone = .cancelled pending.admission answered := by
  induction waiting generalizing responses with
  | nil => cases hmem
  | cons pending rest ih =>
      rcases List.mem_cons.mp hmem with rfl | hrest
      · exact ⟨pending, List.mem_cons_self, _, rfl⟩
      · obtain ⟨other, hother, answered, rfl⟩ := ih hrest
        exact ⟨other, List.mem_cons_of_mem _ hother, answered, rfl⟩

/-- An invalidation is noted down, and then only what it cancels. -/
theorem invalidate_ledger (self : Pipeline) :
    ∃ drained, self.invalidate.ledger = self.ledger ++ .invalidated :: drained ∧
      ∀ milestone ∈ drained, ∃ pending ∈ self.waiting, ∃ answered,
        milestone = .cancelled pending.admission answered := by
  refine ⟨_, rfl, ?_⟩
  intro milestone hmem
  obtain ⟨pending, hpending, hcancelled⟩ := mem_drain hmem
  refine ⟨pending, ?_, hcancelled⟩
  cases hloading : self.loading with
  | none =>
      simp only [hloading] at hpending
      simp [waiting, hpending]
  | some loading =>
      simp only [hloading, List.mem_cons] at hpending
      rcases hpending with rfl | hpending
      · simp [waiting, hloading]
      · simp [waiting, hpending]

/-- What an invalidation cancels is noted down as cancelled. -/
theorem cancelled_of_drained {drained : List Milestone} {waiting : List Pending}
    (h : ∀ milestone ∈ drained, ∃ pending ∈ waiting, ∃ answered,
      milestone = .cancelled pending.admission answered) :
    ∀ milestone ∈ drained, ∃ admission answered, milestone = .cancelled admission answered := by
  intro milestone hmem
  obtain ⟨pending, -, answered, hcancelled⟩ := h milestone hmem
  exact ⟨pending.admission, answered, hcancelled⟩

end Pipeline

/-! ## The rule for the requests -/

namespace GuildSession

/-- An invariant of the steps of the requests is one of the moves of a session. -/
theorem Moves.requests {ends : ℕ → Prop} {Invariant : Pipeline → Prop} {limit : ℕ}
    (step : ∀ first last, Pipeline.Step limit first last → Invariant first → Invariant last)
    {first last : GuildSession} (h : Moves ends first last)
    (hfirst : first.shared.config.pending = limit ∧ Invariant first.toPipeline) :
    last.shared.config.pending = limit ∧ Invariant last.toPipeline := by
  refine h.invariant (fun session => session.shared.config.pending = limit ∧
    Invariant session.toPipeline) ?_ hfirst
  intro before after move ⟨hlimit, hbefore⟩
  constructor
  · rw [move.later.config]
    exact hlimit
  · cases move with
    | quiet h => exact h.pipeline ▸ hbefore
    | request _ _ _ h => exact step _ _ (hlimit ▸ h) hbefore
    | edit pipeline _ _ _ => exact pipeline ▸ hbefore
    | steer pipeline _ _ _ => exact pipeline ▸ hbefore
    | leave pipeline _ _ _ => exact pipeline ▸ hbefore
    | clear pipeline _ _ _ _ => exact pipeline ▸ hbefore
    | halt pipeline _ _ _ _ _ => exact pipeline ▸ hbefore
    | restart pipeline _ _ _ =>
        rw [startCurrent_pipeline]
        exact pipeline ▸ hbefore

end GuildSession

/-- The moves of an input begin with the requests as they are, but for a loader that
is joined. -/
theorem Input.ready_requests (session : GuildSession) (input : Input) :
    (input.ready session).shared.config = session.shared.config ∧
      ((input.ready session).toPipeline = session.toPipeline ∨
        ∃ index, (∃ script random cut, input = .turn (.joinLoader index) script random cut) ∧
          (input.ready session).toPipeline = (session.toPipeline.joinLoader index).2) := by
  cases input with
  | outside move =>
      cases move with
      | pass moment =>
          exact ⟨(session.shared.drifts_endTrack moment.ending).config, Or.inl rfl⟩
      | _ => exact ⟨rfl, Or.inl rfl⟩
  | turn arm script random cut =>
      cases arm with
      | joinLoader index => exact ⟨rfl, Or.inr ⟨index, ⟨script, random, cut, rfl⟩, rfl⟩⟩
      | _ => exact ⟨rfl, Or.inl rfl⟩
  | close script random cut => exact ⟨rfl, Or.inl rfl⟩

/-- The condition holds whenever a loader is about to be joined. -/
def Input.Joining (condition : Pipeline → ℕ → Prop) (session : GuildSession) : Input → Prop
  | .turn (.joinLoader index) _ _ _ => condition session.toPipeline index
  | _ => True

instance Input.Joining.decidable {condition : Pipeline → ℕ → Prop}
    [∀ requests index, Decidable (condition requests index)] (session : GuildSession)
    (input : Input) : Decidable (input.Joining condition session) :=
  match input with
  | .turn (.joinLoader index) _ _ _ =>
      inferInstanceAs (Decidable (condition session.toPipeline index))
  | .turn (.interaction _ _) _ _ _ | .turn (.backend _) _ _ _ | .turn (.ending _) _ _ _
  | .turn .voiceChanged _ _ _ | .turn .invalidated _ _ _ | .turn .connected _ _ _
  | .turn (.joinResponse _) _ _ _ | .turn (.joinPreparation _) _ _ _
  | .turn (.joinDeletion _) _ _ _ | .turn (.joinEdit _) _ _ _ | .turn .tick _ _ _
  | .outside _ | .close _ _ _ => isTrue trivial

namespace Worker

/-- What the steps of the requests and joining a loader preserve, a run preserves. At
the end of a worker its loaders are aborted; what holds from then on may be less. -/
theorem requests_rule (Running Ended : Pipeline → Prop) {condition : Pipeline → ℕ → Prop}
    {limit : ℕ}
    (step : ∀ first last, Pipeline.Step limit first last → Running first → Running last)
    (joinLoader : ∀ requests index, condition requests index → Running requests →
      Running (requests.joinLoader index).2)
    (abort : ∀ requests, Running requests → Ended requests.abort)
    (settle : ∀ first last, Pipeline.Step limit first last → Ended first → Ended last)
    {worker : Worker} {inputs : List Input}
    (hcondition : worker.Along (Input.Joining condition) inputs)
    (hlimit : worker.session.shared.config.pending = limit)
    (hworker : worker.Holds (fun session => Running session.toPipeline)
      (fun session => Ended session.toPipeline)) :
    (worker.run inputs).Holds (fun session => Running session.toPipeline)
      (fun session => Ended session.toPipeline) := by
  have hholds := run_rule
    (fun session => session.shared.config.pending = limit ∧ Running session.toPipeline)
    (fun session => Ended session.toPipeline) ?_ ?_ worker inputs hcondition ?_
  · cases hrun : worker.run inputs with
    | running session =>
        rw [hrun] at hholds
        exact hholds.2
    | ended session =>
        rw [hrun] at hholds
        exact hholds
  · intro session input after hjoining ⟨hconfig, hsession⟩ hmoves
    obtain ⟨hready, hrequests⟩ := input.ready_requests session
    refine hmoves.requests step ⟨by rw [hready, hconfig], ?_⟩
    rcases hrequests with heq | ⟨index, ⟨script, random, cut, rfl⟩, heq⟩
    · rw [heq]
      exact hsession
    · rw [heq]
      exact joinLoader _ index hjoining hsession
  · intro session cut ⟨_, hsession⟩
    have hsteps := (session.close_spec limit cut).1
    generalize (session.close cut).toPipeline = closed at hsteps ⊢
    induction hsteps with
    | refl => exact abort _ hsession
    | tail _ hstep ih => exact settle _ _ hstep ih
  · cases worker with
    | running session => exact ⟨hlimit, hworker⟩
    | ended session => exact hworker

/-- Without a condition, and with one invariant throughout. -/
theorem requests_invariant (worker : Worker) (Invariant : Pipeline → Prop) {limit : ℕ}
    (step : ∀ first last, Pipeline.Step limit first last → Invariant first → Invariant last)
    (joinLoader : ∀ requests index, Invariant requests → Invariant (requests.joinLoader index).2)
    (abort : ∀ requests, Invariant requests → Invariant requests.abort)
    (hlimit : worker.session.shared.config.pending = limit)
    (hworker : Invariant worker.session.toPipeline) (inputs : List Input) :
    Invariant (worker.run inputs).session.toPipeline := by
  have hcondition : worker.Along (Input.Joining fun _ _ => True) inputs := by
    apply (worker.along_true inputs).mono
    intro session input _
    cases input with
    | turn arm script random cut => cases arm <;> trivial
    | _ => trivial
  have hholds := requests_rule Invariant Invariant step
    (fun requests index _ => joinLoader requests index) abort step hcondition hlimit
    (by cases worker <;> exact hworker)
  cases hrun : worker.run inputs with
  | running session =>
      rw [hrun] at hholds
      exact hholds
  | ended session =>
      rw [hrun] at hholds
      exact hholds

end Worker

end Raydio.Session
