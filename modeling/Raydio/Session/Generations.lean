/-
# A generation is advanced past once

The generation counts the starts, and every way past a current track starts what
comes next. So the queue is advanced at most once for each start, and, until the
counter wraps, at most once for each generation. The queue is advanced as finished
only when an event or a snapshot says so.
-/

import Raydio.Session.Refinement

namespace Raydio.Session

open Raydio.Foundation Raydio.Playback GuildSession

/-! ## Counting starts -/

/-- Every advance belongs to a start of its own, all of them up to the bound. -/
structure Course.CountedTo (bound : ℕ) (course : Course) : Prop where
  generation : course.generation = course.starts % 2 ^ 64
  increasing : course.advances.Pairwise fun advance later => advance.start < later.start
  bounded : ∀ advance ∈ course.advances, advance.start < bound
  numbered : ∀ advance ∈ course.advances, advance.generation = advance.start % 2 ^ 64

/-- Between two handlers the last start has not been advanced past. -/
def Course.Counted (course : Course) : Prop := course.CountedTo course.starts

namespace Course.CountedTo

variable {bound : ℕ} {course : Course}

/-- An attempt to start opens a new generation. -/
theorem begun (h : course.CountedTo (course.starts + 1)) : course.begun.Counted where
  generation := by
    show wrappingSucc course.generation = (course.starts + 1) % 2 ^ 64
    rw [wrappingSucc, h.generation, Nat.mod_add_mod]
  increasing := h.increasing
  bounded := h.bounded
  numbered := h.numbered

/-- The current generation is advanced past. -/
theorem append (h : course.Counted) (kind : Advance.Kind) :
    ({ course with advances := course.advances ++
      [⟨kind, course.generation, course.starts⟩] } : Course).CountedTo (course.starts + 1) where
  generation := h.generation
  increasing := by
    rw [List.pairwise_append]
    refine ⟨h.increasing, List.pairwise_singleton _ _, ?_⟩
    intro advance hmem later hlater
    rw [List.mem_singleton.mp hlater]
    exact h.bounded advance hmem
  bounded := by
    intro advance hmem
    rcases List.mem_append.mp hmem with hold | hnew
    · exact Nat.lt_succ_of_lt (h.bounded advance hold)
    · rw [List.mem_singleton.mp hnew]
      exact Nat.lt_succ_self _
  numbered := by
    intro advance hmem
    rcases List.mem_append.mp hmem with hold | hnew
    · exact h.numbered advance hold
    · rw [List.mem_singleton.mp hnew]
      exact h.generation

/-- Only three fields matter. -/
theorem of_eq {other : Course} (h : course.CountedTo bound)
    (generation : other.generation = course.generation) (starts : other.starts = course.starts)
    (advances : other.advances = course.advances) : other.CountedTo bound where
  generation := by rw [generation, starts, h.generation]
  increasing := advances ▸ h.increasing
  bounded := advances ▸ h.bounded
  numbered := advances ▸ h.numbered

/-- A generation that has not been advanced past may be. -/
theorem loosen (h : course.Counted) : course.CountedTo (course.starts + 1) where
  generation := h.generation
  increasing := h.increasing
  bounded := by
    intro advance hmem
    exact Nat.lt_succ_of_lt (h.bounded advance hmem)
  numbered := h.numbered

/-- Without a wrap the generations differ as the starts do. -/
theorem generations_nodup (h : course.Counted) (hstarts : course.starts < 2 ^ 64) :
    (course.advances.map Advance.generation).Nodup := by
  rw [List.nodup_iff_pairwise_ne, List.pairwise_map]
  apply h.increasing.imp_of_mem
  intro advance later hadvance hlater hlt heq
  rw [h.numbered advance hadvance, h.numbered later hlater,
    Nat.mod_eq_of_lt ((h.bounded advance hadvance).trans hstarts),
    Nat.mod_eq_of_lt ((h.bounded later hlater).trans hstarts)] at heq
  exact absurd heq (Nat.ne_of_lt hlt)

end Course.CountedTo

open Course

/-- The history of starts and advances is the same. -/
structure Course.SameHistory (before after : Course) : Prop where
  generation : after.generation = before.generation
  starts : after.starts = before.starts
  advances : after.advances = before.advances

theorem Course.Edit.history {limit : ℕ} {before after : Course} (h : Edit limit before after) :
    SameHistory before after := by
  cases h <;> exact ⟨rfl, rfl, rfl⟩

theorem Course.Steer.history {patch : Patch} {before after : Course}
    (h : Steer patch before after) : SameHistory before after := by
  cases h <;> exact ⟨rfl, rfl, rfl⟩

theorem Course.SameHistory.counted {before after : Course} (h : SameHistory before after)
    (hbefore : before.Counted) : after.Counted := by
  have hcounted := hbefore.of_eq h.generation h.starts h.advances
  rw [← h.starts] at hcounted
  exact hcounted

/-- A selection advances past at most the current generation. -/
theorem Course.Select.counted {ends : ℕ → Prop} {limit : ℕ} {before after : Course}
    (h : Select ends limit before after) (hbefore : before.Counted) :
    after.CountedTo (after.starts + 1) := by
  rw [h.starts]
  rcases h.advances with heq | ⟨kind, -, heq⟩
  · exact (CountedTo.loosen hbefore).of_eq h.generation h.starts heq
  · exact (CountedTo.append hbefore kind).of_eq h.generation h.starts heq

namespace GuildSession

variable (self : GuildSession)

/-- Starting what is current opens a generation and leaves it open. -/
theorem startCurrent_counted (h : self.course.CountedTo (self.course.starts + 1)) :
    self.startCurrent.2.course.Counted := by
  apply startCurrent_rule self
    (fun session => session.course.CountedTo (session.course.starts + 1))
    (fun session => session.course.Counted)
  · intro session hbefore _
    exact hbefore.begun.of_eq rfl rfl rfl
  · intro session hbefore _ _
    exact hbefore.begun.of_eq rfl rfl rfl
  · intro session hbefore _ _
    have hcourse := session.attemptStart.2.failOver_spec.2.2.1
    have hbegun : session.attemptStart.2.course.Counted := hbefore.begun
    rw [hcourse]
    exact (CountedTo.append hbegun .fail).of_eq rfl rfl rfl
  · exact h

theorem Move.counted {ends : ℕ → Prop} {before after : GuildSession} (h : Move ends before after)
    (hbefore : before.course.Counted) : after.course.Counted := by
  cases h with
  | quiet h => exact h.course ▸ hbefore
  | request course _ _ _ => exact course ▸ hbefore
  | edit _ _ _ edit => exact edit.history.counted hbefore
  | steer _ _ _ steer => exact steer.history.counted hbefore
  | leave _ _ _ course => exact course ▸ hbefore.of_eq rfl rfl rfl
  | clear _ _ _ _ course => exact course ▸ hbefore
  | halt _ _ _ _ at' course => exact course ▸ hbefore.of_eq rfl rfl rfl
  | restart _ _ _ select => exact startCurrent_counted _ (select.counted hbefore)

/-! ## Advancing as finished -/

/-- The queue was advanced further, as finished only for generations that ended. -/
def Finishes (ends : ℕ → Prop) (before after : GuildSession) : Prop :=
  ∃ more, after.advances = before.advances ++ more ∧
    ∀ advance ∈ more, advance.kind = .finish → ends advance.generation

variable {ends : ℕ → Prop} {first second third : GuildSession}

theorem Finishes.of_eq (h : second.advances = first.advances) : Finishes ends first second :=
  ⟨[], by rw [h, List.append_nil], fun _ hmem => absurd hmem List.not_mem_nil⟩

theorem Finishes.trans (h : Finishes ends first second) (h' : Finishes ends second third) :
    Finishes ends first third := by
  obtain ⟨more, hmore, hends⟩ := h
  obtain ⟨more', hmore', hends'⟩ := h'
  refine ⟨more ++ more', by rw [hmore', hmore, List.append_assoc], ?_⟩
  intro advance hmem
  rcases List.mem_append.mp hmem with hmem | hmem
  · exact hends advance hmem
  · exact hends' advance hmem

/-- The loop of `start_current` only fails over. -/
theorem startCurrent_finishes : Finishes ends self self.startCurrent.2 := by
  apply startCurrent_keeps self (fun session => Finishes ends self session)
  · intro session h
    exact h
  · intro session at' h
    exact h
  · intro session h
    refine h.trans ⟨_, congrArg Course.advances session.failOver_spec.2.2.1, ?_⟩
    intro advance hmem hkind
    rw [List.mem_singleton.mp hmem] at hkind
    cases hkind
  · exact .of_eq rfl

theorem Move.finishes (h : Move ends first second) : Finishes ends first second := by
  cases h with
  | quiet h => exact .of_eq (congrArg Course.advances h.course)
  | request course _ _ _ => exact .of_eq (congrArg Course.advances course)
  | edit _ _ _ edit => exact .of_eq edit.history.advances
  | steer _ _ _ steer => exact .of_eq steer.history.advances
  | leave _ _ _ course => exact .of_eq (congrArg Course.advances course)
  | clear _ _ _ _ course => exact .of_eq (congrArg Course.advances course)
  | halt _ _ _ _ _ course => exact .of_eq (congrArg Course.advances course)
  | restart _ _ _ select =>
      refine Finishes.trans ?_ (startCurrent_finishes _)
      rcases select.advances with heq | ⟨kind, hends, heq⟩
      · exact .of_eq heq
      · refine ⟨_, heq, ?_⟩
        intro advance hmem hkind
        rw [List.mem_singleton.mp hmem] at hkind ⊢
        exact hends hkind

theorem Moves.finishes (h : Moves ends first second) : Finishes ends first second :=
  h.invariant (fun session => Finishes ends first session)
    (fun _ _ move hbefore => hbefore.trans move.finishes) (.of_eq rfl)

/-! ## Payloads that are not of the current generation -/

/-- The payload cannot be the end of the current track. -/
def stalePayload (payload : Value) : Prop :=
  (payloadGeneration payload ≠ some self.generation ∨ payloadKind payload ∉ terminalKinds) ∧
    payloadKind payload ≠ "WebSocketClosedEvent"

theorem backend_queue_of_stale (payload : Value) (h : self.stalePayload payload) :
    (self.backend payload).queue = self.queue := by
  obtain ⟨hstale, hopen⟩ := h
  rw [backend]
  split
  · rfl
  · split
    · exact congrArg Course.queue (self.quiet_observeProgress payload).course
    · split
      · rfl
      · split
        · rfl
        · rename_i hgeneration
          rw [not_not] at hgeneration
          have hkind : payloadKind payload ∉ terminalKinds := by
            rcases hstale with hother | hkind
            · exact absurd hgeneration hother
            · exact hkind
          split
          · split
            · rfl
            · exact congrArg Course.queue (quiet_refresh _).course
          · rename_i heq
            exact absurd (by rw [heq]; decide) hkind
          · rename_i heq
            exact absurd (by rw [heq]; decide) hkind
          · rename_i heq
            exact absurd (by rw [heq]; decide) hkind
          · rfl

end GuildSession

/-! ## Runs -/

theorem Input.ready_course (session : GuildSession) (input : Input) :
    (input.ready session).course = session.course := by
  cases input with
  | outside move => cases move <;> rfl
  | turn arm script random cut => cases arm <;> rfl
  | close script random cut => rfl

namespace Worker

/-- The generations that an input verifies to a worker to have ended. -/
def endsOf : Worker → Input → ℕ → Prop
  | running session, input => input.ends session
  | ended _, _ => fun _ => False

/-- One step advances the queue as finished only for generations that ended. -/
theorem step_finishes (worker : Worker) (input : Input) :
    Finishes (worker.endsOf input) worker.session (worker.step input).session := by
  cases worker with
  | ended session => exact .of_eq rfl
  | running session =>
      rcases step_running session input with hsame | ⟨after, hmoves, hstep⟩
      · rw [hsame]
        exact .of_eq rfl
      · have hready : Finishes (input.ends session) session (input.ready session) :=
          .of_eq (congrArg Course.advances (input.ready_course session))
        have hafter := hready.trans hmoves.finishes
        rcases hstep with hstep | ⟨cut, hstep⟩
        · rw [hstep]
          exact hafter
        · rw [hstep]
          exact hafter.trans (.of_eq (after.close_spec 0 cut).2.2)

/-- In a run the starts count the advances. -/
theorem run_counted (id : ℕ) (shared : Shared) (inputs : List Input) :
    ∃ course : Course, course.Counted ∧
      course.starts = ((start id shared).run inputs).session.starts ∧
      course.advances = ((start id shared).run inputs).session.advances := by
  have hholds := run_rule (fun session => session.course.Counted)
    (fun session => ∃ course : Course, course.Counted ∧ course.starts = session.starts ∧
      course.advances = session.advances) ?_ ?_ (start id shared) inputs (along_true _ _) ?_
  · cases hrun : (start id shared).run inputs with
    | running session =>
        rw [hrun] at hholds
        exact ⟨session.course, hholds, rfl, rfl⟩
    | ended session =>
        rw [hrun] at hholds
        exact hholds
  · intro session input after _ hcounted hmoves
    refine hmoves.invariant (fun session => session.course.Counted)
      (fun _ _ move hbefore => move.counted hbefore) ?_
    rw [input.ready_course]
    exact hcounted
  · intro session cut hcounted
    obtain ⟨-, hstarts, hadvances⟩ := session.close_spec 0 cut
    exact ⟨session.course, hcounted, hstarts.symm, hadvances.symm⟩
  · refine ⟨rfl, List.Pairwise.nil, ?_, ?_⟩
    · intro advance hmem
      cases hmem
    · intro advance hmem
      cases hmem

/-- After every run with fewer than `2 ^ 64` starts, no generation was advanced past
twice; a payload that is not the end of the current track leaves the queue alone; and
the next input advances the queue as finished only if it says that the generation came
to its natural end. -/
theorem run_advances (id : ℕ) (shared : Shared) (inputs : List Input)
    (hstarts : ((start id shared).run inputs).session.starts < 2 ^ 64) :
    (((start id shared).run inputs).session.advances.map Advance.generation).Nodup ∧
      (∀ payload, ((start id shared).run inputs).session.stalePayload payload →
        (((start id shared).run inputs).session.backend payload).queue =
          ((start id shared).run inputs).session.queue) ∧
      ∀ input, Finishes (((start id shared).run inputs).endsOf input)
        ((start id shared).run inputs).session
        (((start id shared).run inputs).step input).session := by
  obtain ⟨course, hcounted, hcount, hadvances⟩ := run_counted id shared inputs
  refine ⟨?_, fun payload => backend_queue_of_stale _ payload, step_finishes _⟩
  rw [← hcount] at hstarts
  rw [← hadvances]
  exact CountedTo.generations_nodup hcounted hstarts

/-- Two tracks, the first of which plays to its end. -/
theorem run_advances_finished :
    ((((start 1 Sample.shared).run ([Sample.play] ++
      Sample.resolve [Sample.track "a", Sample.track "b"] ++
      [.turn (.backend (Sample.event "TrackEndEvent" "finished" 1)) [] [] 4])).session.advances.map
        Advance.generation).Nodup) :=
  (run_advances 1 Sample.shared _ (by decide +kernel)).1

end Worker

end Raydio.Session
