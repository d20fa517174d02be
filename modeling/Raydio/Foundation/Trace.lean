/-
# Rules for a growing trace

A trace records what has happened, oldest event first, and only grows at its end.
`Always` says that every event keeps a rule about the events before it; it is
extended event by event. `Since` says that an event has happened and that no
barrier was crossed since then.
-/

import Mathlib

namespace Raydio.Foundation

universe u

namespace Trace

variable {α : Type u}

/-- The event has happened, and no barrier was crossed since. -/
def Since (barrier : α → Prop) (event : α) (trace : List α) : Prop :=
  ∃ before after, trace = before ++ event :: after ∧ ∀ other ∈ after, ¬ barrier other

/-- Every event keeps the rule about what came before it. -/
def Always (rule : List α → α → Prop) (trace : List α) : Prop :=
  ∀ before event after, trace = before ++ event :: after → rule before event

variable {barrier : α → Prop} {event : α} {rule : List α → α → Prop} {trace more : List α}

/-- The last event has just happened. -/
theorem since_concat (barrier : α → Prop) (event : α) (trace : List α) :
    Since barrier event (trace ++ [event]) :=
  ⟨trace, [], rfl, by simp⟩

theorem Since.mem (h : Since barrier event trace) : event ∈ trace := by
  obtain ⟨before, after, rfl, -⟩ := h
  simp

/-- Events that are no barriers keep an event recent. -/
theorem Since.append (h : Since barrier event trace) (hmore : ∀ other ∈ more, ¬ barrier other) :
    Since barrier event (trace ++ more) := by
  obtain ⟨before, after, rfl, hafter⟩ := h
  refine ⟨before, after ++ more, by simp, ?_⟩
  intro other hmem
  rcases List.mem_append.mp hmem with hmem | hmem
  · exact hafter other hmem
  · exact hmore other hmem

/-- An event that has not happened again was already recent, and nothing after it is a
barrier. -/
theorem Since.of_append (h : Since barrier event (trace ++ more)) (hnone : event ∉ more) :
    Since barrier event trace ∧ ∀ other ∈ more, ¬ barrier other := by
  obtain ⟨before, after, heq, hafter⟩ := h
  rcases List.append_eq_append_iff.mp heq with ⟨middle, -, hrest⟩ | ⟨middle, rfl, hrest⟩
  · rw [hrest] at hnone
    exact absurd (by simp) hnone
  · cases middle with
    | nil =>
        rw [List.nil_append] at hrest
        rw [← hrest] at hnone
        exact absurd (by simp) hnone
    | cons first middle =>
        obtain ⟨rfl, rfl⟩ := List.cons.inj hrest
        refine ⟨⟨before, middle, rfl, ?_⟩, ?_⟩
        · intro other hmem
          exact hafter other (List.mem_append_left _ hmem)
        · intro other hmem
          exact hafter other (List.mem_append_right _ hmem)

/-- Behind a barrier only later events are recent. -/
theorem Since.mem_of_barrier {wall : α} (h : Since barrier event (trace ++ wall :: more))
    (hwall : barrier wall) : event ∈ wall :: more := by
  by_contra hnone
  exact (h.of_append hnone).2 wall List.mem_cons_self hwall

theorem always_nil (rule : List α → α → Prop) : Always rule [] := by
  intro before event after h
  simp at h

/-- A trace grows by an event that keeps the rule. -/
theorem Always.concat (h : Always rule trace) (hevent : rule trace event) :
    Always rule (trace ++ [event]) := by
  intro before other after heq
  rcases List.eq_nil_or_concat after with rfl | ⟨rest, last, rfl⟩
  · obtain ⟨rfl, hsingle⟩ := List.append_inj' heq rfl
    cases hsingle
    exact hevent
  · rw [List.concat_eq_append, ← List.cons_append, ← List.append_assoc] at heq
    exact h before other rest (List.append_inj' heq rfl).1

/-- What keeps a rule did so before it grew. -/
theorem Always.of_append (h : Always rule (trace ++ more)) : Always rule trace := by
  intro before other after heq
  exact h before other (after ++ more) (by rw [heq]; simp)

/-- A rule is kept by a longer trace if it is kept before and by the last event. -/
theorem always_concat :
    Always rule (trace ++ [event]) ↔ Always rule trace ∧ rule trace event := by
  constructor
  · intro h
    constructor
    · intro before other after heq
      exact h before other (after ++ [event]) (by rw [heq]; simp)
    · exact h trace event [] rfl
  · rintro ⟨htrace, hevent⟩
    exact htrace.concat hevent

/-- The rule is checked at every position. -/
theorem always_iff_take (rule : List α → α → Prop) (trace : List α) :
    Always rule trace ↔ ∀ i : Fin trace.length, rule (trace.take i) (trace.get i) := by
  constructor
  · intro h i
    exact h _ _ (trace.drop (i + 1)) (by simp)
  · rintro h before event after rfl
    simpa using h ⟨before.length, by simp⟩

instance Always.decidable [∀ before event, Decidable (rule before event)] (trace : List α) :
    Decidable (Always rule trace) :=
  decidable_of_iff _ (always_iff_take rule trace).symm

/-- A trace grows by several events, each of which keeps the rule. -/
theorem Always.append (h : Always rule trace)
    (hmore : ∀ before event after, more = before ++ event :: after →
      rule (trace ++ before) event) : Always rule (trace ++ more) := by
  induction more using List.reverseRecOn with
  | nil => simpa using h
  | append_singleton events event ih =>
      have hrest : Always rule (trace ++ events) := by
        apply ih
        intro before other after heq
        exact hmore before other (after ++ [event]) (by rw [heq]; simp)
      rw [← List.append_assoc]
      exact hrest.concat (hmore events event [] rfl)

/-- An event that happened once is recent exactly if nothing after it is a barrier. -/
theorem Since.of_split {before after : List α} (h : Since barrier event (before ++ event :: after))
    (hbefore : event ∉ before) (hafter : event ∉ after) : ∀ other ∈ after, ¬ barrier other := by
  obtain ⟨_, _, heq, hnone⟩ := h
  obtain ⟨-, -, rfl⟩ := (List.append_cons_inj_of_notMem hbefore hafter).mp heq
  exact hnone

/-- The last occurrence of an event splits a trace in one way. -/
theorem last_split {before before' after after' : List α}
    (heq : before ++ event :: after = before' ++ event :: after') (hafter : event ∉ after)
    (hafter' : event ∉ after') : before = before' ∧ after = after' := by
  rcases List.append_eq_append_iff.mp heq with ⟨middle, rfl, hrest⟩ | ⟨middle, rfl, hrest⟩
  · cases middle with
    | nil =>
        cases hrest
        exact ⟨(List.append_nil _).symm, rfl⟩
    | cons first middle =>
        obtain ⟨rfl, rfl⟩ := List.cons.inj hrest
        exact absurd (by simp) hafter
  · cases middle with
    | nil =>
        cases hrest
        exact ⟨List.append_nil _, rfl⟩
    | cons first middle =>
        obtain ⟨rfl, rfl⟩ := List.cons.inj hrest
        exact absurd (by simp) hafter'

end Trace

end Raydio.Foundation
