/-
# A display with a limited rate

A display shows a value, and is offered others as time goes on. It takes an offer that is
allowed, brings another value and comes late enough after the last one that was taken. Taken
offers are spaced, so that every stretch of time holds a bounded number of them, and a value
that is offered long enough ends up shown.
-/

import Raydio.Foundation.Runs

namespace Raydio.Foundation

universe u

/-- A display, with the times at which it was changed and what was shown then. -/
structure Throttle (α : Type u) where
  shown : α
  since : ℤ
  sent : List (ℤ × α)

namespace Throttle

variable {α : Type u}

/-- A value that is offered at some time. -/
structure Offer (α : Type u) where
  now : ℤ
  allowed : Bool
  value : α

/-- A display that has not been changed yet. -/
def start (shown : α) (since : ℤ) : Throttle α := ⟨shown, since, []⟩

/-- What every run of offers keeps. -/
structure Paced (gap : ℤ) (initial : α) (offers : List (Offer α)) (throttle : Throttle α) :
    Prop where
  spaced : throttle.sent.Pairwise fun earlier later => earlier.1 + gap ≤ later.1
  before : ∀ entry ∈ throttle.sent, entry.1 ≤ throttle.since
  changes : (initial :: throttle.sent.map Prod.snd).IsChain (· ≠ ·)
  last : (initial :: throttle.sent.map Prod.snd).getLast? = some throttle.shown
  offered : ∀ entry ∈ throttle.sent,
    ∃ offer ∈ offers, offer.allowed = true ∧ offer.now = entry.1 ∧ offer.value = entry.2

variable {gap : ℤ} {initial : α} {offers : List (Offer α)} {self : Throttle α}

theorem paced_start (gap : ℤ) (initial : α) (since : ℤ) :
    Paced gap initial [] (start initial since) where
  spaced := List.Pairwise.nil
  before := by
    intro entry hentry
    cases hentry
  changes := List.isChain_singleton initial
  last := rfl
  offered := by
    intro entry hentry
    cases hentry

variable [DecidableEq α]

/-- Take an offer, or leave it. -/
def take (gap : ℤ) (self : Throttle α) (offer : Offer α) : Throttle α :=
  if offer.value ≠ self.shown ∧ self.since + gap ≤ offer.now ∧ offer.allowed then
    { shown := offer.value
      since := offer.now
      sent := self.sent ++ [(offer.now, offer.value)] }
  else self

theorem Paced.take (h : Paced gap initial offers self) (hgap : 0 ≤ gap) (offer : Offer α) :
    Paced gap initial (offers ++ [offer]) (self.take gap offer) := by
  have hoffered : ∀ entry ∈ self.sent, ∃ other ∈ offers ++ [offer],
      other.allowed = true ∧ other.now = entry.1 ∧ other.value = entry.2 := by
    intro entry hentry
    obtain ⟨other, hother, hspec⟩ := h.offered entry hentry
    exact ⟨other, List.mem_append_left _ hother, hspec⟩
  rw [Throttle.take]
  split
  · rename_i htaken
    obtain ⟨hnew, hlate, hallowed⟩ := htaken
    have hvalues : initial :: (self.sent ++ [(offer.now, offer.value)]).map Prod.snd =
        (initial :: self.sent.map Prod.snd) ++ [offer.value] := by
      rw [List.map_append, List.cons_append, List.map_singleton]
    constructor
    · rw [List.pairwise_append]
      refine ⟨h.spaced, List.pairwise_singleton _ _, ?_⟩
      intro entry hentry later hlater
      have hbefore := h.before entry hentry
      rw [List.mem_singleton.mp hlater]
      show entry.1 + gap ≤ offer.now
      omega
    · intro entry hentry
      show entry.1 ≤ offer.now
      rcases List.mem_append.mp hentry with hold | hlast
      · have hbefore := h.before entry hold
        omega
      · rw [List.mem_singleton.mp hlast]
    · rw [hvalues, List.isChain_append]
      refine ⟨h.changes, List.isChain_singleton _, ?_⟩
      intro shown hshown value hvalue
      rw [h.last, Option.mem_some_iff] at hshown
      rw [List.head?_cons, Option.mem_some_iff] at hvalue
      rw [← hshown, ← hvalue]
      exact hnew.symm
    · rw [hvalues]
      exact List.getLast?_concat
    · intro entry hentry
      rcases List.mem_append.mp hentry with hold | hlast
      · exact hoffered entry hold
      · refine ⟨offer, List.mem_append_right _ (List.mem_singleton_self offer), hallowed, ?_⟩
        rw [List.mem_singleton.mp hlast]
        exact ⟨rfl, rfl⟩
  · exact ⟨h.spaced, h.before, h.changes, h.last, hoffered⟩

/-- A run of offers changes the display at spaced times, to another value each time, and to
one that is offered and allowed then. -/
theorem paced_run (gap : ℤ) (hgap : 0 ≤ gap) (initial : α) (since : ℤ)
    (offers : List (Offer α)) :
    Paced gap initial offers (Runs.run (take gap) (start initial since) offers) := by
  induction offers using List.reverseRecOn with
  | nil => exact paced_start gap initial since
  | append_singleton offers offer ih =>
      rw [Runs.run_concat]
      exact ih.take hgap offer

/-- The last change is not later than the offers. -/
theorem since_run_le (self : Throttle α) {bound : ℤ} (hself : self.since ≤ bound)
    (hoffers : ∀ offer ∈ offers, offer.now ≤ bound) :
    (Runs.run (take gap) self offers).since ≤ bound := by
  induction offers using List.reverseRecOn with
  | nil => exact hself
  | append_singleton offers offer ih =>
      have hbefore := ih fun other hother => hoffers other (List.mem_append_left _ hother)
      rw [Runs.run_concat, take]
      split
      · exact hoffers offer (List.mem_append_right _ (List.mem_singleton_self offer))
      · exact hbefore

/-- A value that is offered and allowed from some time on is shown once the gap has passed,
and stays. -/
theorem shown_run (self : Throttle α) {value : α} {since : ℤ} (hself : self.since ≤ since)
    (hoffers : ∀ offer ∈ offers, offer.value = value ∧ offer.allowed = true)
    (hlate : ∃ offer ∈ offers, since + gap ≤ offer.now) :
    (Runs.run (take gap) self offers).shown = value := by
  have hsettling : (Runs.run (take gap) self offers).shown = value ∨
      ((Runs.run (take gap) self offers).since ≤ since ∧
        ∀ offer ∈ offers, offer.now < since + gap) := by
    clear hlate
    induction offers using List.reverseRecOn with
    | nil =>
        refine Or.inr ⟨hself, ?_⟩
        intro offer hoffer
        cases hoffer
    | append_singleton offers offer ih =>
        obtain ⟨hvalue, hallowed⟩ :=
          hoffers offer (List.mem_append_right _ (List.mem_singleton_self offer))
        rw [Runs.run_concat, take]
        split
        · exact Or.inl hvalue
        · rename_i hleft
          rcases ih fun other hother => hoffers other (List.mem_append_left _ hother) with
            hshown | ⟨hsince, hearly⟩
          · exact Or.inl hshown
          · by_cases hshown : (Runs.run (take gap) self offers).shown = value
            · exact Or.inl hshown
            · refine Or.inr ⟨hsince, ?_⟩
              intro other hother
              rcases List.mem_append.mp hother with hold | hlast
              · exact hearly other hold
              · rw [List.mem_singleton.mp hlast]
                by_contra hnow
                apply hleft
                refine ⟨?_, by omega, hallowed⟩
                rw [hvalue]
                exact fun heq => hshown heq.symm
  rcases hsettling with hshown | ⟨-, hearly⟩
  · exact hshown
  · obtain ⟨offer, hoffer, hnow⟩ := hlate
    exact absurd (hearly offer hoffer) (not_lt.mpr hnow)

end Throttle

/-- So many spaced times fit into a stretch of as many gaps. -/
theorem length_le_of_spaced {gap : ℤ} {times : List ℤ}
    (h : times.Pairwise fun earlier later => earlier + gap ≤ later) {first : ℤ} {count : ℕ}
    (hfirst : ∀ time ∈ times, first ≤ time) (hlast : ∀ time ∈ times, time < first + gap * count) :
    times.length ≤ count := by
  induction times generalizing first count with
  | nil => exact Nat.zero_le count
  | cons time times ih =>
      obtain ⟨hlater, hrest⟩ := List.pairwise_cons.mp h
      have hstart := hfirst time List.mem_cons_self
      have hend := hlast time List.mem_cons_self
      cases count with
      | zero =>
          rw [Nat.cast_zero, mul_zero, add_zero] at hend
          omega
      | succ count =>
          have hcount : gap * ((count + 1 : ℕ) : ℤ) = gap + gap * count := by
            push_cast
            ring
          have hnext : ∀ other ∈ times, first + gap ≤ other := by
            intro other hother
            have hother := hlater other hother
            omega
          have hwithin : ∀ other ∈ times, other < first + gap + gap * count := by
            intro other hother
            have hother := hlast other (List.mem_cons_of_mem _ hother)
            rw [hcount] at hother
            omega
          exact Nat.succ_le_succ (ih hrest hnext hwithin)

end Raydio.Foundation
