/-
# Deleting the message of a player

The message of a retired player is deleted by a task of its own, in at most three attempts,
of which any may get lost, or be carried out while its answer gets lost. The service that
deletes it is Discord's: `Deletions` is any that can be asked to, and `Documented` says what
the task may rely on.
-/

import Raydio.Discord.Delivery

namespace Raydio.Session

open Raydio.Foundation Raydio.Discord

/-! ## Discord's side of a deletion -/

/-- Discord's service that deletes messages. -/
structure Deletions (σ : Type) where
  service : Service σ MessageRef CallFailure Unit
  /-- The messages that there are. -/
  messages : σ → Set MessageRef

namespace Deletions

variable {σ : Type} (discord : Deletions σ)

/-- What Discord documents: a message that was there is deleted, and no other; a call that is
refused deletes nothing; and the status 404 is kept for what is not there. -/
structure Documented : Prop where
  deleted : ∀ message state, (discord.service.serve message state).1 = .ok () →
    discord.messages (discord.service.serve message state).2 = discord.messages state \ {message}
  refused : ∀ message state failure, (discord.service.serve message state).1 = .error failure →
    discord.messages (discord.service.serve message state).2 = discord.messages state
  unknown : ∀ message state code,
    (discord.service.serve message state).1 = .error (.http (.response 404 code)) →
      message ∉ discord.messages state

/-! ## The task -/

/-- An attempt after which the task tries again, if it may. -/
def again : Except CallFailure Unit → Bool
  | .ok _ => false
  | .error (.http (.response status _)) => status ≠ 404 && status ≠ 401 && status ≠ 403
  | .error _ => true

/-- An attempt after which the task is content: the message is deleted, or unknown. -/
def content : Except CallFailure Unit → Bool
  | .ok _ => true
  | .error (.http (.response status _)) => status = 404
  | .error _ => false

/-- What a deletion has come to: how the attempts came out, and whether the task warns. -/
structure Retirement where
  attempts : List (Except CallFailure Unit)
  warned : Bool

/-- The task of `delete_panel`, with one fate for each of the attempts that it may make. It
returns at the first that it is content with, and warns if there was none. -/
def deletePanel (message : MessageRef) (first second third : Fate CallFailure) (state : σ) :
    Retirement × σ :=
  let tried := discord.service.retry message again [first, second, third] state
  (⟨tried.1, !tried.1.any content⟩, tried.2)

variable {discord} {message : MessageRef} {state : σ}

/-- The task is content if Discord says that the message is deleted, or that there is none. -/
theorem content_iff {outcome : Except CallFailure Unit} : content outcome = true ↔
    outcome = .ok () ∨ ∃ code, outcome = .error (.http (.response 404 code)) := by
  rcases outcome with (_ | (⟨status, code⟩ | _ | _ | _ | _) | _) | _ <;> simp [content]

theorem again_of_content {outcome : Except CallFailure Unit} (h : content outcome = true) :
    again outcome = false := by
  rcases content_iff.mp h with rfl | ⟨code, rfl⟩
  · rfl
  · rfl

/-- An attempt that ends the task without content was forbidden. -/
theorem forbidden_of_stop {outcome : Except CallFailure Unit} (hstop : again outcome = false)
    (hcontent : content outcome = false) : ∃ status code, (status = 401 ∨ status = 403) ∧
      outcome = .error (.http (.response status code)) := by
  rcases outcome with (_ | (⟨status, code⟩ | _ | _ | _ | _) | _) | _
  case error.http.response =>
    refine ⟨status, code, ?_, rfl⟩
    simp only [content, decide_eq_false_iff_not] at hcontent
    simp only [again, ne_eq, decide_not, Bool.and_eq_false_iff, Bool.not_eq_false',
      decide_eq_true_eq] at hstop
    omega
  case ok => cases hcontent
  all_goals cases hstop

/-- A call whose answer does not come back does not look like one that is done. -/
def Honest (fate : Fate CallFailure) : Prop :=
  ∀ failure, fate = .lost failure ∨ fate = .unheard failure → content (.error failure) = false

/-- The task is content with an attempt only if Discord answered it. -/
theorem answered_of_content {fate : Fate CallFailure} (hhonest : Honest fate)
    (h : content (discord.service.call message fate state).1 = true) : fate = .answered := by
  cases fate with
  | answered => rfl
  | unheard failure =>
      have hcontent : content (.error failure) = true := h
      rw [hhonest failure (.inr rfl)] at hcontent
      cases hcontent
  | lost failure =>
      have hcontent : content (.error failure) = true := h
      rw [hhonest failure (.inl rfl)] at hcontent
      cases hcontent

namespace Documented

variable (h : discord.Documented)
include h

/-- Carrying out a deletion leaves all other messages alone. -/
theorem mem_serve_iff {other : MessageRef} (hother : other ≠ message) (state : σ) :
    other ∈ discord.messages (discord.service.serve message state).2 ↔
      other ∈ discord.messages state := by
  cases hserved : (discord.service.serve message state).1 with
  | ok _ =>
      rw [h.deleted message state hserved]
      exact ⟨fun hmem => hmem.1, fun hmem => ⟨hmem, hother⟩⟩
  | error failure => rw [h.refused message state failure hserved]

/-- Where the task is content with Discord's answer, the message is gone. -/
theorem gone_of_content (hcontent : content (discord.service.serve message state).1 = true) :
    message ∉ discord.messages (discord.service.serve message state).2 := by
  rcases content_iff.mp hcontent with hserved | ⟨code, hserved⟩
  · rw [h.deleted message state hserved]
    exact fun hmem => hmem.2 rfl
  · rw [h.refused message state _ hserved]
    exact h.unknown message state code hserved

/-- If an attempt was content, the message is gone. -/
theorem gone_of_attempt {fates : List (Fate CallFailure)}
    (hhonest : ∀ fate ∈ fates, Honest fate)
    (hattempt : ∃ outcome ∈ (discord.service.retry message again fates state).1,
      content outcome = true) :
    message ∉ discord.messages (discord.service.retry message again fates state).2 := by
  induction fates generalizing state with
  | nil =>
      obtain ⟨outcome, hmem, -⟩ := hattempt
      cases hmem
  | cons fate fates ih =>
      obtain ⟨outcome, hmem, hcontent⟩ := hattempt
      rw [Service.retry] at hmem ⊢
      dsimp only at hmem ⊢
      split
      · rename_i hagain
        rw [if_pos hagain] at hmem
        rcases List.mem_cons.mp hmem with rfl | hrest
        · rw [again_of_content hcontent] at hagain
          cases hagain
        · exact ih (fun other hother => hhonest other (List.mem_cons_of_mem fate hother))
            ⟨outcome, hrest, hcontent⟩
      · rename_i hdone
        rw [if_neg hdone, List.mem_singleton] at hmem
        rw [hmem] at hcontent
        have hanswered := answered_of_content (hhonest fate List.mem_cons_self) hcontent
        rw [hanswered] at hcontent ⊢
        exact h.gone_of_content hcontent

end Documented

/-- How the task of a deletion comes out. -/
structure Retired (discord : Deletions σ) (message : MessageRef) (state : σ)
    (task : Retirement × σ) : Prop where
  attempts : 1 ≤ task.1.attempts.length ∧ task.1.attempts.length ≤ 3
  others : ∀ other, other ≠ message →
    (other ∈ discord.messages task.2 ↔ other ∈ discord.messages state)
  gone : task.1.warned = false → message ∉ discord.messages task.2
  givenUp : task.1.warned = true → task.1.attempts.length = 3 ∨ ∃ status code,
    (status = 401 ∨ status = 403) ∧ .error (.http (.response status code)) ∈ task.1.attempts

/-- Whatever becomes of its attempts, of which it makes one to three, the task deletes no
other message; unless it warns, the message is gone; and it warns only when Discord forbids
the deletion or three attempts failed. -/
theorem deletePanel_retired (h : discord.Documented) (message : MessageRef) (state : σ)
    (first second third : Fate CallFailure)
    (hhonest : ∀ fate ∈ [first, second, third], Honest fate) :
    discord.Retired message state (discord.deletePanel message first second third state) := by
  refine ⟨⟨?_, Service.length_retry_le _ _⟩, fun other hother => ?_, fun hwarned => ?_,
    fun hwarned => ?_⟩
  · rw [deletePanel, Service.retry]
    dsimp only
    split
    · exact Nat.succ_pos _
    · exact le_rfl
  · refine Service.retry_keeps (motive := fun later =>
      other ∈ discord.messages later ↔ other ∈ discord.messages state) ?_ _ Iff.rfl
    intro later hlater
    exact (h.mem_serve_iff hother later).trans hlater
  · rw [deletePanel, Bool.not_eq_false', List.any_eq_true] at hwarned
    exact h.gone_of_attempt hhonest hwarned
  · have hfailed : ∀ outcome ∈
        (discord.service.retry message again [first, second, third] state).1,
        content outcome = false := by
      rw [deletePanel, Bool.not_eq_true', List.any_eq_false] at hwarned
      exact fun outcome hmem => Bool.eq_false_iff.mpr (hwarned outcome hmem)
    by_cases hagain : ∀ outcome ∈
        (discord.service.retry message again [first, second, third] state).1,
        again outcome = true
    · exact .inl (Service.retry_exhausted hagain)
    · push Not at hagain
      obtain ⟨outcome, hmem, hstop⟩ := hagain
      obtain ⟨status, code, hstatus, rfl⟩ := forbidden_of_stop (Bool.eq_false_iff.mpr hstop)
        (hfailed outcome hmem)
      exact .inr ⟨status, code, hstatus, hmem⟩

end Deletions

/-! ## One such service -/

/-- The messages of one channel. -/
structure Board where
  messages : Finset MessageRef

namespace Board

/-- A service that does what is documented: it deletes a message that is there, and knows no
other. -/
def serve (message : MessageRef) (board : Board) : Except CallFailure Unit × Board :=
  if message ∈ board.messages then (.ok (), ⟨board.messages.erase message⟩)
  else (refusal 404 10008, board)

def deletions : Deletions Board := ⟨⟨serve⟩, fun board => ↑board.messages⟩

theorem documented_deletions : deletions.Documented where
  deleted := by
    intro message board hserved
    change (serve message board).1 = _ at hserved
    change ((serve message board).2.messages : Set MessageRef) = _
    rw [serve] at hserved ⊢
    split
    · exact Finset.coe_erase _ _
    · rename_i habsent
      rw [if_neg habsent] at hserved
      cases hserved
  refused := by
    intro message board failure hserved
    change (serve message board).1 = _ at hserved
    change ((serve message board).2.messages : Set MessageRef) = _
    rw [serve] at hserved ⊢
    split
    · rename_i hmem
      rw [if_pos hmem] at hserved
      cases hserved
    · rfl
  unknown := by
    intro message board code hserved hmem
    change (serve message board).1 = _ at hserved
    rw [serve, if_pos (Finset.mem_coe.mp hmem)] at hserved
    cases hserved

end Board

/-- The first answer gets lost, and the second attempt finds the message gone. -/
theorem Deletions.deletePanel_unheard : (⟨1, 2⟩ : MessageRef) ∉ Board.deletions.messages
    (Board.deletions.deletePanel ⟨1, 2⟩ (.unheard .elapsed) .answered .answered
      ⟨{⟨1, 2⟩}⟩).2 := by
  have hhonest : ∀ fate ∈ ([.unheard .elapsed, .answered, .answered] : List _), Honest fate := by
    intro fate hmem failure hfate
    simp only [List.mem_cons, List.not_mem_nil, or_false] at hmem
    rcases hmem with rfl | rfl | rfl
    · rcases hfate with habsurd | heq
      · cases habsurd
      · cases heq
        rfl
    · rcases hfate with habsurd | habsurd
      · cases habsurd
      · cases habsurd
    · rcases hfate with habsurd | habsurd
      · cases habsurd
      · cases habsurd
  have hretired := deletePanel_retired Board.documented_deletions ⟨1, 2⟩ ⟨{⟨1, 2⟩}⟩
    (.unheard .elapsed) .answered .answered hhonest
  exact hretired.gone (by decide)

end Raydio.Session
