/-
# Scripts that can be killed

A script performs operations on files, asks questions whose answers it does not control,
and reports what it has done. It stops at the first operation that fails, and it may be
killed before any operation and while it waits for any answer. What a script ensures is
said of every way it can end, and follows from what its parts ensure.
-/

import Mathlib

namespace Raydio.Foundation

/-- How a script ends. -/
inductive Ending (α : Type)
  | done (a : α)
  | failed
  | killed

/-- What a script does not control. -/
structure Setting (ω : Type) where
  /-- The script is killed before this operation, by the number of operations before. -/
  killed : ℕ → ω → Bool
  /-- The answers, by the number of questions before; none if the script is killed while
  it waits. -/
  answer : ℕ → Option Bool

/-- What a script works on. -/
structure Desk (σ ρ : Type) where
  files : σ
  operations : ℕ
  questions : ℕ
  reports : List ρ

/-- A script on files `σ` with operations `ω` and reports `ρ`. -/
def Script (σ ω ρ α : Type) : Type := Setting ω → Desk σ ρ → Ending α × Desk σ ρ

namespace Script

variable {σ ω ρ α β : Type}

instance : Monad (Script σ ω ρ) where
  pure a := fun _ desk => (.done a, desk)
  bind script rest := fun setting desk =>
    match script setting desk with
    | (.done a, desk) => rest a setting desk
    | (.failed, desk) => (.failed, desk)
    | (.killed, desk) => (.killed, desk)

/-- Look at the files. -/
def files : Script σ ω ρ σ := fun _ desk => (.done desk.files, desk)

/-- Stop. -/
def fail : Script σ ω ρ α := fun _ desk => (.failed, desk)

/-- Report. -/
def report (line : ρ) : Script σ ω ρ Unit := fun _ desk =>
  (.done (), { desk with reports := desk.reports ++ [line] })

/-- Ask a question. -/
def ask : Script σ ω ρ Bool := fun setting desk =>
  let asked := { desk with questions := desk.questions + 1 }
  match setting.answer desk.questions with
  | some yes => (.done yes, asked)
  | none => (.killed, asked)

/-- Perform an operation with this effect. -/
def perform (effect : ω → σ → Option σ) (operation : ω) : Script σ ω ρ Unit :=
  fun setting desk =>
    if setting.killed desk.operations operation then (.killed, desk)
    else
      let performed := { desk with operations := desk.operations + 1 }
      match effect operation desk.files with
      | some files => (.done (), { performed with files := files })
      | none => (.failed, performed)

/-! ## What a script ensures -/

variable {setting : Setting ω} {desk : Desk σ ρ}

/-- The script, started at this desk, ends with this condition. -/
def Ends (script : Script σ ω ρ α) (setting : Setting ω) (desk : Desk σ ρ)
    (post : Ending α → Desk σ ρ → Prop) : Prop :=
  post (script setting desk).1 (script setting desk).2

/-- The first part of a script ends with its own condition. Where it is done, the rest
goes on from there; where it is not, the script ends as it does. -/
theorem Ends.bind {script : Script σ ω ρ α} {rest : α → Script σ ω ρ β}
    {middle : Ending α → Desk σ ρ → Prop} {post : Ending β → Desk σ ρ → Prop}
    (h : script.Ends setting desk middle)
    (done : ∀ a after, middle (.done a) after → (rest a).Ends setting after post)
    (failed : ∀ after, middle .failed after → post .failed after)
    (killed : ∀ after, middle .killed after → post .killed after) :
    (script >>= rest).Ends setting desk post := by
  unfold Ends at h ⊢
  simp only [Bind.bind]
  generalize script setting desk = ended at h
  obtain ⟨ending, after⟩ := ended
  cases ending with
  | done a => exact done a after h
  | failed => exact failed after h
  | killed => exact killed after h

/-- What every part of a script keeps, however it ends, the script keeps. -/
theorem Ends.seq {script : Script σ ω ρ α} {rest : α → Script σ ω ρ β}
    {invariant : Desk σ ρ → Prop} (h : script.Ends setting desk fun _ after => invariant after)
    (hrest : ∀ a after, invariant after →
      (rest a).Ends setting after fun _ after => invariant after) :
    (script >>= rest).Ends setting desk fun _ after => invariant after :=
  h.bind hrest (fun _ h => h) (fun _ h => h)

theorem Ends.mono {script : Script σ ω ρ α} {post post' : Ending α → Desk σ ρ → Prop}
    (h : script.Ends setting desk post) (imp : ∀ ending after, post ending after →
      post' ending after) : script.Ends setting desk post' :=
  imp _ _ h

/-- What a script ensures, and what else it ensures. -/
theorem Ends.and {script : Script σ ω ρ α} {post post' : Ending α → Desk σ ρ → Prop}
    (h : script.Ends setting desk post) (h' : script.Ends setting desk post') :
    script.Ends setting desk fun ending after => post ending after ∧ post' ending after :=
  ⟨h, h'⟩

@[simp]
theorem ends_pure (a : α) (post : Ending α → Desk σ ρ → Prop) :
    (pure a : Script σ ω ρ α).Ends setting desk post ↔ post (.done a) desk := Iff.rfl

@[simp]
theorem ends_fail (post : Ending α → Desk σ ρ → Prop) :
    (fail : Script σ ω ρ α).Ends setting desk post ↔ post .failed desk := Iff.rfl

/-- What the rest of a script ensures with the files as they are. -/
@[simp]
theorem ends_files_bind (rest : σ → Script σ ω ρ α) (post : Ending α → Desk σ ρ → Prop) :
    (files >>= rest).Ends setting desk post ↔ (rest desk.files).Ends setting desk post := Iff.rfl

@[simp]
theorem ends_report_bind (line : ρ) (rest : Unit → Script σ ω ρ α)
    (post : Ending α → Desk σ ρ → Prop) :
    (report line >>= rest).Ends setting desk post ↔
      (rest ()).Ends setting { desk with reports := desk.reports ++ [line] } post := Iff.rfl

@[simp]
theorem ends_report (line : ρ) (post : Ending Unit → Desk σ ρ → Prop) :
    (report line : Script σ ω ρ Unit).Ends setting desk post ↔
      post (.done ()) { desk with reports := desk.reports ++ [line] } := Iff.rfl

/-- A question changes neither the files nor the reports, and does not fail. -/
theorem ends_ask : (ask : Script σ ω ρ Bool).Ends setting desk fun ending after =>
    after.files = desk.files ∧ after.reports = desk.reports ∧ ending ≠ .failed := by
  unfold Ends ask
  cases setting.answer desk.questions with
  | some yes => exact ⟨rfl, rfl, nofun⟩
  | none => exact ⟨rfl, rfl, nofun⟩

/-- An operation is performed, has failed, or was not begun. -/
theorem ends_perform (effect : ω → σ → Option σ) (operation : ω) :
    (perform effect operation : Script σ ω ρ Unit).Ends setting desk fun ending after =>
      after.reports = desk.reports ∧
        match ending with
        | .done _ => effect operation desk.files = some after.files
        | .failed => effect operation desk.files = none ∧ after.files = desk.files
        | .killed =>
            setting.killed desk.operations operation = true ∧ after.files = desk.files := by
  unfold Ends perform
  split
  · rename_i hkilled
    exact ⟨rfl, hkilled, rfl⟩
  · simp only
    cases heffect : effect operation desk.files with
    | some files => exact ⟨rfl, rfl⟩
    | none => exact ⟨rfl, rfl, rfl⟩

/-! ## How many operations a script performs -/

/-- A script that comes to its end has performed so many operations. -/
def Performs (script : Script σ ω ρ α) (count : ℕ) : Prop :=
  ∀ setting desk, script.Ends setting desk fun ending after =>
    ∀ a, ending = .done a → after.operations = desk.operations + count

theorem performs_pure (a : α) : (pure a : Script σ ω ρ α).Performs 0 :=
  fun _ _ _ _ => rfl

theorem performs_fail (count : ℕ) : (fail : Script σ ω ρ α).Performs count := by
  intro setting desk a hdone
  cases hdone

theorem performs_ask : (ask : Script σ ω ρ Bool).Performs 0 := by
  intro setting desk
  unfold Ends ask
  cases setting.answer desk.questions with
  | some yes => exact fun _ _ => rfl
  | none => exact fun _ hdone => nomatch hdone

theorem performs_perform (effect : ω → σ → Option σ) (operation : ω) :
    (perform effect operation : Script σ ω ρ Unit).Performs 1 := by
  intro setting desk
  unfold Ends perform
  split
  · exact fun _ hdone => nomatch hdone
  · simp only
    cases effect operation desk.files with
    | some files => exact fun _ _ => rfl
    | none => exact fun _ hdone => nomatch hdone

theorem Performs.bind {script : Script σ ω ρ α} {rest : α → Script σ ω ρ β} {first second : ℕ}
    (h : script.Performs first) (hrest : ∀ a, (rest a).Performs second) :
    (script >>= rest).Performs (first + second) := by
  intro setting desk
  refine Ends.bind (h setting desk) ?_ ?_ ?_
  · intro a after hafter
    refine (hrest a setting after).mono ?_
    intro ending last hlast b hdone
    rw [hlast b hdone, hafter a rfl, Nat.add_assoc]
  · intro after _ b hdone
    cases hdone
  · intro after _ b hdone
    cases hdone

end Script

end Raydio.Foundation
