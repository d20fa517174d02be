/-
# Sets of joinable tasks

`tokio::task::JoinSet` as data. A task is spawned with a tag, runs on its own and
ends at some moment chosen by its environment; it stays in the set until its
result is joined. `abortAll` only asks: a task that has already ended keeps its
result, and a task that is being polled on another thread may still finish or
panic before the request reaches it. A task ends as cancelled only if it was asked.
-/

import Mathlib

namespace Raydio.Foundation

universe u v

/-- How a task ended: `Result<T, JoinError>`. -/
inductive Joined (α : Type u)
  | finished (a : α)
  | cancelled
  | panicked
  deriving DecidableEq, Repr

/-- A spawned task. `tag` is what its spawner knows about it. -/
structure Task (τ : Type u) (α : Type v) where
  tag : τ
  aborted : Bool
  ended : Option (Joined α)
  deriving DecidableEq, Repr

/-- The tasks that have been spawned and not yet joined, oldest first. -/
@[ext]
structure JoinSet (τ : Type u) (α : Type v) where
  tasks : List (Task τ α)
  deriving DecidableEq, Repr

namespace JoinSet

variable {τ : Type u} {α : Type v}

/-- `JoinSet::new`. -/
def new : JoinSet τ α := ⟨[]⟩

/-- `JoinSet::len`, counting the tasks that ended but were not joined. -/
def len (set : JoinSet τ α) : ℕ := set.tasks.length

/-- `JoinSet::is_empty`. -/
def isEmpty (set : JoinSet τ α) : Bool := set.tasks.isEmpty

/-- `JoinSet::spawn`. -/
def spawn (set : JoinSet τ α) (tag : τ) : JoinSet τ α :=
  ⟨set.tasks ++ [⟨tag, false, none⟩]⟩

/-- Spawn one task after the other. -/
def spawnAll (set : JoinSet τ α) (tags : List τ) : JoinSet τ α :=
  ⟨set.tasks ++ tags.map fun tag => ⟨tag, false, none⟩⟩

/-- `JoinSet::abort_all`. -/
def abortAll (set : JoinSet τ α) : JoinSet τ α :=
  ⟨set.tasks.map fun task => { task with aborted := true }⟩

/-- The outcome `how` is one the task can have now. -/
def Task.canEnd (task : Task τ α) : Joined α → Bool
  | .cancelled => task.ended.isNone && task.aborted
  | _ => task.ended.isNone

/-- The task at `index` ends on its own; impossible endings leave the set alone. -/
def finish (set : JoinSet τ α) (index : ℕ) (how : τ → Joined α) : JoinSet τ α :=
  ⟨set.tasks.modify index fun task =>
    if Task.canEnd task (how task.tag) then { task with ended := some (how task.tag) } else task⟩

/-- `JoinSet::join_next` when the task at `index` is the one that is ready. -/
def joinNext (set : JoinSet τ α) (index : ℕ) : Option (Task τ α × Joined α × JoinSet τ α) :=
  match set.tasks[index]? with
  | none => none
  | some task => task.ended.map fun how => (task, how, ⟨set.tasks.eraseIdx index⟩)

/-- `join_next().await`: the task chosen by `pick` is ready, or becomes ready with
the outcome `how`. -/
def joinAwaited (set : JoinSet τ α) (pick : ℕ) (how : Joined α) :
    Option (Task τ α × Joined α × JoinSet τ α) :=
  match set.tasks[pick % set.tasks.length]? with
  | none => none
  | some task =>
      some (task, task.ended.getD how, ⟨set.tasks.eraseIdx (pick % set.tasks.length)⟩)

@[simp]
theorem tasks_spawn (set : JoinSet τ α) (tag : τ) :
    (set.spawn tag).tasks = set.tasks ++ [⟨tag, false, none⟩] := rfl

@[simp]
theorem spawnAll_nil (set : JoinSet τ α) : set.spawnAll [] = set := by
  cases set
  simp [spawnAll]

theorem spawnAll_cons (set : JoinSet τ α) (tag : τ) (tags : List τ) :
    set.spawnAll (tag :: tags) = (set.spawn tag).spawnAll tags := by
  simp [spawnAll]

@[simp]
theorem len_spawn (set : JoinSet τ α) (tag : τ) : (set.spawn tag).len = set.len + 1 := by
  simp [len]

/-- The tasks an abort leaves are the old ones, marked. -/
theorem mem_abortAll {set : JoinSet τ α} {task : Task τ α} :
    task ∈ set.abortAll.tasks ↔ ∃ old ∈ set.tasks, task = { old with aborted := true } := by
  simp [abortAll, eq_comm]

/-- A task ends once. -/
theorem Task.ended_of_canEnd {task : Task τ α} {how : Joined α} (h : canEnd task how = true) :
    task.ended = none := by
  cases how <;> simp_all [canEnd]

/-- A task that cannot end like this, or is not there, leaves the set as it is. -/
theorem finish_of_not {set : JoinSet τ α} {index : ℕ} {how : τ → Joined α}
    (h : ∀ task, set.tasks[index]? = some task → Task.canEnd task (how task.tag) = false) :
    set.finish index how = set := by
  apply JoinSet.ext
  apply List.ext_getElem
  · simp [finish]
  · intro position hleft hright
    simp only [finish, List.getElem_modify]
    by_cases hsame : index = position
    · subst hsame
      simp [h _ (List.getElem?_eq_getElem hright)]
    · simp [hsame]

theorem isEmpty_iff {set : JoinSet τ α} : set.isEmpty = true ↔ set = .new := by
  cases set
  simp [isEmpty, new]

theorem len_eq_zero {set : JoinSet τ α} : set.len = 0 ↔ set = .new := by
  cases set
  simp [len, new]

/-- A task that is waited for leaves the set, if there is one. -/
theorem joinAwaited_none {set : JoinSet τ α} {pick : ℕ} {how : Joined α} :
    set.joinAwaited pick how = none ↔ set = .new := by
  cases set with
  | mk tasks =>
      cases tasks with
      | nil => simp [joinAwaited, new]
      | cons first rest =>
          have hlt : pick % (first :: rest).length < (first :: rest).length :=
            Nat.mod_lt _ (by simp)
          simp only [joinAwaited, List.getElem?_eq_getElem hlt]
          simp [new]

theorem joinAwaited_some {set left : JoinSet τ α} {pick : ℕ} {how outcome : Joined α}
    {task : Task τ α} (h : set.joinAwaited pick how = some (task, outcome, left)) :
    ∃ index, set.tasks[index]? = some task ∧ left = ⟨set.tasks.eraseIdx index⟩ := by
  simp only [joinAwaited] at h
  split at h
  · cases h
  · rename_i found hfound
    cases h
    exact ⟨_, hfound, rfl⟩

theorem joinNext_some {set left : JoinSet τ α} {index : ℕ} {outcome : Joined α}
    {task : Task τ α} (h : set.joinNext index = some (task, outcome, left)) :
    set.tasks[index]? = some task ∧ task.ended = some outcome ∧
      left = ⟨set.tasks.eraseIdx index⟩ := by
  simp only [joinNext] at h
  split at h
  · cases h
  · rename_i found hfound
    obtain ⟨how, hended, heq⟩ := Option.map_eq_some_iff.mp h
    cases heq
    exact ⟨hfound, hended, rfl⟩

/-- A task that is found is one fewer in the set without it. -/
theorem len_eraseIdx {set : JoinSet τ α} {index : ℕ} {task : Task τ α}
    (h : set.tasks[index]? = some task) :
      set.tasks.length = (set.tasks.eraseIdx index).length + 1 := by
  obtain ⟨hlt, -⟩ := List.getElem?_eq_some_iff.mp h
  rw [List.length_eraseIdx_of_lt hlt]
  omega

/-! ## Who was asked to stop -/

/-- The tags, with whether an abort was asked for. -/
def marks (set : JoinSet τ α) : List (τ × Bool) :=
  set.tasks.map fun task => (task.tag, task.aborted)

@[simp]
theorem marks_spawn (set : JoinSet τ α) (tag : τ) :
    (set.spawn tag).marks = set.marks ++ [(tag, false)] := by
  simp [marks]

@[simp]
theorem marks_spawnAll (set : JoinSet τ α) (tags : List τ) :
    (set.spawnAll tags).marks = set.marks ++ tags.map fun tag => (tag, false) := by
  simp [marks, spawnAll]

@[simp]
theorem marks_abortAll (set : JoinSet τ α) :
    set.abortAll.marks = set.marks.map fun mark => (mark.1, true) := by
  simp [marks, abortAll]

theorem mem_marks_abortAll {set : JoinSet τ α} {mark : τ × Bool}
    (h : mark ∈ set.abortAll.marks) : mark.2 = true ∧ ∃ asked, (mark.1, asked) ∈ set.marks := by
  obtain ⟨task, hmem, rfl⟩ := List.mem_map.mp h
  obtain ⟨old, hold, rfl⟩ := mem_abortAll.mp hmem
  exact ⟨rfl, old.aborted, List.mem_map.mpr ⟨old, hold, rfl⟩⟩

/-- Ending a task asks nobody to stop. -/
@[simp]
theorem marks_finish (set : JoinSet τ α) (index : ℕ) (how : τ → Joined α) :
    (set.finish index how).marks = set.marks := by
  apply List.ext_getElem
  · simp [marks, finish]
  · intro position hleft hright
    simp only [marks, finish, List.getElem_map, List.getElem_modify]
    split
    · split <;> rfl
    · rfl

/-- A task that ends keeps its tag. -/
theorem mem_finish {set : JoinSet τ α} {index : ℕ} {how : τ → Joined α} {task : Task τ α}
    (h : task ∈ (set.finish index how).tasks) : ∃ old ∈ set.tasks, old.tag = task.tag := by
  have hmark : (task.tag, task.aborted) ∈ (set.finish index how).marks :=
    List.mem_map.mpr ⟨task, h, rfl⟩
  rw [marks_finish] at hmark
  obtain ⟨old, hold, heq⟩ := List.mem_map.mp hmark
  exact ⟨old, hold, congrArg Prod.fst heq⟩

/-- Joining takes out one task. -/
theorem marks_joinNext {set rest : JoinSet τ α} {index : ℕ} {task : Task τ α} {how : Joined α}
    (h : set.joinNext index = some (task, how, rest)) :
    ((task.tag, task.aborted) :: rest.marks).Perm set.marks := by
  simp only [joinNext] at h
  split at h
  · cases h
  · rename_i found hfound
    obtain ⟨hlt, rfl⟩ := List.getElem?_eq_some_iff.mp hfound
    obtain ⟨outcome, -, heq⟩ := Option.map_eq_some_iff.mp h
    cases heq
    exact (List.getElem_cons_eraseIdx_perm hlt).map fun task => (task.tag, task.aborted)

end JoinSet

end Raydio.Foundation
