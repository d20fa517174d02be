/-
# What is taken to be prepared

At most one request to prepare the next track is under way, and what a session takes
to be prepared is what the node accepted last since the last cleanup. A stop does not
matter to this: it leaves the player, so that an acceptance that it overtook counts.
A cleanup does: it drains the requests, finished or not, so that none of them is
remembered afterwards.
-/

import Raydio.Session.Upkeep

namespace Raydio.Session

open Raydio.Foundation

namespace Intent

/-- The number of a request that was issued. -/
def issuedNumber : Intent → Option ℕ
  | issued number _ => some number
  | _ => none

def acceptedTarget : Intent → Option (Option String)
  | accepted _ target => some target
  | _ => none

def rememberedTarget : Intent → Option (Option String)
  | remembered _ target => some target
  | _ => none

/-- The numbers of the requests, as they were issued. -/
def issuedNumbers (intents : List Intent) : List ℕ := intents.filterMap issuedNumber

/-- The target of the request that was accepted last, nothing if none was. -/
def lastAccepted (intents : List Intent) : Option String :=
  (intents.filterMap acceptedTarget).getLast?.join

/-- The target of the request that was remembered last, nothing if none was. -/
def lastRemembered (intents : List Intent) : Option String :=
  (intents.filterMap rememberedTarget).getLast?.join

/-- What happened since the last cleanup. -/
def recent (intents : List Intent) : List Intent :=
  intents.rtakeWhile fun intent => decide (intent ≠ cleaned)

variable (intents : List Intent)

@[simp]
theorem recent_cleaned : recent (intents ++ [cleaned]) = [] :=
  List.rtakeWhile_concat_neg _ _ _ (by simp)

@[simp]
theorem recent_concat {intent : Intent} (h : intent ≠ cleaned) :
    recent (intents ++ [intent]) = recent intents ++ [intent] :=
  List.rtakeWhile_concat_pos _ _ _ (by simpa using h)

@[simp]
theorem lastAccepted_concat (intent : Intent) :
    lastAccepted (intents ++ [intent]) =
      match intent with
      | accepted _ target => target
      | _ => lastAccepted intents := by
  cases intent <;> simp [lastAccepted, acceptedTarget]

@[simp]
theorem lastRemembered_concat (intent : Intent) :
    lastRemembered (intents ++ [intent]) =
      match intent with
      | remembered _ target => target
      | _ => lastRemembered intents := by
  cases intent <;> simp [lastRemembered, rememberedTarget]

@[simp]
theorem issuedNumbers_concat (intent : Intent) :
    issuedNumbers (intents ++ [intent]) = issuedNumbers intents ++ intent.issuedNumber.toList := by
  cases intent <;> simp [issuedNumbers, issuedNumber]

end Intent

namespace Preparation

open Intent

/-- What the request that is under way says about what was accepted last. -/
def Pending (self : Preparation) (task : Task Preparing Bool) : Prop :=
  if task.ended = some (.finished true) then
    .accepted task.tag.number task.tag.target ∈ recent self.intents ∧
      lastAccepted (recent self.intents) = task.tag.target
  else self.preparationTarget = lastAccepted (recent self.intents)

/-- What is remembered goes back to the last cleanup and no further. -/
structure Intended (preparation : Preparation) : Prop where
  target : preparation.preparationTarget = lastRemembered (recent preparation.intents)
  remembered : ∀ number target, .remembered number target ∈ recent preparation.intents →
    .issued number target ∈ recent preparation.intents ∧
      .accepted number target ∈ recent preparation.intents
  numbers : issuedNumbers preparation.intents = List.range' 1 preparation.requests
  idle : preparation.preparations = .new →
    preparation.preparationTarget = lastAccepted (recent preparation.intents)
  busy : preparation.preparations = .new ∨ ∃ task, preparation.preparations.tasks = [task] ∧
    .issued task.tag.number task.tag.target ∈ recent preparation.intents ∧ preparation.Pending task

variable {self : Preparation}

theorem Intended.forgotten (h : self.Intended) (retry : ℕ) : (self.forgotten retry).Intended where
  target := by simp [Preparation.forgotten, lastRemembered]
  remembered := by simp [Preparation.forgotten]
  numbers := by simp [Preparation.forgotten, h.numbers, issuedNumber]
  idle := by simp [Preparation.forgotten, lastAccepted]
  busy := Or.inl rfl

/-- One more event that is neither a cleanup nor a memory leaves what is remembered. -/
theorem Intended.remembered_concat (h : self.Intended) {intent : Intent} (hne : intent ≠ cleaned)
    (hnot : intent.rememberedTarget = none) (number : ℕ) (target : Option String)
    (hmem : .remembered number target ∈ recent (self.intents ++ [intent])) :
    .issued number target ∈ recent (self.intents ++ [intent]) ∧
      .accepted number target ∈ recent (self.intents ++ [intent]) := by
  rw [recent_concat _ hne, List.mem_append] at hmem ⊢
  rcases hmem with hmem | hmem
  · obtain ⟨hissued, haccepted⟩ := h.remembered number target hmem
    exact ⟨Or.inl hissued, List.mem_append_left _ haccepted⟩
  · rw [List.mem_singleton] at hmem
    rw [← hmem] at hnot
    cases hnot

/-- A request is issued while none is under way. -/
theorem Intended.issue (h : self.Intended) (hidle : self.preparations = .new) (epoch : ℕ)
    (target : Option String) :
    Intended { self with
      preparations := self.preparations.spawn ⟨epoch, target, self.requests + 1⟩
      requests := self.requests + 1
      intents := self.intents ++ [.issued (self.requests + 1) target] } where
  target := by simp [h.target]
  remembered := h.remembered_concat (by simp) rfl
  numbers := by
    simp only [issuedNumbers_concat, h.numbers, issuedNumber, Option.toList_some]
    rw [List.range'_concat, Nat.one_mul, Nat.add_comm]
  idle := by
    intro hnew
    have htasks := congrArg JoinSet.tasks hnew
    simp [JoinSet.new] at htasks
  busy := by
    refine Or.inr ⟨⟨⟨epoch, target, self.requests + 1⟩, false, none⟩, ?_, ?_, ?_⟩
    · rw [hidle]
      rfl
    · simp
    · rw [Pending, if_neg (by simp)]
      simp [h.idle hidle]

/-- The request under way ends, and the node did not accept it. -/
theorem Intended.fail (h : self.Intended) {task ended : Task Preparing Bool}
    (htasks : self.preparations.tasks = [task]) (hopen : task.ended = none)
    (htag : ended.tag = task.tag) (hhow : ended.ended ≠ some (.finished true)) :
    Intended { self with preparations := ⟨[ended]⟩ } where
  target := h.target
  remembered := h.remembered
  numbers := h.numbers
  idle := by
    intro hnew
    cases hnew
  busy := by
    rcases h.busy with hnew | ⟨other, hother, hissued, hpending⟩
    · rw [hnew] at htasks
      cases htasks
    · rw [hother] at htasks
      cases htasks
      rw [Pending, if_neg (by simp [hopen])] at hpending
      refine Or.inr ⟨ended, rfl, htag ▸ hissued, ?_⟩
      rw [Pending, if_neg hhow]
      exact hpending

/-- The request under way ends, and the node accepted it. -/
theorem Intended.accept (h : self.Intended) {task : Task Preparing Bool}
    (htasks : self.preparations.tasks = [task]) :
    Intended { self with
      preparations := ⟨[{ task with ended := some (.finished true) }]⟩
      intents := self.intents ++ [.accepted task.tag.number task.tag.target] } where
  target := by simp [h.target]
  remembered := h.remembered_concat (by simp) rfl
  numbers := by simp [h.numbers, issuedNumber]
  idle := by
    intro hnew
    cases hnew
  busy := by
    rcases h.busy with hnew | ⟨other, hother, hissued, -⟩
    · rw [hnew] at htasks
      cases htasks
    · rw [hother] at htasks
      cases htasks
      refine Or.inr ⟨_, rfl, ?_, ?_⟩
      · simp [hissued]
      · rw [Pending, if_pos rfl]
        simp

/-- The task at an index comes to its end, if it can end like this. -/
theorem Intended.finish (h : self.Intended) (index : ℕ) (how : Joined Bool) :
    Intended { self with
      preparations := self.preparations.finish index fun _ => how
      intents := self.intents ++ self.accepting index how } := by
  rcases h.busy with hnew | ⟨task, htasks, -⟩
  · have hset : self.preparations.finish index (fun _ => how) = self.preparations := by
      simp [hnew, JoinSet.finish, JoinSet.new]
    have hnone : self.accepting index how = [] := by
      unfold accepting
      simp [hnew, JoinSet.new]
    rw [hset, hnone, List.append_nil]
    exact h
  · by_cases hcan : index = 0 ∧ JoinSet.Task.canEnd task how = true
    · obtain ⟨rfl, hcan⟩ := hcan
      have hopen : task.ended = none := JoinSet.Task.ended_of_canEnd hcan
      have hset : self.preparations.finish 0 (fun _ => how) =
          ⟨[{ task with ended := some how }]⟩ := by
        simp [JoinSet.finish, htasks, hcan]
      rw [hset]
      by_cases haccepts : how = .finished true
      · have hone : self.accepting 0 how = [.accepted task.tag.number task.tag.target] := by
          simp [accepting, htasks, haccepts, hopen]
        rw [hone, haccepts]
        exact h.accept htasks
      · have hnone : self.accepting 0 how = [] := by
          unfold accepting
          split
          · exact absurd rfl haccepts
          · rfl
        rw [hnone, List.append_nil]
        exact h.fail htasks hopen rfl (by simpa using haccepts)
    · have hnot (other : Task Preparing Bool)
          (hfound : self.preparations.tasks[index]? = some other) :
          JoinSet.Task.canEnd other how = false := by
        rw [htasks, List.getElem?_singleton] at hfound
        by_contra hends
        rw [Bool.not_eq_false] at hends
        split at hfound
        · rename_i hindex
          cases hfound
          exact hcan ⟨hindex, hends⟩
        · cases hfound
      have hnone : self.accepting index how = [] := by
        unfold accepting
        split
        · rename_i other hfound
          have hended : other.ended.isNone = false := hnot other hfound
          rw [hended]
          rfl
        · rfl
      rw [JoinSet.finish_of_not hnot, hnone, List.append_nil]
      exact h

/-- The request under way is joined, and nothing is under way then. -/
theorem Intended.joined (h : self.Intended) {index : ℕ} {task : Task Preparing Bool}
    {how : Joined Bool} {left : JoinSet Preparing Bool}
    (hjoin : self.preparations.joinNext index = some (task, how, left)) :
    left = .new ∧ task.ended = some how ∧
      .issued task.tag.number task.tag.target ∈ recent self.intents ∧ self.Pending task := by
  obtain ⟨hfound, hended, hleft⟩ := JoinSet.joinNext_some hjoin
  rcases h.busy with hnew | ⟨other, hother, hissued, hpending⟩
  · rw [hnew] at hfound
    cases hfound
  · rw [hother, List.getElem?_singleton] at hfound
    split at hfound
    · rename_i hindex
      cases hfound
      refine ⟨?_, hended, hissued, hpending⟩
      rw [hleft, hother, hindex]
      rfl
    · cases hfound

/-- The request that was accepted is remembered. -/
theorem Intended.remember (h : self.Intended) {index : ℕ} {task : Task Preparing Bool}
    {left : JoinSet Preparing Bool}
    (hjoin : self.preparations.joinNext index = some (task, .finished true, left)) :
    Intended { self with
      preparations := left, preparationTarget := task.tag.target
      intents := self.intents ++ [.remembered task.tag.number task.tag.target] } := by
  obtain ⟨rfl, hended, hissued, hpending⟩ := h.joined hjoin
  rw [Pending, if_pos hended] at hpending
  exact {
    target := by simp
    remembered := by
      intro number target hmem
      rw [recent_concat _ (by simp), List.mem_append] at hmem
      rw [recent_concat _ (by simp), List.mem_append, List.mem_append]
      rcases hmem with hmem | hmem
      · obtain ⟨hissued, haccepted⟩ := h.remembered number target hmem
        exact ⟨Or.inl hissued, Or.inl haccepted⟩
      · rw [List.mem_singleton, Intent.remembered.injEq] at hmem
        obtain ⟨rfl, rfl⟩ := hmem
        exact ⟨Or.inl hissued, Or.inl hpending.1⟩
    numbers := by simp [h.numbers, issuedNumber]
    idle := by
      intro _
      simp [hpending.2]
    busy := Or.inl rfl }

/-- A request that was not accepted is given up. -/
theorem Intended.giveUp (h : self.Intended) {index : ℕ} {task : Task Preparing Bool}
    {how : Joined Bool} {left : JoinSet Preparing Bool}
    (hjoin : self.preparations.joinNext index = some (task, how, left))
    (hhow : how ≠ .finished true) (retry : ℕ) :
    Intended { self with preparations := left, preparationRetry := retry } := by
  obtain ⟨rfl, hended, -, hpending⟩ := h.joined hjoin
  rw [Pending, hended, if_neg (by simpa using hhow)] at hpending
  exact ⟨h.target, h.remembered, h.numbers, fun _ => hpending, Or.inl rfl⟩

end Preparation

/-! ## Every run -/

namespace GuildSession

variable {self : GuildSession}

theorem Act.preparation {before after : GuildSession} (h : Act before after) :
    after.toPreparation = before.toPreparation ∨
      ∃ retry, after.toPreparation = before.toPreparation.forgotten retry := by
  cases h with
  | withdraw h =>
      cases h with
      | still h => exact Or.inl h.preparation
      | forget retry _ preparation => exact Or.inr ⟨retry, preparation⟩
      | drain _ preparation => exact Or.inl preparation
      | discard _ _ _ _ _ _ preparation => exact Or.inl preparation
  | settle _ _ _ _ _ preparation => exact Or.inl preparation
  | spawn _ _ _ _ _ _ _ preparation => exact Or.inl preparation
  | acknowledge _ _ _ preparation => exact Or.inl preparation
  | renew _ _ _ _ _ _ preparation => exact Or.inl preparation
  | adopt _ _ _ _ _ _ _ preparation => exact Or.inl preparation
  | replace _ _ _ _ _ _ _ _ _ _ _ preparation => exact Or.inl preparation
  | control _ _ _ preparation => exact Or.inl preparation
  | confirm _ _ _ _ _ _ _ preparation => exact Or.inl preparation
  | thin _ _ _ preparation => exact Or.inl preparation

/-- Acts remember nothing. -/
theorem intended_of_acts {first last : GuildSession} (h : Relation.ReflTransGen Act first last)
    (hfirst : first.toPreparation.Intended) : last.toPreparation.Intended := by
  induction h with
  | refl => exact hfirst
  | tail _ act ih =>
      rcases act.preparation with hsame | ⟨retry, hforgotten⟩
      · rw [hsame]
        exact ih
      · rw [hforgotten]
        exact ih.forgotten retry

theorem intended_prepareNext (h : self.toPreparation.Intended) :
    self.prepareNext.toPreparation.Intended := by
  rw [prepareNext]
  split
  · exact h
  · rename_i hguard
    split
    · exact h
    · simp only [Bool.or_eq_true, not_or, Bool.not_eq_true', Bool.not_eq_false] at hguard
      exact h.issue (JoinSet.isEmpty_iff.mp hguard.1) _ _

theorem intended_finishPreparation (h : self.toPreparation.Intended) {index : ℕ}
    {task : Task Preparing Bool} {how : Joined Bool} {left : JoinSet Preparing Bool}
    (hjoin : self.preparations.joinNext index = some (task, how, left)) :
    (({ self with preparations := left } : GuildSession).finishPreparation task.tag
      how).toPreparation.Intended := by
  cases how with
  | cancelled => exact h.giveUp hjoin (by simp) _
  | panicked => exact h.giveUp hjoin (by simp) _
  | finished accepted =>
      cases accepted with
      | true => exact h.remember hjoin
      | false =>
          simp only [finishPreparation]
          split
          · exact h.giveUp hjoin (by simp) _
          · exact h.giveUp hjoin (by simp) _

theorem intended_joinPreparation (h : self.toPreparation.Intended) {index : ℕ}
    {after : GuildSession} (hafter : self.handle (.joinPreparation index) = some after) :
    after.toPreparation.Intended := by
  simp only [handle] at hafter
  split at hafter
  · cases hafter
  · rename_i hjoin
    cases hafter
    exact intended_finishPreparation h hjoin

theorem intended_outside (h : self.toPreparation.Intended) (move : Outside) :
    (self.outside move).toPreparation.Intended := by
  cases move with
  | endPreparation index how => exact h.finish index how
  | _ => exact h

theorem intended_new (id : ℕ) (shared : Shared) : (new id shared).toPreparation.Intended where
  target := rfl
  remembered := by
    intro number target hmem
    cases hmem
  numbers := rfl
  idle := fun _ => rfl
  busy := Or.inl rfl

end GuildSession

open GuildSession Intent in
/-- At most one request is under way; while none is, what is taken to be prepared is what
the node accepted last since the last cleanup; and what determines it was issued, and
accepted, since then. -/
theorem Worker.run_intended (id : ℕ) (shared : Shared) (inputs : List Input) :
    ((Worker.start id shared).run inputs).Holds
      (fun session => session.preparations.len ≤ 1 ∧
        (session.preparations.isEmpty →
          session.preparationTarget = lastAccepted (recent session.intents)) ∧
        (issuedNumbers session.intents).Nodup ∧
        session.preparationTarget = lastRemembered (recent session.intents) ∧
        ∀ number target, .remembered number target ∈ recent session.intents →
          .issued number target ∈ recent session.intents ∧
            .accepted number target ∈ recent session.intents)
      fun _ => True := by
  have hrun := Worker.upkeep_rule (fun session => session.toPreparation.Intended) (fun _ => True)
    (fun _ _ hact h => intended_of_acts (.single hact) h)
    (fun _ move h => intended_outside h move) (fun _ h => intended_prepareNext h)
    (fun _ _ _ h hafter => intended_joinPreparation h hafter) (fun _ _ _ => trivial) inputs
    (show (Worker.start id shared).Holds _ _ from ⟨Nat.zero_le 1, intended_new id shared⟩)
  cases hworker : (Worker.start id shared).run inputs with
  | ended session => trivial
  | running session =>
      rw [hworker] at hrun
      obtain ⟨-, hintended⟩ := hrun
      refine ⟨?_, ?_, ?_, hintended.target, hintended.remembered⟩
      · rcases hintended.busy with hnew | ⟨task, htasks, -⟩
        · rw [hnew]
          exact Nat.zero_le 1
        · rw [JoinSet.len, htasks]
          rfl
      · intro hempty
        exact hintended.idle (JoinSet.isEmpty_iff.mp hempty)
      · rw [hintended.numbers]
        exact List.nodup_range'

end Raydio.Session
