/-
# Every request is answered once

An admitted play request waits in the pipeline until a loader's completion takes it or an
invalidation drains it, and leaves it only once. The turn that takes it attempts one
reply. A drained request is answered by a task of its own, of which at most 128 are under
way at a time; beyond these it is dropped without a reply.
-/

import Raydio.Resolver.Filter
import Raydio.Runtime.Autocomplete
import Raydio.Session.Passage
import Raydio.Session.Replies

namespace Raydio.Session

open Raydio.Foundation Raydio.Playback Raydio.Voice Raydio.Views Raydio.Discord Raydio.Resolver
  GuildSession

/-! ## What a loader resolves to -/

/-- The resolution is one that a loader's task can come to: it runs out of time, or the
node answers in some way. -/
def Loader.Yields (self : Loader) (limits : Limits) (resolution : Except Failure Resolution) :
    Prop :=
  resolution = .error .unavailable ∨ ∃ crate answer,
    Runtime.Autocomplete.resolve crate limits answer self.input self.capacity 1 = .ok resolution

/-- What the node answers resolves to tracks or to nothing. -/
theorem load_tracks {limits : Limits} {answer : String → Option Value} {identifier : String}
    {playlist search : Bool} {capacity : ℕ} {resolved : Resolution}
    (h : Runtime.Autocomplete.load limits answer identifier playlist search capacity =
      .ok resolved) : resolved.tracks ≠ [] := by
  rw [Runtime.Autocomplete.load] at h
  split at h
  · cases h
  · obtain ⟨-, raw, -, hsome, -⟩ := normalize_ok_iff.mp h
    exact hsome

theorem Loader.Yields.tracks {loader : Loader} {limits : Limits}
    {resolution : Except Failure Resolution} (h : loader.Yields limits resolution)
    {resolved : Resolution} (hok : resolution = .ok resolved) : resolved.tracks ≠ [] := by
  subst hok
  rcases h with habsurd | ⟨crate, answer, hresolve⟩
  · cases habsurd
  · rw [Runtime.Autocomplete.resolve] at hresolve
    cases hidentifiers : crate.identifiers loader.input with
    | error panic =>
        rw [hidentifiers] at hresolve
        cases hresolve
    | ok identified =>
        rw [hidentifiers] at hresolve
        have hload := Except.ok.inj hresolve
        dsimp only at hload
        split at hload
        · cases hload
        · exact load_tracks hload
        · split at hload
          · rename_i hfirst
            cases hload
            exact load_tracks hfirst
          · exact load_tracks hload

/-! ## Leaving once -/

namespace Pipeline

variable {first last : Pipeline}

/-- The requests that have left, in the order in which they did. -/
def left (self : Pipeline) : List ℕ := self.ledger.filterMap Milestone.leaving?

/-- Every admitted request waits or has left, once. -/
def Counted (self : Pipeline) : Prop :=
  (self.left ++ self.waiting.map Pending.admission).Perm (List.range' 1 self.admissions)

theorem counted_new : Pipeline.new.Counted := .nil

/-- The requests that wait or have left are the same ones. -/
theorem Counted.keep (h : first.Counted) (admissions : last.admissions = first.admissions)
    (same : (last.left ++ last.waiting.map Pending.admission).Perm
      (first.left ++ first.waiting.map Pending.admission)) : last.Counted := by
  rw [Counted, admissions]
  exact same.trans h

/-- A milestone with which nothing leaves. -/
theorem Counted.mark (h : first.Counted) {milestone : Milestone}
    (stays : milestone.leaving? = none) : (first.mark milestone).Counted := by
  refine h.keep rfl (.of_eq ?_)
  show (first.ledger ++ [milestone]).filterMap _ ++ _ = _
  rw [List.filterMap_append, List.filterMap_cons_none stays, List.filterMap_nil, List.append_nil]
  rfl

theorem Counted.enter (h : first.Counted) (request : Request) (channel : ℕ) :
    (first.enter request channel).Counted := by
  have hleft : (first.enter request channel).left = first.left := by
    simp [left, Pipeline.enter, Milestone.leaving?]
  have hwaiting : (first.enter request channel).waiting.map Pending.admission =
      first.waiting.map Pending.admission ++ [first.admissions + 1] := by
    simp [waiting, Pipeline.enter]
  rw [Counted, hleft, hwaiting, ← List.append_assoc]
  show List.Perm _ (List.range' 1 (first.admissions + 1))
  rw [List.range'_1_concat, Nat.add_comm 1]
  exact List.Perm.append_right _ h

theorem Counted.drains (h : first.Counted) {more : List Milestone} {drained : List Pending}
    (hdrains : first.Drains last more drained) : last.Counted := by
  refine h.keep hdrains.admissions (.of_eq ?_)
  rw [left, hdrains.ledger, List.filterMap_append, hdrains.leaving, hdrains.waiting,
    List.map_append, List.append_assoc]
  rfl

theorem Counted.step {limit : ℕ} (h : first.Counted) (hlawful : first.Lawful)
    (hstep : Step limit first last) : last.Counted := by
  have hinside (hinside : Inside first last) : last.Counted := by
    obtain ⟨more, drained, hdrains⟩ := drains_of_inside (.single hinside)
    exact h.drains hdrains
  cases hstep with
  | enter request channel room => exact h.enter request channel
  | startLoad capacity => exact hinside (.startLoad _ capacity)
  | endLoader index how => exact h.keep rfl (.refl _)
  | respond responses => exact h.keep rfl (.refl _)
  | invalidate => exact hinside (.invalidate _)
  | stale pending committing stale => exact absurd (hlawful.committing committing).1 stale
  | join pending _ => exact h.mark rfl
  | enqueue pending _ => exact h.mark rfl
  | settle => exact h.keep rfl (.refl _)

/-- The loading request leaves when it is taken. -/
theorem Counted.take (h : first.Counted) {pending : Pending}
    (hloading : first.loading = some pending)
    {more : List Milestone} (loading : last.loading = none) (rest : last.pending = first.pending)
    (admissions : last.admissions = first.admissions) (ledger : last.ledger = first.ledger ++ more)
    (leaving : more.filterMap Milestone.leaving? = [pending.admission]) : last.Counted := by
  refine h.keep admissions (.of_eq ?_)
  simp [left, waiting, hloading, loading, rest, ledger, List.filterMap_append, leaving]

theorem Counted.joinLoader (h : first.Counted) (index : ℕ) :
    (first.joinLoader index).2.Counted := by
  have hjoins := first.joinLoader_joins index
  generalize first.joinLoader index = joined at hjoins
  cases hjoins with
  | nothing _ => exact h
  | aside task how loaders _ _ => exact h.keep rfl (.refl _)
  | discarded task resolution loaders _ _ =>
      have hkept : ({ first with loaders := loaders } : Pipeline).Counted := h.keep rfl (.refl _)
      exact hkept.mark rfl
  | resolved task resolution loaders pending _ loading _ => exact h.take loading rfl rfl rfl rfl rfl
  | panicked task loaders pending _ loading => exact h.take loading rfl rfl rfl rfl rfl

end Pipeline

/-! ## One step -/

/-- No reply that is under way was asked to stop. -/
def Unaborted (responses : JoinSet Pending Unit) : Prop :=
  ∀ mark ∈ responses.marks, mark.2 = false

/-- Every reply that is under way was asked to stop. -/
def Aborted (responses : JoinSet Pending Unit) : Prop :=
  ∀ mark ∈ responses.marks, mark.2 = true

/-- What one step does for the admitted requests: a completion takes at most one of them
and replies to it, an invalidation drains what then waits, and the others go on waiting
with those that the step admits. -/
structure Serves (before after : GuildSession) (more : List Milestone) (taken : Option Pending)
    (drained admitted : List Pending) : Prop where
  ledger : after.ledger = before.ledger ++ more
  waiting : before.waiting ++ admitted = taken.toList ++ drained ++ after.waiting
  leaving : more.filterMap Milestone.leaving? = (taken.toList ++ drained).map Pending.admission
  admissions : more.filterMap Milestone.admission? = admitted.map Pending.admission
  replied : ∀ pending ∈ taken, Shared.Answers pending.request before.shared after.shared
  cancelling : more.filterMap Milestone.cancelling? =
    Pipeline.cancellations before.responses.len drained
  replying : ∀ pending ∈ drained.take (Pipeline.room before.responses),
    ∃ asked, (pending, asked) ∈ after.responses.marks
  emptied : .invalidated ∈ more → after.waiting = []

/-- A step serves the admitted requests. -/
def Served (before after : GuildSession) : Prop :=
  ∃ more taken drained admitted, Serves before after more taken drained admitted

variable {before middle after : GuildSession}

/-- Nothing was noted down that admits a request or lets one leave. -/
theorem served_note (more : List Milestone) (ledger : after.ledger = before.ledger ++ more)
    (waiting : after.waiting = before.waiting)
    (leaving : more.filterMap Milestone.leaving? = [])
    (cancelling : more.filterMap Milestone.cancelling? = [])
    (admissions : more.filterMap Milestone.admission? = []) (barrier : .invalidated ∉ more) :
    Served before after := by
  refine ⟨more, none, [], [], ledger, ?_, leaving, admissions, ?_, cancelling, ?_, ?_⟩
  · rw [waiting, List.append_nil]
    rfl
  · intro pending hmem
    cases hmem
  · intro pending hmem
    rw [List.take_nil] at hmem
    cases hmem
  · intro hmem
    exact absurd hmem barrier

/-- Nothing happened to the requests. -/
theorem served_keep (ledger : after.ledger = before.ledger)
    (waiting : after.waiting = before.waiting) : Served before after :=
  served_note [] (by rw [ledger, List.append_nil]) waiting rfl rfl rfl (by simp)

/-- A handler drains all requests or none. -/
theorem served_within (h : Within before after) : Served before after := by
  obtain ⟨more, drained, hdrains⟩ := Pipeline.drains_of_inside h
  refine ⟨more, none, drained, [], hdrains.ledger, ?_, hdrains.leaving, hdrains.admitted, ?_,
    hdrains.cancelling, ?_, hdrains.emptied⟩
  · rw [List.append_nil]
    exact hdrains.waiting
  · intro pending hmem
    cases hmem
  · intro pending hmem
    rw [hdrains.responses, JoinSet.marks_spawnAll]
    exact ⟨false, List.mem_append_right _ (List.mem_map_of_mem hmem)⟩

theorem unaborted_within (h : Within before after) (hbefore : Unaborted before.responses) :
    Unaborted after.responses := by
  obtain ⟨more, drained, hdrains⟩ := Pipeline.drains_of_inside h
  intro mark hmem
  rw [hdrains.responses, JoinSet.marks_spawnAll] at hmem
  rcases List.mem_append.mp hmem with hold | hnew
  · exact hbefore mark hold
  · obtain ⟨pending, -, rfl⟩ := List.mem_map.mp hnew
    rfl

theorem served_admits (h : Admits before after) : Served before after := by
  obtain ⟨request, channel, heq⟩ := h
  refine ⟨[.admitted (before.admissions + 1)], none, [], [⟨request, channel, before.epoch,
    wrappingSucc before.sequence, before.admissions + 1⟩], ?_, ?_, rfl, rfl, ?_, rfl, ?_, ?_⟩
  · rw [heq]
    rfl
  · rw [heq]
    simp [Pipeline.waiting, Pipeline.enter]
  · intro pending hmem
    cases hmem
  · intro pending hmem
    rw [List.take_nil] at hmem
    cases hmem
  · intro habsurd
    cases List.mem_singleton.mp habsurd

/-- The loading request is taken and answered; what is left is drained or goes on waiting. -/
theorem served_taken (rest : Pipeline) (first : List Milestone) {pending : Pending}
    {more : List Milestone} {drained : List Pending} (loading : before.loading = some pending)
    (waiting : rest.waiting = before.pending) (responses : rest.responses = before.responses)
    (ledger : rest.ledger = before.ledger ++ first)
    (leaving : first.filterMap Milestone.leaving? = [pending.admission])
    (cancelling : first.filterMap Milestone.cancelling? = [])
    (admitted : first.filterMap Milestone.admission? = []) (barrier : .invalidated ∉ first)
    (drains : rest.Drains after.toPipeline more drained)
    (replied : Shared.Answers pending.request before.shared after.shared) :
    Served before after := by
  refine ⟨first ++ more, some pending, drained, [], ?_, ?_, ?_, ?_, ?_, ?_, ?_, ?_⟩
  · rw [drains.ledger, ledger, List.append_assoc]
  · rw [List.append_nil, Pipeline.waiting, loading, ← waiting, drains.waiting]
    rfl
  · rw [List.filterMap_append, leaving, drains.leaving]
    rfl
  · rw [List.filterMap_append, admitted, drains.admitted]
    rfl
  · intro other hmem
    rw [Option.mem_some_iff.mp hmem] at replied
    exact replied
  · rw [List.filterMap_append, cancelling, drains.cancelling, responses]
    rfl
  · intro other hmem
    rw [drains.responses, JoinSet.marks_spawnAll, responses]
    exact ⟨false, List.mem_append_right _ (List.mem_map_of_mem hmem)⟩
  · intro hmem
    rcases List.mem_append.mp hmem with habsurd | hmem
    · exact absurd habsurd barrier
    · exact drains.emptied hmem

/-- What serves the requests still does with the same calls around it. -/
theorem Served.congr {first last : GuildSession} (h : Served before after)
    (ledger : first.ledger = before.ledger) (waiting : first.waiting = before.waiting)
    (responses : first.responses = before.responses)
    (calls : first.shared.calls = before.shared.calls) (ledger' : last.ledger = after.ledger)
    (waiting' : last.waiting = after.waiting) (responses' : last.responses = after.responses)
    (calls' : last.shared.calls = after.shared.calls) : Served first last := by
  obtain ⟨more, taken, drained, admitted, h⟩ := h
  refine ⟨more, taken, drained, admitted, ?_, ?_, h.leaving, h.admissions, ?_, ?_, ?_, ?_⟩
  · rw [ledger, ledger', h.ledger]
  · rw [waiting, waiting', h.waiting]
  · intro pending hmem
    exact ((h.replied pending hmem).after (.of_eq calls.symm)).then_silent (.of_eq calls')
  · rw [responses, h.cancelling]
  · rw [responses, responses']
    exact h.replying
  · rw [waiting']
    exact h.emptied

/-! ## Turns -/

/-- The result of the loader at an index, if it has one, is one that it can come to. -/
def Truthful (session : GuildSession) (index : ℕ) : Prop :=
  ∀ task resolution loaders,
    session.loaders.joinNext index = some (task, .finished resolution, loaders) →
    task.tag.Yields session.shared.config.limits resolution

namespace GuildSession

variable (self : GuildSession)

/-- Joining a loader answers the request that it takes. -/
theorem served_joinLoader (index : ℕ) (hlawful : self.Lawful) (htruthful : Truthful self index) :
    Served self (self.joinLoader index) ∧
      (Unaborted self.responses → Unaborted (self.joinLoader index).responses) := by
  have hjoins := self.toPipeline.joinLoader_joins index
  have hjoined := hlawful.joinLoader index
  rw [joinLoader]
  dsimp only
  generalize self.toPipeline.joinLoader index = joined at hjoins hjoined
  cases hjoins with
  | nothing _ => exact ⟨served_keep rfl rfl, fun h => h⟩
  | aside task how loaders _ _ => exact ⟨served_keep rfl rfl, fun h => h⟩
  | discarded task resolution loaders _ _ =>
      refine ⟨?_, fun h => h⟩
      exact served_note [.discarded task.tag.admission] rfl rfl rfl rfl rfl (by simp)
  | resolved task resolution loaders pending hjoin loading _ =>
      let taken : GuildSession := { self with
        loaders := loaders
        loading := none
        committing := some pending
        ledger := self.ledger ++
          [.taken pending.admission task.tag.admission, .committed pending.admission] }
      change Served self (taken.commit pending resolution).settle ∧ _
      have hepoch : pending.epoch = taken.epoch := (hjoined.committing rfl).1
      have hsettled : Within taken (taken.commit pending resolution).settle :=
        (taken.within_commit pending resolution hepoch).trans
          (Relation.ReflTransGen.single (.settle _))
      have hanswers : Shared.Answers pending.request self.shared
          (taken.commit pending resolution).settle.shared := by
        apply taken.answers_commit
        intro resolved
        exact (htruthful task resolution loaders hjoin).tracks
      obtain ⟨more, drained, hdrains⟩ := Pipeline.drains_of_inside hsettled
      refine ⟨?_, fun h => unaborted_within hsettled h⟩
      exact served_taken taken.toPipeline
        [.taken pending.admission task.tag.admission, .committed pending.admission] loading rfl rfl
        rfl rfl rfl rfl (by simp) hdrains hanswers
  | panicked task loaders pending _ loading =>
      let taken : GuildSession := { self with
        loaders := loaders
        loading := none
        ledger := self.ledger ++ [.taken pending.admission task.tag.admission] }
      change Served self (taken.error pending.request _) ∧ _
      have hanswers := taken.answers_error pending.request
        "YouTube could not load that request. Try another song."
      refine ⟨?_, fun h => h⟩
      exact served_taken taken.toPipeline [.taken pending.admission task.tag.admission] loading rfl
        rfl rfl rfl rfl rfl (by simp) taken.toPipeline.drains_refl hanswers

theorem served_of_within {first second : GuildSession} (h : Within first second) :
    Served first second ∧ (Unaborted first.responses → Unaborted second.responses) :=
  ⟨served_within h, unaborted_within h⟩

theorem served_interaction (request : Request) :
    Served self (self.interaction request) ∧
      (Unaborted self.responses → Unaborted (self.interaction request).responses) := by
  rcases self.interaction_admits request with hwithin | hadmits
  · exact served_of_within hwithin
  · refine ⟨served_admits hadmits, ?_⟩
    obtain ⟨request, channel, heq⟩ := hadmits
    rw [heq]
    exact fun h => h

/-- Every handler serves the admitted requests. -/
theorem served_handle {arm : Arm} {handled : GuildSession} (h : self.handle arm = some handled)
    (hlawful : self.Lawful) (htruthful : ∀ index, arm = .joinLoader index → Truthful self index) :
    Served self handled ∧ (Unaborted self.responses → Unaborted handled.responses) := by
  cases arm with
  | interaction request acknowledged =>
      cases h
      split
      · obtain ⟨hserved, hunaborted⟩ := self.suspend.2.served_interaction request
        refine ⟨?_, hunaborted⟩
        exact hserved.congr rfl rfl rfl self.shared.calls_suspend.symm rfl rfl rfl rfl
      · exact served_of_within (.of_eq rfl)
  | backend payload =>
      cases h
      exact served_of_within (self.within_backend payload)
  | ending index =>
      simp only [handle] at h
      split at h
      · cases h
      · cases h
        exact served_of_within ((within_backend _ _).after (.of_eq rfl))
  | voiceChanged =>
      cases h
      exact served_of_within self.within_voiceChanged
  | invalidated =>
      cases h
      exact served_of_within (self.within_cleanup _)
  | connected =>
      cases h
      exact served_of_within self.within_onConnected
  | joinLoader index =>
      simp only [handle] at h
      split at h
      · cases h
        exact self.served_joinLoader index hlawful (htruthful index rfl)
      · cases h
  | joinResponse index =>
      simp only [handle] at h
      split at h
      · cases h
      · rename_i task how responses hjoin
        cases h
        refine ⟨served_keep rfl rfl, ?_⟩
        intro hbefore mark hmem
        exact hbefore mark ((JoinSet.marks_joinNext hjoin).subset (List.mem_cons_of_mem _ hmem))
  | joinPreparation index =>
      simp only [handle] at h
      split at h
      · cases h
      · cases h
        refine served_of_within (within_quiet ((quiet_finishPreparation _ _ _).after ?_))
        exact .of_eq rfl rfl rfl rfl
  | joinDeletion index =>
      simp only [handle] at h
      split at h
      · cases h
      · cases h
        exact served_of_within (.of_eq rfl)
  | joinEdit index =>
      simp only [handle] at h
      split at h
      · cases h
      · cases h
        refine served_of_within (within_quiet ((quiet_refresh _).after
          ((quiet_finishRefresh _ _ _).after ?_)))
        exact .of_eq rfl rfl rfl rfl
  | tick =>
      cases h
      exact served_of_within self.within_tick

/-- What follows a handler at most loads a request that waits. -/
theorem followUp_eq : self.followUp.waiting = self.waiting ∧
    self.followUp.responses = self.responses ∧ self.followUp.ledger = self.ledger ∧
      self.followUp.shared.calls = self.shared.calls := by
  have hpipeline : self.followUp.toPipeline = self.startLoad.toPipeline :=
    ((quiet_publishActivity _).after (quiet_prepareNext _)).pipeline
  have hcalls : self.startLoad.prepareNext.shared = self.shared := by
    rw [prepareNext]
    split
    · rfl
    · split <;> rfl
  obtain ⟨hwaiting, hresponses, hledger, -⟩ :=
    self.toPipeline.startLoad_eq (self.shared.config.limits.queue - self.queue.len)
  refine ⟨?_, ?_, ?_, ?_⟩
  · rw [hpipeline]
    exact hwaiting
  · rw [hpipeline]
    exact hresponses
  · rw [hpipeline]
    exact hledger
  · show self.startLoad.prepareNext.shared.calls = self.shared.calls
    rw [hcalls]

end GuildSession

/-! ## The end of a worker -/

namespace GuildSession

variable (self : GuildSession)

/-- The last cleanup invalidates unless it is cut off at its very beginning. -/
theorem settles_cleanupUntil_of_ne {cut : ℕ} (hcut : cut ≠ 0) :
    Settles self (self.cleanupUntil cut) self.toPipeline.invalidate := by
  unfold cleanupUntil
  split
  · exact absurd rfl hcut
  · exact self.settles_invalidate.then_quiet (quiet_retireEdits _)
  · exact (self.settles_invalidate.then_quiet (quiet_retireEdits _)).then_quiet
      (quiet_takePanel _)
  · exact self.settles_reset
  · exact self.settles_cleanup none

/-- Replies are asked to stop once the last cleanup has drained what was left. -/
theorem served_aborted {after : GuildSession} {cleaned : Pipeline} {more : List Milestone}
    {drained : List Pending} (hdrains : self.toPipeline.abort.Drains cleaned more drained)
    (ledger : after.ledger = cleaned.ledger) (waiting : after.waiting = cleaned.waiting)
    (responses : after.responses = cleaned.responses.abortAll) : Served self after := by
  refine ⟨more, none, drained, [], ?_, ?_, hdrains.leaving, hdrains.admitted, ?_,
    hdrains.cancelling, ?_, ?_⟩
  · exact ledger.trans hdrains.ledger
  · rw [waiting, List.append_nil]
    exact hdrains.waiting
  · intro pending hmem
    cases hmem
  · intro pending hmem
    rw [responses, JoinSet.marks_abortAll, hdrains.responses, JoinSet.marks_spawnAll]
    refine ⟨true, List.mem_map.mpr ⟨(pending, false), ?_, rfl⟩⟩
    exact List.mem_append_right _ (List.mem_map_of_mem hmem)
  · rw [waiting]
    exact hdrains.emptied

/-- The end of a worker asks the replies that are under way to stop. -/
theorem aborted_close (cut : ℕ) : Aborted (self.close cut).responses := by
  let aborted : GuildSession := { self with
    toPipeline := self.toPipeline.abort, preparations := self.preparations.abortAll }
  have hclosed : (self.close cut).responses = (aborted.cleanupUntil cut).responses.abortAll := rfl
  intro mark hmem
  rw [hclosed, JoinSet.marks_abortAll] at hmem
  obtain ⟨old, -, rfl⟩ := List.mem_map.mp hmem
  rfl

/-- The end of a worker drains what is left, unless its last cleanup is cut off before. -/
theorem served_close (cut : ℕ) :
    Served self (self.close cut) ∧ (cut ≠ 0 → (self.close cut).waiting = []) := by
  let aborted : GuildSession := { self with
    toPipeline := self.toPipeline.abort, preparations := self.preparations.abortAll }
  have hclosed : (self.close cut).toPipeline = { (aborted.cleanupUntil cut).toPipeline with
      responses := (aborted.cleanupUntil cut).responses.abortAll } := rfl
  by_cases hcut : cut = 0
  · subst hcut
    exact ⟨served_aborted self self.toPipeline.abort.drains_refl rfl rfl rfl,
      fun habsurd => absurd rfl habsurd⟩
  · have hsettled := (aborted.settles_cleanupUntil_of_ne hcut).pipeline_eq
    obtain ⟨more, hdrains, -⟩ := self.toPipeline.abort.drains_invalidate
    rw [hsettled] at hclosed
    refine ⟨self.served_aborted hdrains ?_ ?_ ?_, fun _ => ?_⟩
    all_goals rw [hclosed]
    all_goals rfl

end GuildSession

/-! ## Runs -/

/-- The service goes on, and a loader that is joined has a result that it can come to. -/
def Input.Ordinary (session : GuildSession) : Input → Prop
  | .close _ _ _ => False
  | .turn (.joinLoader index) _ _ _ => Truthful session index
  | _ => True

/-- What waits is drained, and answered as long as there is room. -/
def Clears (before after : GuildSession) : Prop :=
  ∃ more, before.toPipeline.Drains after.toPipeline more before.waiting

theorem clears_of_pipeline {before after : GuildSession}
    (h : after.toPipeline = before.toPipeline.invalidate) : Clears before after := by
  obtain ⟨more, hdrains, -⟩ := before.toPipeline.drains_invalidate
  exact ⟨more, h ▸ hdrains⟩

theorem served_outside (session : GuildSession) (move : Outside) :
    Served session (session.outside move) ∧
      (Unaborted session.responses → Unaborted (session.outside move).responses) := by
  cases move with
  | endResponse index how =>
      refine ⟨served_keep rfl rfl, ?_⟩
      intro hbefore mark hmem
      apply hbefore mark
      rw [← JoinSet.marks_finish session.responses index fun _ => how]
      exact hmem
  | _ => exact ⟨served_keep rfl rfl, fun h => h⟩

namespace Worker

/-- A step serves the admitted requests, and then the worker goes on or ends. -/
theorem step_served {before : GuildSession} {input : Input} (hinput : input.Ordinary before)
    (hlawful : before.Lawful) : ∃ middle, Served before middle ∧
      (Unaborted before.responses → Unaborted middle.responses) ∧
        ((running before).step input = running middle ∨
          ∃ cut, (running before).step input = ended (middle.close cut)) := by
  cases input with
  | close script random cut => exact hinput.elim
  | outside move =>
      obtain ⟨hserved, hunaborted⟩ := served_outside before move
      exact ⟨before.outside move, hserved, hunaborted, Or.inl rfl⟩
  | turn arm script random cut =>
      cases hhandled : (before.prepare script random).handle arm with
      | none =>
          refine ⟨before, served_keep rfl rfl, fun h => h, Or.inl ?_⟩
          simp only [step, hhandled]
      | some handled =>
          have htruthful : ∀ index, arm = .joinLoader index →
              Truthful (before.prepare script random) index := by
            rintro index rfl
            exact hinput
          obtain ⟨hserved, hunaborted⟩ := served_handle _ hhandled hlawful htruthful
          obtain ⟨hwaiting, hresponses, hledger, hcalls⟩ := handled.followUp_eq
          refine ⟨handled.followUp, ?_, ?_, ?_⟩
          · exact hserved.congr rfl rfl rfl rfl hledger hwaiting hresponses hcalls
          · rw [hresponses]
            exact hunaborted
          · simp only [step, hhandled]
            split
            · exact Or.inr ⟨cut, rfl⟩
            · exact Or.inl rfl

theorem counted_run (id : ℕ) (shared : Shared) (inputs : List Input) :
    ((start id shared).run inputs).session.Lawful ∧
      ((start id shared).run inputs).session.Counted := by
  exact (start id shared).requests_invariant
    (fun requests => requests.Lawful ∧ requests.Counted)
    (fun _ _ hstep h => ⟨h.1.step hstep, h.2.step h.1 hstep⟩)
    (fun _ index h => ⟨h.1.joinLoader index, h.2.joinLoader index⟩)
    (fun _ h => ⟨h.1.abort, h.2⟩) rfl ⟨Pipeline.lawful_new, Pipeline.counted_new⟩ inputs

/-- As long as a worker runs, it asks no reply to stop. -/
theorem run_unaborted (id : ℕ) (shared : Shared) {inputs : List Input}
    (h : (start id shared).Along (fun session input => input.Ordinary session) inputs)
    {session : GuildSession} (hrun : (start id shared).run inputs = running session) :
    Unaborted session.responses := by
  induction inputs using List.reverseRecOn generalizing session with
  | nil =>
      cases hrun
      intro mark hmem
      cases hmem
  | append_singleton front input ih =>
      obtain ⟨hfront, hordinary⟩ := h.split
      have hstep : (start id shared).run (front ++ [input]) =
          ((start id shared).run front).step input := List.foldl_concat _ _ _ _
      rw [hstep] at hrun
      cases hworker : (start id shared).run front with
      | ended before =>
          rw [hworker] at hrun
          cases hrun
      | running before =>
          have hlawful : before.Lawful := by
            have hlawful := (counted_run id shared front).1
            rw [hworker] at hlawful
            exact hlawful
          obtain ⟨middle, -, hunaborted, hgoes | ⟨cut, hends⟩⟩ :=
            step_served (hordinary before hworker) hlawful
          · rw [hworker, hgoes] at hrun
            cases hrun
            exact hunaborted (ih hfront hworker)
          · rw [hworker, hends] at hrun
            cases hrun

/-- Outside the shutdown of the service every admitted request waits or has left, once. In
each step of a run a completion takes at most one request, and one reply to it is
attempted; an invalidation, which every stop, every leave and every cleanup makes, drains
all that wait, and starts a reply to each of them as long as fewer than 128 are under way.
While the worker runs it asks none of these to stop. Its end, when its guild is gone,
drains what is left in the same way, unless its last cleanup is cut off at once, and asks
the replies that are still under way to stop. -/
theorem run_answers (id : ℕ) (shared : Shared) (inputs : List Input)
    (hinputs : (start id shared).Along (fun session input => input.Ordinary session) inputs) :
    ((start id shared).run inputs).session.Counted ∧
    (∀ session : GuildSession, Clears session session.stop.2 ∧ Clears session session.leave.2 ∧
      ∀ notification, Clears session (session.cleanup notification)) ∧
    ∀ front input back before, inputs = front ++ input :: back →
      (start id shared).run front = running before →
      Unaborted before.responses ∧ ∃ middle, Served before middle ∧ Unaborted middle.responses ∧
        ((running before).step input = running middle ∨
          ∃ cut, (running before).step input = ended (middle.close cut) ∧
            Served middle (middle.close cut) ∧ (cut ≠ 0 → (middle.close cut).waiting = []) ∧
              Aborted (middle.close cut).responses) := by
  refine ⟨(counted_run id shared inputs).2, ?_, ?_⟩
  · intro session
    exact ⟨clears_of_pipeline session.stop_pipeline,
      clears_of_pipeline (session.settles_cleanup none).pipeline_eq,
      fun notification => clears_of_pipeline (session.settles_cleanup notification).pipeline_eq⟩
  · intro front input back before hsplit hbefore
    rw [hsplit] at hinputs
    obtain ⟨hfront, hordinary⟩ := hinputs.split
    have hlawful := (counted_run id shared front).1
    rw [hbefore] at hlawful
    have hunaborted := run_unaborted id shared hfront hbefore
    refine ⟨hunaborted, ?_⟩
    obtain ⟨middle, hserved, hkept, hgoes | ⟨cut, hends⟩⟩ :=
      step_served (hordinary before hbefore) hlawful
    · exact ⟨middle, hserved, hkept hunaborted, Or.inl hgoes⟩
    · obtain ⟨hclosed, hdrained⟩ := middle.served_close cut
      exact ⟨middle, hserved, hkept hunaborted,
        Or.inr ⟨cut, hends, hclosed, hdrained, middle.aborted_close cut⟩⟩

/-- A request whose loader does not reach the node. -/
def unreachable : List Input :=
  [Sample.play, .outside (.endLoader 0 (.finished (.error .unavailable)))]

theorem run_answers_unreachable :
    ((start 1 Sample.shared).run
      (unreachable ++ [.turn (.joinLoader 0) [] [] 4])).session.Counted := by
  have hfront : ∀ input ∈ unreachable, ∀ session, input.Ordinary session := by
    simp [unreachable, Sample.play, Sample.turn, Input.Ordinary]
  have hended : ((start 1 Sample.shared).run unreachable).session.loaders.tasks.map Task.ended =
      [some (.finished (.error .unavailable))] := by decide +kernel
  refine (run_answers 1 Sample.shared _ (Along.concat
    ((along_of_forall hfront _).mono fun session input h => h session) ?_)).1
  intro before hbefore task resolution loaders hjoin
  obtain ⟨htask, hfinished, -⟩ := JoinSet.joinNext_some hjoin
  have hfirst : (before.loaders.tasks.map Task.ended)[0]? =
      some (some (.finished resolution)) := by
    rw [List.getElem?_map, htask, Option.map_some, hfinished]
  have hsession : ((start 1 Sample.shared).run unreachable).session = before := by
    rw [hbefore]
    rfl
  rw [← hsession, hended] at hfirst
  cases hfirst
  exact Or.inl rfl

/-- The default configuration, but for the requests that may be pending. -/
def crowded : Shared :=
  { Sample.shared with config := ⟨70, 120, 120, 200, Limits.default⟩ }

/-- A hundred and twenty-nine requests wait when playback is stopped. -/
def crowding : List Input :=
  List.replicate 129 Sample.play ++ [Sample.turn (Sample.command "stop" [])]

/-- The last one of them is dropped without a reply. -/
theorem crowding_unanswered : ¬ ∀ admission answered,
    .cancelled admission answered ∈ ((start 1 crowded).run crowding).session.ledger →
      answered = true := by
  have hdropped : .cancelled 129 false ∈ ((start 1 crowded).run crowding).session.ledger := by
    decide +kernel
  intro hanswered
  cases hanswered 129 false hdropped

end Worker

end Raydio.Session
