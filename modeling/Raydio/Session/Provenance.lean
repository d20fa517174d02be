/-
# Where the tracks of a session come from

What is played in a guild was asked for there: every track that is current, waits, or was
heard came out of a resolution for a play request, carries the name of the user who made
it, and suits the limits that the configuration sets. A session gets tracks only by a
commit; whatever else it does with its queue, it adds none.
-/

import Raydio.Playback.Tracks
import Raydio.Session.Answers
import Raydio.Session.Authorization

namespace Raydio.Resolver

open Raydio.Foundation Raydio.Playback

/-- A track that a request may bring, whatever it was found by. -/
structure Suits (limits : Limits) (track : Track) : Prop where
  encoded : ∃ c ∈ track.encoded.toList, Text.isWhitespace c = false
  duration : track.durationMs ≤ limits.maxDurationMs
  stream : track.stream = true → limits.allowStreams = true

variable {limits : Limits} {value : Value} {playlist search : Bool} {track : Track}

/-- What is collected was there before, or is acceptable. -/
theorem mem_collect {limit : ℕ} {raw : List Value} {result : Resolution}
    (h : track ∈ (collect playlist search limit limits raw result).tracks) :
    track ∈ result.tracks ∨ ∃ entry ∈ raw, acceptable search limits entry = some track := by
  induction raw generalizing result with
  | nil => exact .inl h
  | cons entry rest ih =>
      have hlater {next : Resolution}
          (h : track ∈ (collect playlist search limit limits rest next).tracks) :
          track ∈ next.tracks ∨
            ∃ other ∈ entry :: rest, acceptable search limits other = some track := by
        rcases ih h with hnext | ⟨other, hother, haccepted⟩
        · exact .inl hnext
        · exact .inr ⟨other, List.mem_cons_of_mem _ hother, haccepted⟩
      rw [collect] at h
      split at h
      · have hrest := hlater h
        exact hrest
      · rename_i found hfound
        have htaken (h : track ∈ result.tracks ++ [found]) : track ∈ result.tracks ∨
            ∃ other ∈ entry :: rest, acceptable search limits other = some track := by
          rcases List.mem_append.mp h with hbefore | hnew
          · exact .inl hbefore
          · rw [List.mem_singleton.mp hnew]
            exact .inr ⟨entry, List.mem_cons_self, hfound⟩
        split at h
        · have hrest := hlater h
          split at hrest <;> exact hrest
        · dsimp only at h
          split at h
          · exact htaken h
          · rcases hlater h with hbefore | hentry
            · exact htaken hbefore
            · exact .inr hentry

theorem normalize_suits {capacity : ℕ} {resolution : Resolution}
    (h : normalize value playlist search capacity limits = .ok resolution)
    (htrack : track ∈ resolution.tracks) : Suits limits track := by
  obtain ⟨-, raw, -, -, hresult⟩ := normalize_ok_iff.mp h
  rw [hresult] at htrack
  rcases mem_collect htrack with hnone | ⟨entry, -, haccepted⟩
  · cases hnone
  · obtain ⟨decoded, haccepts, hsame⟩ := acceptable_eq_some.mp haccepted
    rw [unchanged_iff.mp hsame]
    exact ⟨haccepts.encoded, haccepts.duration, haccepts.stream⟩

end Raydio.Resolver

namespace Raydio.Session

open Raydio.Foundation Raydio.Playback Raydio.Voice Raydio.Views Raydio.Discord Raydio.Resolver
  GuildSession

namespace GuildSession

variable (self : GuildSession) {first second third : GuildSession}

/-! ## What adds no track -/

/-- The second session has no track that the first one did not have. -/
def AddsNone (first second : GuildSession) : Prop :=
  ∀ P : Track → Prop, first.queue.All P → second.queue.All P

theorem AddsNone.of_eq (h : second.queue = first.queue) : AddsNone first second := by
  intro P hfirst
  rw [h]
  exact hfirst

theorem AddsNone.of_course (h : second.course = first.course) : AddsNone first second :=
  .of_eq (congrArg Course.queue h)

theorem AddsNone.trans (h : AddsNone first second) (h' : AddsNone second third) :
    AddsNone first third :=
  fun P hfirst => h' P (h P hfirst)

/-- From the last part backwards. -/
theorem AddsNone.after (h' : AddsNone second third) (h : AddsNone first second) :
    AddsNone first third :=
  h.trans h'

theorem addsNone_quiet (h : Quiet first second) : AddsNone first second := .of_course h.course

theorem AddsNone.then_quiet (h : AddsNone first second) (h' : Quiet second third) :
    AddsNone first third :=
  h.trans (addsNone_quiet h')

theorem addsNone_startCurrent : AddsNone self self.startCurrent.2 := by
  intro P hself
  apply startCurrent_keeps self (fun session => session.queue.All P)
  · intro session hsession
    rw [attemptStart_queue]
    exact hsession
  · intro session at' hsession
    exact hsession
  · intro session hsession
    rw [failOver_queue]
    exact hsession.failed
  · exact hself

theorem addsNone_trackFailure : AddsNone self self.trackFailure := by
  apply (addsNone_startCurrent _).after
  intro P hself
  rw [failOver_queue]
  exact hself.failed

theorem addsNone_trackFinished : AddsNone self self.trackFinished := by
  apply (addsNone_startCurrent _).after
  intro P hself
  show Queue.All P (self.queue.finish.value self.queue.finish_returns)
  rw [Queue.value_finish]
  exact hself.finished

/-- Leaving forgets all tracks. -/
theorem addsNone_cleanup (notification : Option String) :
    AddsNone self (self.cleanup notification) := by
  intro P _
  have hqueue : (self.cleanup notification).queue = .default :=
    congrArg Setting.queue (self.cleanup_setting notification)
  rw [hqueue]
  exact Queue.all_default P

theorem addsNone_voiceChanged : AddsNone self self.voiceChanged := by
  rw [voiceChanged]
  split
  · exact .of_eq rfl
  · split
    · exact self.addsNone_cleanup _
    · split
      · exact .of_eq rfl
      · split
        · exact self.addsNone_cleanup _
        · split
          · exact .of_eq rfl
          · split
            · dsimp only
              split
              · exact .of_eq rfl
              · exact (addsNone_cleanup _ _).after (.of_eq rfl)
            · exact .of_eq rfl

theorem addsNone_onConnected : AddsNone self self.onConnected := by
  rw [onConnected]
  split
  · exact .of_eq rfl
  · split
    · exact self.addsNone_startCurrent
    · exact self.addsNone_voiceChanged

theorem addsNone_backend (payload : Value) : AddsNone self (self.backend payload) := by
  rw [backend]
  split
  · exact .of_eq rfl
  · split
    · exact addsNone_quiet (self.quiet_observeProgress payload)
    · split
      · exact self.addsNone_cleanup _
      · split
        · exact .of_eq rfl
        · split
          · exact .of_eq rfl
          · split
            · split
              · exact .of_eq rfl
              · exact (addsNone_quiet (quiet_refresh _)).after (.of_eq rfl)
            · split
              · exact self.addsNone_trackFinished.then_quiet (quiet_refresh _)
              · split
                · exact self.addsNone_trackFailure.then_quiet (quiet_refresh _)
                · exact .of_eq rfl
            · exact self.addsNone_trackFailure.then_quiet (quiet_refresh _)
            · exact self.addsNone_trackFailure.then_quiet (quiet_refresh _)
            · exact .of_eq rfl

theorem addsNone_recover (finished : Bool) : AddsNone self (self.recover finished) := by
  rw [recover]
  dsimp only
  split
  · exact (addsNone_trackFinished _).after (.of_eq rfl)
  · exact (addsNone_trackFailure _).after (.of_eq rfl)

theorem addsNone_recoverUnverifiableStall : AddsNone self self.recoverUnverifiableStall := by
  rw [recoverUnverifiableStall]
  split
  · exact (addsNone_trackFailure _).after (.of_eq rfl)
  · exact .of_eq rfl

theorem addsNone_recoverPlayback (player : Value) :
    AddsNone self (self.recoverPlayback player) := by
  rw [recoverPlayback]
  split
  · have hobserved := addsNone_quiet (self.quiet_observeProgress player)
    dsimp only
    split
    · exact hobserved.trans (.of_eq rfl)
    · exact hobserved.trans (addsNone_recover _ _)
  · split
    · exact self.addsNone_recover _
    · exact (addsNone_recoverUnverifiableStall _).after (.of_eq rfl)

theorem addsNone_checkPlayback : AddsNone self self.checkPlayback := by
  rw [checkPlayback]
  split
  · exact .of_eq rfl
  · dsimp only
    split
    · exact .of_eq rfl
    · split
      · exact (addsNone_recoverUnverifiableStall _).after (.of_eq rfl)
      · exact (addsNone_recoverPlayback _ _).after (.of_eq rfl)

theorem addsNone_tick : AddsNone self self.tick := by
  unfold tick
  dsimp only
  split
  · exact (addsNone_cleanup _ _).after self.addsNone_voiceChanged
  · split
    · exact (addsNone_cleanup _ _).after self.addsNone_voiceChanged
    · exact (self.addsNone_voiceChanged.trans (addsNone_checkPlayback _)).then_quiet
        (quiet_refresh _)

/-! ## Controls -/

theorem addsNone_setPaused (paused : Bool) : AddsNone self (self.setPaused paused).2 := by
  rw [setPaused]
  split
  · exact .of_eq rfl
  · split
    · exact .of_eq rfl
    · dsimp only
      split <;> exact .of_eq rfl

theorem addsNone_setVolume (level : String) : AddsNone self (self.setVolume level).2 := by
  rw [setVolume]
  split
  · exact .of_eq rfl
  · split
    · exact .of_eq rfl
    · dsimp only
      split <;> exact .of_eq rfl

theorem addsNone_setLoopMode (mode : String) : AddsNone self (self.setLoopMode mode).2 := by
  rw [setLoopMode]
  split
  · exact .of_eq rfl
  · intro P hself
    exact hself.of_eq rfl rfl rfl

theorem addsNone_removeTrack (position : ℕ) : AddsNone self (self.removeTrack position).2 := by
  intro P hself
  show Queue.All P ((self.queue.remove position).value (self.queue.remove_returns position)).2
  rw [Queue.value_remove]
  exact hself.removed position

theorem addsNone_moveTrack (source target : ℕ) :
    AddsNone self (self.moveTrack source target).2 := by
  intro P hself
  show Queue.All P
    ((self.queue.moveTo source target).value (self.queue.moveTo_returns source target)).2
  rw [Queue.value_moveTo]
  exact hself.moved source target

theorem addsNone_clearQueue : AddsNone self self.clearQueue.2 := fun _ hself => hself.clear

theorem addsNone_shuffleQueue : AddsNone self self.shuffleQueue.2 := fun _ hself => hself.shuffle _

theorem addsNone_transport (verb : String) : AddsNone self (self.transport verb).2 := by
  rw [transport]
  split <;> exact self.addsNone_startCurrent

theorem addsNone_previous : AddsNone self self.previous.2 := by
  have hrestored : AddsNone self { self with
      queue := ((self.queue.previous self.shared.config.limits.queue).value
        (self.queue.previous_returns self.shared.config.limits.queue)).2 } := by
    intro P hself
    show Queue.All P ((self.queue.previous self.shared.config.limits.queue).value _).2
    rw [Queue.value_previous]
    exact hself.restored _
  rw [previous]
  split
  · exact (addsNone_transport _ _).after hrestored
  · exact hrestored
  · exact hrestored

theorem addsNone_jump (position : ℕ) : AddsNone self (self.jump position).2 := by
  have hjumped : AddsNone self { self with
      queue := ((self.queue.jump position).value (self.queue.jump_returns position)).2 } := by
    intro P hself
    show Queue.All P ((self.queue.jump position).value _).2
    rw [Queue.value_jump]
    exact hself.jumped position
  rw [jump]
  split
  · exact (addsNone_transport _ _).after hjumped
  · exact hjumped

theorem addsNone_skip : AddsNone self self.skip.2 := by
  rw [skip]
  split
  · exact .of_eq rfl
  · apply (addsNone_transport _ _).after
    intro P hself
    show Queue.All P (self.queue.skip.value self.queue.skip_returns)
    rw [Queue.value_skip]
    exact hself.skipped

theorem addsNone_stop : AddsNone self self.stop.2 := by
  have hhalted : AddsNone self self.invalidate.halt := fun P _ => Queue.all_stop self.queue P
  rw [stop]
  dsimp only
  split
  · exact hhalted
  · split
    · split
      · exact (addsNone_startCurrent _).after hhalted
      · exact ((addsNone_startCurrent _).trans (.of_eq rfl)).after hhalted
    · exact hhalted.trans (.of_eq rfl)

theorem addsNone_perform (request : Request) : AddsNone self (self.perform request).2 := by
  unfold perform
  split
  · exact self.addsNone_setPaused _
  · exact self.addsNone_setPaused _
  · exact self.addsNone_setVolume _
  · exact self.addsNone_setLoopMode _
  · exact self.addsNone_removeTrack _
  · exact self.addsNone_moveTrack _ _
  · exact self.addsNone_clearQueue
  · exact self.addsNone_shuffleQueue
  · exact self.addsNone_previous
  · exact self.addsNone_jump _
  · exact self.addsNone_skip
  · exact self.addsNone_stop
  · exact self.addsNone_cleanup none

theorem addsNone_control (request : Request) : AddsNone self (self.control request).2 := by
  rcases self.control_authorized request with hsame | ⟨-, hperform⟩
  · exact .of_eq (by rw [hsame])
  · rw [hperform]
    exact self.addsNone_perform request

theorem addsNone_interaction (request : Request) : AddsNone self (self.interaction request) := by
  rcases self.interaction_course request with hsame | ⟨routed, -, hcontrol⟩
  · exact .of_course hsame
  · exact (self.addsNone_control routed).trans (.of_course hcontrol)

/-! ## Commits -/

/-- The second session has, beside these tracks, only tracks that the first one had. -/
def Brings (tracks : List Track) (first second : GuildSession) : Prop :=
  ∀ P : Track → Prop, (∀ track ∈ tracks, P track) → first.queue.All P → second.queue.All P

variable {tracks : List Track}

theorem AddsNone.brings (h : AddsNone first second) (tracks : List Track) :
    Brings tracks first second :=
  fun P _ hfirst => h P hfirst

theorem Brings.trans (h : Brings tracks first second) (h' : AddsNone second third) :
    Brings tracks first third :=
  fun P htracks hfirst => h' P (h P htracks hfirst)

theorem Brings.after (h' : Brings tracks second third) (h : AddsNone first second) :
    Brings tracks first third :=
  fun P htracks hfirst => h' P htracks (h P hfirst)

theorem addsNone_join (channel : ℕ) : AddsNone self (self.join channel).2 := by
  rw [join]
  dsimp only
  split
  · exact .of_eq rfl
  · split
    · exact .of_eq rfl
    · split <;> exact .of_eq rfl

theorem addsNone_replyStarted (request : Request) (resolution : Resolution)
    (added omitted : ℕ) : AddsNone self (self.replyStarted request resolution added omitted) := by
  rw [replyStarted]
  dsimp only
  split
  · exact self.addsNone_startCurrent.then_quiet (quiet_error _ _ _)
  · exact (self.addsNone_startCurrent.then_quiet (quiet_presentPlayer _ _ _)).trans (.of_eq rfl)

theorem addsNone_replyQueued (request : Request) (resolution : Resolution) (track : Track)
    (added omitted : ℕ) :
    AddsNone self (self.replyQueued request resolution track added omitted) :=
  (addsNone_quiet (self.quiet_presentPlayer request _)).trans (.of_eq rfl)

theorem brings_enqueueResolved (pending : Pending) (resolution : Resolution) :
    Brings (requestedTracks pending.request resolution) self
      (self.enqueueResolved pending resolution) := by
  have henqueued : Brings (requestedTracks pending.request resolution) self { self with
      queue := (self.queue.enqueue (requestedTracks pending.request resolution)
        self.shared.config.limits.queue).2 } :=
    fun P htracks hself => hself.enqueue htracks _
  rw [enqueueResolved]
  dsimp only
  split
  · exact AddsNone.brings (.of_eq rfl) _
  · split
    · exact henqueued.trans (addsNone_quiet (quiet_error _ _ _))
    · split
      · exact henqueued.trans ((addsNone_replyStarted _ _ _ _ _).after (.of_eq rfl))
      · exact henqueued.trans ((addsNone_replyQueued _ _ _ _ _ _).after (.of_eq rfl))

theorem brings_commitJoined (pending : Pending) (resolution : Resolution) :
    Brings (requestedTracks pending.request resolution) self
      (self.commitJoined pending resolution) := by
  rw [commitJoined]
  split
  · exact AddsNone.brings (addsNone_quiet (quiet_error _ _ _)) _
  · exact self.brings_enqueueResolved pending resolution

/-- The tracks that a resolution brings in the name of a request. -/
def broughtTracks (request : Request) : Except Failure Resolution → List Track
  | .error _ => []
  | .ok resolution => requestedTracks request resolution

theorem brings_commit (pending : Pending) (resolution : Except Failure Resolution) :
    Brings (broughtTracks pending.request resolution) self (self.commit pending resolution) := by
  have hrefused (text : String) : Brings (broughtTracks pending.request resolution) self
      (self.error pending.request text) :=
    AddsNone.brings (addsNone_quiet (quiet_error _ _ _)) _
  unfold commit
  dsimp only
  split
  · exact (hrefused "That play request was canceled by a newer stop or disconnect.").trans
      (.of_eq rfl)
  · split
    · exact hrefused _
    · split
      · exact hrefused _
      · split
        · exact hrefused _
        · split
          · exact hrefused _
          · split
            · have hjoined : AddsNone self
                  ((self.mark (.joined pending.admission)).join pending.channel).2 :=
                (addsNone_join _ _).after (.of_eq rfl)
              split
              · exact (brings_commitJoined _ _ _).after hjoined
              · exact AddsNone.brings ((hjoined.trans (addsNone_cleanup _ _)).then_quiet
                  (quiet_error _ _ _)) _
            · exact self.brings_commitJoined pending _

/-! ## The requests that wait -/

/-- What holds of the interactions of all requests that wait. -/
def Waits (R : Interaction → Prop) (session : GuildSession) : Prop :=
  ∀ pending ∈ session.waiting, R pending.request.interaction

variable {R : Interaction → Prop} {self}

theorem waits_new (R : Interaction → Prop) (id : ℕ) (shared : Shared) :
    Waits R (.new id shared) := by
  intro pending hnone
  cases hnone

theorem Waits.of_eq (h : Waits R first) (hwaiting : second.waiting = first.waiting) :
    Waits R second := by
  intro pending hpending
  rw [hwaiting] at hpending
  exact h pending hpending

/-- Handlers let requests leave. -/
theorem Waits.within (h : Waits R first) (hwithin : Within first second) : Waits R second := by
  obtain ⟨more, drained, hdrains⟩ := Pipeline.drains_of_inside hwithin
  intro pending hpending
  apply h pending
  rw [hdrains.waiting]
  exact List.mem_append_right _ hpending

theorem Waits.preparePlay (h : Waits R self) {request : Request}
    (hrequest : R request.interaction) : Waits R (self.preparePlay request) := by
  rw [GuildSession.preparePlay]
  split
  · exact h.within (.of_eq rfl)
  · split
    · exact h.within (.of_eq rfl)
    · split
      · exact h.within (.of_eq rfl)
      · dsimp only
        split
        · exact h.within (.of_eq rfl)
        · split
          · exact h.within (.of_eq rfl)
          · split
            · exact h.within (.of_eq rfl)
            · intro pending hpending
              simp only [Pipeline.waiting, Pipeline.enter, ← List.append_assoc] at hpending
              rcases List.mem_append.mp hpending with hbefore | hentered
              · exact h pending hbefore
              · rw [List.mem_singleton.mp hentered]
                exact hrequest

theorem Waits.dispatch (h : Waits R self) {request : Request}
    (hrequest : R request.interaction) : Waits R (self.dispatch request) := by
  rw [GuildSession.dispatch]
  split
  · exact h.preparePlay hrequest
  · exact h.within (within_quiet (self.quiet_presentPlayer _ _))
  · exact h.within (within_quiet ((quiet_respond _ _ _).after (self.quiet_queueView _)))
  · exact h.within (.of_eq rfl)
  · exact h.within (.of_eq rfl)
  · exact h.within (.of_eq rfl)
  · exact h.within (self.within_answerControl request)

/-- A component stands for a request with the same interaction. -/
theorem Waits.interaction (h : Waits R self) {request : Request}
    (hrequest : R request.interaction) : Waits R (self.interaction request) := by
  rw [GuildSession.interaction]
  split
  · exact h.within (.of_eq rfl)
  · split
    · exact h.dispatch hrequest
    · rename_i customId _
      dsimp only
      cases hrouted : (self.component request customId).1 with
      | none => exact h.within (within_quiet (self.quiet_component request customId))
      | some routed =>
          obtain ⟨hsame, -, -, rfl⟩ := self.component_some hrouted
          dsimp only
          rw [hsame]
          exact h.dispatch hrequest

theorem Waits.commit (h : Waits R self) (pending : Pending)
    (resolution : Except Failure Resolution) : Waits R (self.commit pending resolution) := by
  by_cases hepoch : pending.epoch = self.epoch
  · exact h.within (self.within_commit pending resolution hepoch)
  · unfold GuildSession.commit
    rw [if_pos hepoch]
    exact h.of_eq rfl

end GuildSession

/-! ## What a request brings -/

/-- What a loader can come to suits. -/
theorem Loader.Yields.suits {loader : Loader} {limits : Limits}
    {resolution : Except Failure Resolution} (h : loader.Yields limits resolution)
    {resolved : Resolution} (hok : resolution = .ok resolved) :
    ∀ track ∈ resolved.tracks, Suits limits track := by
  have hload {answer : String → Option Value} {identifier : String} {playlist search : Bool}
      {capacity : ℕ} (h : Runtime.Autocomplete.load limits answer identifier playlist search
        capacity = .ok resolved) : ∀ track ∈ resolved.tracks, Suits limits track := by
    rw [Runtime.Autocomplete.load] at h
    split at h
    · cases h
    · exact fun track htrack => normalize_suits h htrack
  subst hok
  rcases h with habsurd | ⟨crate, answer, hresolve⟩
  · cases habsurd
  · rw [Runtime.Autocomplete.resolve] at hresolve
    cases hidentifiers : crate.identifiers loader.input with
    | error panic =>
        rw [hidentifiers] at hresolve
        cases hresolve
    | ok identified =>
        rw [hidentifiers] at hresolve
        have hresolved := Except.ok.inj hresolve
        dsimp only at hresolved
        split at hresolved
        · cases hresolved
        · exact hload hresolved
        · split at hresolved
          · rename_i hfirst
            cases hresolved
            exact hload hfirst
          · exact hload hresolved

/-- The acknowledged interaction that an input is. -/
def Input.interaction? : Input → Option Interaction
  | .turn (.interaction request true) _ _ _ => some request.interaction
  | _ => none

/-- A track that suits, in the name of the user of an interaction among the inputs. -/
structure Traced (inputs : List Input) (limits : Limits) (track : Track) : Prop where
  asked : ∃ request : Request, (∃ input ∈ inputs, input.interaction? = some request.interaction) ∧
    track.requesterId = toString request.user ∧ track.requestedBy = request.label
  suits : Suits limits track

/-- The tracks of a session can be traced, and so will those of the requests that wait. -/
structure Attributed (inputs : List Input) (limits : Limits) (session : GuildSession) : Prop where
  tracks : session.queue.All (Traced inputs limits)
  waits : Waits (fun interaction => ∃ input ∈ inputs, input.interaction? = some interaction) session
  limits : session.shared.config.limits = limits

/-- A loader that is joined has a result that it can come to. -/
def Input.Truthful (session : GuildSession) : Input → Prop
  | .turn (.joinLoader index) _ _ _ => Session.Truthful session index
  | _ => True

variable {inputs : List Input} {limits : Limits}

/-- The tracks of a resolution in the name of the user of a request that waits. -/
theorem traced_brought {request : Request} {loader : Loader}
    {resolution : Except Failure Resolution}
    (hasked : ∃ input ∈ inputs, input.interaction? = some request.interaction)
    (hyields : loader.Yields limits resolution) :
    ∀ track ∈ broughtTracks request resolution, Traced inputs limits track := by
  intro track htrack
  cases hresolution : resolution with
  | error failure =>
      rw [hresolution] at htrack
      cases htrack
  | ok resolved =>
      rw [hresolution] at htrack
      obtain ⟨found, hfound, rfl⟩ := List.mem_map.mp htrack
      obtain ⟨hencoded, hduration, hstream⟩ := hyields.suits hresolution found hfound
      exact ⟨⟨request, hasked, rfl, rfl⟩, hencoded, hduration, hstream⟩

namespace GuildSession

/-- Joining a loader brings what its request resolves to. -/
theorem attributed_joinLoader {self : GuildSession} (h : Attributed inputs limits self) (index : ℕ)
    (htruthful : Session.Truthful self index) :
    (self.joinLoader index).queue.All (Traced inputs limits) ∧
      Waits (fun interaction => ∃ input ∈ inputs, input.interaction? = some interaction)
        (self.joinLoader index) := by
  have hjoins := self.toPipeline.joinLoader_joins index
  rw [joinLoader]
  dsimp only
  generalize self.toPipeline.joinLoader index = joined at hjoins
  cases hjoins with
  | nothing _ => exact ⟨h.tracks, h.waits⟩
  | aside task how loaders _ _ => exact ⟨h.tracks, h.waits⟩
  | discarded task resolution loaders _ _ => exact ⟨h.tracks, h.waits⟩
  | resolved task resolution loaders pending hjoin loading _ =>
      have hwaiting : self.waiting = pending :: self.pending := by
        rw [Pipeline.waiting, loading]
        rfl
      have hrest : ∀ other ∈ self.pending, other ∈ self.waiting := by
        rw [hwaiting]
        exact fun other hother => List.mem_cons_of_mem _ hother
      have hasked := h.waits pending (by rw [hwaiting]; exact List.mem_cons_self)
      have hyields : task.tag.Yields limits resolution := by
        rw [← h.limits]
        exact htruthful task resolution loaders hjoin
      refine ⟨?_, ?_⟩
      · exact brings_commit _ pending resolution _ (traced_brought hasked hyields) h.tracks
      · refine Waits.of_eq (Waits.commit ?_ pending resolution) rfl
        exact fun other hother => h.waits other (hrest other hother)
  | panicked task loaders pending _ loading =>
      refine ⟨h.tracks, ?_⟩
      intro other hother
      apply h.waits other
      rw [Pipeline.waiting, loading]
      exact List.mem_cons_of_mem _ hother

end GuildSession

/-! ## Runs -/

namespace GuildSession

variable {self handled : GuildSession}

/-- Every handler but the one that joins a loader adds no track, and lets only the request
of an acknowledged interaction wait that did not wait before. -/
theorem adds_handle {arm : Arm} (h : self.handle arm = some handled)
    (harm : ∀ index, arm ≠ .joinLoader index) :
    AddsNone self handled ∧ ∀ R : Interaction → Prop,
      (∀ request, arm = .interaction request true → R request.interaction) → Waits R self →
        Waits R handled := by
  have hkeeps (hadds : AddsNone self handled) (hwithin : Within self handled) :
      AddsNone self handled ∧ ∀ R : Interaction → Prop,
        (∀ request, arm = .interaction request true → R request.interaction) → Waits R self →
          Waits R handled :=
    ⟨hadds, fun _ _ hwaits => hwaits.within hwithin⟩
  have hquiets (hquiet : Quiet self handled) :=
    hkeeps (addsNone_quiet hquiet) (within_quiet hquiet)
  cases arm with
  | interaction request acknowledged =>
      cases h
      split
      · rename_i hacknowledged
        refine ⟨(addsNone_interaction _ request).after (addsNone_quiet self.quiet_suspend), ?_⟩
        intro R hasked hwaits
        have hsuspended : Waits R self.suspend.2 := hwaits.of_eq rfl
        apply hsuspended.interaction
        apply hasked request
        rw [hacknowledged]
      · exact ⟨.of_eq rfl, fun _ _ hwaits => hwaits.of_eq rfl⟩
  | backend payload =>
      cases h
      exact hkeeps (self.addsNone_backend payload) (self.within_backend payload)
  | ending index =>
      simp only [handle] at h
      split at h
      · cases h
      · cases h
        exact hkeeps ((addsNone_backend _ _).after (.of_eq rfl))
          ((within_backend _ _).after (.of_eq rfl))
  | voiceChanged =>
      cases h
      exact hkeeps self.addsNone_voiceChanged self.within_voiceChanged
  | invalidated =>
      cases h
      exact hkeeps (self.addsNone_cleanup _) (self.within_cleanup _)
  | connected =>
      cases h
      exact hkeeps self.addsNone_onConnected self.within_onConnected
  | joinLoader index => exact absurd rfl (harm index)
  | joinResponse index =>
      simp only [handle] at h
      split at h
      · cases h
      · cases h
        exact ⟨.of_eq rfl, fun _ _ hwaits => hwaits.of_eq rfl⟩
  | joinPreparation index =>
      simp only [handle] at h
      split at h
      · cases h
      · cases h
        apply hquiets
        refine (quiet_finishPreparation _ _ _).after ?_
        exact .of_eq rfl rfl rfl rfl
  | joinDeletion index =>
      simp only [handle] at h
      split at h
      · cases h
      · cases h
        exact hkeeps (.of_eq rfl) (.of_eq rfl)
  | joinEdit index =>
      simp only [handle] at h
      split at h
      · cases h
      · cases h
        apply hquiets
        refine (quiet_refresh _).after ((quiet_finishRefresh _ _ _).after ?_)
        exact .of_eq rfl rfl rfl rfl
  | tick =>
      cases h
      exact hkeeps self.addsNone_tick self.within_tick

theorem addsNone_cleanupUntil (cut : ℕ) : AddsNone self (self.cleanupUntil cut) := by
  have hforgotten : AddsNone self self.forgetPreparations.invalidate :=
    (addsNone_quiet (quiet_forgetPreparations _)).trans (.of_eq rfl)
  unfold cleanupUntil
  split
  · exact (addsNone_quiet (quiet_suspend _)).trans (.of_eq rfl)
  · exact hforgotten.then_quiet (quiet_retireEdits _)
  · exact (hforgotten.then_quiet (quiet_retireEdits _)).then_quiet (quiet_takePanel _)
  · exact fun P _ => Queue.all_default P
  · exact self.addsNone_cleanup none

theorem addsNone_close (cut : ℕ) : AddsNone self (self.close cut) :=
  (addsNone_cleanupUntil cut).after (.of_eq rfl)

theorem addsNone_followUp : AddsNone self self.followUp :=
  (addsNone_quiet ((quiet_publishActivity _).after (quiet_prepareNext _))).after (.of_eq rfl)

end GuildSession

namespace Worker

theorem step_limits {session : GuildSession} (input : Input)
    (h : session.shared.config.limits = limits) : ((running session).step input).Holds
      (fun after => after.shared.config.limits = limits) fun _ => True := by
  apply step_rule _ _ ?_ (fun _ _ _ => trivial) h
  intro after hmoves
  apply hmoves.invariant fun session : GuildSession => session.shared.config.limits = limits
  · intro first last move hfirst
    rw [move.later.config]
    exact hfirst
  · rw [input.ready_config]
    exact h

/-- A step brings only tracks that can be traced. -/
theorem step_attributes {session : GuildSession} {input : Input} (hinput : input ∈ inputs)
    (htruthful : input.Truthful session) (h : Attributed inputs limits session) :
    ((running session).step input).Holds (Attributed inputs limits)
      fun after => after.queue.All (Traced inputs limits) := by
  have hlimits := step_limits input h.limits
  cases input with
  | outside move =>
      refine ⟨?_, ?_, hlimits⟩
      · cases move <;> exact h.tracks
      · cases move <;> exact h.waits
  | close script random cut => exact addsNone_close cut _ h.tracks
  | turn arm script random cut =>
      cases hhandled : (session.prepare script random).handle arm with
      | none =>
          simp only [step, hhandled]
          exact h
      | some handled =>
          have hprepared : Attributed inputs limits (session.prepare script random) :=
            ⟨h.tracks, h.waits, h.limits⟩
          have hattributed : handled.queue.All (Traced inputs limits) ∧ Waits (fun interaction =>
              ∃ input ∈ inputs, input.interaction? = some interaction) handled := by
            by_cases harm : ∃ index, arm = .joinLoader index
            · obtain ⟨index, rfl⟩ := harm
              simp only [handle] at hhandled
              split at hhandled
              · cases hhandled
                exact attributed_joinLoader hprepared index htruthful
              · cases hhandled
            · obtain ⟨hadds, hwaits⟩ := adds_handle hhandled fun index heq => harm ⟨index, heq⟩
              refine ⟨hadds _ hprepared.tracks, hwaits _ ?_ hprepared.waits⟩
              rintro request rfl
              exact ⟨_, hinput, rfl⟩
          have htracks := addsNone_followUp _ hattributed.1
          have hwaits := hattributed.2.of_eq handled.followUp_eq.1
          by_cases hgone : handled.followUp.guild.isNone = true
          · simp only [step, hhandled, if_pos hgone]
            exact addsNone_close cut _ htracks
          · simp only [step, hhandled, if_neg hgone] at hlimits ⊢
            exact ⟨htracks, hwaits, hlimits⟩

/-- Two conditions along a run. -/
theorem Along.and {condition other : GuildSession → Input → Prop} {worker : Worker}
    (h : worker.Along condition inputs) (hother : worker.Along other inputs) :
    worker.Along (fun session input => condition session input ∧ other session input) inputs := by
  induction inputs generalizing worker with
  | nil => cases worker <;> trivial
  | cons input rest ih =>
      cases worker with
      | ended session => trivial
      | running session => exact ⟨⟨h.1, hother.1⟩, ih h.2 hother.2⟩

/-- Every track that a guild ever has, current, upcoming or heard, was brought by a play
request of an acknowledged interaction and carries the name of its user. It is not blank,
not longer than the configuration allows, and a stream only if streams are allowed. -/
theorem run_traces (id : ℕ) (shared : Shared) (inputs : List Input)
    (htruthful : (start id shared).Along (fun session input => input.Truthful session) inputs) :
    ((start id shared).run inputs).session.queue.All (Traced inputs shared.config.limits) := by
  have hinputs : (start id shared).Along (fun _ input => input ∈ inputs) inputs :=
    along_of_forall (fun _ hinput => hinput) _
  have hstart : Attributed inputs shared.config.limits (.new id shared) :=
    ⟨Queue.all_default _, waits_new _ id shared, rfl⟩
  have hrun := run_steps (Attributed inputs shared.config.limits)
    (fun after => after.queue.All (Traced inputs shared.config.limits))
    (fun session input hinput => step_attributes hinput.1 hinput.2) (start id shared) inputs
    (hinputs.and htruthful) hstart
  cases hworker : (start id shared).run inputs with
  | ended session =>
      rw [hworker] at hrun
      exact hrun
  | running session =>
      rw [hworker] at hrun
      exact Attributed.tracks hrun

/-- What the node answers to a search. -/
def songs : Value :=
  .object [("loadType", .string "search"), ("data", .array [.object [("encoded", .string "QAAA"),
    ("info", .object [("identifier", .string "dQw4w9WgXcQ"), ("title", .string "Song"),
      ("author", .string "Band"), ("length", .number (.posInt 0)), ("isStream", .bool false),
      ("uri", .null), ("sourceName", .string "youtube")])]])]

/-- The tracks of the answer. -/
def found : List Track := [⟨"QAAA", "dQw4w9WgXcQ", "Song", "Band", 0, false, none, "", ""⟩]

theorem resolve_songs : Runtime.Autocomplete.resolve Resolver.Sample.crate Sample.config.limits
    (fun _ => some songs) "song" 20 1 = .ok (.ok ⟨found, none, 0, 0⟩) := by
  decide +kernel

/-- A request whose loader finds the tracks. -/
def searched : List Input :=
  [Sample.play, .outside (.endLoader 0 (.finished (.ok ⟨found, none, 0, 0⟩)))]

theorem run_traces_songs :
    ((start 1 Sample.shared).run (Sample.play :: Sample.resolve found)).session.queue.current =
        some ⟨"QAAA", "dQw4w9WgXcQ", "Song", "Band", 0, false, none, "7", "user"⟩ ∧
      ((start 1 Sample.shared).run (Sample.play :: Sample.resolve found)).session.queue.All
        (Traced (Sample.play :: Sample.resolve found) Sample.config.limits) := by
  have hfront : ∀ input ∈ searched, ∀ session, input.Truthful session := by
    simp [searched, Sample.play, Sample.turn, Input.Truthful]
  have hloaders : ((start 1 Sample.shared).run searched).session.loaders.tasks.map
      (fun task => (task.tag.input, task.tag.capacity, task.ended)) =
        [("song", 20, some (.finished (.ok ⟨found, none, 0, 0⟩)))] := by decide +kernel
  have hlimits : ((start 1 Sample.shared).run searched).session.shared.config.limits =
      Sample.config.limits := by decide +kernel
  refine ⟨by decide +kernel, run_traces 1 Sample.shared (searched ++ [_]) ?_⟩
  apply ((along_of_forall hfront _).mono fun session input h => h session).concat
  intro before hbefore task resolution loaders hjoin
  obtain ⟨htask, hfinished, -⟩ := JoinSet.joinNext_some hjoin
  have hsession : ((start 1 Sample.shared).run searched).session = before := by
    rw [hbefore]
    rfl
  rw [hsession] at hloaders hlimits
  have hfirst := congrArg List.head? hloaders
  rw [List.head?_map, List.head?_eq_getElem?, htask, Option.map_some, List.head?_cons,
    hfinished] at hfirst
  obtain ⟨hinput, hcapacity, hresolution⟩ : task.tag.input = "song" ∧ task.tag.capacity = 20 ∧
      resolution = .ok ⟨found, none, 0, 0⟩ := by simpa using hfirst
  refine .inr ⟨Resolver.Sample.crate, fun _ => some songs, ?_⟩
  rw [hinput, hcapacity, hlimits, hresolution]
  exact resolve_songs

end Worker

end Raydio.Session
