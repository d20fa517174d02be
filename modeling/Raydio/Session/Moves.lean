/-
# The moves of a session

An abstract machine whose moves say what any operation of a session can do to the
play requests, the course and the backend's player, with the conditions under which
it does so. Every handler is a sequence of moves, so that an invariant is settled by
looking at each kind of move once.

A move carries the set of generations that its input verified to have come to a
natural end; only these let the queue be advanced as finished.
-/

import Raydio.Playback.Admission
import Raydio.Session.Starting

namespace Raydio.Session

open Raydio.Foundation Raydio.Playback Raydio.Voice Raydio.Views Raydio.Discord Raydio.Resolver

/-- A step of the play requests, other than joining a loader. -/
inductive Pipeline.Step (limit : ℕ) : Pipeline → Pipeline → Prop
  | enter (self : Pipeline) (request : Request) (channel : ℕ) (room : self.inFlight < limit) :
      Step limit self (self.enter request channel)
  | startLoad (self : Pipeline) (capacity : ℕ) : Step limit self (self.startLoad capacity)
  | endLoader (self : Pipeline) (index : ℕ) (how : Joined (Except Failure Resolution)) :
      Step limit self { self with loaders := self.loaders.finish index fun _ => how }
  | respond (self : Pipeline) (responses : JoinSet Pending Unit) :
      Step limit self { self with responses := responses }
  | invalidate (self : Pipeline) : Step limit self self.invalidate
  | stale (self : Pipeline) (pending : Pending) (committing : self.committing = some pending)
      (stale : pending.epoch ≠ self.epoch) :
      Step limit self (self.mark (.cancelled pending.admission true))
  | join (self : Pipeline) (pending : Pending) (committing : self.committing = some pending) :
      Step limit self (self.mark (.joined pending.admission))
  | enqueue (self : Pipeline) (pending : Pending) (committing : self.committing = some pending) :
      Step limit self (self.mark (.enqueued pending.admission))
  | settle (self : Pipeline) : Step limit self self.settle

/-- An edit of the course that the backend's player does not see. -/
inductive Course.Edit (limit : ℕ) : Course → Course → Prop
  | queue (self : Course) (queue : Queue) (live : self.channel.isSome)
      (current : queue.current = self.queue.current)
      (admitted : self.queue.Admitted limit → queue.Admitted limit) :
      Edit limit self { self with queue := queue }
  | alone (self : Course) (at' : Option ℕ) (live : self.channel = none → at' = none) :
      Edit limit self { self with aloneAt := at' }
  | playing (self : Course) (current : self.queue.current.isSome) :
      Edit limit self { self with idleAt := none }
  | idle (self : Course) (at' : ℕ) (live : self.channel.isSome)
      (current : self.queue.current = none) : Edit limit self { self with idleAt := some at' }

/-- A change of the course together with the update of the player that it needs. -/
inductive Course.Steer : Patch → Course → Course → Prop
  | pause (self : Course) (paused : Bool) (current : self.queue.current.isSome) :
      Steer { paused := some paused } self { self with paused := paused }
  | volume (self : Course) (volume : ℕ) (live : self.channel.isSome) :
      Steer { volume := some volume } self { self with volume := volume }
  | voice (self : Course) (voice : VoiceUpdate) (credentials : String × Server)
      (live : self.channel.isSome) :
      Steer { voice := some voice } self { self with credentials := some credentials }
  | join (self : Course) (voice : VoiceUpdate) (channel : ℕ) (credentials : String × Server)
      (at' : ℕ) (fresh : self.channel = none) :
      Steer { voice := some voice, volume := some self.volume } self
        { self with
          channel := some channel, credentials := some credentials, idleAt := some at' }

/-- The course after leaving the voice channel. -/
def Course.left (self : Course) (volume : ℕ) : Course :=
  { self with
    queue := .default, channel := none, credentials := none, volume := volume, paused := false
    idleAt := none, aloneAt := none }

/-- The course after a stop that asks nothing of the backend. -/
def Course.halted (self : Course) (at' : ℕ) : Course :=
  { self with
    queue := self.queue.stop, paused := false
    idleAt := if self.channel.isSome then some at' else self.idleAt }

/-- The course with which the current track of a queue, which may have changed, is
about to be started. -/
structure Course.Select (ends : ℕ → Prop) (limit : ℕ) (before after : Course) : Prop where
  live : before.channel.isSome ∨ before.queue.current.isSome
  channel : after.channel = before.channel
  credentials : after.credentials = before.credentials
  generation : after.generation = before.generation
  volume : after.volume = before.volume
  aloneAt : after.aloneAt = before.aloneAt
  starts : after.starts = before.starts
  admitted : before.queue.Admitted limit → after.queue.Admitted limit
  advances : after.advances = before.advances ∨ ∃ kind, (kind = .finish → ends before.generation) ∧
    after.advances = before.advances ++ [⟨kind, before.generation, before.starts⟩]

namespace GuildSession

/-- The admission limit of the queue. -/
def queueLimit (self : GuildSession) : ℕ := self.shared.config.limits.queue

/-- One move of a session. -/
inductive Move (ends : ℕ → Prop) : GuildSession → GuildSession → Prop
  | quiet {before after : GuildSession} (h : Quiet before after) : Move ends before after
  | request {before after : GuildSession} (course : after.course = before.course)
      (id : after.id = before.id) (shared : after.shared = before.shared)
      (step : Pipeline.Step before.shared.config.pending before.toPipeline after.toPipeline) :
      Move ends before after
  | edit {before after : GuildSession} (pipeline : after.toPipeline = before.toPipeline)
      (id : after.id = before.id) (shared : Shared.Drifts before.shared after.shared)
      (edit : Course.Edit before.queueLimit before.course after.course) : Move ends before after
  | steer {before after : GuildSession} {patch : Patch}
      (pipeline : after.toPipeline = before.toPipeline) (id : after.id = before.id)
      (shared : Shared.Applies patch before.shared after.shared)
      (steer : Course.Steer patch before.course after.course) : Move ends before after
  | leave {before after : GuildSession} (pipeline : after.toPipeline = before.toPipeline)
      (id : after.id = before.id) (shared : Shared.Destroys before.shared after.shared)
      (course : after.course = before.course.left before.shared.config.volume) :
      Move ends before after
  | clear {before after : GuildSession} (pipeline : after.toPipeline = before.toPipeline)
      (id : after.id = before.id) (shared : Shared.Destroys before.shared after.shared)
      (fresh : before.channel = none) (course : after.course = before.course) :
      Move ends before after
  | halt {before after : GuildSession} (pipeline : after.toPipeline = before.toPipeline)
      (id : after.id = before.id) (shared : Shared.Drifts before.shared after.shared)
      (idle : before.channel = none ∨ before.shared.health.ready = false) (at' : ℕ)
      (course : after.course = before.course.halted at') : Move ends before after
  | restart {before selected : GuildSession} (pipeline : selected.toPipeline = before.toPipeline)
      (id : selected.id = before.id) (shared : Shared.Drifts before.shared selected.shared)
      (select : Course.Select ends before.queueLimit before.course selected.course) :
      Move ends before selected.startCurrent.2

/-- A sequence of moves. -/
def Moves (ends : ℕ → Prop) (first last : GuildSession) : Prop :=
  Relation.ReflTransGen (Move ends) first last

variable {ends : ℕ → Prop} {first second third : GuildSession}

theorem Moves.refl (self : GuildSession) : Moves ends self self := Relation.ReflTransGen.refl

theorem Moves.single (h : Move ends first second) : Moves ends first second :=
  Relation.ReflTransGen.single h

theorem Moves.trans (h : Moves ends first second) (h' : Moves ends second third) :
    Moves ends first third :=
  Relation.ReflTransGen.trans h h'

theorem Moves.quiet (h : Quiet first second) : Moves ends first second := .single (.quiet h)

/-- A sequence of moves, from the last part backwards. -/
theorem Moves.after (h' : Moves ends second third) (h : Moves ends first second) :
    Moves ends first third :=
  h.trans h'

/-- A quiet end of a sequence of moves. -/
theorem Moves.then_quiet (h : Moves ends first second) (h' : Quiet second third) :
    Moves ends first third :=
  h.trans (.quiet h')

/-- A move leads to a later shared state. -/
theorem Move.later {before after : GuildSession} (h : Move ends before after) :
    Shared.Later before.shared after.shared := by
  cases h with
  | quiet h => exact h.shared.toLater
  | request _ _ shared _ => exact shared ▸ .refl _
  | edit _ _ shared _ => exact shared.toLater
  | steer _ _ shared _ => exact shared.later
  | leave _ _ shared _ => exact shared.later
  | clear _ _ shared _ _ => exact shared.later
  | halt _ _ shared _ _ _ => exact shared.toLater
  | restart _ _ shared _ => exact shared.toLater.trans (startCurrent_later _)

/-- An invariant of every move is one of every sequence of moves. -/
theorem Moves.invariant (Invariant : GuildSession → Prop) (h : Moves ends first second)
    (step : ∀ before after, Move ends before after → Invariant before → Invariant after)
    (hfirst : Invariant first) : Invariant second := by
  rw [Moves] at h
  induction h with
  | refl => exact hfirst
  | tail _ move ih => exact step _ _ move ih

/-! ## Ends of tracks -/

variable (self : GuildSession)

/-- A course in which the queue was advanced past its current track. -/
theorem select_advanced (kind : Advance.Kind) (queue : Queue)
    (live : self.channel.isSome ∨ self.queue.current.isSome)
    (hends : kind = .finish → ends self.generation)
    (admitted : self.queue.Admitted self.queueLimit → queue.Admitted self.queueLimit) :
    Course.Select ends self.queueLimit self.course (self.course.advanced kind queue) :=
  ⟨live, rfl, rfl, rfl, rfl, rfl, rfl, admitted, Or.inr ⟨kind, hends, rfl⟩⟩

/-- The queue was advanced past a track that failed. -/
theorem select_failed (h : self.queue.current.isSome) (ends : ℕ → Prop) :
    Course.Select ends self.queueLimit self.course self.failOver.course := by
  rw [self.failOver_spec.2.2.1]
  apply self.select_advanced .fail _ (Or.inr h)
  · intro habsurd
    cases habsurd
  · exact Queue.Admitted.failed

/-- The queue was advanced past a track that came to its natural end. -/
theorem select_finished (h : self.queue.current.isSome) (ends : ℕ → Prop)
    (hends : ends self.generation) :
    Course.Select ends self.queueLimit self.course (self.advance .finish).course := by
  have hselect := self.select_advanced .finish self.queue.finished (Or.inr h) (fun _ => hends)
    Queue.Admitted.finished
  rw [← Queue.value_finish] at hselect
  exact hselect

theorem moves_trackFailure (h : self.queue.current.isSome) : Moves ends self self.trackFailure := by
  obtain ⟨pipeline, id, -, shared⟩ := self.failOver_spec
  exact .single (.restart pipeline id shared (self.select_failed h ends))

theorem moves_trackFinished (h : self.queue.current.isSome) (hends : ends self.generation) :
    Moves ends self self.trackFinished :=
  .single (.restart rfl rfl (.refl _) (self.select_finished h ends hends))

/-! ## Leaving and following the voice state -/

theorem destroys_of_drifts {before middle after : Shared} (h : Shared.Drifts before middle)
    (h' : Shared.Destroys middle after) : Shared.Destroys before after := by
  obtain ⟨middle', accepted, hbefore, hsteady, hafter⟩ := h'
  exact ⟨middle', accepted, h.trans hbefore, fun hs => hsteady (h.steady hs), hafter⟩

theorem moves_invalidate : Moves ends self self.invalidate :=
  .single (.request rfl rfl rfl (.invalidate _))

theorem moves_reset_destroy : Moves ends self self.reset.destroy := by
  have hreset : Shared.Drifts self.shared self.reset.shared :=
    (Shared.drifts_random _ _).trans (Shared.drifts_command _ _)
  exact .single (.leave rfl rfl (destroys_of_drifts hreset (Shared.destroys_destroy _)) rfl)

theorem moves_cleanup (notification : Option String) :
    Moves ends self (self.cleanup notification) := by
  have hdrained : Moves ends self self.forgetPreparations.invalidate.removePanel :=
    ((Moves.quiet self.quiet_forgetPreparations).trans (moves_invalidate _)).then_quiet
      (quiet_removePanel _)
  have hleft := hdrained.trans (moves_reset_destroy _)
  unfold cleanup
  dsimp only
  split
  · exact (hleft.then_quiet (quiet_notify _ _)).then_quiet (.of_eq rfl rfl rfl rfl)
  · exact hleft.then_quiet (.of_eq rfl rfl rfl rfl)

theorem moves_updateAlone : Moves ends self self.updateAlone := by
  refine .single (.edit rfl rfl (.refl _) (.alone _ _ ?_))
  intro hchannel
  have hnone : self.channel = none := hchannel
  show (if (self.channel.any fun channel => self.guild.any fun g => g.alone channel) = true then
    some (self.aloneAt.getD self.now) else none) = none
  rw [hnone]
  rfl

theorem moves_voiceChanged : Moves ends self self.voiceChanged := by
  rw [voiceChanged]
  split
  · exact .refl _
  · rename_i channel hchannel
    have hlive : self.course.channel.isSome := by
      show self.channel.isSome
      rw [hchannel]
      rfl
    split
    · exact self.moves_cleanup _
    · split
      · exact .refl _
      · split
        · exact self.moves_cleanup _
        · split
          · exact self.moves_updateAlone
          · split
            · dsimp only
              split
              · rename_i haccepted
                apply (moves_updateAlone _).after
                exact .single (.steer rfl rfl (Shared.applies_update haccepted)
                  (.voice _ _ _ hlive))
              · rename_i hrefused
                refine (moves_cleanup _ _).after (.quiet ?_)
                exact .of_drifts _ (Shared.drifts_update (Bool.not_eq_true _ ▸ hrefused))
            · exact self.moves_updateAlone

/-! ## Backend events and the watchdog -/

/-- The payload says that the track of the generation came to its natural end. -/
def finishes (payload : Value) (generation : ℕ) : Prop :=
  payloadKind payload = "TrackEndEvent" ∧ (payload.get "reason").isStr "finished" = true ∧
    payloadGeneration payload = some generation

/-- The snapshot says that the track of the generation came to its natural end, and
that nothing plays now. -/
def verifies (player : Value) (generation : ℕ) : Prop :=
  (player.get "track").isNull = true ∧ terminalGeneration player = some generation ∧
    snapshotGeneration player ≠ some generation ∧
      (((player.get "crust").get "terminal").get "reason").isStr "finished" = true

theorem moves_backend (payload : Value) :
    Moves (finishes payload) self (self.backend payload) := by
  rw [backend]
  split
  · exact .refl _
  · split
    · exact .quiet (self.quiet_observeProgress payload)
    · split
      · exact self.moves_cleanup _
      · split
        · exact .refl _
        · rename_i hcurrent
          rw [Bool.not_eq_true, ← Option.not_isSome, Bool.not_eq_false'] at hcurrent
          split
          · exact .refl _
          · rename_i hgeneration
            rw [not_not] at hgeneration
            split
            · split
              · exact .refl _
              · exact .quiet ((quiet_refresh _).after (.of_eq rfl rfl rfl rfl))
            · rename_i hkind
              split
              · rename_i hreason
                exact (self.moves_trackFinished hcurrent
                  ⟨hkind, hreason, hgeneration⟩).then_quiet (quiet_refresh _)
              · split
                · exact (self.moves_trackFailure hcurrent).then_quiet (quiet_refresh _)
                · exact .refl _
            · exact (self.moves_trackFailure hcurrent).then_quiet (quiet_refresh _)
            · exact (self.moves_trackFailure hcurrent).then_quiet (quiet_refresh _)
            · exact .refl _

theorem moves_recoverUnverifiableStall (h : self.queue.current.isSome) :
    Moves ends self self.recoverUnverifiableStall := by
  rw [recoverUnverifiableStall]
  split
  · exact (moves_trackFailure _ (by exact h)).after (.quiet (.of_eq rfl rfl rfl rfl))
  · exact .refl _

theorem moves_recover (finished : Bool) (h : self.queue.current.isSome)
    (hends : finished = true → ends self.generation) : Moves ends self (self.recover finished) := by
  rw [recover]
  dsimp only
  split
  · rename_i hfinished
    refine Moves.trans ?_ (moves_trackFinished _ h (hends hfinished))
    exact .quiet (.of_eq rfl rfl rfl rfl)
  · refine Moves.trans ?_ (moves_trackFailure _ h)
    exact .quiet (.of_eq rfl rfl rfl rfl)

/-- A quiet operation keeps the current track. -/
theorem Quiet.current {before after : GuildSession} (h : Quiet before after)
    (hcurrent : before.queue.current.isSome) : after.queue.current.isSome := by
  have hqueue : after.queue = before.queue := congrArg Course.queue h.course
  rw [hqueue]
  exact hcurrent

theorem moves_recoverPlayback (player : Value) (h : self.queue.current.isSome) :
    Moves (verifies player) self (self.recoverPlayback player) := by
  rw [recoverPlayback]
  split
  · have hobserved := self.quiet_observeProgress player
    dsimp only
    split
    · exact .quiet (hobserved.trans (quiet_scheduleEnd _))
    · refine (moves_recover _ false (hobserved.current h) ?_).after (.quiet hobserved)
      intro habsurd
      cases habsurd
  · rename_i hsnapshot
    split
    · rename_i hterminal
      apply self.moves_recover _ h
      intro hreason
      exact ⟨hterminal.1, hterminal.2, hsnapshot, hreason⟩
    · exact (moves_recoverUnverifiableStall _ (by exact h)).after
        (.quiet (.of_eq rfl rfl rfl rfl))

/-- The snapshot that the node returns now verifies the natural end of the generation. -/
def verifiedNow (shared : Shared) (generation : ℕ) : Prop :=
  ∃ player, shared.getPlayer.1 = some player ∧ verifies player generation

/-- More generations verified allow more moves. -/
theorem Move.mono {ends' : ℕ → Prop} (hends : ∀ generation, ends generation → ends' generation)
    {before after : GuildSession} (h : Move ends before after) : Move ends' before after := by
  cases h with
  | quiet h => exact .quiet h
  | request course id shared step => exact .request course id shared step
  | edit pipeline id shared edit => exact .edit pipeline id shared edit
  | steer pipeline id shared steer => exact .steer pipeline id shared steer
  | leave pipeline id shared course => exact .leave pipeline id shared course
  | clear pipeline id shared fresh course => exact .clear pipeline id shared fresh course
  | halt pipeline id shared idle at' course => exact .halt pipeline id shared idle at' course
  | restart pipeline id shared select =>
      refine .restart pipeline id shared { select with advances := ?_ }
      rcases select.advances with heq | ⟨kind, hfinish, heq⟩
      · exact Or.inl heq
      · exact Or.inr ⟨kind, fun hkind => hends _ (hfinish hkind), heq⟩

theorem Moves.mono {ends' : ℕ → Prop} (hends : ∀ generation, ends generation → ends' generation)
    (h : Moves ends first second) : Moves ends' first second :=
  h.invariant (fun session => Moves ends' first session)
    (fun _ _ move hbefore => hbefore.trans (.single (move.mono hends))) (.refl _)

theorem moves_checkPlayback : Moves (verifiedNow self.shared) self self.checkPlayback := by
  rw [checkPlayback]
  split
  · exact .refl _
  · rename_i hguard
    have hcurrent : self.queue.current.isSome := by
      simp only [Bool.or_eq_true, not_or] at hguard
      exact Option.isSome_iff_ne_none.mpr fun hnone => hguard.1.1.1 (by rw [hnone]; rfl)
    dsimp only
    split
    · exact .refl _
    · have hget : Quiet self { self with
          watchdogRetry := self.now + 5000, shared := self.shared.getPlayer.2 } :=
        ⟨rfl, rfl, rfl, Shared.drifts_getPlayer _⟩
      split
      · exact (moves_recoverUnverifiableStall _ (by exact hcurrent)).after
          (.quiet (hget.trans (.of_eq rfl rfl rfl rfl)))
      · rename_i player hplayer
        refine Moves.after ?_ (.quiet hget)
        apply (moves_recoverPlayback _ player (by exact hcurrent)).mono
        intro generation hverifies
        exact ⟨player, hplayer, hverifies⟩

/-- The watchdog looks at the player after the voice state was followed. -/
theorem moves_tick : Moves (verifiedNow self.voiceChanged.shared) self self.tick := by
  have hvoice : Moves (verifiedNow self.voiceChanged.shared) self self.voiceChanged :=
    self.moves_voiceChanged
  unfold tick
  dsimp only
  split
  · exact (moves_cleanup _ _).after hvoice
  · split
    · exact (moves_cleanup _ _).after hvoice
    · exact (hvoice.trans (moves_checkPlayback _)).then_quiet (quiet_refresh _)

end GuildSession

end Raydio.Session
