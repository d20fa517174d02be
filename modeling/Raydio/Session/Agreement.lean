/-
# The backend plays what the session asks for

The course of a session asks for a player: none without a voice channel, otherwise one
with the current track under its generation, the pause and the volume. While the node
is steady the backend's player is that one after every handler, except for a track that
the backend ended on its own: until the terminal event is handled the player is silent,
and it stays so after an event that the session overlooks.

Every move of the session restores the agreement; what a turn takes out of the unhandled
events is pending until its handler settled it.
-/

import Raydio.Session.Timers

namespace Raydio.Session

open Raydio.Foundation Raydio.Playback Raydio.Voice GuildSession

/-! ## The agreement -/

/-- The track that a course asks for. -/
def Course.track (self : Course) : Option (String × ℕ) :=
  self.queue.current.map fun track => (track.encoded, self.generation)

/-- The player that a course asks for. -/
def Course.player (self : Course) : Option Player :=
  self.channel.map fun _ => ⟨self.track, self.paused, self.volume⟩

/-- The player once its track has ended. -/
def Player.silent (self : Player) : Player := { self with track := none }

/-- The backend ended its track of the generation, with an event that was not handled or
is excused. -/
def Shared.Ended (excused : Value → Prop) (self : Shared) (generation : ℕ) : Prop :=
  ∃ payload ∈ self.endings, endsGeneration payload generation = true ∧
    (payload ∈ self.unhandled ∨ excused payload)

/-- The backend's player is the one that the course asks for, unless the backend ended
the track. -/
def Shared.Follows (excused : Value → Prop) (self : Shared) (course : Course) : Prop :=
  self.player = course.player ∨
    self.player = course.player.map Player.silent ∧ self.Ended excused course.generation

/-- A terminal event that the session leaves to its watchdog. -/
def Overlooked (payload : Value) : Prop :=
  payloadKind payload = "TrackEndEvent" ∧ (payload.get "reason").isStr "finished" = false ∧
    (payload.get "reason").isStr "loadFailed" = false

variable {excused : Value → Prop} {shared after : Shared} {course : Course}

namespace Shared

theorem Ended.mono {generation : ℕ} (h : shared.Ended excused generation)
    {emitted : List Value} (hendings : after.endings = shared.endings ++ emitted)
    (hunhandled : after.unhandled = shared.unhandled ++ emitted) :
    after.Ended excused generation := by
  obtain ⟨payload, hmem, hends, hleft⟩ := h
  refine ⟨payload, ?_, hends, hleft.imp_left ?_⟩
  · rw [hendings]
    exact List.mem_append_left _ hmem
  · intro hmem
    rw [hunhandled]
    exact List.mem_append_left _ hmem

/-- The outside leaves the player alone, or ends its track and emits the event. -/
theorem Follows.drifts (h : shared.Follows excused course) (hdrifts : Drifts shared after) :
    after.Follows excused course := by
  obtain ⟨emitted, hendings, hunhandled, hplayer⟩ := hdrifts.player
  rcases hplayer with hsame | ⟨encoded, generation, paused, volume, payload, hbefore, hafter,
    hemitted, hends⟩
  · rcases h with hfollows | ⟨hsilent, hended⟩
    · exact Or.inl (hsame.trans hfollows)
    · exact Or.inr ⟨hsame.trans hsilent, hended.mono hendings hunhandled⟩
  · rcases h with hfollows | ⟨hsilent, -⟩
    · -- The track that ended is the one that the course asks for.
      rw [hbefore] at hfollows
      obtain ⟨channel, -, hplayer⟩ := Option.map_eq_some_iff.mp hfollows.symm
      obtain ⟨track, -, htrack⟩ := Option.map_eq_some_iff.mp (congrArg Player.track hplayer)
      obtain ⟨-, rfl⟩ := Prod.mk.inj htrack
      refine Or.inr ⟨?_, payload, ?_, hends, Or.inl ?_⟩
      · rw [hafter, ← hfollows]
        rfl
      · rw [hendings]
        exact List.mem_append_right _ hemitted
      · rw [hunhandled]
        exact List.mem_append_right _ hemitted
    · rw [hbefore] at hsilent
      obtain ⟨player, -, hplayer⟩ := Option.map_eq_some_iff.mp hsilent.symm
      cases congrArg Player.track hplayer

/-- Another course that asks for the same player. -/
theorem Follows.congr (h : shared.Follows excused course) {other : Course}
    (hplayer : other.player = course.player) (hgeneration : other.generation = course.generation) :
    shared.Follows excused other := by
  rw [Follows]
  rw [hplayer, hgeneration]
  exact h

/-- Without a channel there is no player. -/
theorem Follows.player_eq_none (h : shared.Follows excused course)
    (hchannel : course.channel = none) :
    shared.player = none := by
  have hnone : course.player = none := by
    simp [Course.player, hchannel]
  rcases h with hfollows | ⟨hsilent, -⟩
  · exact hfollows.trans hnone
  · rw [hnone] at hsilent
    exact hsilent

theorem follows_none (hplayer : shared.player = none) (hchannel : course.channel = none) :
    shared.Follows excused course :=
  Or.inl (by simp [Course.player, hchannel, hplayer])

/-- In a channel there is a player with the volume of the session. -/
theorem Follows.exists_player (h : shared.Follows excused course) (hlive : course.channel.isSome) :
    ∃ player, shared.player = some player ∧ player.volume = course.volume := by
  obtain ⟨channel, hchannel⟩ := Option.isSome_iff_exists.mp hlive
  rcases h with hfollows | ⟨hsilent, -⟩
  · exact ⟨⟨course.track, course.paused, course.volume⟩,
      hfollows.trans (by simp [Course.player, hchannel]), rfl⟩
  · exact ⟨⟨none, course.paused, course.volume⟩,
      hsilent.trans (by simp [Course.player, hchannel, Player.silent]), rfl⟩

/-- The outside does not change the volume. -/
theorem Drifts.exists_player (h : Drifts shared after) {volume : ℕ}
    (hplayer : ∃ player, shared.player = some player ∧ player.volume = volume) :
    ∃ player, after.player = some player ∧ player.volume = volume := by
  obtain ⟨emitted, -, -, hdrifts⟩ := h.player
  obtain ⟨player, hsome, hvolume⟩ := hplayer
  rcases hdrifts with hsame | ⟨encoded, generation, paused, level, payload, hbefore, hafter, -⟩
  · exact ⟨player, hsame.trans hsome, hvolume⟩
  · rw [hsome] at hbefore
    cases hbefore
    exact ⟨_, hafter, hvolume⟩

/-- An update that names no track, on both sides of the agreement. -/
theorem Follows.receive (h : shared.Follows excused course) {session : String} {patch : Patch}
    {other : Course}
    (htrack : patch.track = none)
    (hplayer : other.player = some ((course.player.getD .fresh).apply patch))
    (hgeneration : other.generation = course.generation) :
    (shared.receive session patch true).Follows excused other := by
  have hreceived : (shared.receive session patch true).player =
      some ((shared.player.getD .fresh).apply patch) := rfl
  rcases h with hfollows | ⟨hsilent, hended⟩
  · rw [hfollows, ← hplayer] at hreceived
    exact Or.inl hreceived
  · cases hasked : course.player with
    | none =>
        rw [hasked, Option.map_none] at hsilent
        rw [hasked] at hplayer
        rw [hsilent, ← hplayer] at hreceived
        exact Or.inl hreceived
    | some player =>
        rw [hasked, Option.map_some] at hsilent
        rw [hasked] at hplayer
        refine Or.inr ⟨?_, ?_⟩
        · rw [hreceived, hsilent, hplayer]
          simp [Player.apply, Player.silent, htrack]
        · rw [hgeneration]
          exact hended

theorem Destroys.player {shared after : Shared} (h : Destroys shared after)
    (hsteady : shared.Steady) : after.player = none := by
  obtain ⟨middle, accepted, -, haccepted, hafter⟩ := h
  rw [haccepted hsteady, if_pos rfl] at hafter
  obtain ⟨_, -, -, hdrifts⟩ := hafter.player
  rcases hdrifts with hsame | ⟨_, _, _, _, _, hbefore, -⟩
  · exact hsame
  · cases hbefore

end Shared

/-! ## The moves -/

/-- A course that is steered asks for the updated player. -/
theorem Course.Steer.player {patch : Patch} {before after : Course} (h : Steer patch before after)
    (htimed : before.Timed) : patch.track = none ∧ after.generation = before.generation ∧
      after.player = some ((before.player.getD .fresh).apply patch) := by
  cases h with
  | pause before paused current =>
      cases hchannel : before.channel with
      | none =>
          rw [(htimed.away hchannel).1] at current
          cases current
      | some channel => exact ⟨rfl, rfl, by simp [Course.player, hchannel]; rfl⟩
  | volume before volume live =>
      obtain ⟨channel, hchannel⟩ := Option.isSome_iff_exists.mp live
      exact ⟨rfl, rfl, by simp [Course.player, hchannel]; rfl⟩
  | voice before voice credentials live =>
      obtain ⟨channel, hchannel⟩ := Option.isSome_iff_exists.mp live
      exact ⟨rfl, rfl, by simp [Course.player, hchannel]; rfl⟩
  | join before voice channel credentials at' fresh =>
      have hqueue : before.queue = .default := (htimed.away fresh).1
      have hpaused : before.paused = false := by
        by_contra hpaused
        have hcurrent := htimed.paused (Bool.of_not_eq_false hpaused)
        rw [hqueue] at hcurrent
        cases hcurrent
      refine ⟨rfl, rfl, ?_⟩
      simp only [Course.player, Course.track, fresh, hqueue, hpaused]
      rfl

/-- A course that asks for no track asks for a silent player. -/
theorem Course.player_silent (course : Course)
    (h : ¬ (course.channel.isSome ∧ course.queue.current.isSome)) :
    course.player.map Player.silent = course.player := by
  cases hchannel : course.channel with
  | none => simp [Course.player, hchannel]
  | some channel =>
      cases hcurrent : course.queue.current with
      | none => simp [Course.player, Course.track, Player.silent, hchannel, hcurrent]
      | some track => exact absurd (by simp [hchannel, hcurrent]) h

theorem Course.Edit.player {limit : ℕ} {before after : Course} (h : Edit limit before after) :
    after.player = before.player ∧ after.generation = before.generation := by
  cases h with
  | queue queue live current admitted =>
      refine ⟨?_, rfl⟩
      simp only [Course.player, Course.track, current]
  | alone at' live => exact ⟨rfl, rfl⟩
  | playing current => exact ⟨rfl, rfl⟩
  | idle at' live current => exact ⟨rfl, rfl⟩

namespace GuildSession

/-- The update of an attempt makes the player what the session asks for; a stop leaves
the volume to the player. -/
theorem apply_startPatch (self : GuildSession) (player : Player)
    (hvolume : player.volume = self.volume) :
    player.apply self.beginStart.startPatch = ⟨self.course.begun.track, false, self.volume⟩ := by
  have hqueue : self.beginStart.queue.current = self.queue.current := rfl
  have htrack : self.course.begun.track =
      self.queue.current.map fun track => (track.encoded, wrappingSucc self.generation) := rfl
  rw [startPatch, hqueue, htrack]
  cases self.queue.current with
  | none => simp [Player.apply, hvolume]
  | some track =>
      simp only [Player.apply]
      rfl

/-- Whatever comes of it, starting what is current ends with the backend playing what
the session then asks for. -/
theorem startCurrent_follows (self : GuildSession) (hsteady : self.shared.Steady)
    (hlive : self.channel.isSome)
    (hplayer : ∃ player, self.shared.player = some player ∧ player.volume = self.volume) :
    self.startCurrent.2.shared.Follows excused self.startCurrent.2.course := by
  apply startCurrent_rule self
    (fun session => session.shared.Steady ∧ session.channel.isSome ∧
      ∃ player, session.shared.player = some player ∧ player.volume = session.volume)
    (fun session => session.shared.Follows excused session.course)
  · intro session ⟨_, hlive, hplayer⟩ haccepted
    obtain ⟨channel, hchannel⟩ := Option.isSome_iff_exists.mp hlive
    obtain ⟨node, middle, hbefore, hafter⟩ := Shared.applies_update haccepted
    obtain ⟨player, hsome, hvolume⟩ := hbefore.exists_player hplayer
    refine Shared.Follows.drifts (Or.inl ?_) hafter
    have hreceived : (middle.receive node session.beginStart.startPatch true).player =
        some (player.apply session.beginStart.startPatch) := by
      show some ((middle.player.getD .fresh).apply _) = _
      rw [hsome]
      rfl
    have hasked : session.attemptStart.2.settleStart.course.player =
        some ⟨session.course.begun.track, false, session.volume⟩ := by
      show session.channel.map _ = _
      rw [hchannel]
      rfl
    rw [hreceived, hasked]
    exact congrArg some (session.apply_startPatch player hvolume)
  · intro session ⟨hsteady, _, _⟩ hrefused hnone
    have hpatch : session.beginStart.startPatch.startsTrack = false := by
      rw [session.startPatch_startsTrack, hnone]
      rfl
    rw [session.attemptStart_update.1, hsteady.update hpatch] at hrefused
    cases hrefused
  · intro session ⟨hsteady, hlive, hplayer⟩ hrefused _
    obtain ⟨-, -, hcourse, hdrifts⟩ := session.attemptStart.2.failOver_spec
    have hall : Shared.Drifts session.shared session.attemptStart.2.failOver.shared :=
      (Shared.drifts_update hrefused).trans hdrifts
    have hchannel : session.attemptStart.2.failOver.channel = session.channel :=
      congrArg Course.channel hcourse
    have hvolume : session.attemptStart.2.failOver.volume = session.volume :=
      congrArg Course.volume hcourse
    rw [hchannel, hvolume]
    exact ⟨hall.steady hsteady, hlive, hall.exists_player hplayer⟩
  · exact ⟨hsteady, hlive, hplayer⟩

/-- The node is steady, and the backend plays what the session asks for. -/
structure InTune (excused : Value → Prop) (session : GuildSession) : Prop where
  steady : session.shared.Steady
  timed : session.course.Timed
  follows : session.shared.Follows excused session.course

theorem InTune.quiet {before after : GuildSession} (h : InTune excused before)
    (hquiet : Quiet before after) : InTune excused after where
  steady := hquiet.shared.steady h.steady
  timed := hquiet.course ▸ h.timed
  follows := by
    rw [hquiet.course]
    exact h.follows.drifts hquiet.shared

/-- A restart makes the session and the backend agree, whatever was excused before. -/
theorem InTune.restart {other : Value → Prop} {ends : ℕ → Prop} {before selected : GuildSession}
    (h : InTune other before) (hdrifts : Shared.Drifts before.shared selected.shared)
    (select : Course.Select ends before.queueLimit before.course selected.course) :
    InTune excused selected.startCurrent.2 := by
  have hlive : selected.course.channel.isSome := select.channel_isSome h.timed
  have hsteady : selected.shared.Steady := hdrifts.steady h.steady
  have hplayer : ∃ player, selected.shared.player = some player ∧
      player.volume = selected.course.volume := by
    rw [select.volume]
    exact hdrifts.exists_player (h.follows.exists_player (select.channel ▸ hlive))
  exact ⟨(startCurrent_later selected).steady hsteady,
    startCurrent_timed selected hlive (select.credentials_isSome h.timed),
    startCurrent_follows selected hsteady hlive hplayer⟩

theorem Move.inTune {ends : ℕ → Prop} {before after : GuildSession} (h : Move ends before after)
    (hbefore : InTune excused before) : InTune excused after := by
  refine ⟨h.later.steady hbefore.steady, h.timed hbefore.timed, ?_⟩
  cases h with
  | quiet h => exact (hbefore.quiet h).follows
  | request course id shared step =>
      rw [shared, course]
      exact hbefore.follows
  | edit pipeline id shared edit =>
      exact (hbefore.follows.drifts shared).congr edit.player.1 edit.player.2
  | steer pipeline id shared steer =>
      obtain ⟨node, middle, hfirst, hlast⟩ := shared
      obtain ⟨htrack, hgeneration, hplayer⟩ := steer.player hbefore.timed
      exact ((hbefore.follows.drifts hfirst).receive htrack hplayer hgeneration).drifts hlast
  | leave pipeline id shared course =>
      rw [course]
      exact Shared.follows_none (shared.player hbefore.steady) rfl
  | clear pipeline id shared fresh course =>
      rw [course]
      exact Shared.follows_none (shared.player hbefore.steady) fresh
  | halt pipeline id shared idle at' course =>
      rcases idle with hchannel | hready
      · rw [course]
        exact Shared.follows_none
          ((hbefore.follows.drifts shared).player_eq_none hchannel) hchannel
      · rw [hbefore.steady.ready] at hready
        cases hready
  | restart pipeline id shared select => exact (hbefore.restart shared select).follows

/-! ## Terminal events -/

/-- An event that is handled excuses nothing any more, unless it is overlooked or ended
another generation. -/
theorem settle_follows {session : GuildSession} {payload : Value}
    (h : session.shared.Follows (fun other => excused other ∨ other = payload) session.course)
    (hpayload : endsGeneration payload session.generation = true → session.channel.isSome →
      session.queue.current.isSome → excused payload) :
    session.shared.Follows excused session.course := by
  rcases h with hfollows | ⟨hsilent, other, hmem, hends, hleft⟩
  · exact Or.inl hfollows
  · by_cases hneeded : session.channel.isSome ∧ session.queue.current.isSome
    · refine Or.inr ⟨hsilent, other, hmem, hends, ?_⟩
      rcases hleft with hunhandled | hexcused | rfl
      · exact Or.inl hunhandled
      · exact Or.inr hexcused
      · exact Or.inr (hpayload hends hneeded.1 hneeded.2)
    · exact Or.inl (hsilent.trans (Course.player_silent _ hneeded))

/-- A terminal event for what the session asks for is acted upon, unless it is
overlooked. -/
theorem backend_of_ends (self : GuildSession) (payload : Value)
    (hends : endsGeneration payload self.generation = true) (hlive : self.channel.isSome)
    (hcurrent : self.queue.current.isSome) (hseen : ¬ Overlooked payload) :
    self.backend payload = self.trackFinished.refresh ∨
      self.backend payload = self.trackFailure.refresh := by
  simp only [endsGeneration, terminalKinds, Bool.and_eq_true, Bool.not_eq_true', beq_iff_eq,
    List.contains_eq_mem, decide_eq_true_eq, List.mem_cons, List.not_mem_nil, or_false] at hends
  obtain ⟨⟨hop, hkind⟩, hgeneration⟩ := hends
  have hchannel : ¬ self.channel.isNone = true := by
    rwa [Bool.not_eq_true, ← Option.not_isSome, Bool.not_eq_false']
  have hplaying : ¬ self.queue.current.isNone = true := by
    rwa [Bool.not_eq_true, ← Option.not_isSome, Bool.not_eq_false']
  have hopen : payloadKind payload ≠ "WebSocketClosedEvent" := by
    rcases hkind with hkind | hkind | hkind <;> simp [hkind]
  rw [backend, if_neg hchannel, if_neg (by simp [hop]), if_neg hopen, if_neg hplaying,
    if_neg (by simp [hgeneration])]
  rcases hkind with hkind | hkind | hkind
  · rw [hkind]
    by_cases hfinished : (payload.get "reason").isStr "finished" = true
    · exact Or.inl (if_pos hfinished)
    · by_cases hloaded : (payload.get "reason").isStr "loadFailed" = true
      · exact Or.inr ((if_neg hfinished).trans (if_pos hloaded))
      · exact absurd ⟨hkind, Bool.eq_false_iff.mpr hfinished, Bool.eq_false_iff.mpr hloaded⟩ hseen
  · rw [hkind]
    exact Or.inr rfl
  · rw [hkind]
    exact Or.inr rfl

theorem InTune.trackFinished {other : Value → Prop} {session : GuildSession}
    (h : InTune other session) (hcurrent : session.queue.current.isSome) :
    InTune excused session.trackFinished :=
  h.restart (.refl _) (session.select_finished hcurrent (fun _ => True) trivial)

theorem InTune.trackFailure {other : Value → Prop} {session : GuildSession}
    (h : InTune other session) (hcurrent : session.queue.current.isSome) :
    InTune excused session.trackFailure :=
  h.restart session.failOver_spec.2.2.2 (session.select_failed hcurrent fun _ => True)

/-- Handling an event settles it. -/
theorem InTune.backend {session : GuildSession} (payload : Value)
    (h : InTune (fun other => Overlooked other ∨ other = payload) session) :
    InTune Overlooked (session.backend payload) := by
  by_cases hacts : (endsGeneration payload session.generation = true ∧ session.channel.isSome ∧
      session.queue.current.isSome) ∧ ¬ Overlooked payload
  · obtain ⟨⟨hends, hlive, hcurrent⟩, hseen⟩ := hacts
    rcases session.backend_of_ends payload hends hlive hcurrent hseen with hacted | hacted
    · rw [hacted]
      exact (h.trackFinished hcurrent).quiet (quiet_refresh _)
    · rw [hacted]
      exact (h.trackFailure hcurrent).quiet (quiet_refresh _)
  · refine (session.moves_backend payload).invariant (InTune Overlooked)
      (fun _ _ move hbefore => move.inTune hbefore) ⟨h.steady, h.timed, settle_follows h.follows ?_⟩
    intro hends hlive hcurrent
    by_contra hseen
    exact hacts ⟨⟨hends, hlive, hcurrent⟩, hseen⟩

theorem InTune.moves {ends : ℕ → Prop} {first last : GuildSession} (h : InTune excused first)
    (hmoves : Moves ends first last) : InTune excused last :=
  hmoves.invariant (InTune excused) (fun _ _ move hbefore => move.inTune hbefore) h

/-! ## Steps of a run -/

/-- A turn takes its script from a steady outside. -/
theorem InTune.prepare {session : GuildSession} (h : InTune excused session) {script : List Moment}
    (hscript : ∀ moment ∈ script, moment.Steady) (random : List ℕ) :
    InTune excused (session.prepare script random) :=
  ⟨⟨h.steady.ready, hscript⟩, h.timed, h.follows⟩

/-- An event that a turn takes is pending until it was handled. -/
theorem InTune.take {session : GuildSession} (h : InTune excused session) {index : ℕ}
    {payload : Value} (hpayload : session.shared.unhandled[index]? = some payload) :
    InTune (fun other => excused other ∨ other = payload) { session with
      shared.unhandled := session.shared.unhandled.eraseIdx index } := by
  refine ⟨⟨h.steady.ready, h.steady.script⟩, h.timed, h.follows.imp_right ?_⟩
  rintro ⟨hsilent, other, hmem, hends, hleft⟩
  refine ⟨hsilent, other, hmem, hends, ?_⟩
  rcases hleft with hunhandled | hexcused
  · obtain ⟨hlt, hget⟩ := List.getElem?_eq_some_iff.mp hpayload
    rcases List.mem_cons.mp
      ((List.getElem_cons_eraseIdx_perm hlt).mem_iff.mpr hunhandled) with hsame | hrest
    · exact Or.inr (Or.inr (hsame.trans hget))
    · exact Or.inl hrest
  · exact Or.inr (Or.inl hexcused)

end GuildSession

/-- The outside stays steady while an input is handled. -/
def Input.Steady : Input → Prop
  | .outside (.pass moment) => moment.Steady
  | .outside _ => True
  | .turn _ script _ _ => ∀ moment ∈ script, moment.Steady
  | .close script _ _ => ∀ moment ∈ script, moment.Steady

instance : DecidablePred Moment.Steady := fun moment =>
  decidable_of_iff ((∀ health ∈ moment.health, health.ready = true) ∧
    moment.refusal ≠ .everything) ⟨fun h => ⟨h.1, h.2⟩, fun h => ⟨h.ready, h.refusal⟩⟩

instance : DecidablePred Input.Steady
  | .outside (.pass moment) => inferInstanceAs (Decidable moment.Steady)
  | .outside (.endLoader _ _) => isTrue trivial
  | .outside (.endResponse _ _) => isTrue trivial
  | .outside (.endPreparation _ _) => isTrue trivial
  | .outside (.endDeletion _ _) => isTrue trivial
  | .outside (.endEdit _ _) => isTrue trivial
  | .turn _ script _ _ => inferInstanceAs (Decidable (∀ moment ∈ script, moment.Steady))
  | .close script _ _ => inferInstanceAs (Decidable (∀ moment ∈ script, moment.Steady))

namespace Worker

/-- A running session is in tune; one that has ended was so before its last cleanup. -/
def Tuned (worker : Worker) : Prop :=
  worker.Holds (InTune Overlooked) fun session =>
    ∃ last cut, session = last.close cut ∧ InTune Overlooked last

/-- A turn for a terminal event. -/
theorem step_ending {session : GuildSession} (h : InTune Overlooked session) (index : ℕ)
    {script : List Moment} (hscript : ∀ moment ∈ script, moment.Steady) (random : List ℕ)
    (cut : ℕ) : ((running session).step (.turn (.ending index) script random cut)).Tuned := by
  have hprepared := h.prepare hscript random
  cases hpayload : (session.prepare script random).shared.unhandled[index]? with
  | none =>
      simp only [step, handle, hpayload]
      exact h
  | some payload =>
      have hfollowed := ((hprepared.take hpayload).backend payload).moves
        (moves_followUp _ : Moves (fun _ => False) _ _)
      simp only [step, handle, hpayload]
      split
      · exact ⟨_, cut, rfl, hfollowed⟩
      · exact hfollowed

theorem step_tuned {session : GuildSession} (h : InTune Overlooked session) {input : Input}
    (hinput : input.Steady) : ((running session).step input).Tuned := by
  have hready (hready : InTune Overlooked (input.ready session)) :
      ((running session).step input).Tuned :=
    step_rule _ _ (fun _ hmoves => hready.moves hmoves) (fun last cut h => ⟨last, cut, rfl, h⟩) h
  cases input with
  | outside move =>
      apply hready
      cases move with
      | pass moment => exact h.quiet (.of_drifts _ (Shared.drifts_pass fun _ => hinput))
      | _ => exact h
  | turn arm script random cut =>
      have hprepared := h.prepare hinput random
      cases arm with
      | ending index => exact step_ending h index hinput random cut
      | joinLoader index =>
          exact hready ⟨hprepared.steady, hprepared.timed, hprepared.follows⟩
      | _ => exact hready hprepared
  | close script random cut => exact hready (h.prepare hinput random)

/-! ## Runs -/

/-- While the node is steady, after every handler the backend plays what the session
asks for, unless it ended that track on its own and the terminal event was not handled or
is one that the session overlooks. -/
theorem run_agrees (id : ℕ) (shared : Shared) (inputs : List Input) (hsteady : shared.Steady)
    (hplayer : shared.player = none) (hinputs : ∀ input ∈ inputs, input.Steady) :
    ((start id shared).run inputs).Holds
      (fun session => session.shared.Follows Overlooked session.course)
      (fun session => ∃ (last : GuildSession) (cut : ℕ), session = last.close cut ∧
        last.shared.Follows Overlooked last.course) := by
  have hstart : (start id shared).Tuned :=
    ⟨(Shared.drifts_random _ _).steady hsteady, Course.timed_new id shared,
      Shared.follows_none hplayer rfl⟩
  have htuned : ((start id shared).run inputs).Tuned :=
    run_steps _ _ (fun _ _ hinput h => step_tuned h hinput) _ inputs
      (along_of_forall hinputs _) hstart
  cases hrun : (start id shared).run inputs with
  | running session =>
      rw [hrun] at htuned
      exact htuned.follows
  | ended session =>
      rw [hrun] at htuned
      obtain ⟨last, cut, hclosed, h⟩ := htuned
      exact ⟨last, cut, hclosed, h.follows⟩

/-- A track is played, and the backend ends it without naming it finished or failed. -/
def cleanedUp : List Input :=
  [Sample.play] ++ Sample.resolve [Sample.track "a"] ++
    [.outside (.pass { ending := some (Sample.event "TrackEndEvent" "cleanup" 1) }),
      .turn (.ending 0) [] [] 4]

/-- The backend ends a track on its own. -/
theorem run_agrees_cleanedUp :
    ((start 1 Sample.shared).run cleanedUp).Holds
      (fun session => session.shared.Follows Overlooked session.course)
      (fun session => ∃ (last : GuildSession) (cut : ℕ), session = last.close cut ∧
        last.shared.Follows Overlooked last.course) :=
  run_agrees 1 Sample.shared cleanedUp ⟨rfl, by decide⟩ rfl (by decide +kernel)

/-- Once the event is handled nothing excuses the silent player but that it was
overlooked. -/
theorem cleanedUp_silent :
    Sample.shared.Steady ∧ Sample.shared.player = none ∧
      (∀ input ∈ cleanedUp, input.Steady) ∧
      ¬ ((start 1 Sample.shared).run cleanedUp).Holds
        (fun session => session.shared.Follows (fun _ => False) session.course)
        (fun _ => True) := by
  refine ⟨⟨rfl, by decide⟩, rfl, by decide +kernel, ?_⟩
  have hplayer : ((start 1 Sample.shared).run cleanedUp).session.shared.player =
      some ⟨none, false, 80⟩ := by decide +kernel
  have hasked : ((start 1 Sample.shared).run cleanedUp).session.course.player =
      some ⟨some ("a", 1), false, 80⟩ := by decide +kernel
  have hhandled : ((start 1 Sample.shared).run cleanedUp).session.shared.unhandled.length = 0 := by
    decide +kernel
  have hrunning : ((start 1 Sample.shared).run cleanedUp).Holds
      (fun _ => True) (fun _ => False) := by
    decide +kernel
  intro hholds
  cases hrun : (start 1 Sample.shared).run cleanedUp with
  | ended session =>
      rw [hrun] at hrunning
      exact hrunning
  | running session =>
      rw [hrun] at hplayer hasked hhandled hholds
      have hplays : session.shared.player ≠ session.course.player := by
        intro hsame
        have habsurd := hplayer.symm.trans (hsame.trans hasked)
        simp at habsurd
      obtain ⟨-, payload, -, -, hunhandled | hexcused⟩ := hholds.resolve_left hplays
      · have hnone : session.shared.unhandled = [] := List.length_eq_zero_iff.mp hhandled
        rw [hnone] at hunhandled
        cases hunhandled
      · exact hexcused

end Worker

end Raydio.Session
