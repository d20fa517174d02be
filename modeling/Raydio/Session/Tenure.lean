/-
# How long a session stays in its voice channel

A session asks the gateway for a voice channel when it joins one, and takes it back when it
leaves. Until then two instants tell how long it may stay: since when nothing plays, and
since when nobody listens. Each is set to the present only, and is kept until something
plays, or somebody listens; so that a session that leaves because of one of them was idle,
or alone, all the time since.
-/

import Raydio.Session.Authorization
import Raydio.Session.Elapses
import Raydio.Session.Upkeep

namespace Raydio.Session

open Raydio.Foundation Raydio.Playback Raydio.Voice Raydio.Views Raydio.Discord Raydio.Resolver
  GuildSession

namespace GuildSession

open Shared (Elapses)

variable (self : GuildSession) {first second third : GuildSession}

/-! ## Staying -/

/-- What a part of a handler does to the stay in the voice channel. The instants since when
nothing plays and since when nobody listens are kept, forgotten, or set to the present; and
the channel is the one that was asked for, if it was before. -/
structure Stays (first second : GuildSession) : Prop where
  passes : Shared.Passes first.shared second.shared
  idle : ∀ t, second.idleAt = some t → first.idleAt = some t ∨ first.now ≤ t
  alone : ∀ t, second.aloneAt = some t → first.aloneAt = some t ∨ first.now ≤ t
  told : (∀ c, first.channel = some c → first.shared.asked = some c) →
    ∀ c, second.channel = some c → second.shared.asked = some c
  agrees : first.shared.Open → first.shared.asked = first.channel →
    second.shared.asked = second.channel

/-- An instant that two parts keep, forget, or set to the present. -/
theorem kept_or_set_trans {before between after : Option ℕ} {now then' : ℕ} (hlater : now ≤ then')
    (h : ∀ t, between = some t → before = some t ∨ now ≤ t)
    (h' : ∀ t, after = some t → between = some t ∨ then' ≤ t) (t : ℕ) (ht : after = some t) :
    before = some t ∨ now ≤ t := by
  rcases h' t ht with hkept | hset
  · exact h t hkept
  · exact .inr (hlater.trans hset)

theorem Stays.trans (h : Stays first second) (h' : Stays second third) : Stays first third where
  passes := h.passes.trans h'.passes
  idle := kept_or_set_trans h.passes.later h.idle h'.idle
  alone := kept_or_set_trans h.passes.later h.alone h'.alone
  told htold := h'.told (h.told htold)
  agrees hopen hagrees := h'.agrees (h.passes.opens hopen) (h.agrees hopen hagrees)

/-- From the last part backwards. -/
theorem Stays.after (h' : Stays second third) (h : Stays first second) : Stays first third :=
  h.trans h'

/-- While time passes, the instants are kept or set to the present. -/
theorem stays_of_elapses (h : Elapses first.shared second.shared)
    (hchannel : second.channel = first.channel)
    (hidle : ∀ t, second.idleAt = some t → first.idleAt = some t ∨ first.now ≤ t)
    (halone : ∀ t, second.aloneAt = some t → first.aloneAt = some t ∨ first.now ≤ t) :
    Stays first second where
  passes := h.toPasses
  idle := hidle
  alone := halone
  told htold c hc := by
    rw [h.asked]
    exact htold c (hchannel ▸ hc)
  agrees _ hagrees := by rw [h.asked, hchannel, hagrees]

/-- The instants and the channel are kept. -/
theorem Stays.keep (channel : second.channel = first.channel)
    (idleAt : second.idleAt = first.idleAt) (aloneAt : second.aloneAt = first.aloneAt)
    (h : Elapses first.shared second.shared) : Stays first second :=
  stays_of_elapses h channel (fun _ ht => .inl (idleAt ▸ ht)) fun _ ht => .inl (aloneAt ▸ ht)

/-- What a quiet part does. -/
theorem stays_quiet (h : Quiet first second) (hshared : Elapses first.shared second.shared) :
    Stays first second :=
  .keep (congrArg Course.channel h.course) (congrArg Course.idleAt h.course)
    (congrArg Course.aloneAt h.course) hshared

theorem Stays.refl : Stays self self := .keep rfl rfl rfl (.refl _)

theorem stays_error (request : Request) (text : String) : Stays self (self.error request text) :=
  stays_quiet (self.quiet_error request text) (self.shared.elapses_error request text)

theorem stays_refresh : Stays self self.refresh :=
  stays_quiet self.quiet_refresh self.elapses_refresh

theorem stays_presentPlayer (request : Request) (content : Option String) :
    Stays self (self.presentPlayer request content) :=
  stays_quiet (self.quiet_presentPlayer request content)
    (self.elapses_presentPlayer request content)

/-- An attempt to start sends an update. -/
theorem stays_attemptStart : Stays self self.attemptStart.2 :=
  .keep rfl rfl rfl (self.shared.elapses_update _)

/-- The time since which nothing plays is set to the present. -/
theorem stays_idle : Stays self { self with idleAt := some self.now } := by
  refine stays_of_elapses (.refl _) rfl ?_ (fun _ ht => .inl ht)
  intro t ht
  cases ht
  exact .inr le_rfl

theorem stays_settleStart : Stays self self.settleStart := by
  rw [settleStart]
  split
  · exact self.stays_idle
  · refine stays_of_elapses (.refl _) rfl ?_ (fun _ ht => .inl ht)
    intro t hnone
    cases hnone

theorem stays_failOver : Stays self self.failOver := by
  rw [failOver]
  dsimp only
  split
  · exact (stays_quiet (quiet_notify _ _) (elapses_notify _ _)).after (.keep rfl rfl rfl (.refl _))
  · exact .keep rfl rfl rfl (.refl _)

theorem stays_startCurrent : Stays self self.startCurrent.2 := by
  apply startCurrent_rule self (Stays self) (Stays self)
  · intro session h _
    exact (stays_settleStart _).after (session.stays_attemptStart.after h)
  · intro session h _ _
    exact (stays_idle _).after (session.stays_attemptStart.after h)
  · intro session h _ _
    exact (stays_failOver _).after (session.stays_attemptStart.after h)
  · exact .refl self

theorem stays_trackFailure : Stays self self.trackFailure :=
  (stays_startCurrent _).after self.stays_failOver

theorem stays_trackFinished : Stays self self.trackFinished :=
  (stays_startCurrent _).after (.keep rfl rfl rfl (.refl _))

/-! ## Leaving -/

/-- The session has left its channel, and has taken back what was asked for if the gateway
is open. -/
structure Leaves (first second : GuildSession) : Prop where
  channel : second.channel = none
  idleAt : second.idleAt = none
  aloneAt : second.aloneAt = none
  passes : Shared.Passes first.shared second.shared
  asked : first.shared.Open → second.shared.asked = none

theorem Leaves.stays (h : Leaves first second) : Stays first second where
  passes := h.passes
  idle t hnone := by
    rw [h.idleAt] at hnone
    cases hnone
  alone t hnone := by
    rw [h.aloneAt] at hnone
    cases hnone
  told _ c hnone := by
    rw [h.channel] at hnone
    cases hnone
  agrees hopen _ := by rw [h.asked hopen, h.channel]

theorem Leaves.after (h : Leaves second third)
    (hpasses : Shared.Passes first.shared second.shared) : Leaves first third :=
  ⟨h.channel, h.idleAt, h.aloneAt, hpasses.trans h.passes, fun hopen =>
    h.asked (hpasses.opens hopen)⟩

theorem leaves_reset : Leaves self self.reset := by
  have hrenewed : Elapses self.shared self.renewToken.shared := self.elapses_renewToken
  refine ⟨rfl, rfl, rfl, hrenewed.toPasses.trans (Shared.passes_command _ none), ?_⟩
  intro hopen
  exact Shared.asked_command _ none ((hrenewed.opens hopen).command none)

theorem leaves_removed : Leaves self self.forgetPreparations.invalidate.removePanel.reset :=
  (leaves_reset _).after ((elapses_removePanel self.forgetPreparations.invalidate).after
    self.elapses_forgetPreparations).toPasses

theorem leaves_cleanup (notification : Option String) :
    Leaves self (self.cleanup notification) := by
  have hleft : Elapses self.forgetPreparations.invalidate.removePanel.reset.shared
      (self.cleanup notification).shared := by
    unfold cleanup
    dsimp only
    split
    · exact (elapses_notify _ _).after (Shared.elapses_destroy _)
    · exact Shared.elapses_destroy _
  have hcourse : (self.cleanup notification).course =
      self.forgetPreparations.invalidate.removePanel.reset.course := by
    unfold cleanup
    dsimp only
    split
    · exact (quiet_notify _ _).course
    · rfl
  refine ⟨congrArg Course.channel hcourse, congrArg Course.idleAt hcourse,
    congrArg Course.aloneAt hcourse, self.leaves_removed.passes.trans hleft.toPasses, ?_⟩
  intro hopen
  rw [hleft.asked, self.leaves_removed.asked hopen]

theorem stays_cleanup (notification : Option String) : Stays self (self.cleanup notification) :=
  (self.leaves_cleanup notification).stays

/-! ## Handlers -/

theorem stays_updateAlone : Stays self self.updateAlone := by
  refine stays_of_elapses (.refl _) rfl (fun _ ht => .inl ht) ?_
  intro t ht
  rw [updateAlone] at ht
  dsimp only at ht
  split at ht
  · cases hbefore : self.aloneAt with
    | none =>
        rw [hbefore] at ht
        cases ht
        exact .inr le_rfl
    | some since =>
        rw [hbefore] at ht
        exact .inl ht
  · cases ht

theorem stays_voiceChanged : Stays self self.voiceChanged := by
  rw [voiceChanged]
  split
  · exact .refl self
  · split
    · exact self.stays_cleanup _
    · split
      · exact .refl self
      · split
        · exact self.stays_cleanup _
        · split
          · exact self.stays_updateAlone
          · split
            · have hsent (patch : Patch) : Stays self (self.update patch).2 :=
                .keep rfl rfl rfl (self.shared.elapses_update patch)
              dsimp only
              split
              · exact (stays_updateAlone _).after ((hsent _).trans (.keep rfl rfl rfl (.refl _)))
              · exact (stays_cleanup _ _).after (hsent _)
            · exact self.stays_updateAlone

theorem stays_onConnected : Stays self self.onConnected := by
  rw [onConnected]
  split
  · exact .keep rfl rfl rfl self.shared.elapses_destroy
  · split
    · exact self.stays_startCurrent
    · exact self.stays_voiceChanged

theorem stays_observeProgress (payload : Value) : Stays self (self.observeProgress payload) :=
  stays_quiet (self.quiet_observeProgress payload) (self.elapses_observeProgress payload)

theorem stays_backend (payload : Value) : Stays self (self.backend payload) := by
  rw [backend]
  split
  · exact .refl self
  · split
    · exact self.stays_observeProgress payload
    · split
      · exact self.stays_cleanup _
      · split
        · exact .refl self
        · split
          · exact .refl self
          · split
            · split
              · exact .refl self
              · exact (stays_refresh _).after (.keep rfl rfl rfl (.refl _))
            · split
              · exact (stays_refresh _).after self.stays_trackFinished
              · split
                · exact (stays_refresh _).after self.stays_trackFailure
                · exact .refl self
            · exact (stays_refresh _).after self.stays_trackFailure
            · exact (stays_refresh _).after self.stays_trackFailure
            · exact .refl self

theorem stays_recover (finished : Bool) : Stays self (self.recover finished) := by
  rw [recover]
  dsimp only
  split
  · exact (stays_trackFinished _).after (.keep rfl rfl rfl (.refl _))
  · exact (stays_trackFailure _).after (.keep rfl rfl rfl (.refl _))

theorem stays_recoverUnverifiableStall : Stays self self.recoverUnverifiableStall := by
  rw [recoverUnverifiableStall]
  split
  · exact (stays_trackFailure _).after (.keep rfl rfl rfl (.refl _))
  · exact .refl self

theorem stays_recoverPlayback (player : Value) : Stays self (self.recoverPlayback player) := by
  rw [recoverPlayback]
  split
  · dsimp only
    split
    · exact (self.stays_observeProgress player).trans (.keep rfl rfl rfl (.refl _))
    · exact (stays_recover _ _).after (self.stays_observeProgress player)
  · split
    · exact self.stays_recover _
    · exact (stays_recoverUnverifiableStall _).after (.keep rfl rfl rfl (.refl _))

theorem stays_checkPlayback : Stays self self.checkPlayback := by
  rw [checkPlayback]
  split
  · exact .refl self
  · dsimp only
    split
    · exact .refl self
    · split
      · exact (stays_recoverUnverifiableStall _).after
          (.keep rfl rfl rfl self.shared.elapses_getPlayer)
      · exact (stays_recoverPlayback _ _).after
          (.keep rfl rfl rfl self.shared.elapses_getPlayer)

/-- What a tick does after it looked at the voice state. -/
theorem stays_ticked : Stays self.voiceChanged self.tick := by
  unfold tick
  dsimp only
  split
  · exact stays_cleanup _ _
  · split
    · exact stays_cleanup _ _
    · exact (stays_refresh _).after (stays_checkPlayback _)

theorem stays_tick : Stays self self.tick := self.stays_voiceChanged.trans self.stays_ticked

/-! ## Controls -/

theorem stays_setPaused (paused : Bool) : Stays self (self.setPaused paused).2 := by
  have hsent : Stays self (self.update { paused := some paused }).2 :=
    .keep rfl rfl rfl (self.shared.elapses_update _)
  rw [setPaused]
  split
  · exact .refl self
  · split
    · exact .refl self
    · dsimp only
      split
      · exact hsent
      · exact hsent.trans (.keep rfl rfl rfl (.refl _))

theorem stays_setVolume (level : String) : Stays self (self.setVolume level).2 := by
  rw [setVolume]
  split
  · exact .refl self
  · split
    · exact .refl self
    · rename_i volume _ _
      have hsent : Stays self (self.update { volume := some volume }).2 :=
        .keep rfl rfl rfl (self.shared.elapses_update _)
      dsimp only
      split
      · exact hsent
      · exact hsent.trans (.keep rfl rfl rfl (.refl _))

theorem stays_setLoopMode (mode : String) : Stays self (self.setLoopMode mode).2 := by
  rw [setLoopMode]
  split
  · exact .refl self
  · exact .keep rfl rfl rfl (.refl _)

theorem stays_transport (verb : String) : Stays self (self.transport verb).2 := by
  rw [transport]
  split <;> exact self.stays_startCurrent

theorem stays_previous : Stays self self.previous.2 := by
  rw [previous]
  split
  · exact (stays_transport _ _).after (.keep rfl rfl rfl (.refl _))
  · exact .keep rfl rfl rfl (.refl _)
  · exact .keep rfl rfl rfl (.refl _)

theorem stays_jump (position : ℕ) : Stays self (self.jump position).2 := by
  rw [jump]
  split
  · exact (stays_transport _ _).after (.keep rfl rfl rfl (.refl _))
  · exact .keep rfl rfl rfl (.refl _)

theorem stays_skip : Stays self self.skip.2 := by
  rw [skip]
  split
  · exact .refl self
  · exact (stays_transport _ _).after (.keep rfl rfl rfl (.refl _))

theorem stays_stop : Stays self self.stop.2 := by
  have hhalted : Stays self self.invalidate.halt := .keep rfl rfl rfl (.of_eq rfl rfl rfl rfl)
  rw [stop]
  dsimp only
  split
  · exact hhalted
  · split
    · split
      · exact (stays_startCurrent _).after hhalted
      · exact (stays_idle _).after ((stays_startCurrent _).after hhalted)
    · exact (stays_idle _).after hhalted

theorem stays_perform (request : Request) : Stays self (self.perform request).2 := by
  unfold perform
  split
  · exact self.stays_setPaused _
  · exact self.stays_setPaused _
  · exact self.stays_setVolume _
  · exact self.stays_setLoopMode _
  · exact .keep rfl rfl rfl (.refl _)
  · exact .keep rfl rfl rfl (.refl _)
  · exact .keep rfl rfl rfl (.refl _)
  · exact .keep rfl rfl rfl (.of_eq rfl rfl rfl rfl)
  · exact self.stays_previous
  · exact self.stays_jump _
  · exact self.stays_skip
  · exact self.stays_stop
  · exact self.stays_cleanup none

theorem stays_answerControl (request : Request) : Stays self (self.answerControl request) := by
  have hcontrol : Stays self (self.control request).2 := by
    rcases self.control_authorized request with hsame | ⟨-, hperform⟩
    · rw [hsame]
      exact .refl self
    · rw [hperform]
      exact self.stays_perform request
  rw [answerControl]
  refine (stays_refresh _).after ?_
  split
  · exact (stays_quiet (quiet_confirm _ _ _) (elapses_confirm _ _ _)).after hcontrol
  · exact (stays_error _ _ _).after hcontrol

/-! ## Interactions -/

theorem stays_respond (request : Request) (view : View) : Stays self (self.respond request view) :=
  stays_quiet (self.quiet_respond request view) (self.shared.elapses_respond request view)

theorem stays_preparePlay (request : Request) : Stays self (self.preparePlay request) := by
  have hensured : Stays self { self with shared := self.shared.ensureBotMembership self.id } :=
    .keep rfl rfl rfl (self.shared.elapses_ensureBotMembership self.id)
  rw [preparePlay]
  split
  · exact self.stays_error _ _
  · split
    · exact self.stays_error _ _
    · split
      · exact self.stays_error _ _
      · dsimp only
        split
        · exact (stays_error _ _ _).after hensured
        · split
          · exact (stays_error _ _ _).after hensured
          · split
            · exact (stays_error _ _ _).after hensured
            · exact hensured.trans (.keep rfl rfl rfl (.refl _))

theorem stays_dispatch (request : Request) : Stays self (self.dispatch request) := by
  have hshown := stays_quiet (self.quiet_queueView 0) (self.elapses_queueView 0)
  rw [dispatch]
  split
  · exact self.stays_preparePlay request
  · exact self.stays_presentPlayer request none
  · exact (stays_respond _ _ _).after hshown
  · exact self.stays_respond _ _
  · exact self.stays_respond _ _
  · exact self.stays_respond _ _
  · exact self.stays_answerControl request

theorem stays_interaction (request : Request) : Stays self (self.interaction request) := by
  rw [interaction]
  split
  · exact self.stays_error _ _
  · split
    · exact self.stays_dispatch request
    · rename_i customId _
      have hcomponent := stays_quiet (self.quiet_component request customId)
        (self.elapses_component request customId)
      dsimp only
      split
      · exact hcomponent
      · exact (stays_dispatch _ _).after hcomponent

/-! ## Commits -/

/-- A join that comes through leads to the channel that was asked for. -/
theorem joins_join (channel : ℕ) : Shared.Passes self.shared (self.join channel).2.shared ∧
    ((self.join channel).1 = true → Stays self (self.join channel).2) := by
  have hforgot : Elapses self.shared (self.shared.forgetServer self.id) := .of_eq rfl rfl rfl rfl
  have hcommand := hforgot.toPasses.trans (Shared.passes_command _ (some channel))
  have hwaited := Shared.elapses_awaitCredentials
    ((self.shared.forgetServer self.id).command (some channel)).2 self.id channel rfl
  rw [join]
  dsimp only
  split
  · refine ⟨hcommand, ?_⟩
    intro habsurd
    cases habsurd
  · rename_i hsent
    have hasked := Shared.asked_command (self.shared.forgetServer self.id) (some channel)
      (by simpa using hsent)
    split
    · refine ⟨hcommand.trans hwaited.toPasses, ?_⟩
      intro habsurd
      cases habsurd
    · have hupdated (patch : Patch) := hwaited.trans (Shared.elapses_update _ patch)
      split
      · refine ⟨hcommand.trans (hupdated _).toPasses, ?_⟩
        intro habsurd
        cases habsurd
      · have hrenewed (patch : Patch) : Elapses _ (Shared.update _ patch).2.randomToken.2 :=
          (hupdated patch).trans (.of_eq rfl rfl rfl rfl)
        have hstays {joined : GuildSession} (h : Stays self joined) :
            Shared.Passes self.shared joined.shared ∧ (true = true → Stays self joined) :=
          ⟨h.passes, fun _ => h⟩
        apply hstays
        refine ⟨hcommand.trans (hrenewed _).toPasses, ?_, fun _ ht => .inl ht, ?_,
          fun _ _ => (hrenewed _).asked.trans hasked⟩
        · intro t ht
          cases ht
          exact .inr (hcommand.trans (hrenewed _).toPasses).later
        · intro _ c hc
          cases hc
          exact (hrenewed _).asked.trans hasked

theorem stays_replyStarted (request : Request) (resolution : Resolution)
    (added omitted : ℕ) : Stays self (self.replyStarted request resolution added omitted) := by
  rw [replyStarted]
  dsimp only
  split
  · exact (stays_error _ _ _).after self.stays_startCurrent
  · exact (stays_updateAlone _).after
      ((stays_presentPlayer _ _ _).after self.stays_startCurrent)

theorem stays_enqueueResolved (pending : Pending) (resolution : Resolution) :
    Stays self (self.enqueueResolved pending resolution) := by
  have hqueued (queue : Queue) : Stays self { self with queue := queue } :=
    .keep rfl rfl rfl (.refl _)
  have hnoted (session : GuildSession) : Stays session (session.noteEnqueued pending) := by
    refine stays_of_elapses (.refl _) rfl ?_ (fun _ ht => .inl ht)
    intro t hnone
    cases hnone
  rw [enqueueResolved]
  dsimp only
  split
  · exact .refl self
  · split
    · exact (stays_error _ _ _).after (hqueued _)
    · split
      · exact (stays_replyStarted _ _ _ _ _).after ((hnoted _).after (hqueued _))
      · exact (stays_updateAlone _).after
          ((stays_presentPlayer _ _ _).after ((hnoted _).after (hqueued _)))

theorem stays_commitJoined (pending : Pending) (resolution : Resolution) :
    Stays self (self.commitJoined pending resolution) := by
  rw [commitJoined]
  split
  · exact self.stays_error _ _
  · exact self.stays_enqueueResolved pending resolution

theorem stays_commit (pending : Pending) (resolution : Except Failure Resolution) :
    Stays self (self.commit pending resolution) := by
  unfold commit
  dsimp only
  split
  · exact (self.stays_error _ _).trans (.keep rfl rfl rfl (.refl _))
  · split
    · exact self.stays_error _ _
    · split
      · exact self.stays_error _ _
      · split
        · exact self.stays_error _ _
        · split
          · exact self.stays_error _ _
          · split
            · obtain ⟨hpasses, hjoins⟩ :=
                joins_join (self.mark (.joined pending.admission)) pending.channel
              split
              · rename_i hjoined
                exact (stays_commitJoined _ _ _).after
                  ((hjoins hjoined).after (.keep rfl rfl rfl (.refl _)))
              · have hleft := ((leaves_cleanup _ none).after hpasses).stays
                exact (stays_error _ _ _).after (hleft.after (.keep rfl rfl rfl (.refl _)))
            · exact self.stays_commitJoined pending _

theorem stays_joinLoader (index : ℕ) : Stays self (self.joinLoader index) := by
  have hsettled (session : GuildSession) : Stays session session.settle :=
    .keep rfl rfl rfl (.refl _)
  rw [joinLoader]
  dsimp only
  split
  · exact .keep rfl rfl rfl (.refl _)
  · exact (hsettled _).after ((stays_commit _ _ _).after (.keep rfl rfl rfl (.refl _)))
  · exact (stays_error _ _ _).after (.keep rfl rfl rfl (.refl _))

/-! ## Turns -/

theorem stays_handle {arm : Arm} {handled : GuildSession} (h : self.handle arm = some handled) :
    Stays self handled := by
  cases arm with
  | interaction request acknowledged =>
      cases h
      have hsuspended : Stays self self.suspend.2 :=
        .keep rfl rfl rfl self.shared.elapses_suspend
      split
      · exact (stays_interaction _ request).after hsuspended
      · exact hsuspended.trans (.keep rfl rfl rfl (.of_eq rfl rfl rfl rfl))
  | backend payload =>
      cases h
      exact self.stays_backend payload
  | ending index =>
      simp only [handle] at h
      split at h
      · cases h
      · cases h
        exact (stays_backend _ _).after (.keep rfl rfl rfl (.of_eq rfl rfl rfl rfl))
  | voiceChanged =>
      cases h
      exact self.stays_voiceChanged
  | invalidated =>
      cases h
      exact self.stays_cleanup _
  | connected =>
      cases h
      exact self.stays_onConnected
  | joinLoader index =>
      simp only [handle] at h
      split at h
      · cases h
        exact self.stays_joinLoader index
      · cases h
  | joinResponse index =>
      simp only [handle] at h
      split at h
      · cases h
      · cases h
        exact .keep rfl rfl rfl (.refl _)
  | joinPreparation index =>
      simp only [handle] at h
      split at h
      · cases h
      · cases h
        exact (stays_quiet (quiet_finishPreparation _ _ _)
          (elapses_finishPreparation _ _ _)).after (.keep rfl rfl rfl (.refl _))
  | joinDeletion index =>
      simp only [handle] at h
      split at h
      · cases h
      · cases h
        exact .keep rfl rfl rfl (.refl _)
  | joinEdit index =>
      simp only [handle] at h
      split at h
      · cases h
      · cases h
        exact (stays_refresh _).after ((stays_quiet (quiet_finishRefresh _ _ _)
          (elapses_finishRefresh _ _ _)).after (.keep rfl rfl rfl (.refl _)))
  | tick =>
      cases h
      exact self.stays_tick

theorem stays_followUp : Stays self self.followUp := by
  have hcourse : self.followUp.course = self.course :=
    ((quiet_publishActivity _).after (quiet_prepareNext self.startLoad)).course
  exact .keep (congrArg Course.channel hcourse) (congrArg Course.idleAt hcourse)
    (congrArg Course.aloneAt hcourse) self.elapses_followUp

theorem stays_cleanupUntil (cut : ℕ) : Stays self (self.cleanupUntil cut) := by
  have hforgotten : Stays self self.forgetPreparations.invalidate :=
    (stays_quiet self.quiet_forgetPreparations self.elapses_forgetPreparations).trans
      (.keep rfl rfl rfl (.refl _))
  have hretired : Stays self self.forgetPreparations.invalidate.retireEdits :=
    (stays_quiet (quiet_retireEdits _) (elapses_retireEdits _)).after hforgotten
  have htaken (session : GuildSession) : Elapses session.shared session.takePanel.shared := by
    rw [takePanel]
    split <;> exact .refl _
  unfold cleanupUntil
  split
  · exact .keep rfl rfl rfl self.shared.elapses_suspend
  · exact hretired
  · exact (stays_quiet (quiet_takePanel _) (htaken _)).after hretired
  · exact self.leaves_removed.stays
  · exact self.stays_cleanup none

theorem stays_close (cut : ℕ) : Stays self (self.close cut) := by
  have hsuspended (session : GuildSession) : Stays session { session.suspend.2 with
      panelDeletions := .new } :=
    .keep rfl rfl rfl session.shared.elapses_suspend
  have haborted : Stays self { self with
      toPipeline := self.toPipeline.abort, preparations := self.preparations.abortAll } :=
    .keep rfl rfl rfl (.refl _)
  have hcleaned := (stays_cleanupUntil _ cut).after haborted
  exact (hcleaned.trans ((hsuspended _).after (.keep rfl rfl rfl (.refl _)))).trans
    (.keep rfl rfl rfl (.of_eq rfl rfl rfl rfl))

end GuildSession

end Raydio.Session
