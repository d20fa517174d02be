/-
# Who may change playback

Whoever is not in the bot's voice channel changes nothing: a control changes playback
only if the cache placed the caller in the channel of the session when the control was
authorized, which is after every wait that comes before it. A play request is checked
again, after the join, right before its tracks enter the queue. Without a channel no
control changes anything, because a session without a channel is as good as new.
-/

import Raydio.Session.Timers

namespace Raydio.Voice.Guild

/-- The cache places the user in a normal voice channel. -/
def Places (self : Guild) (user channel : ℕ) : Prop :=
  ∃ voice data, self.voices[user]? = some voice ∧ voice.channel = channel ∧
    self.channels[channel]? = some data ∧ data.kind = .guildVoice

variable {self : Guild} {user channel : ℕ}

theorem places_of_callerChannel (h : self.callerChannel user = .ok channel) :
    self.Places user channel := by
  rw [callerChannel] at h
  split at h
  · cases h
  · rename_i voice hvoice
    split at h
    · rename_i hkind
      cases h
      obtain ⟨data, hdata, hnormal⟩ := Option.map_eq_some_iff.mp hkind
      exact ⟨voice, data, hvoice, rfl, hdata, hnormal⟩
    · cases h

/-- The channel that the access check returns is the caller's, and the one intended. -/
theorem access_ok {all : Permissions} {guild bot : ℕ} {intended : Option ℕ}
    (h : self.access all guild user bot intended = .ok (.ok channel)) :
    self.callerChannel user = .ok channel ∧ ∀ id ∈ intended, id = channel := by
  rw [access] at h
  split at h
  · cases h
  · rename_i found hfound
    split at h
    · cases h
    · rename_i hintended
      have hsame (hok : found = channel) :
          self.callerChannel user = .ok channel ∧ ∀ id ∈ intended, id = channel := by
        subst hok
        refine ⟨hfound, ?_⟩
        intro id hid
        rw [hid] at hintended
        simpa using hintended
      split at h
      · cases h
      · split at h
        · cases h
        · dsimp only at h
          split at h
          · cases h
          · split at h
            · cases h
            · cases h
              exact hsame rfl

end Raydio.Voice.Guild

namespace Raydio.Session

open Raydio.Foundation Raydio.Playback Raydio.Voice Raydio.Views Raydio.Discord Raydio.Resolver

/-- The queue with its loop mode, the channel, the volume and whether playback is paused. -/
structure Setting where
  queue : Queue
  channel : Option ℕ
  volume : ℕ
  paused : Bool
  deriving DecidableEq

def Course.setting (self : Course) : Setting :=
  ⟨self.queue, self.channel, self.volume, self.paused⟩

theorem Shared.access_ok {self : Shared} {guild user channel : ℕ} {intended : Option ℕ}
    (h : self.access guild user intended = .ok channel) :
    (∃ found, self.cache.guilds[guild]? = some found ∧ found.Places user channel) ∧
      ∀ id ∈ intended, id = channel := by
  rw [access] at h
  split at h
  · cases h
  · rename_i found hfound
    obtain ⟨result, hresult⟩ := found.access_returns self.all guild user self.bot intended
    rw [Checked.value_eq hresult] at h
    rw [h] at hresult
    obtain ⟨hcaller, hintended⟩ := Guild.access_ok hresult
    exact ⟨⟨found, hfound, Guild.places_of_callerChannel hcaller⟩, hintended⟩

namespace GuildSession

variable (self : GuildSession)

/-! ## Controls -/

/-- Who is not refused is in the session's channel, if it has one. -/
theorem places_of_refusal {request : Request} {channel : ℕ} (h : self.refusal request = none)
    (hchannel : self.channel = some channel) :
    ∃ guild, self.guild = some guild ∧ guild.Places request.user channel := by
  rw [refusal] at h
  split at h
  · cases h
  · rename_i guild hguild
    split at h
    · split at h <;> cases h
    · rename_i found hfound
      split at h
      · cases h
      · split at h
        · cases h
        · rename_i hsame
          have hplaces := Guild.places_of_callerChannel hfound
          rw [hchannel] at hsame
          have heq : channel = found := by simpa using hsame
          rw [heq]
          exact ⟨guild, hguild, hplaces⟩

/-- A control does nothing, or is authorized. -/
theorem control_authorized (request : Request) :
    (self.control request).2 = self ∨
      self.refusal request = none ∧ self.control request = self.perform request := by
  rw [control]
  split
  · exact Or.inl rfl
  · split
    · exact Or.inl rfl
    · split
      · exact Or.inl rfl
      · split
        · exact Or.inl rfl
        · rename_i hrefusal
          exact Or.inr ⟨hrefusal, rfl⟩

theorem answerControl_course (request : Request) :
    (self.answerControl request).course = (self.control request).2.course := by
  have hanswered : Quiet (self.control request).2 (self.answerControl request) := by
    rw [answerControl]
    apply (quiet_refresh _).after
    split
    · exact quiet_confirm _ _ _
    · exact quiet_error _ _ _
  exact hanswered.course

/-- Asking for a song changes nothing that is heard. -/
theorem preparePlay_course (request : Request) :
    (self.preparePlay request).course = self.course := by
  rw [preparePlay]
  split
  · rfl
  · split
    · rfl
    · split
      · rfl
      · dsimp only
        split
        · rfl
        · split
          · rfl
          · split <;> rfl

theorem dispatch_course (request : Request) :
    (self.dispatch request).course = self.course ∨
      (self.dispatch request).course = (self.control request).2.course := by
  unfold dispatch
  split
  · exact Or.inl (self.preparePlay_course request)
  · exact Or.inl (self.quiet_presentPlayer request none).course
  · exact Or.inl ((quiet_respond _ _ _).after (self.quiet_queueView 0)).course
  · exact Or.inl (self.quiet_respond _ _).course
  · exact Or.inl (self.quiet_respond _ _).course
  · exact Or.inl (self.quiet_respond _ _).course
  · exact Or.inr (self.answerControl_course request)

/-- A component stands for a request of the same user, before anything was waited for. -/
theorem component_routed {request routed : Request} {customId : String}
    (h : (self.component request customId).1 = some routed) :
    (self.component request customId).2 = self ∧ routed.user = request.user := by
  obtain ⟨hsame, -, -, rfl⟩ := self.component_some h
  exact ⟨hsame, rfl⟩

/-- An interaction comes down to a control of the same user, or changes nothing. -/
theorem interaction_course (request : Request) :
    (self.interaction request).course = self.course ∨
      ∃ routed : Request, routed.user = request.user ∧
        (self.interaction request).course = (self.control routed).2.course := by
  rw [interaction]
  split
  · exact Or.inl rfl
  · split
    · rcases self.dispatch_course request with hsame | hcontrol
      · exact Or.inl hsame
      · exact Or.inr ⟨request, rfl, hcontrol⟩
    · rename_i customId _
      dsimp only
      cases hrouted : (self.component request customId).1 with
      | none => exact Or.inl (self.quiet_component request customId).course
      | some routed =>
          obtain ⟨hsession, huser⟩ := self.component_routed hrouted
          dsimp only
          rw [hsession]
          rcases self.dispatch_course routed with hsame | hcontrol
          · exact Or.inl hsame
          · exact Or.inr ⟨routed, huser, hcontrol⟩

/-! ## Commits -/

end GuildSession

/-- The tracks of a request may enter the queue: its user is still in the channel in which
it was admitted, the session is there too, and the bot may play there. -/
structure Cleared (session : GuildSession) (pending : Pending) : Prop where
  channel : session.channel = some pending.channel
  places : ∃ guild, session.guild = some guild ∧ guild.Places pending.request.user pending.channel
  access : session.shared.access session.id pending.request.user (some pending.channel) =
    .ok pending.channel

/-- What a commit does to playback. -/
inductive Commits (before : GuildSession) (pending : Pending) (after : GuildSession) : Prop
  | untouched (h : after.course.setting = before.course.setting)
  /-- The bot joined the caller, who may then not be found in the channel any more. -/
  | joined (away : before.channel = none)
      (places : ∃ guild, before.guild = some guild ∧
        guild.Places pending.request.user pending.channel)
      (h : after.course.setting =
        { before.course.setting with channel := some pending.channel })
  /-- The tracks entered the queue, at once or after the bot joined the caller. -/
  | enqueued (middle : GuildSession) (resolution : Resolution) (cleared : Cleared middle pending)
      (same : middle = before ∨ before.channel = none)
      (setting : middle.course.setting =
        { before.course.setting with channel := some pending.channel })
      (h : after = middle.enqueueResolved pending resolution)

namespace GuildSession

variable (self : GuildSession)

/-- A join changes the channel if it succeeds, and nothing otherwise. -/
theorem join_setting (channel : ℕ) :
    ((self.join channel).1 = true → (self.join channel).2.course.setting =
      { self.course.setting with channel := some channel }) ∧
    ((self.join channel).1 = false → (self.join channel).2.course.setting =
      self.course.setting) := by
  have hfailed {after : GuildSession} (h : after.course.setting = self.course.setting) :
      ((false, after).1 = true → (false, after).2.course.setting =
        { self.course.setting with channel := some channel }) ∧
      ((false, after).1 = false → (false, after).2.course.setting = self.course.setting) := by
    refine ⟨?_, fun _ => h⟩
    intro habsurd
    cases habsurd
  rw [join]
  dsimp only
  split
  · exact hfailed rfl
  · split
    · exact hfailed rfl
    · split
      · exact hfailed rfl
      · refine ⟨fun _ => rfl, ?_⟩
        intro habsurd
        cases habsurd

/-- Joining leaves the configuration alone. -/
theorem join_config (channel : ℕ) (h : self.channel = none) :
    (self.join channel).2.shared.config = self.shared.config :=
  ((self.moves_join channel h).1 fun _ => False).invariant
    (fun session => session.shared.config = self.shared.config)
    (fun _ _ move hbefore => move.later.config.trans hbefore) rfl

theorem cleared_of_access {channel : ℕ} {pending : Pending}
    (h : self.shared.access self.id pending.request.user (some pending.channel) = .ok channel)
    (hchannel : self.channel = some pending.channel) : Cleared self pending := by
  obtain ⟨hplaces, hintended⟩ := Shared.access_ok h
  have hsame : pending.channel = channel := hintended pending.channel rfl
  subst hsame
  exact ⟨hchannel, hplaces, h⟩

/-- What a session without a channel has. -/
structure Fresh (session : GuildSession) : Prop where
  timed : session.course.Timed
  volume : session.channel = none → session.volume = session.shared.config.volume

theorem Fresh.of_course {before after : GuildSession} (h : before.Fresh)
    (hcourse : after.course = before.course)
    (hconfig : after.shared.config = before.shared.config) : after.Fresh := by
  refine ⟨hcourse ▸ h.timed, ?_⟩
  intro hchannel
  have hvolume : after.volume = before.volume := congrArg Course.volume hcourse
  have hchannels : after.channel = before.channel := congrArg Course.channel hcourse
  rw [hvolume, hconfig]
  exact h.volume (hchannels.symm.trans hchannel)

theorem Fresh.paused_eq_false {session : GuildSession} (h : session.Fresh)
    (hchannel : session.channel = none) : session.paused = false := by
  by_contra hpaused
  have hcurrent := h.timed.paused (Bool.of_not_eq_false hpaused)
  obtain ⟨hqueue, -, -⟩ := h.timed.away hchannel
  rw [hqueue] at hcurrent
  cases hcurrent

/-- What leaving leaves. -/
theorem cleanup_setting (notification : Option String) :
    (self.cleanup notification).course.setting =
      ⟨.default, none, self.shared.config.volume, false⟩ := by
  have hconfig : self.forgetPreparations.invalidate.removePanel.shared.config =
      self.shared.config :=
    (quiet_removePanel _).shared.config.trans self.quiet_forgetPreparations.shared.config
  have hleft : self.forgetPreparations.invalidate.removePanel.reset.destroy.course.setting =
      ⟨.default, none, self.shared.config.volume, false⟩ := by
    rw [← hconfig]
    rfl
  unfold cleanup
  dsimp only
  split
  · exact (congrArg Course.setting (quiet_notify _ _).course).trans hleft
  · exact hleft

/-- Leaving without a channel changes nothing. -/
theorem Fresh.setting {session : GuildSession} (h : session.Fresh)
    (hchannel : session.channel = none) :
    session.course.setting = ⟨.default, none, session.shared.config.volume, false⟩ := by
  obtain ⟨hqueue, -, -⟩ := h.timed.away hchannel
  have hpaused := h.paused_eq_false hchannel
  rw [← h.volume hchannel, ← hpaused, ← hqueue, ← hchannel]
  rfl

/-- The part of a commit that joins the caller. -/
theorem commits_join {pending : Pending} {channel : ℕ} (resolution : Resolution) (h : self.Fresh)
    (haway : self.channel = none)
    (haccess : self.shared.access self.id pending.request.user (some pending.channel) =
      .ok channel) :
    Commits self pending
      (if ((self.mark (.joined pending.admission)).join pending.channel).1 then
        ((self.mark (.joined pending.admission)).join pending.channel).2.commitJoined pending
          resolution
      else ((((self.mark (.joined pending.admission)).join pending.channel).2.cleanup none).error
        pending.request
          "I could not join that voice channel. Check its permissions and try again.")) := by
  split
  · rename_i hjoined
    have hsetting := (join_setting _ _).1 hjoined
    rw [commitJoined]
    split
    · obtain ⟨hplaces, hintended⟩ := Shared.access_ok haccess
      have hsame : pending.channel = channel := hintended pending.channel rfl
      exact .joined haway (hsame ▸ hplaces) hsetting
    · rename_i again hagain
      have hchannel := congrArg Setting.channel hsetting
      exact .enqueued _ resolution (cleared_of_access _ hagain hchannel) (Or.inr haway) hsetting rfl
  · have hconfig := join_config (self.mark (.joined pending.admission)) pending.channel haway
    apply Commits.untouched
    rw [h.setting haway]
    show (cleanup _ none).course.setting = _
    rw [cleanup_setting, hconfig]
    rfl

theorem commit_commits {pending : Pending} (resolution : Except Failure Resolution)
    (h : self.Fresh) : Commits self pending (self.commit pending resolution) := by
  unfold commit
  dsimp only
  split
  · exact .untouched rfl
  · split
    · exact .untouched rfl
    · rename_i resolution
      split
      · exact .untouched rfl
      · rename_i channel haccess
        split
        · exact .untouched rfl
        · rename_i hsame
          split
          · exact .untouched rfl
          · split
            · rename_i haway
              have haway : self.channel = none := Option.isNone_iff_eq_none.mp haway
              exact self.commits_join resolution h haway haccess
            · rename_i hactive
              have hchannel : self.channel = some pending.channel := by
                cases hchannel : self.channel with
                | none => simp [hchannel] at hactive
                | some active => simpa [hchannel] using hsame
              rw [commitJoined, haccess]
              refine .enqueued self resolution (self.cleared_of_access haccess hchannel)
                (Or.inl rfl) ?_ rfl
              rw [← hchannel]
              rfl

/-! ## Without a channel -/

theorem stop_setting (hchannel : self.channel = none) :
    self.stop.2.course.setting = ⟨self.queue.stop, none, self.volume, false⟩ := by
  have haway : self.invalidate.halt.channel.isNone = true :=
    Option.isNone_iff_eq_none.mpr hchannel
  rw [stop]
  dsimp only
  rw [if_pos haway, ← hchannel]
  rfl

/-- Without a channel no control changes anything. -/
theorem Fresh.control_setting {session : GuildSession} (h : session.Fresh)
    (hchannel : session.channel = none) (request : Request) :
    (session.control request).2.course.setting = session.course.setting := by
  rcases session.control_authorized request with hsame | ⟨hrefusal, hperform⟩
  · rw [hsame]
  · have hname : request.name = "stop" ∨ request.name = "leave" := by
      by_contra hother
      have hfalse : ["stop", "leave"].contains request.name = false := by
        simpa using hother
      have hlive := session.channel_of_refusal hrefusal hfalse
      rw [hchannel] at hlive
      cases hlive
    rw [hperform, perform, h.setting hchannel]
    rcases hname with hname | hname
    · rw [hname]
      show session.stop.2.course.setting = _
      obtain ⟨hqueue, -, -⟩ := h.timed.away hchannel
      rw [stop_setting _ hchannel, h.volume hchannel, show session.queue = .default from hqueue]
      rfl
    · rw [hname]
      exact session.cleanup_setting none

/-- An interaction changes playback only if the cache places its user in the channel of
the session. -/
theorem interaction_setting (h : self.Fresh) (request : Request) :
    (self.interaction request).course.setting = self.course.setting ∨
      ∃ channel guild, self.channel = some channel ∧ self.guild = some guild ∧
        guild.Places request.user channel := by
  rcases self.interaction_course request with hsame | ⟨routed, huser, hcontrol⟩
  · exact Or.inl (congrArg Course.setting hsame)
  · rw [hcontrol]
    cases hchannel : self.channel with
    | none => exact Or.inl (h.control_setting hchannel routed)
    | some channel =>
        rcases self.control_authorized routed with hsame | ⟨hrefusal, -⟩
        · rw [hsame]
          exact Or.inl rfl
        · obtain ⟨guild, hguild, hplaces⟩ := self.places_of_refusal hrefusal hchannel
          exact Or.inr ⟨channel, guild, rfl, hguild, huser ▸ hplaces⟩

/-! ## Every run -/

theorem Move.fresh {ends : ℕ → Prop} {before after : GuildSession} (h : Move ends before after)
    (hbefore : before.Fresh) : after.Fresh := by
  refine ⟨h.timed hbefore.timed, ?_⟩
  rw [h.later.config]
  have hvolume : before.course.channel = none →
    before.course.volume = before.shared.config.volume := hbefore.volume
  show after.course.channel = none → after.course.volume = before.shared.config.volume
  cases h with
  | quiet h => rwa [h.course]
  | request course _ _ _ => rwa [course]
  | edit _ _ _ edit =>
      generalize after.course = course at edit ⊢
      cases edit with
      | queue _ _ _ _ => exact hvolume
      | alone _ _ => exact hvolume
      | playing _ => exact hvolume
      | idle _ _ _ => exact hvolume
  | steer _ _ _ steer =>
      generalize after.course = course at steer ⊢
      cases steer with
      | pause _ _ => exact hvolume
      | volume _ _ live =>
          intro hnone
          have hnone : before.course.channel = none := hnone
          rw [hnone] at live
          cases live
      | voice _ _ _ => exact hvolume
      | join _ _ _ _ _ =>
          intro hnone
          cases hnone
  | leave _ _ _ course =>
      rw [course]
      intro _
      rfl
  | clear _ _ _ _ course => rwa [course]
  | halt _ _ _ _ at' course =>
      rw [course]
      exact hvolume
  | restart pipeline id shared select =>
      have hchannel := (startCurrent_channel _).1.trans select.channel
      have hvolume' := (startCurrent_channel _).2.trans select.volume
      intro hnone
      exact hvolume'.trans (hvolume (hchannel.symm.trans hnone))

end GuildSession

open GuildSession

theorem Input.ready_config (session : GuildSession) (input : Input) :
    (input.ready session).shared.config = session.shared.config := by
  cases input with
  | outside move =>
      cases move with
      | pass moment => exact (session.shared.drifts_endTrack moment.ending).config
      | _ => rfl
  | turn arm script random cut => cases arm <;> rfl
  | close script random cut => rfl

/-- Whatever the outside did since the last handler: an interaction changes the queue, the
loop mode, the channel, the volume or the pause only if the cache places its user in the
channel of the session; and a commit enters tracks only if, right before that, the user was
in the channel recorded at admission, the session was too, and the bot's access check
passed. Neither does anything else, except that a commit may join the user. -/
theorem Worker.run_authorized (id : ℕ) (shared : Shared) (inputs : List Input) :
    ((Worker.start id shared).run inputs).Holds (fun session =>
      ∀ current : GuildSession, current.course = session.course →
        current.shared.config = session.shared.config →
          (∀ request, (current.interaction request).course.setting ≠ current.course.setting →
            ∃ channel guild, current.channel = some channel ∧ current.guild = some guild ∧
              guild.Places request.user channel) ∧
          ∀ pending resolution, Commits current pending (current.commit pending resolution))
      fun _ => True := by
  have hrun := run_rule (fun session => session.Fresh) (fun _ => True) ?_ ?_
    (start id shared) inputs (along_true _ _) ?_
  · cases hworker : (start id shared).run inputs with
    | ended session => trivial
    | running session =>
        rw [hworker] at hrun
        have hfresh : session.Fresh := hrun
        intro current hcourse hconfig
        have hcurrent := hfresh.of_course hcourse hconfig
        refine ⟨?_, fun pending resolution => current.commit_commits resolution hcurrent⟩
        intro request hchanged
        rcases current.interaction_setting hcurrent request with hsame | hplaces
        · exact absurd hsame hchanged
        · exact hplaces
  · intro session input after _ hfresh hmoves
    apply hmoves.invariant (fun session => session.Fresh) (fun _ _ move => move.fresh)
    exact hfresh.of_course (input.ready_course session) (input.ready_config session)
  · intro session cut _
    trivial
  · exact ⟨Course.timed_new id shared, fun _ => rfl⟩

end Raydio.Session
