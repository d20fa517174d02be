/-
# What admission to a voice channel rests on

Beside the channels that the users are in, admission reads the channels and roles of the
guild, its owner and the bot's roles. Whatever the order of events, each of these is the
latest word on it: the creation of the guild speaks about all of them, and nothing that was
said before the guild was last created counts.
-/

import Raydio.Foundation.Register
import Raydio.Voice.Gateway

namespace Raydio.Voice

open Raydio.Foundation

namespace Event

variable (id : ℕ)

/-- The guild is available, or not. -/
def available : Event → Option Bool
  | .guildCreate (.available data) => if data.id = id then some true else none
  | .guildCreate (.unavailable guild) => if guild = id then some false else none
  | .guildDelete guild unavailable =>
      if guild = id ∧ unavailable.getD false = true then some false else none
  | _ => none

/-- The owner of the guild. -/
def owner : Event → Option ℕ
  | .guildCreate (.available data) => if data.id = id then some data.owner else none
  | .guildUpdate guild owner => if guild = id then some owner else none
  | _ => none

/-- A channel of the guild; a deleted one is no longer there. -/
def channel (number : ℕ) : Event → Option (Option ChannelAccess)
  | .guildCreate (.available data) =>
      if data.id = id then
        some ((Keyed.latest Channel.id number data.channels).map ChannelAccess.ofChannel)
      else none
  | .channelCreate channel | .channelUpdate channel =>
      if channel.guild = some id ∧ channel.id = number then some (some (.ofChannel channel))
      else none
  | .channelDelete channel =>
      if channel.guild = some id ∧ channel.id = number then some none else none
  | _ => none

/-- A role of the guild; a deleted one is no longer there. -/
def role (number : ℕ) : Event → Option (Option Permissions)
  | .guildCreate (.available data) =>
      if data.id = id then
        some ((Keyed.latest Role.id number data.roles).map Role.permissions)
      else none
  | .roleCreate guild role | .roleUpdate guild role =>
      if guild = id ∧ role.id = number then some (some role.permissions) else none
  | .roleDelete guild role => if guild = id ∧ role = number then some none else none
  | _ => none

/-- The roles of the bot that a voice state tells. -/
def rolesTold (bot : ℕ) (state : VoiceState) : Option (List ℕ) :=
  if state.user = bot then state.member.map Member.roles else none

/-- The roles of the bot; a new guild may not tell them. -/
def botRoles (bot : ℕ) : Event → Option (Option (List ℕ))
  | .guildCreate (.available data) =>
      if data.id = id then
        some ((Register.latest (rolesTold bot) data.voiceStates).or
          ((data.members.find? fun member => member.user = bot).map Member.roles))
      else none
  | .memberUpdate guild member =>
      if guild = id ∧ member.user = bot then some (some member.roles) else none
  | .voiceStateUpdate state =>
      if state.guild = some id then (rolesTold bot state).map some else none
  | _ => none

end Event

/-- The guild follows the words of an event. -/
structure Guild.Follows (event : Event) (id bot : ℕ) (before after : Guild) : Prop where
  available : after.available = (event.available id).getD before.available
  owner : after.owner = (event.owner id).getD before.owner
  channels : ∀ number,
    after.channels[number]? = (event.channel id number).getD before.channels[number]?
  roles : ∀ number, after.roles[number]? = (event.role id number).getD before.roles[number]?
  botRoles : after.botRoles = (event.botRoles id bot).getD before.botRoles

/-- What a guild holds is what was last said about it. -/
structure Guild.Reported (id bot : ℕ) (events : List Event) (guild : Guild) : Prop where
  available : Register.latest (Event.available id) events = some guild.available
  owner : Register.latest (Event.owner id) events = some guild.owner
  channels : ∀ number,
    Register.latest (Event.channel id number) events = some guild.channels[number]?
  roles : ∀ number, Register.latest (Event.role id number) events = some guild.roles[number]?
  botRoles : Register.latest (Event.botRoles id bot) events = some guild.botRoles

/-- A map made of a list holds what the list says last about a key. -/
theorem getElem?_ofList_latest {α β : Type} (key : α → ℕ) (value : α → β) (reports : List α)
    (k : ℕ) : (Std.TreeMap.ofList (reports.map fun report => (key report, value report)))[k]? =
      (Keyed.latest key k reports).map value := by
  induction reports using List.reverseRecOn with
  | nil => simp
  | append_singleton reports report ih =>
      rw [Keyed.latest_concat, List.map_append, List.map_singleton,
        Std.TreeMap.ofList_eq_insertMany_empty, Std.TreeMap.insertMany_append,
        Std.TreeMap.insertMany_list_singleton, Std.TreeMap.getElem?_insert,
        ← Std.TreeMap.ofList_eq_insertMany_empty, ih]
      by_cases hkey : key report = k
      · simp [hkey]
      · have hne : compare (key report) k ≠ .eq := by simpa using hkey
        simp [hkey, hne]

namespace Guild

/-- A voice state says nothing but, at most, the bot's roles. -/
theorem voice_facts (guild : Guild) (state : VoiceState) (bot : ℕ) :
    (guild.voice state bot).available = guild.available ∧
      (guild.voice state bot).owner = guild.owner ∧
      (guild.voice state bot).channels = guild.channels ∧
      (guild.voice state bot).roles = guild.roles ∧
      (guild.voice state bot).botRoles = (Event.rolesTold bot state).or guild.botRoles := by
  have hlearn : (guild.learn state bot).botRoles =
      (Event.rolesTold bot state).or guild.botRoles := by
    rw [learn, Event.rolesTold]
    cases hmember : state.member with
    | none => by_cases hbot : state.user = bot <;> simp [hbot]
    | some member => by_cases hbot : state.user = bot <;> simp [hbot, Guild.member]
  rw [← hlearn, voice, learn_eq]
  dsimp only
  split
  · split
    · exact ⟨rfl, rfl, rfl, rfl, rfl⟩
    · exact ⟨rfl, rfl, rfl, rfl, rfl⟩
  · split
    · exact ⟨rfl, rfl, rfl, rfl, rfl⟩
    · exact ⟨rfl, rfl, rfl, rfl, rfl⟩

theorem hear_facts (guild : Guild) (states : List VoiceState) (bot : ℕ) :
    (guild.hear bot states).available = guild.available ∧
      (guild.hear bot states).owner = guild.owner ∧
      (guild.hear bot states).channels = guild.channels ∧
      (guild.hear bot states).roles = guild.roles ∧
      (guild.hear bot states).botRoles =
        (Register.latest (Event.rolesTold bot) states).or guild.botRoles := by
  induction states using List.reverseRecOn with
  | nil => exact ⟨rfl, rfl, rfl, rfl, rfl⟩
  | append_singleton states state ih =>
      obtain ⟨available, owner, channels, roles, botRoles⟩ := ih
      obtain ⟨available', owner', channels', roles', botRoles'⟩ :=
        (guild.hear bot states).voice_facts state bot
      rw [hear_concat]
      refine ⟨available'.trans available, owner'.trans owner, channels'.trans channels,
        roles'.trans roles, ?_⟩
      rw [botRoles', botRoles, Register.latest_concat, Option.or_assoc]

end Guild

namespace Cache

variable {cache : Cache} {event : Event} {id bot : ℕ} {guild guild' : Guild}

/-- The event says nothing about the guild. -/
structure Silent (event : Event) (id bot : ℕ) : Prop where
  available : event.available id = none
  owner : event.owner id = none
  channels : ∀ number, event.channel id number = none
  roles : ∀ number, event.role id number = none
  botRoles : event.botRoles id bot = none

theorem follows_self (guild : Guild) (h : Silent event id bot) :
    guild.Follows event id bot guild where
  available := by rw [h.available]; rfl
  owner := by rw [h.owner]; rfl
  channels number := by rw [h.channels]; rfl
  roles number := by rw [h.roles]; rfl
  botRoles := by rw [h.botRoles]; rfl

/-- An event about one guild changes that one, and says nothing about the others. -/
theorem follows_modify {other : ℕ} {change : Guild → Guild}
    (h : (cache.modify other change).guilds[id]? = some guild')
    (same : other = id → ∀ guild : Guild, guild.Follows event id bot (change guild))
    (silent : other ≠ id → Silent event id bot) :
    ∃ guild : Guild, guild.Follows event id bot guild' ∧
      (event.creates id = true ∨ cache.guilds[id]? = some guild) := by
  rw [modify_guilds] at h
  by_cases hid : other = id
  · rw [if_pos hid] at h
    obtain ⟨guild, hguild, rfl⟩ := Option.map_eq_some_iff.mp h
    exact ⟨guild, same hid guild, Or.inr hguild⟩
  · rw [if_neg hid] at h
    exact ⟨guild', follows_self guild' (silent hid), Or.inr h⟩

/-- A created guild is what its creation says. -/
theorem follows_available {data : GuildData}
    (h : (cache.update (.guildCreate (.available data)) bot).1.guilds[id]? = some guild') :
    ∃ guild : Guild, guild.Follows (.guildCreate (.available data)) id bot guild' ∧
      (Event.creates id (.guildCreate (.available data)) = true ∨
        cache.guilds[id]? = some guild) := by
  rw [update] at h
  by_cases hid : data.id = id
  · refine ⟨.default, ?_, Or.inl (by simp [Event.creates, hid])⟩
    split at h
    · rename_i hfull
      have hmem : id ∈ cache.guilds := by
        rw [← Std.TreeMap.isSome_getElem?_iff_mem, h]
        rfl
      have hcontains : cache.guilds.contains id = true := Std.TreeMap.contains_iff_mem.mpr hmem
      simp [hid, hcontains] at hfull
    · simp only [hid, Std.TreeMap.getElem?_insert_self, Option.some.injEq] at h
      obtain ⟨available, owner, channels, roles, botRoles⟩ :=
        (Guild.created data bot).hear_facts data.voiceStates bot
      rw [← h]
      constructor
      · rw [available]
        simp [Event.available, hid, Guild.created]
      · rw [owner]
        simp [Event.owner, hid, Guild.created]
      · intro number
        simp only [channels, Event.channel, hid, if_true, Option.getD_some]
        exact getElem?_ofList_latest Channel.id ChannelAccess.ofChannel data.channels number
      · intro number
        simp only [roles, Event.role, hid, if_true, Option.getD_some]
        exact getElem?_ofList_latest Role.id Role.permissions data.roles number
      · rw [botRoles]
        simp [Event.botRoles, hid, Guild.created]
  · have hsilent : Silent (.guildCreate (.available data)) id bot := by
      constructor <;> simp [Event.available, Event.owner, Event.channel, Event.role,
        Event.botRoles, hid]
    refine ⟨guild', follows_self guild' hsilent, Or.inr ?_⟩
    split at h
    · exact h
    · have hne : compare data.id id ≠ .eq := by simpa using hid
      simpa [Std.TreeMap.getElem?_insert, hne] using h

/-- A guild after an event was created by it, or was there before and follows its words. -/
theorem update_follows (h : (cache.update event bot).1.guilds[id]? = some guild') :
    ∃ guild : Guild, guild.Follows event id bot guild' ∧
      (event.creates id = true ∨ cache.guilds[id]? = some guild) := by
  cases event with
  | ready | resumed | gatewayClose | other =>
      exact ⟨guild', follows_self guild' ⟨rfl, rfl, fun _ => rfl, fun _ => rfl, rfl⟩, Or.inr h⟩
  | guildCreate create =>
      cases create with
      | available data => exact follows_available h
      | unavailable other =>
          apply follows_modify h
          · intro hid guild
            constructor <;> simp [Event.available, Event.owner, Event.channel, Event.role,
              Event.botRoles, hid]
          · intro hid
            constructor <;> simp [Event.available, Event.owner, Event.channel, Event.role,
              Event.botRoles, hid]
  | guildDelete other unavailable =>
      rw [update] at h
      split at h
      · rename_i hunavailable
        apply follows_modify h
        · intro hid guild
          constructor <;> simp [Event.available, Event.owner, Event.channel, Event.role,
            Event.botRoles, hid, hunavailable]
        · intro hid
          constructor <;> simp [Event.available, Event.owner, Event.channel, Event.role,
            Event.botRoles, hid]
      · rename_i hgone
        have hsilent : Silent (.guildDelete other unavailable) id bot := by
          constructor <;> simp [Event.available, Event.owner, Event.channel, Event.role,
            Event.botRoles, hgone]
        refine ⟨guild', follows_self guild' hsilent, Or.inr ?_⟩
        rw [Std.TreeMap.getElem?_erase] at h
        split at h
        · cases h
        · exact h
  | guildUpdate other owner =>
      apply follows_modify h
      · intro hid guild
        constructor <;> simp [Event.available, Event.owner, Event.channel, Event.role,
          Event.botRoles, hid]
      · intro hid
        constructor <;> simp [Event.available, Event.owner, Event.channel, Event.role,
          Event.botRoles, hid]
  | channelCreate channel | channelUpdate channel =>
      rw [update] at h
      split at h
      · rename_i other hother
        apply follows_modify h
        · intro hid guild
          constructor
          · rfl
          · rfl
          · intro number
            simp only [Event.channel, hother, hid, true_and, Std.TreeMap.getElem?_insert]
            by_cases hnumber : channel.id = number
            · simp [hnumber]
            · simp [hnumber]
          · exact fun _ => rfl
          · rfl
        · intro hid
          constructor <;> simp [Event.available, Event.owner, Event.channel, Event.role,
            Event.botRoles, hother, hid]
      · rename_i hnone
        refine ⟨guild', follows_self guild' ⟨rfl, rfl, ?_, fun _ => rfl, rfl⟩, Or.inr h⟩
        intro number
        simp [Event.channel, hnone]
  | channelDelete channel =>
      rw [update] at h
      split at h
      · rename_i other hother
        apply follows_modify h
        · intro hid guild
          constructor
          · rfl
          · rfl
          · intro number
            simp only [Event.channel, hother, hid, true_and, Std.TreeMap.getElem?_erase]
            by_cases hnumber : channel.id = number
            · simp [hnumber]
            · simp [hnumber]
          · exact fun _ => rfl
          · rfl
        · intro hid
          constructor <;> simp [Event.available, Event.owner, Event.channel, Event.role,
            Event.botRoles, hother, hid]
      · rename_i hnone
        have hsilent : Silent (.channelDelete channel) id bot := ⟨rfl, rfl, fun number => by
          simp [Event.channel, hnone], fun _ => rfl, rfl⟩
        exact ⟨guild', follows_self guild' hsilent, Or.inr h⟩
  | roleCreate other role | roleUpdate other role =>
      apply follows_modify h
      · intro hid guild
        constructor
        · rfl
        · rfl
        · exact fun _ => rfl
        · intro number
          simp only [Event.role, hid, true_and, Std.TreeMap.getElem?_insert]
          by_cases hnumber : role.id = number
          · simp [hnumber]
          · simp [hnumber]
        · rfl
      · intro hid
        constructor <;> simp [Event.available, Event.owner, Event.channel, Event.role,
          Event.botRoles, hid]
  | roleDelete other role =>
      apply follows_modify h
      · intro hid guild
        constructor
        · rfl
        · rfl
        · exact fun _ => rfl
        · intro number
          simp only [Event.role, hid, true_and, Std.TreeMap.getElem?_erase]
          by_cases hnumber : role = number
          · simp [hnumber]
          · simp [hnumber]
        · rfl
      · intro hid
        constructor <;> simp [Event.available, Event.owner, Event.channel, Event.role,
          Event.botRoles, hid]
  | memberUpdate other member =>
      rw [update] at h
      split at h
      · rename_i hbot
        apply follows_modify h
        · intro hid guild
          constructor <;> simp [Event.available, Event.owner, Event.channel, Event.role,
            Event.botRoles, hid, hbot, Guild.member]
        · intro hid
          constructor <;> simp [Event.available, Event.owner, Event.channel, Event.role,
            Event.botRoles, hid]
      · rename_i hother
        have hsilent : Silent (.memberUpdate other member) id bot := by
          constructor <;> simp [Event.available, Event.owner, Event.channel, Event.role,
            Event.botRoles, hother]
        exact ⟨guild', follows_self guild' hsilent, Or.inr h⟩
  | voiceStateUpdate state =>
      rw [update] at h
      split at h
      · rename_i other hother
        apply follows_modify h
        · intro hid guild
          obtain ⟨available, owner, channels, roles, botRoles⟩ := guild.voice_facts state bot
          constructor
          · rw [available]
            rfl
          · rw [owner]
            rfl
          · intro number
            rw [channels]
            rfl
          · intro number
            rw [roles]
            rfl
          · rw [botRoles]
            simp only [Event.botRoles, hother, hid, if_true]
            cases Event.rolesTold bot state <;> rfl
        · intro hid
          constructor <;> simp [Event.available, Event.owner, Event.channel, Event.role,
            Event.botRoles, hother, hid]
      · rename_i hnone
        have hsilent : Silent (.voiceStateUpdate state) id bot := by
          constructor <;> simp [Event.available, Event.owner, Event.channel, Event.role,
            Event.botRoles, hnone]
        exact ⟨guild', follows_self guild' hsilent, Or.inr h⟩
  | voiceServerUpdate other token endpoint =>
      apply follows_modify h
      · intro hid guild
        constructor <;> simp [Event.available, Event.owner, Event.channel, Event.role,
          Event.botRoles]
      · intro hid
        constructor <;> simp [Event.available, Event.owner, Event.channel, Event.role,
          Event.botRoles]

/-- The creation of a guild is a word on everything. -/
theorem isSome_of_creates (bot : ℕ) (h : event.creates id = true) :
    (event.available id).isSome ∧ (event.owner id).isSome ∧
      (∀ number, (event.channel id number).isSome) ∧ (∀ number, (event.role id number).isSome) ∧
      (event.botRoles id bot).isSome := by
  cases event with
  | guildCreate create =>
      cases create with
      | available data =>
          have hid : data.id = id := by simpa [Event.creates] using h
          simp [Event.available, Event.owner, Event.channel, Event.role, Event.botRoles, hid]
      | unavailable other => cases h
  | _ => cases h

/-- Every fact that a guild holds is the latest word on it. A guild is not there unless it
was created, so that what was said before its last creation does not count. -/
theorem after_facts {events : List Event}
    (h : (Cache.after bot events).guilds[id]? = some guild) : guild.Reported id bot events := by
  induction events using List.reverseRecOn generalizing guild with
  | nil => simp [Cache.default] at h
  | append_singleton events event ih =>
      rw [after_concat] at h
      obtain ⟨before, hfollows, hbefore⟩ := update_follows h
      rcases hbefore with hcreates | hbefore
      · obtain ⟨available, owner, channels, roles, botRoles⟩ :=
          isSome_of_creates bot hcreates
        exact ⟨Register.latest_follows _ hfollows.available (Or.inl available),
          Register.latest_follows _ hfollows.owner (Or.inl owner),
          fun number => Register.latest_follows _ (hfollows.channels number)
            (Or.inl (channels number)),
          fun number => Register.latest_follows _ (hfollows.roles number)
            (Or.inl (roles number)),
          Register.latest_follows _ hfollows.botRoles (Or.inl botRoles)⟩
      · obtain ⟨available, owner, channels, roles, botRoles⟩ := ih hbefore
        exact ⟨Register.latest_follows _ hfollows.available (Or.inr available),
          Register.latest_follows _ hfollows.owner (Or.inr owner),
          fun number => Register.latest_follows _ (hfollows.channels number)
            (Or.inr (channels number)),
          fun number => Register.latest_follows _ (hfollows.roles number)
            (Or.inr (roles number)),
          Register.latest_follows _ hfollows.botRoles (Or.inr botRoles)⟩

end Cache

/-! ## Admission -/

namespace Guild

variable {first second : Guild}

/-- Nothing else decides about permissions than the roles that are asked for. -/
theorem permissions_congr {roles roles' : Std.TreeMap ℕ Permissions}
    (h : ∀ number : ℕ, roles[number]? = roles'[number]?) (all : Permissions)
    (guild user owner : ℕ) (memberRoles : List ℕ) (channel : ChannelAccess) :
    permissions all guild user owner memberRoles roles channel =
      permissions all guild user owner memberRoles roles' channel := by
  simp only [permissions, h]

/-- The voice channel that a user is in. -/
def placed (self : Guild) (user : ℕ) : Option ℕ := (self.voices[user]?).map VoiceEntry.channel

/-- Of a voice state the channel is all that a caller is judged by. -/
theorem caller_congr {caller : ℕ} (placed : first.placed caller = second.placed caller)
    (channels : ∀ number : ℕ, first.channels[number]? = second.channels[number]?) :
    first.callerChannel caller = second.callerChannel caller ∧
      ∀ intended error, first.callerError caller intended error =
        second.callerError caller intended error := by
  rw [Guild.placed, Guild.placed] at placed
  simp only [callerChannel, callerError, channels]
  cases hfirst : first.voices[caller]? with
  | none =>
      rw [hfirst, Option.map_none, eq_comm, Option.map_eq_none_iff] at placed
      rw [placed]
      exact ⟨rfl, fun _ _ => rfl⟩
  | some voice =>
      rw [hfirst, Option.map_some, eq_comm, Option.map_eq_some_iff] at placed
      obtain ⟨other, hsecond, hchannel⟩ := placed
      rw [hsecond]
      dsimp only
      rw [hchannel]
      exact ⟨rfl, fun _ _ => rfl⟩

/-- So is the room in a channel. -/
theorem isFull_congr (placed : ∀ user, first.placed user = second.placed user)
    (bot channel : ℕ) (data : ChannelAccess) :
    first.isFull bot channel data = second.isFull bot channel data := by
  have hcount (guild : Guild) : (guild.voices.values.filter fun v => v.channel == channel).length =
      (guild.voices.values.map VoiceEntry.channel).countP (· == channel) := by
    rw [List.countP_map, List.countP_eq_length_filter]
    rfl
  have hbot (guild : Guild) : ((guild.voices[bot]?).all fun v => v.channel != channel) =
      (guild.placed bot).all (· != channel) := by
    rw [Guild.placed, Option.all_map]
  rw [isFull, isFull, hcount, hcount, hbot, hbot, placed bot,
    Map.values_map_congr VoiceEntry.channel placed]

/-- Admission looks at the channels that the users are in, and at facts that the gateway
reports. -/
theorem access_congr (placed : ∀ user, first.placed user = second.placed user)
    (channels : ∀ number : ℕ, first.channels[number]? = second.channels[number]?)
    (roles : ∀ number : ℕ, first.roles[number]? = second.roles[number]?)
    (owner : first.owner = second.owner) (botRoles : first.botRoles = second.botRoles)
    (all : Permissions) (guild caller bot : ℕ) (intended : Option ℕ) :
    first.access all guild caller bot intended = second.access all guild caller bot intended := by
  obtain ⟨hchannel, herror⟩ := caller_congr (placed caller) channels
  simp only [access, hchannel, herror, isFull_congr placed, channels, owner, botRoles,
    permissions_congr roles]

end Guild

namespace Cache

variable {id bot : ℕ} {guild : Guild}

/-- Two runs agree on what admission to a guild rests on. -/
structure Agree (id bot : ℕ) (events events' : List Event) : Prop where
  owner : Register.latest (Event.owner id) events = Register.latest (Event.owner id) events'
  channels : ∀ number, Register.latest (Event.channel id number) events =
    Register.latest (Event.channel id number) events'
  roles : ∀ number, Register.latest (Event.role id number) events =
    Register.latest (Event.role id number) events'
  botRoles : Register.latest (Event.botRoles id bot) events =
    Register.latest (Event.botRoles id bot) events'

/-- After every run each fact about a guild is the latest word on it. So admission forgets
what was overruled: two runs that agree on the latest words, and place the users alike,
admit the same callers and refuse the others in the same words. -/
theorem after_access {events : List Event}
    (h : (Cache.after bot events).guilds[id]? = some guild) :
    guild.Reported id bot events ∧ ∀ events' guild',
      (Cache.after bot events').guilds[id]? = some guild' → Agree id bot events events' →
      (∀ user, guild.placed user = guild'.placed user) → ∀ all caller intended,
        guild.access all id caller bot intended = guild'.access all id caller bot intended := by
  have hreported := after_facts h
  refine ⟨hreported, ?_⟩
  intro events' guild' h' hagree hplaced all caller intended
  have hreported' := after_facts h'
  apply Guild.access_congr hplaced
  · intro number
    exact Option.some.inj ((hreported.channels number).symm.trans
      ((hagree.channels number).trans (hreported'.channels number)))
  · intro number
    exact Option.some.inj ((hreported.roles number).symm.trans
      ((hagree.roles number).trans (hreported'.roles number)))
  · exact Option.some.inj (hreported.owner.symm.trans (hagree.owner.trans hreported'.owner))
  · exact Option.some.inj (hreported.botRoles.symm.trans
      (hagree.botRoles.trans hreported'.botRoles))

/-- A guild with a voice channel. -/
def lounge : GuildData := ⟨1, 7, [⟨5, some 1, .guildVoice, none, none⟩], [], [], []⟩

/-- The voice channel becomes another one, and is then what it was. -/
def refurbished : List Event :=
  [.channelUpdate ⟨5, some 1, .guildStageVoice, none, none⟩,
    .channelUpdate ⟨5, some 1, .guildVoice, none, none⟩]

theorem after_access_refurbished : (Guild.created lounge 9).access 0 1 7 9 none =
    ((after 9 (.guildCreate (.available lounge) :: refurbished)).guilds[1]?.getD
      Guild.default).access 0 1 7 9 none := by
  have hnew : (after 9 [.guildCreate (.available lounge)]).guilds[1]? =
      some (Guild.created lounge 9) := rfl
  have hold : (after 9 (.guildCreate (.available lounge) :: refurbished)).guilds[1]? =
      some ((after 9 (.guildCreate (.available lounge) :: refurbished)).guilds[1]?.getD
        Guild.default) := rfl
  refine (after_access hnew).2 _ _ hold ⟨rfl, ?_, fun _ => rfl, rfl⟩ (fun _ => rfl) 0 7 none
  intro number
  by_cases hnumber : 5 = number
  · subst hnumber
    rfl
  · simp [Register.latest, Event.channel, refurbished, lounge, hnumber]

end Cache

end Raydio.Voice
