/-
# The cache of guilds under gateway events

`Cache.update` folds one gateway event into the cache. A guild enters the cache
with an available `GuildCreate`, which replaces everything known about it, and
leaves it with a definitive `GuildDelete`; the other events change parts of a
guild that is there. Whatever the event, an entry of the cache afterwards is the
voice states the event reports for the guild, heard one after the other by a base
guild that the event either creates or finds (`update_spec`). What the cache holds
after a run of events is read off that: the latest voice state of a user since the
guild was created says where the user is, and the latest word on the voice server
is the one the handshake is made with.
-/

import Raydio.Foundation.Keyed
import Raydio.Foundation.Runs
import Raydio.Foundation.Trace
import Raydio.Voice.Guild

namespace Raydio.Voice

open Raydio.Foundation

/-- `MAX_GUILDS`. -/
def maxGuilds : ℕ := 1000

/-- `MAX_VOICE_MEMBERS`. -/
def maxVoiceMembers : ℕ := 10000

/-- Member data of a payload. -/
structure Member where
  user : ℕ
  bot : Bool
  roles : List ℕ
  deriving DecidableEq, Repr

/-- A voice state of a payload. -/
structure VoiceState where
  guild : Option ℕ
  channel : Option ℕ
  user : ℕ
  member : Option Member
  session : String
  deriving DecidableEq, Repr

/-- A channel of a payload. -/
structure Channel where
  id : ℕ
  guild : Option ℕ
  kind : ChannelType
  userLimit : Option ℕ
  permissionOverwrites : Option (List PermissionOverwrite)
  deriving DecidableEq, Repr

/-- The channel facts that are kept. -/
def ChannelAccess.ofChannel (channel : Channel) : ChannelAccess :=
  ⟨channel.kind, channel.userLimit, channel.permissionOverwrites.getD []⟩

/-- A role of a payload. -/
structure Role where
  id : ℕ
  permissions : Permissions
  deriving DecidableEq, Repr

/-- What an available guild is created with. -/
structure GuildData where
  id : ℕ
  owner : ℕ
  channels : List Channel
  roles : List Role
  members : List Member
  voiceStates : List VoiceState
  deriving DecidableEq, Repr

inductive GuildCreate
  | available (guild : GuildData)
  | unavailable (id : ℕ)
  deriving DecidableEq, Repr

/-- The gateway events that are told apart. -/
inductive Event
  | ready
  | resumed
  | gatewayClose
  | guildCreate (create : GuildCreate)
  | guildDelete (id : ℕ) (unavailable : Option Bool)
  | guildUpdate (id owner : ℕ)
  | channelCreate (channel : Channel)
  | channelUpdate (channel : Channel)
  | channelDelete (channel : Channel)
  | roleCreate (guild : ℕ) (role : Role)
  | roleUpdate (guild : ℕ) (role : Role)
  | roleDelete (guild role : ℕ)
  | memberUpdate (guild : ℕ) (member : Member)
  | voiceStateUpdate (state : VoiceState)
  | voiceServerUpdate (guild : ℕ) (token : String) (endpoint : Option String)
  | other
  deriving DecidableEq, Repr

namespace Guild

/-- The bot flag of the entry for a voice state: that of the member data, else that of the
entry before. -/
def botFlag (self : Guild) (state : VoiceState) (bot : ℕ) : Bool :=
  (match state.member with
    | some member => member.bot
    | none => (self.voices[state.user]?).any VoiceEntry.bot) || state.user == bot

/-- Learn the bot's roles from its own voice state. -/
def learn (self : Guild) (state : VoiceState) (bot : ℕ) : Guild :=
  match state.member with
  | some member => if state.user = bot then self.member member.roles else self
  | none => self

/-- Take a voice state into account. -/
def voice (self : Guild) (state : VoiceState) (bot : ℕ) : Guild :=
  let guild := self.learn state bot
  match state.channel with
  | some channel =>
      if guild.voices.size < maxVoiceMembers || guild.voices.contains state.user then
        let entry : VoiceEntry :=
          { channel
            bot := guild.botFlag state bot
            session := if state.user = bot then state.session else "" }
        { guild with voices := guild.voices.insert state.user entry }
      else guild
  | none =>
      let guild := { guild with voices := guild.voices.erase state.user }
      if state.user = bot then { guild with server := none } else guild

/-- Take voice states into account, one after the other. -/
def hear (self : Guild) (bot : ℕ) (states : List VoiceState) : Guild :=
  states.foldl (fun guild state => guild.voice state bot) self

/-- An available guild before its voice states. -/
def created (data : GuildData) (bot : ℕ) : Guild :=
  { Guild.default with
    available := true
    owner := data.owner
    channels := .ofList (data.channels.map fun channel =>
      (channel.id, ChannelAccess.ofChannel channel))
    roles := .ofList (data.roles.map fun role => (role.id, role.permissions))
    botRoles := (data.members.find? fun member => member.user = bot).map Member.roles }

end Guild

namespace Cache

/-- Handle one event; the result is the guild whose voice facts may have changed. -/
def update (self : Cache) (event : Event) (bot : ℕ) : Cache × Option ℕ :=
  match event with
  | .ready | .resumed => ({ self with ready := true }, none)
  | .gatewayClose => ({ self with ready := false }, none)
  | .guildCreate (.available data) =>
      if self.guilds.size ≥ maxGuilds && !self.guilds.contains data.id then (self, none)
      else
        let guild := (Guild.created data bot).hear bot data.voiceStates
        ({ self with guilds := self.guilds.insert data.id guild }, some data.id)
  | .guildCreate (.unavailable id) =>
      (self.modify id fun guild => { guild with available := false }, none)
  | .guildDelete id unavailable =>
      if unavailable.getD false then
        (self.modify id fun guild => { guild with available := false }, some id)
      else ({ self with guilds := self.guilds.erase id }, some id)
  | .guildUpdate id owner => (self.modify id fun guild => { guild with owner }, none)
  | .channelCreate channel | .channelUpdate channel =>
      match channel.guild with
      | some id => (self.modify id fun guild =>
          { guild with channels := guild.channels.insert channel.id (.ofChannel channel) }, none)
      | none => (self, none)
  | .channelDelete channel =>
      match channel.guild with
      | some id => (self.modify id fun guild =>
          { guild with channels := guild.channels.erase channel.id }, none)
      | none => (self, none)
  | .roleCreate id role | .roleUpdate id role =>
      (self.modify id fun guild =>
        { guild with roles := guild.roles.insert role.id role.permissions }, none)
  | .roleDelete id role =>
      (self.modify id fun guild => { guild with roles := guild.roles.erase role }, none)
  | .memberUpdate id member =>
      if member.user = bot then (self.modify id fun guild => guild.member member.roles, none)
      else (self, none)
  | .voiceStateUpdate state =>
      match state.guild with
      | some id => (self.modify id fun guild => guild.voice state bot, some id)
      | none => (self, none)
  | .voiceServerUpdate id token endpoint =>
      (self.modify id fun guild => { guild with server := endpoint.map (Server.mk token) }, some id)
  | .other => (self, none)

/-- The cache after the events, from the empty one. -/
def after (bot : ℕ) (events : List Event) : Cache :=
  Runs.run (fun cache event => (cache.update event bot).1) .default events

@[simp]
theorem after_nil (bot : ℕ) : after bot [] = .default := rfl

@[simp]
theorem after_concat (bot : ℕ) (events : List Event) (event : Event) :
    after bot (events ++ [event]) = ((after bot events).update event bot).1 :=
  Runs.run_concat _ _ _ _

end Cache

/-! ## What an event says about a guild -/

namespace Event

/-- The event creates the guild as available. -/
def creates (id : ℕ) : Event → Bool
  | .guildCreate (.available data) => data.id == id
  | _ => false

/-- The event removes the guild for good. -/
def removes (id : ℕ) : Event → Bool
  | .guildDelete guild unavailable => guild == id && !unavailable.getD false
  | _ => false

/-- The guild in which the event reports voice states. -/
def home : Event → Option ℕ
  | .guildCreate (.available data) => some data.id
  | .voiceStateUpdate state => state.guild
  | _ => none

/-- The voice states the event reports. -/
def heard : Event → List VoiceState
  | .guildCreate (.available data) => data.voiceStates
  | .voiceStateUpdate state => [state]
  | _ => []

/-- The voice states the event reports in the guild. -/
def states (id : ℕ) (event : Event) : List VoiceState :=
  if event.home = some id then event.heard else []

/-- What the event says about the guild's voice server. -/
def server (id : ℕ) : Event → Option (Option Server)
  | .voiceServerUpdate guild token endpoint =>
      if guild = id then some (endpoint.map (Server.mk token)) else none
  | _ => none

end Event

variable {self cache : Cache} {guild guild' base : Guild} {state : VoiceState} {event : Event}
  {id user bot : ℕ}

/-- Changing one entry changes no other. -/
theorem Cache.modify_guilds (self : Cache) (other : ℕ) (change : Guild → Guild) (id : ℕ) :
    (self.modify other change).guilds[id]? =
      if other = id then (self.guilds[id]?).map change else self.guilds[id]? := by
  rw [modify]
  by_cases hid : other = id
  · subst hid
    cases hguild : self.guilds[other]? with
    | none => simp [hguild]
    | some guild => simp
  · cases self.guilds[other]? with
    | none => simp [hid]
    | some guild =>
        have hne : compare other id ≠ .eq := by simpa using hid
        simp [Std.TreeMap.getElem?_insert, hid]

theorem Cache.size_modify (self : Cache) (id : ℕ) (change : Guild → Guild) :
    (self.modify id change).guilds.size = self.guilds.size := by
  rw [modify]
  split
  · rename_i guild hguild
    have hmem : id ∈ self.guilds := by
      rw [← Std.TreeMap.isSome_getElem?_iff_mem, hguild]
      rfl
    simp [Std.TreeMap.size_insert, hmem]
  · rfl

/-- Where an entry after the event comes from: it is a base guild having heard the voice
states of the event. The base is new when the event creates the guild; otherwise it is the
entry before, which the event did not remove, with what the event says about the voice
server. -/
def Cache.Stems (self : Cache) (event : Event) (bot id : ℕ) (guild' : Guild) : Prop :=
  ∃ base : Guild, guild' = base.hear bot (event.states id) ∧
    ((∃ data, event = .guildCreate (.available data) ∧ data.id = id ∧
        base = .created data bot) ∨
      event.creates id = false ∧ event.removes id = false ∧
        ∃ guild, self.guilds[id]? = some guild ∧ base.voices = guild.voices ∧
          base.server = (event.server id).getD guild.server)

/-- An event that says nothing about the guild's voice facts leaves them. -/
theorem Cache.Stems.of_kept (hstates : event.states id = []) (hcreates : event.creates id = false)
    (hremoves : event.removes id = false) (hserver : event.server id = none)
    (hguild : self.guilds[id]? = some guild) (hvoices : guild'.voices = guild.voices)
    (hkept : guild'.server = guild.server) : self.Stems event bot id guild' := by
  have hheard : guild' = guild'.hear bot (event.states id) := by rw [hstates]; rfl
  have hbase : guild'.server = (event.server id).getD guild.server := by rw [hserver]; exact hkept
  exact ⟨guild', hheard, .inr ⟨hcreates, hremoves, guild, hguild, hvoices, hbase⟩⟩

/-- A change of other facts of some guild leaves the voice facts of every guild. -/
theorem Cache.Stems.of_modify {other : ℕ} {change : Guild → Guild}
    (h : (self.modify other change).guilds[id]? = some guild')
    (hvoices : ∀ guild, (change guild).voices = guild.voices)
    (hkept : ∀ guild, (change guild).server = guild.server)
    (hstates : event.states id = []) (hcreates : event.creates id = false)
    (hremoves : event.removes id = false) (hserver : event.server id = none) :
    self.Stems event bot id guild' := by
  rw [modify_guilds] at h
  by_cases hid : other = id
  · rw [if_pos hid] at h
    obtain ⟨guild, hguild, rfl⟩ := Option.map_eq_some_iff.mp h
    exact .of_kept hstates hcreates hremoves hserver hguild (hvoices guild) (hkept guild)
  · rw [if_neg hid] at h
    exact .of_kept hstates hcreates hremoves hserver h rfl rfl

/-- The creation of a guild is the origin of its entry. -/
theorem Cache.stems_available {data : GuildData}
    (h : (self.update (.guildCreate (.available data)) bot).1.guilds[id]? = some guild') :
    self.Stems (.guildCreate (.available data)) bot id guild' := by
  rw [update] at h
  by_cases hid : data.id = id
  · have hstates : (Event.guildCreate (.available data)).states id = data.voiceStates := by
      simp [Event.states, Event.home, Event.heard, hid]
    split at h
    · rename_i hfull
      have hmem : id ∈ self.guilds := by
        rw [← Std.TreeMap.isSome_getElem?_iff_mem, h]
        rfl
      have hcontains : self.guilds.contains id = true := Std.TreeMap.contains_iff_mem.mpr hmem
      simp [hid, hcontains] at hfull
    · simp only [hid, Std.TreeMap.getElem?_insert_self, Option.some.injEq] at h
      subst h
      exact ⟨_, by rw [hstates], .inl ⟨data, rfl, hid, rfl⟩⟩
  · have hcreates : (Event.guildCreate (.available data)).creates id = false := by
      simp [Event.creates, hid]
    have hstates : (Event.guildCreate (.available data)).states id = [] := by
      simp [Event.states, Event.home, hid]
    split at h
    · exact .of_kept hstates hcreates rfl rfl h rfl rfl
    · simp only [Std.TreeMap.getElem?_insert, compare_eq_iff_eq, if_neg hid] at h
      exact .of_kept hstates hcreates rfl rfl h rfl rfl

/-- A guild that is gone has no entry, one that is unavailable keeps its own. -/
theorem Cache.stems_delete {other : ℕ} {unavailable : Option Bool}
    (h : (self.update (.guildDelete other unavailable) bot).1.guilds[id]? = some guild') :
    self.Stems (.guildDelete other unavailable) bot id guild' := by
  rw [update] at h
  split at h
  · rename_i hunavailable
    have hremoves : (Event.guildDelete other unavailable).removes id = false := by
      simp [Event.removes, hunavailable]
    exact .of_modify h (fun _ => rfl) (fun _ => rfl) rfl rfl hremoves rfl
  · rename_i hgone
    simp only [Std.TreeMap.getElem?_erase] at h
    split at h
    · cases h
    · rename_i hid
      have hne : other ≠ id := by simpa using hid
      have hremoves : (Event.guildDelete other unavailable).removes id = false := by
        simp [Event.removes, hne]
      exact .of_kept rfl rfl hremoves rfl h rfl rfl

/-- A voice state is heard by its guild alone. -/
theorem Cache.stems_voiceState {state : VoiceState}
    (h : (self.update (.voiceStateUpdate state) bot).1.guilds[id]? = some guild') :
    self.Stems (.voiceStateUpdate state) bot id guild' := by
  by_cases hid : state.guild = some id
  · have hstates : (Event.voiceStateUpdate state).states id = [state] := by
      simp [Event.states, Event.home, Event.heard, hid]
    simp only [update, hid, modify_guilds, if_true] at h
    obtain ⟨guild, hguild, rfl⟩ := Option.map_eq_some_iff.mp h
    exact ⟨guild, by rw [hstates]; rfl, .inr ⟨rfl, rfl, guild, hguild, rfl, rfl⟩⟩
  · have hstates : (Event.voiceStateUpdate state).states id = [] := by
      simp [Event.states, Event.home, hid]
    rw [update] at h
    split at h
    · rename_i other hguild
      have hne : other ≠ id := by
        rintro rfl
        exact hid hguild
      simp only [modify_guilds, if_neg hne] at h
      exact .of_kept hstates rfl rfl rfl h rfl rfl
    · exact .of_kept hstates rfl rfl rfl h rfl rfl

/-- A voice server is told to its guild alone. -/
theorem Cache.stems_voiceServer {other : ℕ} {token : String} {endpoint : Option String}
    (h : (self.update (.voiceServerUpdate other token endpoint) bot).1.guilds[id]? =
      some guild') : self.Stems (.voiceServerUpdate other token endpoint) bot id guild' := by
  simp only [update, modify_guilds] at h
  by_cases hid : other = id
  · have hserver : (Event.voiceServerUpdate other token endpoint).server id =
        some (endpoint.map (Server.mk token)) := by simp [Event.server, hid]
    rw [if_pos hid] at h
    obtain ⟨guild, hguild, rfl⟩ := Option.map_eq_some_iff.mp h
    exact ⟨_, rfl, .inr ⟨rfl, rfl, guild, hguild, rfl, by rw [hserver]; rfl⟩⟩
  · have hserver : (Event.voiceServerUpdate other token endpoint).server id = none := by
      simp [Event.server, hid]
    rw [if_neg hid] at h
    exact .of_kept rfl rfl rfl hserver h rfl rfl

/-- Every entry after an event stems from it. -/
theorem Cache.update_spec (h : (self.update event bot).1.guilds[id]? = some guild') :
    self.Stems event bot id guild' := by
  cases event with
  | ready | resumed | gatewayClose | other => exact .of_kept rfl rfl rfl rfl h rfl rfl
  | guildCreate create =>
      cases create with
      | unavailable other => exact .of_modify h (fun _ => rfl) (fun _ => rfl) rfl rfl rfl rfl
      | available data => exact stems_available h
  | guildDelete other unavailable => exact stems_delete h
  | guildUpdate other owner => exact .of_modify h (fun _ => rfl) (fun _ => rfl) rfl rfl rfl rfl
  | channelCreate channel | channelUpdate channel | channelDelete channel =>
      rw [update] at h
      split at h
      · exact .of_modify h (fun _ => rfl) (fun _ => rfl) rfl rfl rfl rfl
      · exact .of_kept rfl rfl rfl rfl h rfl rfl
  | roleCreate other role | roleUpdate other role | roleDelete other role =>
      exact .of_modify h (fun _ => rfl) (fun _ => rfl) rfl rfl rfl rfl
  | memberUpdate other member =>
      rw [update] at h
      split at h
      · exact .of_modify h (fun _ => rfl) (fun _ => rfl) rfl rfl rfl rfl
      · exact .of_kept rfl rfl rfl rfl h rfl rfl
  | voiceStateUpdate state => exact stems_voiceState h
  | voiceServerUpdate other token endpoint => exact stems_voiceServer h

/-! ## What a voice state changes -/

namespace Guild

/-- The guild has room for the entry of a voice state. -/
def HasRoom (self : Guild) (state : VoiceState) : Prop :=
  state.channel.isSome → self.voices.size < maxVoiceMembers ∨ state.user ∈ self.voices

instance (self : Guild) (state : VoiceState) : Decidable (self.HasRoom state) :=
  inferInstanceAs (Decidable (_ → _))

/-- The entry a voice state asks for. -/
def entryOf (self : Guild) (state : VoiceState) (bot : ℕ) : Option VoiceEntry :=
  state.channel.map fun channel =>
    ⟨channel, self.botFlag state bot, if state.user = bot then state.session else ""⟩

/-- Learning the bot's roles changes nothing else. -/
theorem learn_eq (guild : Guild) (state : VoiceState) (bot : ℕ) :
    guild.learn state bot = { guild with botRoles := (guild.learn state bot).botRoles } := by
  rw [learn]
  split
  · split_ifs <;> rfl
  · rfl

theorem voice_of_some {channel : ℕ} (guild : Guild) (bot : ℕ) (h : state.channel = some channel) :
    (guild.voice state bot).voices =
        (if guild.voices.size < maxVoiceMembers ∨ state.user ∈ guild.voices then
          guild.voices.insert state.user
            ⟨channel, guild.botFlag state bot, if state.user = bot then state.session else ""⟩
        else guild.voices) ∧
      (guild.voice state bot).server = guild.server := by
  rw [voice, learn_eq]
  simp only [h, Bool.or_eq_true, decide_eq_true_eq, Std.TreeMap.contains_iff_mem]
  split
  · exact ⟨rfl, rfl⟩
  · exact ⟨rfl, rfl⟩

theorem voice_of_none (guild : Guild) (bot : ℕ) (h : state.channel = none) :
    (guild.voice state bot).voices = guild.voices.erase state.user ∧
      (guild.voice state bot).server = if state.user = bot then none else guild.server := by
  rw [voice, learn_eq]
  simp only [h]
  split
  · exact ⟨rfl, rfl⟩
  · exact ⟨rfl, rfl⟩

/-- An entry after a voice state is the one it asks for, or was there before. -/
theorem entry_of_voice {entry : VoiceEntry}
    (h : (guild.voice state bot).voices[user]? = some entry) :
    state.user = user ∧ guild.entryOf state bot = some entry ∨
      guild.voices[user]? = some entry := by
  cases hchannel : state.channel with
  | some channel =>
      rw [(voice_of_some guild bot hchannel).1] at h
      split at h
      · rw [Std.TreeMap.getElem?_insert] at h
        by_cases huser : state.user = user
        · left
          simpa [entryOf, hchannel, huser] using h
        · right
          simpa [huser] using h
      · exact .inr h
  | none =>
      rw [(voice_of_none guild bot hchannel).1, Std.TreeMap.getElem?_erase] at h
      split at h
      · cases h
      · exact .inr h

/-- With room, a voice state settles the entry of its user. -/
theorem voice_entry (hroom : guild.HasRoom state) (bot user : ℕ) :
    (guild.voice state bot).voices[user]? =
      if state.user = user then guild.entryOf state bot else guild.voices[user]? := by
  cases hchannel : state.channel with
  | some channel =>
      rw [(voice_of_some guild bot hchannel).1, if_pos (hroom (by rw [hchannel]; rfl)),
        Std.TreeMap.getElem?_insert]
      by_cases huser : state.user = user <;> simp [entryOf, hchannel, huser]
  | none =>
      rw [(voice_of_none guild bot hchannel).1, Std.TreeMap.getElem?_erase]
      by_cases huser : state.user = user <;> simp [entryOf, hchannel, huser]

/-- The voices stay within their cap. -/
theorem size_voice (h : guild.voices.size ≤ maxVoiceMembers) :
    (guild.voice state bot).voices.size ≤ maxVoiceMembers := by
  cases hchannel : state.channel with
  | some channel =>
      rw [(voice_of_some guild bot hchannel).1]
      split
      · rename_i hroom
        rw [Std.TreeMap.size_insert]
        split_ifs with hmem
        · exact h
        · exact hroom.resolve_right hmem
      · exact h
  | none =>
      rw [(voice_of_none guild bot hchannel).1]
      exact Std.TreeMap.size_erase_le.trans h

@[simp]
theorem hear_nil (guild : Guild) (bot : ℕ) : guild.hear bot [] = guild := rfl

@[simp]
theorem hear_concat (guild : Guild) (bot : ℕ) (states : List VoiceState) (state : VoiceState) :
    guild.hear bot (states ++ [state]) = (guild.hear bot states).voice state bot := by
  simp [hear]

/-- The voices afterwards depend on the voices before only. -/
theorem hear_voices_congr {other : Guild} (h : guild.voices = other.voices) (bot : ℕ)
    (states : List VoiceState) :
      (guild.hear bot states).voices = (other.hear bot states).voices := by
  induction states using List.reverseRecOn with
  | nil => exact h
  | append_singleton states state ih =>
      rw [hear_concat, hear_concat]
      cases hchannel : state.channel with
      | some channel =>
          rw [(voice_of_some _ bot hchannel).1, (voice_of_some _ bot hchannel).1,
            botFlag, botFlag, ih]
      | none => rw [(voice_of_none _ bot hchannel).1, (voice_of_none _ bot hchannel).1, ih]

/-- The voice server is forgotten exactly when the bot leaves voice. -/
theorem hear_server (guild : Guild) (bot : ℕ) (states : List VoiceState) :
    (guild.hear bot states).server =
      if states.any fun state => state.user == bot && state.channel.isNone then none
      else guild.server := by
  induction states using List.reverseRecOn with
  | nil => rfl
  | append_singleton states state ih =>
      rw [hear_concat]
      cases hchannel : state.channel with
      | some channel => simp [(voice_of_some _ bot hchannel).2, ih, hchannel]
      | none =>
          rw [(voice_of_none _ bot hchannel).2, ih]
          by_cases hbot : state.user = bot <;> simp [hchannel, hbot]

/-- What hearing one voice state preserves, hearing several does. -/
theorem hear_invariant (Invariant : Guild → Prop) (states : List VoiceState)
    (preserved : ∀ guild, ∀ state ∈ states, Invariant guild → Invariant (guild.voice state bot))
    (h : Invariant guild) : Invariant (guild.hear bot states) := by
  induction states using List.reverseRecOn with
  | nil => exact h
  | append_singleton states state ih =>
      rw [hear_concat]
      apply preserved _ _ (by simp)
      exact ih fun guild other hmem => preserved guild other (List.mem_append_left _ hmem)

end Guild

/-! ## What was reported -/

/-- The voice states reported in the guild since it was last created. -/
def reported (id : ℕ) (events : List Event) : List VoiceState :=
  events.foldl (fun states event =>
    if event.creates id then event.states id else states ++ event.states id) []

/-- The channel that the latest voice state of a user names. -/
def channelOf (user : ℕ) (states : List VoiceState) : Option ℕ :=
  (Keyed.latest VoiceState.user user states).bind VoiceState.channel

@[simp]
theorem reported_concat (id : ℕ) (events : List Event) (event : Event) :
    reported id (events ++ [event]) =
      if event.creates id then event.states id else reported id events ++ event.states id := by
  simp [reported]

theorem channelOf_concat (user : ℕ) (states : List VoiceState) (state : VoiceState) :
    channelOf user (states ++ [state]) =
      if state.user = user then state.channel else channelOf user states := by
  rw [channelOf, Keyed.latest_concat]
  split <;> rfl

/-- The guild that hears the voice states of the event. -/
def Cache.listener (self : Cache) (bot : ℕ) : Event → Option Guild
  | .guildCreate (.available data) => some (.created data bot)
  | .voiceStateUpdate state => state.guild.bind fun id => self.guilds[id]?
  | _ => none

/-- No voice state of the event is turned away because the guild has too many. -/
def Cache.HasRoom (self : Cache) (bot : ℕ) (event : Event) : Prop :=
  ∀ guild ∈ self.listener bot event,
    Trace.Always (fun before state => (guild.hear bot before).HasRoom state) event.heard

instance (self : Cache) (bot : ℕ) (event : Event) : Decidable (self.HasRoom bot event) :=
  inferInstanceAs (Decidable (∀ guild ∈ self.listener bot event, _))

/-- The cap of voice members turned nothing away. -/
def Uncapped (bot : ℕ) (events : List Event) : Prop :=
  Trace.Always (fun before event => (Cache.after bot before).HasRoom bot event) events

instance (bot : ℕ) (events : List Event) : Decidable (Uncapped bot events) :=
  Trace.Always.decidable events

/-- A base guild has the room that its event was found to leave. -/
theorem Cache.HasRoom.of_base (base : Guild) (hroom : self.HasRoom bot event)
    (hbase : (∃ data, event = .guildCreate (.available data) ∧ data.id = id ∧
        base = .created data bot) ∨
      ∃ guild, event.creates id = false ∧ self.guilds[id]? = some guild ∧
        base.voices = guild.voices) :
    Trace.Always (fun before state => (base.hear bot before).HasRoom state) (event.states id) := by
  by_cases hhome : event.home = some id
  · rw [Event.states, if_pos hhome]
    rcases hbase with ⟨data, rfl, -, rfl⟩ | ⟨guild, hcreates, hguild, hvoices⟩
    · exact hroom _ rfl
    · have hlistener : self.listener bot event = some guild := by
        cases event with
        | guildCreate create =>
            cases create with
            | available data =>
                have hne : data.id ≠ id := by simpa [Event.creates] using hcreates
                simp [Event.home, hne] at hhome
            | unavailable other => cases hhome
        | voiceStateUpdate state =>
            have hstate : state.guild = some id := hhome
            simp [listener, hstate, hguild]
        | _ => cases hhome
      intro before state after heq
      have hguildRoom := hroom guild hlistener before state after heq
      intro hchannel
      rw [Guild.hear_voices_congr hvoices]
      exact hguildRoom hchannel
  · rw [Event.states, if_neg hhome]
    exact Trace.always_nil _

/-! ## What an entry keeps over a run -/

/-- A fact of an entry that holds when the guild is created and is kept by the events after
that holds after every run. -/
theorem Cache.entry_rule (Fact : List Event → Guild → Prop)
    (fresh : ∀ events data, data.id = id →
      Trace.Always (fun before state => ((Guild.created data bot).hear bot before).HasRoom state)
        data.voiceStates →
      Fact (events ++ [.guildCreate (.available data)])
        ((Guild.created data bot).hear bot data.voiceStates))
    (kept : ∀ events event (guild base : Guild), event.creates id = false →
      Trace.Always (fun before state => (base.hear bot before).HasRoom state) (event.states id) →
      (Cache.after bot events).guilds[id]? = some guild → Fact events guild →
      base.voices = guild.voices → base.server = (event.server id).getD guild.server →
      Fact (events ++ [event]) (base.hear bot (event.states id)))
    {events : List Event} (huncapped : Uncapped bot events)
    (h : (Cache.after bot events).guilds[id]? = some guild) : Fact events guild := by
  induction events using List.reverseRecOn generalizing guild with
  | nil => simp [Cache.default] at h
  | append_singleton events event ih =>
      obtain ⟨hbefore, hroom⟩ := Trace.always_concat.mp huncapped
      rw [after_concat] at h
      obtain ⟨base, rfl, hbase⟩ := update_spec h
      rcases hbase with ⟨data, rfl, hid, rfl⟩ | ⟨hcreates, -, guild, hguild, hvoices, hserver⟩
      · have hstates : (Event.guildCreate (.available data)).states id = data.voiceStates := by
          simp [Event.states, Event.home, Event.heard, hid]
        rw [hstates]
        exact fresh events data hid (hroom _ rfl)
      · have hbase := HasRoom.of_base base hroom (.inr ⟨guild, hcreates, hguild, hvoices⟩)
        exact kept events event guild base hcreates hbase hguild (ih hbefore hguild) hvoices hserver

/-- Voice states that find room place their users. -/
theorem Guild.hear_places (sofar : List VoiceState) {states : List VoiceState}
    (hroom : Trace.Always (fun before state => (base.hear bot before).HasRoom state) states)
    (hbase : ∀ user, (base.voices[user]?).map VoiceEntry.channel = channelOf user sofar)
    (user : ℕ) : ((base.hear bot states).voices[user]?).map VoiceEntry.channel =
      channelOf user (sofar ++ states) := by
  induction states using List.reverseRecOn with
  | nil => simpa using hbase user
  | append_singleton states state ih =>
      obtain ⟨hbefore, hstate⟩ := Trace.always_concat.mp hroom
      rw [hear_concat, voice_entry hstate, ← List.append_assoc, channelOf_concat]
      split
      · rw [entryOf, Option.map_map]
        exact Option.map_id_apply
      · exact ih hbefore

/-- The cache places a user where its latest voice state does. -/
theorem Cache.after_places {events : List Event} (huncapped : Uncapped bot events)
    (h : (Cache.after bot events).guilds[id]? = some guild) (user : ℕ) :
    (guild.voices[user]?).map VoiceEntry.channel = channelOf user (reported id events) := by
  apply entry_rule (fun events guild => ∀ user,
    (guild.voices[user]?).map VoiceEntry.channel = channelOf user (reported id events)) _ _
    huncapped h
  · intro events data hid hroom user
    have hnew : ∀ user, (((Guild.created data bot).voices)[user]?).map VoiceEntry.channel =
        channelOf user [] := by
      intro user
      simp [Guild.created, Guild.default, channelOf]
    rw [Guild.hear_places [] hroom hnew]
    simp [Event.creates, Event.states, Event.home, Event.heard, hid]
  · intro events event guild base hcreates hroom _ hguild hvoices _ user
    rw [reported_concat, hcreates, if_neg Bool.false_ne_true]
    exact Guild.hear_places _ hroom (by rwa [hvoices]) user

/-- Hearing voice states gives a session to the bot's entry only. -/
theorem Guild.hear_sessions (states : List VoiceState)
    (h : ∀ (user : ℕ) entry, base.voices[user]? = some entry → entry.session ≠ "" → user = bot) :
    ∀ (user : ℕ) entry, (base.hear bot states).voices[user]? = some entry →
      entry.session ≠ "" → user = bot := by
  apply hear_invariant (fun guild => ∀ (user : ℕ) entry, guild.voices[user]? = some entry →
    entry.session ≠ "" → user = bot) states _ h
  intro guild state _ hguild user entry hentry hsession
  rcases entry_of_voice hentry with ⟨huser, hasked⟩ | hbefore
  · obtain ⟨channel, -, rfl⟩ := Option.map_eq_some_iff.mp hasked
    by_contra hother
    exact hsession (by simp [huser, hother])
  · exact hguild user entry hbefore hsession

/-- Only the entry of this bot has a session. -/
theorem Cache.after_sessions {events : List Event} (huncapped : Uncapped bot events)
    (h : (Cache.after bot events).guilds[id]? = some guild) :
    ∀ (user : ℕ) entry, guild.voices[user]? = some entry → entry.session ≠ "" → user = bot := by
  apply entry_rule (fun _ guild => ∀ (user : ℕ) entry, guild.voices[user]? = some entry →
    entry.session ≠ "" → user = bot) _ _ huncapped h
  · intro _ data _ _
    apply Guild.hear_sessions
    intro user entry hentry
    simp [Guild.created, Guild.default] at hentry
  · intro _ event guild base _ _ _ hguild hvoices _
    apply Guild.hear_sessions
    rwa [hvoices]

/-- The event ends what was known about the guild's voice server. -/
def Event.resets (id bot : ℕ) (event : Event) : Prop :=
  event.creates id = true ∨ (event.server id).isSome = true ∨
    ∃ state ∈ event.states id, state.user = bot ∧ state.channel = none

/-- The voice server of an entry is what the latest word on it said, and the bot has not
left voice since. -/
theorem Cache.after_server {events : List Event} (huncapped : Uncapped bot events)
    (h : (Cache.after bot events).guilds[id]? = some guild) :
    ∀ server, guild.server = some server → Trace.Since (Event.resets id bot)
      (.voiceServerUpdate id server.token (some server.endpoint)) events := by
  apply entry_rule (fun events guild => ∀ server, guild.server = some server →
    Trace.Since (Event.resets id bot)
      (.voiceServerUpdate id server.token (some server.endpoint)) events) _ _ huncapped h
  · intro events data hid hroom server hserver
    rw [Guild.hear_server] at hserver
    split at hserver <;> cases hserver
  · intro events event guild base hcreates _ _ hguild _ hbase server hserver
    rw [Guild.hear_server] at hserver
    split at hserver
    · cases hserver
    · rename_i hstays
      rw [hbase] at hserver
      cases hword : event.server id with
      | some word =>
          rw [hword] at hserver
          cases event with
          | voiceServerUpdate other token endpoint =>
              simp only [Event.server] at hword
              split at hword
              · rename_i hid
                cases hword
                obtain ⟨text, rfl, rfl⟩ := Option.map_eq_some_iff.mp hserver
                subst hid
                exact Trace.since_concat _ _ _
              · cases hword
          | _ => cases hword
      | none =>
          rw [hword] at hserver
          apply (hguild server hserver).append
          intro later hmem hresets
          rw [List.mem_singleton.mp hmem] at hresets
          rcases hresets with hnew | hsaid | ⟨state, hstate, hbot, hleft⟩
          · rw [hcreates] at hnew
            cases hnew
          · rw [hword] at hsaid
            cases hsaid
          · apply hstays
            exact List.any_eq_true.mpr ⟨state, hstate, by simp [hbot, hleft]⟩

/-! ## The cache over a run -/

/-- The guilds stay within their cap. -/
theorem Cache.size_update (event : Event) (bot : ℕ) (h : self.guilds.size ≤ maxGuilds) :
    (self.update event bot).1.guilds.size ≤ maxGuilds := by
  have hmodify : ∀ id change, (self.modify id change).guilds.size ≤ maxGuilds := by
    intro id change
    rwa [size_modify]
  cases event with
  | ready | resumed | gatewayClose | other => exact h
  | guildCreate create =>
      cases create with
      | unavailable id => exact hmodify _ _
      | available data =>
          rw [update]
          split
          · exact h
          · rename_i hroom
            rw [Std.TreeMap.size_insert]
            split_ifs with hmem
            · exact h
            · by_contra hlarge
              apply hroom
              have hcontains : self.guilds.contains data.id = false :=
                Bool.eq_false_iff.mpr fun h => hmem (Std.TreeMap.contains_iff_mem.mp h)
              have hfull : self.guilds.size ≥ maxGuilds := by omega
              simp [hcontains, hfull]
  | guildDelete id unavailable =>
      rw [update]
      split
      · exact hmodify _ _
      · exact Std.TreeMap.size_erase_le.trans h
  | channelCreate channel | channelUpdate channel | channelDelete channel =>
      rw [update]
      split
      · exact hmodify _ _
      · exact h
  | memberUpdate id member =>
      rw [update]
      split
      · exact hmodify _ _
      · exact h
  | voiceStateUpdate state =>
      rw [update]
      split
      · exact hmodify _ _
      · exact h
  | guildUpdate id owner => exact hmodify _ _
  | roleCreate id role | roleUpdate id role | roleDelete id role => exact hmodify _ _
  | voiceServerUpdate id token endpoint => exact hmodify _ _

theorem Cache.after_size (bot : ℕ) (events : List Event) :
    (Cache.after bot events).guilds.size ≤ maxGuilds :=
  Runs.run_invariant (fun cache : Cache => cache.guilds.size ≤ maxGuilds)
    (fun _ event => size_update event bot) (Nat.zero_le _)

/-- The voices of every guild stay within their cap. -/
theorem Cache.after_voices (events : List Event)
    (h : (Cache.after bot events).guilds[id]? = some guild) :
    guild.voices.size ≤ maxVoiceMembers := by
  induction events using List.reverseRecOn generalizing guild with
  | nil => simp [Cache.default] at h
  | append_singleton events event ih =>
      rw [after_concat] at h
      obtain ⟨base, rfl, hbase⟩ := update_spec h
      apply Guild.hear_invariant (fun guild => guild.voices.size ≤ maxVoiceMembers)
      · intro guild state _ hguild
        exact Guild.size_voice hguild
      · rcases hbase with ⟨data, -, -, rfl⟩ | ⟨-, -, guild, hguild, hvoices, -⟩
        · exact Nat.zero_le _
        · rw [hvoices]
          exact ih hguild

/-- A guild that is there was created, and was not removed since. -/
theorem Cache.after_created {events : List Event}
    (h : (Cache.after bot events).guilds[id]? = some guild) :
    ∃ data, data.id = id ∧ Trace.Since (fun event => event.removes id = true)
      (.guildCreate (.available data)) events := by
  induction events using List.reverseRecOn generalizing guild with
  | nil => simp [Cache.default] at h
  | append_singleton events event ih =>
      rw [after_concat] at h
      obtain ⟨base, -, hbase⟩ := update_spec h
      rcases hbase with ⟨data, rfl, hid, -⟩ | ⟨-, hstays, guild, hguild, -, -⟩
      · exact ⟨data, hid, Trace.since_concat _ _ _⟩
      · obtain ⟨data, hid, hsince⟩ := ih hguild
        refine ⟨data, hid, hsince.append ?_⟩
        intro later hmem
        rw [List.mem_singleton.mp hmem, hstays]
        exact Bool.false_ne_true

/-- A removed guild is absent until it is created again. -/
theorem Cache.after_removed {events : List Event} (hremoves : event.removes id = true)
    (h : Trace.Since (fun later => later.creates id = true) event events) :
    (Cache.after bot events).guilds[id]? = none := by
  by_contra hpresent
  obtain ⟨guild, hguild⟩ := Option.ne_none_iff_exists'.mp hpresent
  obtain ⟨data, hid, hsince⟩ := after_created hguild
  obtain ⟨before, after, rfl, hnone⟩ := h
  have hcreates : (Event.guildCreate (.available data)).creates id = true := by
    simp [Event.creates, hid]
  rcases List.mem_cons.mp (hsince.mem_of_barrier hremoves) with rfl | hmem
  · cases hremoves
  · exact hnone _ hmem hcreates

/-- What the cache holds after a run of gateway events: it stays within its caps; unless the
cap of voice members turned something away, the entries of a guild are the latest voice
states since it was created, only this bot has a session, and a voice server comes from the
latest word on it, said after the creation and after the bot last left voice; and a removed
guild is absent until it is created again. -/
theorem Cache.update_accounts (bot : ℕ) (events : List Event) :
    (Cache.after bot events).guilds.size ≤ maxGuilds ∧
      (∀ (id : ℕ) guild, (Cache.after bot events).guilds[id]? = some guild →
        guild.voices.size ≤ maxVoiceMembers) ∧
      (Uncapped bot events →
        ∀ (id : ℕ) guild, (Cache.after bot events).guilds[id]? = some guild →
          (∀ user : ℕ, (guild.voices[user]?).map VoiceEntry.channel =
            channelOf user (reported id events)) ∧
          (∀ (user : ℕ) entry, guild.voices[user]? = some entry → entry.session ≠ "" →
            user = bot) ∧
          ∀ server, guild.server = some server → Trace.Since (Event.resets id bot)
            (.voiceServerUpdate id server.token (some server.endpoint)) events) ∧
      ∀ (id : ℕ) (event : Event), event.removes id = true →
        Trace.Since (fun later => later.creates id = true) event events →
        (Cache.after bot events).guilds[id]? = none := by
  constructor
  · exact after_size bot events
  constructor
  · intro id guild h
    exact after_voices events h
  constructor
  · intro huncapped id guild h
    exact ⟨after_places huncapped h, after_sessions huncapped h, after_server huncapped h⟩
  · intro id event hremoves h
    exact after_removed hremoves h

/-- The event is a `GuildCreate` for the guild, available or not. -/
def Event.isCreate (id : ℕ) : Event → Bool
  | .guildCreate (.available data) => data.id == id
  | .guildCreate (.unavailable guild) => guild == id
  | _ => false

/-- A guild that is reported as unavailable keeps its voice server, although none was
announced since that `GuildCreate`. -/
theorem Cache.unavailable_keeps_server :
    ∃ (bot id : ℕ) (events : List Event) (guild : Guild) (server : Server),
      Uncapped bot events ∧ (Cache.after bot events).guilds[id]? = some guild ∧
        guild.server = some server ∧
        ¬ ∃ token endpoint,
          Trace.Since (fun event => event.isCreate id = true ∨ event.server id = some none ∨
              ∃ state ∈ event.states id, state.user = bot ∧ state.channel = none)
            (.voiceServerUpdate id token (some endpoint)) events ∧
          server = ⟨token, endpoint⟩ := by
  let before : List Event :=
    [.guildCreate (.available ⟨1, 2, [], [], [], []⟩), .voiceServerUpdate 1 "token" (some "host")]
  let outage : Event := .guildCreate (.unavailable 1)
  have hkept : ((Cache.after 9 (before ++ [outage])).guilds[1]?).map Guild.server =
      some (some ⟨"token", "host"⟩) := by decide +kernel
  obtain ⟨guild, hguild, hserver⟩ := Option.map_eq_some_iff.mp hkept
  refine ⟨9, 1, before ++ [outage], guild, _, by decide +kernel, hguild, hserver, ?_⟩
  rintro ⟨token, endpoint, hsince, -⟩
  have hmem := hsince.mem_of_barrier (.inl rfl)
  simp [outage] at hmem

end Raydio.Voice
