/-
# Discord guild state for voice access

The part of a guild that voice admission reads: who is in which voice channel,
the channels with their overwrites, the roles, and the voice server of the
handshake. `access` decides whether the bot may play for a caller.

The permission bits are those of Discord; `all` is the set of bits the client
library knows, to which a complement is cut.
-/

import Raydio.Foundation.Checked

namespace Raydio.Voice

open Raydio.Foundation

/-- Discord channel types, as far as they are told apart. -/
inductive ChannelType
  | guildVoice
  | guildStageVoice
  | other (code : ℕ)
  deriving DecidableEq, Repr

/-- A set of permission bits. -/
abbrev Permissions := BitVec 64

namespace Permissions

def administrator : Permissions := 1#64 <<< 3
def viewChannel : Permissions := 1#64 <<< 10
def connect : Permissions := 1#64 <<< 20
def speak : Permissions := 1#64 <<< 21

/-- `Permissions::contains`. -/
def contains (value bits : Permissions) : Bool := value &&& bits == bits

end Permissions

/-- Whom an overwrite is about. -/
inductive OverwriteType
  | role
  | member
  | other (code : ℕ)
  deriving DecidableEq, Repr

/-- A permission overwrite of a channel. -/
structure PermissionOverwrite where
  id : ℕ
  kind : OverwriteType
  allow : Permissions
  deny : Permissions
  deriving DecidableEq, Repr

/-- The channel facts used by voice admission. -/
structure ChannelAccess where
  kind : ChannelType
  userLimit : Option ℕ
  permissionOverwrites : List PermissionOverwrite
  deriving DecidableEq, Repr

/-- A cached voice state. -/
structure VoiceEntry where
  channel : ℕ
  bot : Bool
  session : String
  deriving DecidableEq, Repr

/-- The voice server of the handshake. -/
structure Server where
  token : String
  endpoint : String
  deriving DecidableEq, Repr

/-- What a guild's worker last published about itself. -/
structure Activity where
  channel : Option ℕ
  queueCount : ℕ
  pending : ℕ
  title : Option String
  deriving DecidableEq, Repr

/-- `Activity::default`. -/
def Activity.default : Activity := ⟨none, 0, 0, none⟩

/-- One cached guild. -/
structure Guild where
  available : Bool
  owner : ℕ
  channels : Std.TreeMap ℕ ChannelAccess
  roles : Std.TreeMap ℕ Permissions
  botRoles : Option (List ℕ)
  voices : Std.TreeMap ℕ VoiceEntry
  server : Option Server
  activity : Activity

/-- `Guild::default`. -/
def Guild.default : Guild := ⟨false, 0, ∅, ∅, none, ∅, none, .default⟩

/-- The cached guilds and whether the gateway is connected. -/
structure Cache where
  guilds : Std.TreeMap ℕ Guild
  ready : Bool

/-- `Cache::default`. -/
def Cache.default : Cache := ⟨∅, false⟩

/-- Replace a cached guild, if it is there. -/
def Cache.modify (self : Cache) (id : ℕ) (change : Guild → Guild) : Cache :=
  match self.guilds[id]? with
  | some guild => { self with guilds := self.guilds.insert id (change guild) }
  | none => self

/-- The permissions of a member in a channel: the union of its roles, then the
overwrite of everyone, then those of its roles together, then its own. -/
def permissions (all : Permissions) (guild user owner : ℕ) (memberRoles : List ℕ)
    (roles : Std.TreeMap ℕ Permissions) (channel : ChannelAccess) : Permissions :=
  let value := memberRoles.foldl (fun value role => value ||| (roles[role]?).getD 0)
    ((roles[guild]?).getD 0)
  if user = owner || value.contains .administrator then all
  else
    let overwrites := channel.permissionOverwrites
    let value := match overwrites.find? fun o => o.kind = .role && o.id = guild with
      | some overwrite => value &&& (all &&& ~~~overwrite.deny) ||| overwrite.allow
      | none => value
    let mine := overwrites.filter fun o => o.kind = .role && memberRoles.contains o.id
    let deny := mine.foldl (fun deny overwrite => deny ||| overwrite.deny) 0
    let allow := mine.foldl (fun allow overwrite => allow ||| overwrite.allow) 0
    let value := value &&& (all &&& ~~~deny) ||| allow
    match overwrites.find? fun o => o.kind = .member && o.id = user with
    | some overwrite => value &&& (all &&& ~~~overwrite.deny) ||| overwrite.allow
    | none => value

namespace Guild

/-- Learn the bot's roles from its member data. -/
def member (self : Guild) (roles : List ℕ) : Guild := { self with botRoles := some roles }

/-- Nobody but bots is in the channel. -/
def alone (self : Guild) (channel : ℕ) : Bool :=
  !self.voices.values.any fun v => v.channel == channel && !v.bot

/-- The normal voice channel the caller is in. -/
def callerChannel (self : Guild) (caller : ℕ) : Except String ℕ :=
  match self.voices[caller]? with
  | none => .error "Join a voice channel first."
  | some voice =>
      if ((self.channels[voice.channel]?).map ChannelAccess.kind) = some .guildVoice then
        .ok voice.channel
      else .error "Stage channels are not supported. Join a normal voice channel."

/-- The text for a caller whose channel does not allow admission. -/
def callerError (self : Guild) (caller : ℕ) (intended : Option ℕ) (error : String) : String :=
  if intended.isSome then "Your voice channel changed before the song could be queued."
  else if self.voices[caller]?.isNone then "Join a voice channel before using `/play`."
  else error

/-- The names of the permissions the bot lacks. -/
def missing (value : Permissions) : List String :=
  [(Permissions.viewChannel, "View Channel"), (.connect, "Connect"), (.speak, "Speak")].filterMap
    fun (permission, name) => if value.contains permission then none else some name

/-- The channel has a user limit that is reached without the bot. -/
def isFull (self : Guild) (bot channel : ℕ) (data : ChannelAccess) : Bool :=
  let limit := data.userLimit.getD 0
  decide (limit > 0) &&
    decide ((self.voices.values.filter fun v => v.channel == channel).length ≥ limit) &&
    (self.voices[bot]?).all fun v => v.channel != channel

/-- The channel in which the bot may play for the caller. -/
def access (self : Guild) (all : Permissions) (guild caller bot : ℕ) (intended : Option ℕ) :
    Checked (Except String ℕ) :=
  match self.callerChannel caller with
  | .error error => .ok (.error (self.callerError caller intended error))
  | .ok channel =>
      if intended.any fun id => id != channel then
        .ok (.error "Your voice channel changed before the song could be queued.")
      else match self.botRoles with
      | none => .ok (.error ("Discord has not finished loading the bot's server membership. " ++
          "Try again shortly."))
      | some roles =>
          match self.channels[channel]? with
          | none => .error (.expected "channel of the caller")
          | some data =>
              let value := permissions all guild bot self.owner roles self.roles data
              if !(missing value).isEmpty then
                .ok (.error ("I need these permissions in your voice channel: " ++
                  ", ".intercalate (missing value) ++ "."))
              else if self.isFull bot channel data then
                .ok (.error "That voice channel is full, so I cannot join it.")
              else .ok (.ok channel)

/-- A caller's normal voice channel is a known channel. -/
theorem channel_isSome_of_callerChannel {self : Guild} {caller channel : ℕ}
    (h : self.callerChannel caller = .ok channel) :
      ∃ data, self.channels[channel]? = some data := by
  rw [callerChannel] at h
  split at h
  · cases h
  · split at h
    · rename_i voice _ hkind
      cases h
      obtain ⟨data, hdata, -⟩ := Option.map_eq_some_iff.mp hkind
      exact ⟨data, hdata⟩
    · cases h

/-- Indexing the caller's channel is always defined. -/
theorem access_returns (self : Guild) (all : Permissions) (guild caller bot : ℕ)
    (intended : Option ℕ) : (self.access all guild caller bot intended).Returns := by
  rw [access]
  split
  · exact Checked.returns_ok _
  · rename_i channel hchannel
    obtain ⟨data, hdata⟩ := channel_isSome_of_callerChannel hchannel
    rw [hdata]
    split_ifs
    · exact Checked.returns_ok _
    · split
      · exact Checked.returns_ok _
      · dsimp only
        split_ifs <;> exact Checked.returns_ok _

end Guild

end Raydio.Voice
