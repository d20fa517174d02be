/-
# Who counts as a listener

The bot leaves a voice channel in which nobody listens, and other bots do not
listen. Whether a user is a bot is known from member data: that of a voice state,
or the members a guild is created with. An entry takes the flag of its voice state's
member data, else that of the entry it replaces; the members list is not consulted,
and a flag is lost with its entry. So `alone` tells listeners from bots as long as no
known bot is put in a channel by a voice state without member data when it has no
entry to inherit from (`alone_iff`).
-/

import Raydio.Voice.Gateway

namespace Raydio.Voice

open Raydio.Foundation

/-- What a voice state says about its user: whether it is a bot. -/
def VoiceState.told (state : VoiceState) : Option (ℕ × Bool) :=
  state.member.map fun member => (state.user, member.bot)

namespace Event

/-- The members an event lists. -/
def members : Event → List Member
  | .guildCreate (.available data) => data.members
  | _ => []

/-- What the event's list of members says about the users of the guild. -/
def listed (id : ℕ) (event : Event) : List (ℕ × Bool) :=
  if event.home = some id then event.members.map fun member => (member.user, member.bot) else []

/-- All that the event says about the users of the guild. -/
def told (id : ℕ) (event : Event) : List (ℕ × Bool) :=
  event.listed id ++ (event.states id).filterMap VoiceState.told

end Event

/-- All the member data delivered for users of the guild. -/
def told (id : ℕ) (events : List Event) : List (ℕ × Bool) := events.flatMap (Event.told id)

/-- The latest member data of the user describes it as a bot. -/
def describedBot (user : ℕ) (words : List (ℕ × Bool)) : Bool :=
  (Keyed.latest Prod.fst user words).any Prod.snd

theorem describedBot_concat (user : ℕ) (words : List (ℕ × Bool)) (word : ℕ × Bool) :
    describedBot user (words ++ [word]) =
      if word.1 = user then word.2 else describedBot user words := by
  rw [describedBot, Keyed.latest_concat]
  split <;> rfl

/-- The voice state does not put a known bot, other than this one, in a channel without
saying that it is a bot, unless the voice state before it already had the user in one. -/
def Introduces (bot : ℕ) (states : List VoiceState) (words : List (ℕ × Bool))
    (state : VoiceState) : Prop :=
  state.channel.isSome → state.member = none → state.user ≠ bot →
    channelOf state.user states = none → describedBot state.user words = false

instance (bot : ℕ) (states : List VoiceState) (words : List (ℕ × Bool)) (state : VoiceState) :
    Decidable (Introduces bot states words state) :=
  inferInstanceAs (Decidable (_ → _))

/-- The voice states that a guild of the cache hears from the event introduce the bots they
put in a channel, given what was reported before. -/
def Introduced (bot : ℕ) (before : List Event) (event : Event) : Prop :=
  ∀ id ∈ event.home, event.creates id = true ∨ id ∈ (Cache.after bot before).guilds →
    Trace.Always (fun earlier state =>
        Introduces bot ((if event.creates id then [] else reported id before) ++ earlier)
          (told id before ++ event.listed id ++ earlier.filterMap VoiceState.told) state)
      event.heard

instance (bot : ℕ) (before : List Event) (event : Event) :
    Decidable (Introduced bot before event) :=
  inferInstanceAs (Decidable (∀ id ∈ event.home, _))

variable {guild base : Guild} {id user bot : ℕ} {events : List Event}

/-- The entries of the guild are flagged as the words describe their users. -/
def Guild.Flagged (self : Guild) (bot : ℕ) (words : List (ℕ × Bool)) : Prop :=
  ∀ (user : ℕ) entry, self.voices[user]? = some entry →
    entry.bot = (user == bot || describedBot user words)

/-- A voice state that introduces its user keeps the flags right. -/
theorem Guild.Flagged.voice {state : VoiceState} {states : List VoiceState}
    {words : List (ℕ × Bool)} (h : base.Flagged bot words) (hroom : base.HasRoom state)
    (hplaces : (base.voices[state.user]?).map VoiceEntry.channel = channelOf state.user states)
    (hintroduces : Introduces bot states words state) :
    (base.voice state bot).Flagged bot (words ++ state.told.toList) := by
  intro user entry hentry
  rw [voice_entry hroom] at hentry
  by_cases huser : state.user = user
  · subst huser
    rw [if_pos rfl] at hentry
    obtain ⟨channel, hchannel, rfl⟩ := Option.map_eq_some_iff.mp hentry
    cases hmember : state.member with
    | some member =>
        simp [botFlag, VoiceState.told, hmember, describedBot_concat, Bool.or_comm]
    | none =>
        simp only [botFlag, VoiceState.told, hmember, Option.map_none, Option.toList_none,
          List.append_nil]
        cases hbefore : base.voices[state.user]? with
        | some entry =>
            simp [h state.user entry hbefore, Bool.or_comm]
        | none =>
            by_cases hbot : state.user = bot
            · simp [hbot]
            · have hnone : channelOf state.user states = none := by
                rw [← hplaces, hbefore]
                rfl
              have hunknown := hintroduces (by rw [hchannel]; rfl) hmember hbot hnone
              simp [hunknown]
  · rw [if_neg huser] at hentry
    rw [h user entry hentry]
    cases hmember : state.member with
    | some member => simp [VoiceState.told, hmember, describedBot_concat, huser]
    | none => simp [VoiceState.told, hmember]

/-- A voice state that does not introduce its user sets the flag wrong. -/
theorem Guild.not_flagged_voice {state : VoiceState} {states : List VoiceState}
    {words : List (ℕ × Bool)} (hroom : base.HasRoom state)
    (hplaces : (base.voices[state.user]?).map VoiceEntry.channel = channelOf state.user states)
    (hintroduces : ¬ Introduces bot states words state) :
    ¬ (base.voice state bot).Flagged bot (words ++ state.told.toList) := by
  simp only [Introduces, not_forall, Bool.not_eq_false] at hintroduces
  obtain ⟨hchannel, hmember, hbot, hnone, hknown⟩ := hintroduces
  obtain ⟨channel, hchannel⟩ := Option.isSome_iff_exists.mp hchannel
  intro hflagged
  have habsent : base.voices[state.user]? = none := by
    rw [hnone] at hplaces
    exact Option.map_eq_none_iff.mp hplaces
  have hentry : (base.voice state bot).voices[state.user]? = some ⟨channel, false, ""⟩ := by
    rw [voice_entry hroom, if_pos rfl]
    simp [entryOf, botFlag, hchannel, hmember, habsent, hbot]
  have hflag := hflagged state.user _ hentry
  simp [VoiceState.told, hmember, hknown] at hflag

/-- Voice states that introduce their users keep the flags right. -/
theorem Guild.Flagged.hear {sofar states : List VoiceState} {words : List (ℕ × Bool)}
    (h : base.Flagged bot words)
    (hroom : Trace.Always (fun before state => (base.hear bot before).HasRoom state) states)
    (hplaces : ∀ user, (base.voices[user]?).map VoiceEntry.channel = channelOf user sofar)
    (hintroduced : Trace.Always (fun earlier state => Introduces bot (sofar ++ earlier)
      (words ++ earlier.filterMap VoiceState.told) state) states) :
    (base.hear bot states).Flagged bot (words ++ states.filterMap VoiceState.told) := by
  induction states using List.reverseRecOn with
  | nil => simpa using h
  | append_singleton states state ih =>
      obtain ⟨hbefore, hstate⟩ := Trace.always_concat.mp hroom
      obtain ⟨hearlier, hlast⟩ := Trace.always_concat.mp hintroduced
      have hplace := hear_places sofar hbefore hplaces state.user
      have hvoice := (ih hbefore hearlier).voice hstate hplace hlast
      rw [hear_concat, List.filterMap_append, ← List.append_assoc]
      have htold : List.filterMap VoiceState.told [state] = state.told.toList := by
        cases hword : state.told <;> simp [hword]
      rwa [htold]

/-- The condition on an event, for the guild it reports voice states in. -/
theorem Introduced.states {before : List Event} {event : Event}
    (h : Introduced bot before event)
    (hhears : event.creates id = true ∨ id ∈ (Cache.after bot before).guilds) :
    Trace.Always (fun earlier state =>
        Introduces bot ((if event.creates id then [] else reported id before) ++ earlier)
          (told id before ++ event.listed id ++ earlier.filterMap VoiceState.told) state)
      (event.states id) := by
  by_cases hhome : event.home = some id
  · rw [Event.states, if_pos hhome]
    exact h id hhome hhears
  · rw [Event.states, if_neg hhome]
    exact Trace.always_nil _

theorem told_concat (id : ℕ) (events : List Event) (event : Event) :
    told id (events ++ [event]) =
      told id events ++ event.listed id ++ (event.states id).filterMap VoiceState.told := by
  simp [told, Event.told]

/-- Only a creation lists members. -/
theorem Event.listed_of_creates {event : Event} (h : event.creates id = false) :
    event.listed id = [] := by
  rw [listed]
  split
  · rename_i hhome
    cases event with
    | guildCreate create =>
        cases create with
        | available data =>
            have hne : data.id ≠ id := by simpa [creates] using h
            simp [home, hne] at hhome
        | unavailable guild => rfl
    | _ => rfl
  · rfl

/-- The entries are flagged as all member data delivered so far describes their users. -/
theorem Cache.after_flagged (huncapped : Uncapped bot events)
    (hintroduced : Trace.Always (Introduced bot) events)
    (h : (Cache.after bot events).guilds[id]? = some guild) :
    guild.Flagged bot (told id events) := by
  apply entry_rule (fun events guild => Trace.Always (Introduced bot) events →
    Uncapped bot events → guild.Flagged bot (told id events)) _ _ huncapped h hintroduced huncapped
  · intro events data hid hroom hintroduced _
    have hstates : (Event.guildCreate (.available data)).states id = data.voiceStates := by
      simp [Event.states, Event.home, Event.heard, hid]
    have hcreates : (Event.guildCreate (.available data)).creates id = true := by
      simp [Event.creates, hid]
    have hlast := (Trace.always_concat.mp hintroduced).2.states (.inl hcreates)
    rw [hcreates, if_pos rfl, hstates] at hlast
    rw [told_concat, hstates]
    apply Guild.Flagged.hear _ hroom _ hlast
    · intro user entry hentry
      simp [Guild.created, Guild.default] at hentry
    · intro user
      simp [Guild.created, Guild.default, channelOf]
  · intro events event guild base hcreates hroom hguild ih hvoices _ hintroduced huncapped
    obtain ⟨hbefore, hevent⟩ := Trace.always_concat.mp hintroduced
    obtain ⟨hearlier, -⟩ := Trace.always_concat.mp huncapped
    have hflagged := ih hbefore hearlier
    have hplaces := after_places hearlier hguild
    have hmem : id ∈ (Cache.after bot events).guilds := by
      rw [← Std.TreeMap.isSome_getElem?_iff_mem, hguild]
      rfl
    have hlast := hevent.states (.inr hmem)
    rw [Guild.Flagged, ← hvoices] at hflagged
    rw [← hvoices] at hplaces
    rw [hcreates, Event.listed_of_creates hcreates, List.append_nil] at hlast
    rw [told_concat, Event.listed_of_creates hcreates, List.append_nil]
    exact Guild.Flagged.hear hflagged hroom hplaces hlast

/-- A channel is free of listeners when only flagged users are in it. -/
theorem Guild.alone_eq (guild : Guild) (channel : ℕ) :
    guild.alone channel = true ↔ ∀ (user : ℕ) entry, guild.voices[user]? = some entry →
      entry.channel = channel → entry.bot = true := by
  rw [alone, Bool.not_eq_true', Bool.eq_false_iff, Ne, List.any_eq_true]
  constructor
  · intro h user entry hentry hchannel
    by_contra hflag
    exact h ⟨entry, Map.mem_values.mpr ⟨user, hentry⟩, by simp [hchannel, hflag]⟩
  · rintro h ⟨entry, hmem, hlistens⟩
    obtain ⟨user, hentry⟩ := Map.mem_values.mp hmem
    obtain ⟨hchannel, hflag⟩ : entry.channel = channel ∧ entry.bot = false := by
      simpa using hlistens
    rw [h user entry hentry hchannel] at hflag
    cases hflag

/-- In a run that introduces the bots it puts in a channel, a channel is free of listeners
exactly when everybody whose latest voice state names it is this bot or is described as a
bot by the latest member data. -/
theorem Cache.alone_iff (huncapped : Uncapped bot events)
    (hintroduced : Trace.Always (Introduced bot) events)
    (h : (Cache.after bot events).guilds[id]? = some guild) (channel : ℕ) :
    guild.alone channel = true ↔ ∀ user, channelOf user (reported id events) = some channel →
      user = bot ∨ describedBot user (told id events) = true := by
  have hplaces := after_places huncapped h
  have hflagged := after_flagged huncapped hintroduced h
  rw [Guild.alone_eq]
  constructor
  · intro halone user hplace
    rw [← hplaces user] at hplace
    obtain ⟨entry, hentry, hchannel⟩ := Option.map_eq_some_iff.mp hplace
    have hflag := halone user entry hentry hchannel
    rw [hflagged user entry hentry] at hflag
    simpa using hflag
  · intro hbots user entry hentry hchannel
    have hplace : channelOf user (reported id events) = some channel := by
      rw [← hplaces user, hentry]
      exact congrArg some hchannel
    rw [hflagged user entry hentry]
    simpa using hbots user hplace

/-- Another bot that speaks for itself and then moves is no listener. -/
theorem Cache.alone_iff_moved :
    let said : Event := .voiceStateUpdate ⟨some 1, some 3, 5, some ⟨5, true, []⟩, "s"⟩
    let moved : Event := .voiceStateUpdate ⟨some 1, some 4, 5, none, "s"⟩
    let events : List Event := [.guildCreate (.available ⟨1, 2, [], [], [], []⟩), said, moved]
    ∃ guild, (Cache.after 9 events).guilds[1]? = some guild ∧
      (guild.alone 4 = true ↔ ∀ user, channelOf user (reported 1 events) = some 4 →
        user = 9 ∨ describedBot user (told 1 events) = true) := by
  intro said moved events
  have hsome : ((Cache.after 9 events).guilds[1]?).isSome = true := by decide +kernel
  exact ⟨_, (Option.some_get hsome).symm, alone_iff (by decide +kernel) (by decide +kernel)
    (Option.some_get hsome).symm 4⟩

/-- A bot that a created guild lists as such counts as a listener when its voice state
carries no member data. -/
theorem Cache.listed_bot_listens :
    ¬ ∀ (bot : ℕ) (events : List Event), Uncapped bot events → ∀ (id : ℕ) (guild : Guild),
      (Cache.after bot events).guilds[id]? = some guild → ∀ channel,
        (guild.alone channel = true ↔ ∀ user,
          channelOf user (reported id events) = some channel →
            user = bot ∨ describedBot user (told id events) = true) := by
  intro h
  let states : List VoiceState := [⟨none, some 3, 5, none, "s"⟩]
  let events : List Event := [.guildCreate (.available ⟨1, 2, [], [], [⟨5, true, []⟩], states⟩)]
  have halone : ((Cache.after 9 events).guilds[1]?).map (fun guild => guild.alone 3) =
      some false := by decide +kernel
  obtain ⟨guild, hguild, hlistens⟩ := Option.map_eq_some_iff.mp halone
  have hbots : guild.alone 3 = true := by
    rw [h 9 events (by decide +kernel) 1 guild hguild 3]
    intro user hplace
    right
    by_cases huser : user = 5
    · rw [huser]
      decide +kernel
    · have hnowhere : channelOf user (reported 1 events) = none := by
        have hne : ¬ 5 = user := fun heq => huser heq.symm
        simp [channelOf, Keyed.latest, reported, events, states, Event.creates, Event.states,
          Event.home, Event.heard, hne]
      rw [hnowhere] at hplace
      cases hplace
  rw [hlistens] at hbots
  cases hbots

end Raydio.Voice
