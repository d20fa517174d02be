/-
# Admission to a voice channel

What a guild knows about channels, roles and voices comes from separate events, and any
of it may be missing. `Admits` collects what admission asks of it: where the caller is,
what the channel is, what the bot may do there and whether there is room. `access`
returns for every guild, and admits exactly then.
-/

import Raydio.Voice.Guild

namespace Raydio.Voice

open Raydio.Foundation

namespace Guild

variable {self : Guild}

/-- How many cached members are in the channel. -/
def members (self : Guild) (channel : ℕ) : ℕ :=
  self.voices.values.countP fun voice => voice.channel = channel

/-- A cached user is in the channel. -/
def Present (self : Guild) (user channel : ℕ) : Prop :=
  ∃ voice, self.voices[user]? = some voice ∧ voice.channel = channel

/-- The bot may play for the caller in the channel. -/
structure Admits (self : Guild) (all : Permissions) (guild caller bot : ℕ)
    (intended : Option ℕ) (channel : ℕ) : Prop where
  caller : self.Present caller channel
  intended : intended = none ∨ intended = some channel
  channel : ∃ data roles, self.channels[channel]? = some data ∧ data.kind = .guildVoice ∧
    self.botRoles = some roles ∧
    (∀ bits ∈ [Permissions.viewChannel, .connect, .speak],
      (permissions all guild bot self.owner roles self.roles data).contains bits = true) ∧
    ¬ ((∃ limit, data.userLimit = some limit ∧ 0 < limit ∧ limit ≤ self.members channel) ∧
      ¬ self.Present bot channel)

theorem callerChannel_eq_ok {caller channel : ℕ} :
    self.callerChannel caller = .ok channel ↔ self.Present caller channel ∧
      ∃ data, self.channels[channel]? = some data ∧ data.kind = .guildVoice := by
  rw [callerChannel, Present]
  cases self.voices[caller]? with
  | none => simp
  | some voice =>
      simp only [Option.some.injEq, exists_eq_left']
      constructor
      · intro h
        split at h
        · rename_i hkind
          obtain ⟨data, hdata, hvoice⟩ := Option.map_eq_some_iff.mp hkind
          cases h
          exact ⟨rfl, data, hdata, hvoice⟩
        · cases h
      · rintro ⟨rfl, data, hdata, hvoice⟩
        rw [if_pos (by rw [hdata, Option.map_some, hvoice])]

/-- No permission is missing if the value contains all of them. -/
theorem missing_eq_nil (value : Permissions) : missing value = [] ↔
    ∀ bits ∈ [Permissions.viewChannel, .connect, .speak], value.contains bits = true := by
  simp [missing]

theorem isFull_iff (bot channel : ℕ) (data : ChannelAccess) :
    self.isFull bot channel data = true ↔
      (∃ limit, data.userLimit = some limit ∧ 0 < limit ∧ limit ≤ self.members channel) ∧
        ¬ self.Present bot channel := by
  have hbot : ((self.voices[bot]?).all fun v => v.channel != channel) = true ↔
      ¬ self.Present bot channel := by
    rw [Present]
    cases self.voices[bot]? <;> simp
  have hcount : (self.voices.values.filter fun v => v.channel == channel).length =
      self.members channel := by
    rw [members, List.countP_eq_length_filter]
    simp only [beq_eq_decide]
  rw [isFull, Bool.and_eq_true, Bool.and_eq_true, hbot, hcount, decide_eq_true_eq,
    decide_eq_true_eq]
  cases data.userLimit <;> simp

theorem admits_of_access {all : Permissions} {guild caller bot channel : ℕ}
    {intended : Option ℕ}
    (h : self.access all guild caller bot intended = .ok (.ok channel)) :
    self.Admits all guild caller bot intended channel := by
  rw [access] at h
  split at h
  · cases h
  · rename_i found hfound
    obtain ⟨hpresent, data, hdata, hkind⟩ := callerChannel_eq_ok.mp hfound
    split at h
    · cases h
    · rename_i hintended
      split at h
      · cases h
      · rename_i roles hroles
        rw [hdata] at h
        dsimp only at h
        split at h
        · cases h
        · rename_i hmissing
          split at h
          · cases h
          · rename_i hfull
            cases h
            refine ⟨hpresent, ?_, data, roles, hdata, hkind, hroles, ?_, ?_⟩
            · cases intended with
              | none => exact Or.inl rfl
              | some id => exact Or.inr (by simpa using hintended)
            · rw [← missing_eq_nil]
              simpa using hmissing
            · rwa [← isFull_iff]

theorem access_of_admits {all : Permissions} {guild caller bot channel : ℕ}
    {intended : Option ℕ} (h : self.Admits all guild caller bot intended channel) :
    self.access all guild caller bot intended = .ok (.ok channel) := by
  obtain ⟨hpresent, hintended, data, roles, hdata, hkind, hroles, hpermissions, hroom⟩ := h
  have hcaller := callerChannel_eq_ok.mpr ⟨hpresent, data, hdata, hkind⟩
  have hsame : (intended.any fun id => id != channel) = false := by
    rcases hintended with rfl | rfl <;> simp
  rw [← missing_eq_nil] at hpermissions
  rw [← isFull_iff] at hroom
  rw [access]
  simp only [hcaller, hsame, hroles, hdata, hpermissions, hroom, List.isEmpty_nil, Bool.not_true,
    Bool.false_eq_true, if_false]

/-- `access` never aborts, and admits the bot to a channel exactly if the caller is in it,
it is a normal voice channel and the intended one if any, and the bot has its
permissions and room. -/
theorem access_iff (self : Guild) (all : Permissions) (guild caller bot : ℕ)
    (intended : Option ℕ) : ∃ result, self.access all guild caller bot intended = .ok result ∧
      ∀ channel, result = .ok channel ↔ self.Admits all guild caller bot intended channel := by
  obtain ⟨result, hresult⟩ := self.access_returns all guild caller bot intended
  refine ⟨result, hresult, fun channel => ?_⟩
  constructor
  · intro hok
    rw [hok] at hresult
    exact admits_of_access hresult
  · intro hadmits
    have haccess := access_of_admits hadmits
    rw [hresult] at haccess
    exact Except.ok.inj haccess

end Guild

end Raydio.Voice
