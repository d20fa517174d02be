/-
# Registered commands

At its start the bot compares the commands that are registered with the ones it defines,
and rewrites them only if they differ. Discord assigns identifiers and versions and fills
in flags that were left out, so these are not compared. Options have options of their own,
to any depth. The numbers that bound an option are compared as the machine does, about
which nothing is assumed.
-/

import Mathlib
import Raydio.Foundation.Pairing
import Raydio.Voice.Guild

namespace Raydio.Discord

open Raydio.Foundation Raydio.Voice

/-! ## The data -/

/-- Texts for languages. -/
abbrev Localizations := Std.ExtTreeMap String String compare

inductive CommandType
  | chatInput
  | user
  | message
  | primaryEntryPoint
  | unknown (code : ℕ)
  deriving DecidableEq, Repr

inductive CommandOptionType
  | subCommand
  | subCommandGroup
  | string
  | integer
  | boolean
  | user
  | channel
  | role
  | mentionable
  | number
  | attachment
  deriving DecidableEq, Repr

inductive ContextType
  | guild
  | botDm
  | privateChannel
  | unknown (code : ℕ)
  deriving DecidableEq, Repr

inductive IntegrationType
  | guildInstall
  | userInstall
  | unknown (code : ℕ)
  deriving DecidableEq, Repr

/-- A bound of an option. -/
inductive Bound
  | integer (value : ℤ)
  | number (value : Float)

instance : BEq Bound where
  beq
    | .integer a, .integer b => a == b
    | .number a, .number b => a == b
    | _, _ => false

/-- The value of a choice. -/
inductive ChoiceValue
  | string (value : String)
  | integer (value : ℤ)
  | number (value : Float)

instance : BEq ChoiceValue where
  beq
    | .string a, .string b => a == b
    | .integer a, .integer b => a == b
    | .number a, .number b => a == b
    | _, _ => false

/-- A choice of an option. -/
structure OptionChoice where
  name : String
  nameLocalizations : Option Localizations
  value : ChoiceValue

instance : BEq OptionChoice where
  beq a b := a.name == b.name && a.nameLocalizations == b.nameLocalizations && a.value == b.value

/-- The fields of an option without its own options. -/
structure OptionFields where
  autocomplete : Option Bool
  channelTypes : Option (List ChannelType)
  choices : Option (List OptionChoice)
  description : String
  descriptionLocalizations : Option Localizations
  kind : CommandOptionType
  maxLength : Option ℕ
  maxValue : Option Bound
  minLength : Option ℕ
  minValue : Option Bound
  name : String
  nameLocalizations : Option Localizations
  required : Option Bool

instance : BEq OptionFields where
  beq a b := a.autocomplete == b.autocomplete && a.channelTypes == b.channelTypes &&
    a.choices == b.choices && a.description == b.description &&
    a.descriptionLocalizations == b.descriptionLocalizations && a.kind == b.kind &&
    a.maxLength == b.maxLength && a.maxValue == b.maxValue && a.minLength == b.minLength &&
    a.minValue == b.minValue && a.name == b.name && a.nameLocalizations == b.nameLocalizations &&
    a.required == b.required

/-- An option, with its own options. -/
inductive CommandOption
  | mk (fields : OptionFields) (options : Option (List CommandOption))

/-- A command; identifiers and the version are assigned by Discord. -/
structure Command where
  id : Option ℕ
  applicationId : Option ℕ
  version : ℕ
  name : String
  kind : CommandType
  guildId : Option ℕ
  contexts : Option (List ContextType)
  integrationTypes : Option (List IntegrationType)
  defaultMemberPermissions : Option Permissions
  description : String
  descriptionLocalizations : Option Localizations
  nameLocalizations : Option Localizations
  nsfw : Option Bool
  options : List CommandOption

/-! ## Comparing -/

mutual

/-- `CommandOption::eq`. -/
def CommandOption.equal : CommandOption → CommandOption → Bool
  | .mk fields options, .mk fields' options' => fields == fields' && nestedEqual options options'

def nestedEqual : Option (List CommandOption) → Option (List CommandOption) → Bool
  | none, none => true
  | some options, some options' => optionsEqual options options'
  | _, _ => false

def optionsEqual : List CommandOption → List CommandOption → Bool
  | [], [] => true
  | option :: rest, option' :: rest' => option.equal option' && optionsEqual rest rest'
  | _, _ => false

end

/-- Flags that are left out are off. -/
def OptionFields.normalized (fields : OptionFields) : OptionFields :=
  { fields with
    required := some (fields.required.getD false)
    autocomplete := some (fields.autocomplete.getD false) }

mutual

def CommandOption.normalized : CommandOption → CommandOption
  | .mk fields options => .mk fields.normalized (normalizedNested options)

def normalizedNested : Option (List CommandOption) → Option (List CommandOption)
  | none => none
  | some options => some (normalizedOptions options)

/-- `normalized_options`. -/
def normalizedOptions : List CommandOption → List CommandOption
  | [] => []
  | option :: rest => option.normalized :: normalizedOptions rest

end

/-- `matches_registered`. -/
def matchesRegistered (current wanted : List Command) : Bool :=
  current.length == wanted.length &&
    wanted.all fun wanted =>
      current.any fun current =>
        current.name == wanted.name && current.kind == wanted.kind &&
        current.guildId == wanted.guildId && current.contexts == wanted.contexts &&
        current.integrationTypes == wanted.integrationTypes &&
        current.defaultMemberPermissions == wanted.defaultMemberPermissions &&
        current.description == wanted.description &&
        current.descriptionLocalizations == wanted.descriptionLocalizations &&
        current.nameLocalizations == wanted.nameLocalizations &&
        current.nsfw.getD false == wanted.nsfw.getD false &&
        optionsEqual (normalizedOptions current.options) (normalizedOptions wanted.options)

/-! ## What is the same -/

/-- Fields of an option that mean the same: equal, where a flag that is left out is off. -/
structure OptionFields.Alike (a b : OptionFields) : Prop where
  autocomplete : a.autocomplete.getD false = b.autocomplete.getD false
  channelTypes : a.channelTypes = b.channelTypes
  choices : (a.choices == b.choices) = true
  description : a.description = b.description
  descriptionLocalizations : a.descriptionLocalizations = b.descriptionLocalizations
  kind : a.kind = b.kind
  maxLength : a.maxLength = b.maxLength
  maxValue : (a.maxValue == b.maxValue) = true
  minLength : a.minLength = b.minLength
  minValue : (a.minValue == b.minValue) = true
  name : a.name = b.name
  nameLocalizations : a.nameLocalizations = b.nameLocalizations
  required : a.required.getD false = b.required.getD false

mutual

/-- Options that mean the same, at every depth. -/
def CommandOption.Alike : CommandOption → CommandOption → Prop
  | .mk fields options, .mk fields' options' => fields.Alike fields' ∧ NestedAlike options options'

def NestedAlike : Option (List CommandOption) → Option (List CommandOption) → Prop
  | none, none => True
  | some options, some options' => OptionsAlike options options'
  | _, _ => False

def OptionsAlike : List CommandOption → List CommandOption → Prop
  | [], [] => True
  | option :: rest, option' :: rest' => option.Alike option' ∧ OptionsAlike rest rest'
  | _, _ => False

end

/-- Commands that behave in the same way. -/
structure Command.Alike (current wanted : Command) : Prop where
  name : current.name = wanted.name
  kind : current.kind = wanted.kind
  guildId : current.guildId = wanted.guildId
  contexts : current.contexts = wanted.contexts
  integrationTypes : current.integrationTypes = wanted.integrationTypes
  defaultMemberPermissions : current.defaultMemberPermissions = wanted.defaultMemberPermissions
  description : current.description = wanted.description
  descriptionLocalizations : current.descriptionLocalizations = wanted.descriptionLocalizations
  nameLocalizations : current.nameLocalizations = wanted.nameLocalizations
  nsfw : current.nsfw.getD false = wanted.nsfw.getD false
  options : OptionsAlike current.options wanted.options

theorem OptionFields.beq_normalized (a b : OptionFields) :
    (a.normalized == b.normalized) = true ↔ a.Alike b := by
  change (some (a.autocomplete.getD false) == some (b.autocomplete.getD false) &&
    a.channelTypes == b.channelTypes && a.choices == b.choices && a.description == b.description &&
    a.descriptionLocalizations == b.descriptionLocalizations && a.kind == b.kind &&
    a.maxLength == b.maxLength && a.maxValue == b.maxValue && a.minLength == b.minLength &&
    a.minValue == b.minValue && a.name == b.name && a.nameLocalizations == b.nameLocalizations &&
    some (a.required.getD false) == some (b.required.getD false)) = true ↔ a.Alike b
  simp only [Bool.and_eq_true, beq_iff_eq, Option.some.injEq]
  constructor
  · rintro ⟨⟨⟨⟨⟨⟨⟨⟨⟨⟨⟨⟨hauto, htypes⟩, hchoices⟩, hdescription⟩, hdescriptions⟩, hkind⟩,
      hmaxLength⟩, hmaxValue⟩, hminLength⟩, hminValue⟩, hname⟩, hnames⟩, hrequired⟩
    exact ⟨hauto, htypes, hchoices, hdescription, hdescriptions, hkind, hmaxLength, hmaxValue,
      hminLength, hminValue, hname, hnames, hrequired⟩
  · rintro ⟨hauto, htypes, hchoices, hdescription, hdescriptions, hkind, hmaxLength, hmaxValue,
      hminLength, hminValue, hname, hnames, hrequired⟩
    exact ⟨⟨⟨⟨⟨⟨⟨⟨⟨⟨⟨⟨hauto, htypes⟩, hchoices⟩, hdescription⟩, hdescriptions⟩, hkind⟩, hmaxLength⟩,
      hmaxValue⟩, hminLength⟩, hminValue⟩, hname⟩, hnames⟩, hrequired⟩

mutual

/-- Normalized options are equal exactly if the options mean the same. -/
theorem CommandOption.equal_normalized : ∀ a b : CommandOption,
    a.normalized.equal b.normalized = true ↔ a.Alike b
  | .mk fields options, .mk fields' options' => by
      rw [CommandOption.normalized, CommandOption.normalized, CommandOption.equal,
        CommandOption.Alike, Bool.and_eq_true, OptionFields.beq_normalized,
        nestedEqual_normalized options options']

theorem nestedEqual_normalized : ∀ a b : Option (List CommandOption),
    nestedEqual (normalizedNested a) (normalizedNested b) = true ↔ NestedAlike a b
  | none, none => by simp [normalizedNested, nestedEqual, NestedAlike]
  | some options, some options' => by
      rw [normalizedNested, normalizedNested, nestedEqual, NestedAlike,
        optionsEqual_normalized options options']
  | none, some _ => by simp [normalizedNested, nestedEqual, NestedAlike]
  | some _, none => by simp [normalizedNested, nestedEqual, NestedAlike]

theorem optionsEqual_normalized : ∀ a b : List CommandOption,
    optionsEqual (normalizedOptions a) (normalizedOptions b) = true ↔ OptionsAlike a b
  | [], [] => by simp [normalizedOptions, optionsEqual, OptionsAlike]
  | option :: rest, option' :: rest' => by
      rw [normalizedOptions, normalizedOptions, optionsEqual, OptionsAlike, Bool.and_eq_true,
        CommandOption.equal_normalized option option', optionsEqual_normalized rest rest']
  | [], _ :: _ => by simp [normalizedOptions, optionsEqual, OptionsAlike]
  | _ :: _, [] => by simp [normalizedOptions, optionsEqual, OptionsAlike]

end

theorem OptionFields.normalized_normalized (fields : OptionFields) :
    fields.normalized.normalized = fields.normalized := rfl

mutual

/-- Normalizing again changes nothing. -/
theorem CommandOption.normalized_normalized : ∀ option : CommandOption,
    option.normalized.normalized = option.normalized
  | .mk fields options => by
      rw [CommandOption.normalized, CommandOption.normalized, OptionFields.normalized_normalized,
        normalizedNested_idem options]

theorem normalizedNested_idem : ∀ options : Option (List CommandOption),
    normalizedNested (normalizedNested options) = normalizedNested options
  | none => rfl
  | some options => by
      rw [normalizedNested, normalizedNested, normalizedOptions_idem options]

theorem normalizedOptions_idem : ∀ options : List CommandOption,
    normalizedOptions (normalizedOptions options) = normalizedOptions options
  | [] => rfl
  | option :: rest => by
      rw [normalizedOptions, normalizedOptions, CommandOption.normalized_normalized option,
        normalizedOptions_idem rest]

end

/-! ## Matching -/

variable {current wanted : List Command}

/-- Lists match exactly if they have the same length and every wanted command has a current
one that behaves in the same way. -/
theorem matchesRegistered_iff : matchesRegistered current wanted = true ↔
    current.length = wanted.length ∧ ∀ w ∈ wanted, ∃ c ∈ current, c.Alike w := by
  simp only [matchesRegistered, Bool.and_eq_true, beq_iff_eq, List.all_eq_true, List.any_eq_true,
    optionsEqual_normalized]
  refine and_congr_right fun _ => forall₂_congr fun w _ => exists_congr fun c =>
    and_congr_right fun _ => ?_
  constructor
  · rintro ⟨⟨⟨⟨⟨⟨⟨⟨⟨⟨hname, hkind⟩, hguild⟩, hcontexts⟩, htypes⟩, hpermissions⟩, hdescription⟩,
      hdescriptions⟩, hnames⟩, hnsfw⟩, hoptions⟩
    exact ⟨hname, hkind, hguild, hcontexts, htypes, hpermissions, hdescription, hdescriptions,
      hnames, hnsfw, hoptions⟩
  · rintro ⟨hname, hkind, hguild, hcontexts, htypes, hpermissions, hdescription, hdescriptions,
      hnames, hnsfw, hoptions⟩
    exact ⟨⟨⟨⟨⟨⟨⟨⟨⟨⟨hname, hkind⟩, hguild⟩, hcontexts⟩, htypes⟩, hpermissions⟩, hdescription⟩,
      hdescriptions⟩, hnames⟩, hnsfw⟩, hoptions⟩

/-- A command that Discord assigned other identifiers and another version. -/
def Command.Reassigned (command command' : Command) : Prop :=
  command' = { command with
    id := command'.id, applicationId := command'.applicationId, version := command'.version }

theorem Command.Reassigned.alike {a a' b b' : Command} (ha : a.Reassigned a')
    (hb : b.Reassigned b') : a'.Alike b' ↔ a.Alike b := by
  rw [ha, hb]
  constructor <;> exact fun h => ⟨h.name, h.kind, h.guildId, h.contexts, h.integrationTypes,
    h.defaultMemberPermissions, h.description, h.descriptionLocalizations, h.nameLocalizations,
    h.nsfw, h.options⟩

/-- What Discord assigns does not matter. -/
theorem matchesRegistered_reassigned {current' wanted' : List Command}
    (hcurrent : List.Forall₂ Command.Reassigned current current')
    (hwanted : List.Forall₂ Command.Reassigned wanted wanted') :
    matchesRegistered current' wanted' = matchesRegistered current wanted := by
  rw [Bool.eq_iff_iff, matchesRegistered_iff, matchesRegistered_iff, ← hcurrent.length_eq,
    ← hwanted.length_eq]
  obtain ⟨hcurrentForth, hcurrentBack⟩ := exists_of_forall₂ hcurrent
  obtain ⟨hwantedForth, hwantedBack⟩ := exists_of_forall₂ hwanted
  refine and_congr_right fun _ => ⟨fun h w hw => ?_, fun h w' hw' => ?_⟩
  · obtain ⟨w', hw', hwanted⟩ := hwantedForth w hw
    obtain ⟨c', hc', halike⟩ := h w' hw'
    obtain ⟨c, hc, hcurrent⟩ := hcurrentBack c' hc'
    exact ⟨c, hc, (hcurrent.alike hwanted).mp halike⟩
  · obtain ⟨w, hw, hwanted⟩ := hwantedBack w' hw'
    obtain ⟨c, hc, halike⟩ := h w hw
    obtain ⟨c', hc', hcurrent⟩ := hcurrentForth c hc
    exact ⟨c', hc', (hcurrent.alike hwanted).mpr halike⟩

/-- The order of the lists does not matter. -/
theorem matchesRegistered_perm {current' wanted' : List Command} (hcurrent : current'.Perm current)
    (hwanted : wanted'.Perm wanted) :
    matchesRegistered current' wanted' = matchesRegistered current wanted := by
  rw [Bool.eq_iff_iff, matchesRegistered_iff, matchesRegistered_iff, hcurrent.length_eq,
    hwanted.length_eq]
  simp only [hcurrent.mem_iff, hwanted.mem_iff]

/-- Lists match exactly if they are paired off, when the wanted names are different. -/
theorem matchesRegistered_iff_pairedOff (hdistinct : (wanted.map Command.name).Nodup) :
    matchesRegistered current wanted = true ↔ PairedOff Command.Alike current wanted := by
  rw [matchesRegistered_iff]
  constructor
  · rintro ⟨hlength, hcovers⟩
    exact pairedOff_of_covers (fun _ _ h => h.name) hdistinct hlength hcovers
  · intro h
    exact ⟨h.length_eq, h.covers⟩

/-- The registered commands match the wanted ones exactly if the two lists are paired off by
commands that behave in the same way, whatever their order and what Discord assigned. An
extra, missing or duplicated command is noticed, and normalizing options is idempotent. -/
theorem matchesRegistered_pairs (current wanted : List Command)
    (hdistinct : (wanted.map Command.name).Nodup) :
    (matchesRegistered current wanted = true ↔ PairedOff Command.Alike current wanted) ∧
    (∀ current' wanted', current'.Perm current → wanted'.Perm wanted →
      matchesRegistered current' wanted' = matchesRegistered current wanted) ∧
    (∀ current' wanted', List.Forall₂ Command.Reassigned current current' →
      List.Forall₂ Command.Reassigned wanted wanted' →
      matchesRegistered current' wanted' = matchesRegistered current wanted) ∧
    ((∃ c ∈ current, ∀ w ∈ wanted, ¬c.Alike w) → matchesRegistered current wanted = false) ∧
    ((∃ w ∈ wanted, ∀ c ∈ current, ¬c.Alike w) → matchesRegistered current wanted = false) ∧
    (¬(current.map Command.name).Nodup → matchesRegistered current wanted = false) ∧
    (current.length ≠ wanted.length → matchesRegistered current wanted = false) ∧
    ∀ options, normalizedOptions (normalizedOptions options) = normalizedOptions options := by
  have hpaired : matchesRegistered current wanted = true ↔
      PairedOff Command.Alike current wanted := matchesRegistered_iff_pairedOff hdistinct
  have hrefuted (h : ¬PairedOff Command.Alike current wanted) :
      matchesRegistered current wanted = false := by
    rw [← Bool.not_eq_true, hpaired]
    exact h
  refine ⟨hpaired, fun _ _ => matchesRegistered_perm, fun _ _ => matchesRegistered_reassigned,
    ?_, ?_, ?_, ?_, normalizedOptions_idem⟩
  · rintro ⟨c, hc, hextra⟩
    refine hrefuted fun h => ?_
    obtain ⟨w, hw, halike⟩ := h.covered c hc
    exact hextra w hw halike
  · rintro ⟨w, hw, hmissing⟩
    refine hrefuted fun h => ?_
    obtain ⟨c, hc, halike⟩ := h.covers w hw
    exact hmissing c hc halike
  · intro hduplicated
    exact hrefuted fun h => hduplicated (h.nodup (fun _ _ halike => halike.name) hdistinct)
  · intro hlength
    exact hrefuted fun h => hlength h.length_eq

/-- A command with one option. -/
def play (id : Option ℕ) (nsfw required : Option Bool) : Command :=
  ⟨id, none, 1, "play", .chatInput, none, some [.guild], some [.guildInstall], none, "Play", none,
    none, nsfw, [.mk ⟨some true, none, none, "Search terms", none, .string, none, none, none, none,
      "request", none, required⟩ none]⟩

theorem matchesRegistered_pairs_play :
    PairedOff Command.Alike [play (some 42) (some false) (some false)] [play none none none] :=
  (matchesRegistered_pairs _ _ (by decide)).1.mp (by decide +kernel)

end Raydio.Discord
