/-
# Interaction requests

A slash command or a component of a message, decoded into a name, options and
the user who sent it.
-/

import Raydio.Foundation.Text

namespace Raydio.Discord

open Raydio.Foundation

/-- A user of an interaction. -/
structure User where
  id : ℕ
  name : String
  globalName : Option String
  deriving DecidableEq, Repr

/-- A message by its channel and id. -/
structure MessageRef where
  channelId : ℕ
  id : ℕ
  deriving DecidableEq, Repr

/-- The value of a command option; `other` stands for the types no command uses. -/
inductive OptionValue
  | string (value : String)
  | focused (value : String)
  | integer (value : ℤ)
  | other
  deriving DecidableEq, Repr

/-- The payload of an interaction. -/
inductive InteractionData
  | applicationCommand (name : String) (options : List (String × OptionValue))
  | messageComponent (customId : String)
  | other
  deriving DecidableEq, Repr

/-- An interaction, as far as the worker reads it. -/
structure Interaction where
  id : ℕ
  author : Option User
  nick : Option String
  channel : Option ℕ
  message : Option MessageRef
  data : InteractionData
  deriving DecidableEq, Repr

/-- A decoded interaction. -/
structure Request where
  interaction : Interaction
  name : String
  options : List (String × String)
  customId : Option String
  deriving DecidableEq, Repr

namespace Request

/-- `HashMap::insert` on the options. -/
def insertOption (options : List (String × String)) (name value : String) :
    List (String × String) :=
  (name, value) :: options.filter fun entry => entry.1 != name

/-- Decode an interaction. -/
def new (interaction : Interaction) : Request :=
  match interaction.data with
  | .applicationCommand name options =>
      let options := options.foldl (fun options entry =>
        match entry.2 with
        | .string value => insertOption options entry.1 value
        | .focused value => insertOption options entry.1 value
        | .integer value => insertOption options entry.1 (toString value)
        | .other => options) []
      ⟨interaction, name, options, none⟩
  | .messageComponent customId => ⟨interaction, "", [], some customId⟩
  | .other => ⟨interaction, "", [], none⟩

/-- The user who sent the request, zero if Discord named none. -/
def user (self : Request) : ℕ := (self.interaction.author.map User.id).getD 0

/-- The text channel of the request. -/
def channel (self : Request) : Option ℕ := self.interaction.channel

/-- An option by name, empty if it was not given. -/
def option (self : Request) (name : String) : String := (self.options.lookup name).getD ""

/-- An option read as a position, zero if it is none. -/
def index (self : Request) (name : String) : ℕ :=
  (Text.parseUnsigned (2 ^ 64 - 1) (self.option name)).getD 0

/-- The display name of the user. -/
def label (self : Request) : String :=
  match self.interaction.nick with
  | some nick => nick
  | none =>
      match self.interaction.author with
      | some author => author.globalName.getD author.name
      | none => "Listener"

/-- The request came from a component whose message the reply edits. -/
def updatesMessage (self : Request) : Bool :=
  self.customId.any fun id =>
    !("raydio:player:".toList.isPrefixOf id.toList && ":queue".toList.isSuffixOf id.toList)

end Request

end Raydio.Discord
