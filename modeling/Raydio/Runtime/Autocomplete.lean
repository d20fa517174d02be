/-
# Suggestions while a request is typed

A call of `autocomplete_choices` awaits the bot's roles and the answer of the music node,
and other calls go on meanwhile. It is cut here at every lock it takes as well, so that
calls interleave at least as freely as in the bot; between two turns the gateway may
change the cached guilds in any way, the node may come or go, and time passes. Time is
counted in nanoseconds. Of the folding of case nothing is assumed, and the node may
answer anything.
-/

import Raydio.Discord.Request
import Raydio.Foundation.Runs
import Raydio.Resolver.Normalize
import Raydio.Resolver.Urls
import Raydio.Voice.Guild

namespace Raydio.Runtime.Autocomplete

open Raydio.Foundation Raydio.Discord Raydio.Resolver Raydio.Views Raydio.Voice
open Raydio.Foundation.Runs

/-! ## Resolving -/

/-- What the node's answer to an identifier is normalized to. -/
def load (limits : Limits) (answer : String → Option Value) (identifier : String)
    (playlist search : Bool) (capacity : ℕ) : Except Failure Resolution :=
  match answer identifier with
  | none => .error .unavailable
  | some value => normalize value playlist search capacity limits

/-- `Shared::resolve`, given what the node answers to an identifier. -/
def resolve (crate : UrlCrate) (limits : Limits) (answer : String → Option Value)
    (input : String) (capacity searchLimit : ℕ) : Checked (Except Failure Resolution) :=
  (crate.identifiers input).map fun
    | .error failure => .error failure
    | .ok (first, none, playlist) => load limits answer first playlist false capacity
    | .ok (first, some fallback, playlist) =>
        match load limits answer first playlist true (min capacity searchLimit) with
        | .ok resolution => .ok resolution
        | .error _ => load limits answer fallback false true (min capacity searchLimit)

/-! ## Calls -/

/-- What the calls read and never change. -/
structure Setting where
  limits : Limits
  /-- How many requests of a guild may be pending. -/
  pending : ℕ
  bot : ℕ
  all : Permissions
  crate : UrlCrate
  toLowercase : String → String

/-- Where a call is. -/
inductive Phase
  /-- It holds a permit and is about to ask for the bot's roles. -/
  | hydrating
  /-- It holds a permit and awaits the bot's roles. -/
  | fetching
  | checking
  | looking
  /-- It holds a permit and awaits the answer of the node. -/
  | resolving
  /-- It returned choices at a time. -/
  | returned (choices : List Choice) (time : ℕ)
  /-- It ran out of time, or panicked. -/
  | dropped
  deriving DecidableEq, Repr

/-- A call of `autocomplete_choices` with what it found. -/
structure Call where
  guild : Option ℕ
  user : ℕ
  /-- The trimmed query. -/
  query : String
  /-- The guild and the channel of the caller, once access is granted. -/
  access : Option (ℕ × ℕ)
  phase : Phase
  deriving DecidableEq, Repr

/-- The cached lists of choices with the times they were resolved at. -/
abbrev Entries := Std.TreeMap String (ℕ × List Choice)

/-- What the calls share, and the calls. -/
structure State where
  cache : Cache
  /-- `health().ready` of the node. -/
  ready : Bool
  now : ℕ
  autocomplete : Entries
  /-- The permits that are left. -/
  searches : ℕ
  calls : List Call

/-- What a call that goes on is met with. -/
inductive Turn
  | free
  /-- The roles of the bot, unless they could not be fetched. -/
  | member (roles : Option (List ℕ))
  /-- The answers of the node; the order of the cache decides what is evicted. -/
  | answer (answer : String → Option Value) (pick : ℕ)
  | timedOut

/-- What happens next. -/
inductive Event
  | gateway (cache : Cache)
  | health (ready : Bool)
  | elapse (duration : ℕ)
  | call (guild : Option ℕ) (request : Request)
  | turn (index : ℕ) (turn : Turn)

/-- How long a cached list is served, 30 seconds. -/
def lifetime : ℕ := 30 * 10 ^ 9

/-- The key of a cached list. -/
def Setting.cacheKey (self : Setting) (guild channel : ℕ) (query : String) : String :=
  toString guild ++ ":" ++ toString channel ++ ":" ++ self.toLowercase query

/-- The query is one to search for. -/
def Setting.asks (self : Setting) (query : String) : Checked Bool :=
  if query.utf8ByteSize < 2 || query.utf8ByteSize > 500 then .ok false
  else (self.crate.classify query).map fun
    | .search _ => true
    | _ => false

/-- The keys of the oldest entries. -/
def oldest (entries : Entries) : List String :=
  (entries.toList.filter fun entry =>
    entries.toList.all fun other => decide (entry.2.1 ≤ other.2.1)).map Prod.fst

/-- Evict an oldest entry of a full cache. -/
def makeRoom (entries : Entries) (pick : ℕ) : Entries :=
  if entries.size ≥ 500 then
    match (oldest entries)[pick % (oldest entries).length]? with
    | some key => entries.erase key
    | none => entries
  else entries

namespace State

/-- The state before the first call. -/
def start (cache : Cache) (ready : Bool) : State := ⟨cache, ready, 0, ∅, 4, []⟩

/-- Go on with a call. -/
def put (self : State) (index : ℕ) (call : Call) : State :=
  { self with calls := self.calls.set index call }

/-- Give a permit back. -/
def release (self : State) : State := { self with searches := self.searches + 1 }

/-- A guild that is there lacks the bot's roles, and meets another condition. -/
def lacksRoles (self : State) (guild : Option ℕ) (condition : Guild → Bool) : Bool :=
  guild.any fun id => (self.cache.guilds[id]?).any fun g =>
    g.available && g.botRoles.isNone && condition g

variable (setting : Setting)

/-- The phase of a new call. -/
def opening (self : State) (guild : Option ℕ) (user : ℕ) (query : String) : Phase :=
  match setting.asks query with
  | .error _ => .dropped
  | .ok asks =>
      if !asks || !self.ready then .returned [] self.now
      else if self.lacksRoles guild fun g => (g.callerChannel user).isOk then
        if self.searches = 0 then .returned [] self.now else .hydrating
      else .checking

/-- A new call. -/
def call (self : State) (guild : Option ℕ) (request : Request) : State :=
  let query := trim (request.option "request")
  let phase := self.opening setting guild request.user query
  { self with
    searches := if phase = .hydrating then self.searches - 1 else self.searches
    calls := self.calls ++ [⟨guild, request.user, query, none, phase⟩] }

/-- `ensure_bot_membership` looks whether the roles are still missing. -/
def hydrate (self : State) (index : ℕ) (call : Call) : State :=
  if self.lacksRoles call.guild fun _ => true then self.put index { call with phase := .fetching }
  else (self.put index { call with phase := .checking }).release

/-- `ensure_bot_membership` returns. -/
def fetched (self : State) (index : ℕ) (call : Call) (roles : Option (List ℕ)) : State :=
  match call.guild, roles with
  | some guild, some roles =>
      let cache := self.cache.modify guild fun g => g.member roles
      (({ self with cache := cache } : State).put index { call with phase := .checking }).release
  | _, _ => (self.put index { call with phase := .returned [] self.now }).release

/-- The guild and the channel of a caller who has access. -/
def access (self : State) (call : Call) : Option (ℕ × ℕ) :=
  match call.guild with
  | none => none
  | some id =>
      match self.cache.guilds[id]? with
      | none => none
      | some guild =>
          if !guild.available || guild.activity.queueCount ≥ setting.limits.queue ||
              guild.activity.pending ≥ setting.pending then none
          else
            match (guild.access setting.all id call.user setting.bot none).value
              (guild.access_returns setting.all id call.user setting.bot none) with
            | .error _ => none
            | .ok channel =>
                if guild.activity.channel.all fun active => active == channel then
                  some (id, channel)
                else none

/-- The access check. -/
def check (self : State) (index : ℕ) (call : Call) : State :=
  match self.access setting call with
  | none => self.put index { call with phase := .returned [] self.now }
  | some access => self.put index { call with access := some access, phase := .looking }

/-- The list that is cached under a key. -/
def cached (self : State) (key : String) : Option (List Choice) :=
  ((self.autocomplete[key]?).filter fun entry => self.now - entry.1 < lifetime).map Prod.snd

/-- The lookup, and a permit to search if there is nothing to serve. -/
def look (self : State) (index : ℕ) (call : Call) (key : String) : State :=
  match self.cached key with
  | some choices => self.put index { call with phase := .returned choices self.now }
  | none =>
      if self.searches = 0 then self.put index { call with phase := .returned [] self.now }
      else ({ self with searches := self.searches - 1 } : State).put index
        { call with phase := .resolving }

/-- Cache a list. -/
def store (self : State) (key : String) (choices : List Choice) (pick : ℕ) : State :=
  let fresh := self.autocomplete.filter fun _ entry => self.now - entry.1 < lifetime
  { self with autocomplete := (makeRoom fresh pick).insert key (self.now, choices) }

/-- `Shared::resolve` returns. -/
def resolved (self : State) (index : ℕ) (call : Call) (key : String)
    (answer : String → Option Value) (pick : ℕ) : State :=
  match resolve setting.crate setting.limits answer call.query 10 10 with
  | .error _ => (self.put index { call with phase := .dropped }).release
  | .ok (.error _) => (self.put index { call with phase := .returned [] self.now }).release
  | .ok (.ok resolution) =>
      let choices := searchChoices resolution.tracks
      ((self.store key choices pick).put index
        { call with phase := .returned choices self.now }).release

/-- The turn of a call that was granted access. -/
def serve (self : State) (index : ℕ) (call : Call) (guild channel : ℕ) (turn : Turn) : State :=
  let key := setting.cacheKey guild channel call.query
  match call.phase, turn with
  | .looking, _ => self.look index call key
  | .resolving, .answer answer pick => self.resolved setting index call key answer pick
  | .resolving, .timedOut => (self.put index { call with phase := .dropped }).release
  | _, _ => self

/-- The turn of a call that was not granted access. -/
def approach (self : State) (index : ℕ) (call : Call) (turn : Turn) : State :=
  match call.phase, turn with
  | .hydrating, _ => self.hydrate index call
  | .fetching, .member roles => self.fetched index call roles
  | .fetching, .timedOut => (self.put index { call with phase := .dropped }).release
  | .checking, _ => self.check setting index call
  | _, _ => self

/-- The turn of a call. -/
def proceed (self : State) (index : ℕ) (turn : Turn) : State :=
  match self.calls[index]? with
  | none => self
  | some call =>
      match call.access with
      | none => self.approach setting index call turn
      | some (guild, channel) => self.serve setting index call guild channel turn

/-- One step. -/
def step (self : State) (event : Event) : State :=
  match event with
  | .gateway cache => { self with cache := cache }
  | .health ready => { self with ready := ready }
  | .elapse duration => { self with now := self.now + duration }
  | .call guild request => self.call setting guild request
  | .turn index turn => self.proceed setting index turn

end State

end Raydio.Runtime.Autocomplete
