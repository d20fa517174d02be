/-
# The presence of the bot

Once a second the loop of the runtime looks at what the cached guilds are doing and tells
Discord in a few words: the title of the track if the bot is in a single server, else the
number of sessions. Discord takes five such updates in twenty seconds and closes the
connection of a bot that sends more.
-/

import Raydio.Foundation.Text
import Raydio.Foundation.Throttle
import Raydio.Voice.Guild

namespace Raydio.Runtime

open Raydio.Foundation Raydio.Voice

/-- An activity: its type, 2 for listening and 3 for watching, and its name. -/
structure Presence where
  kind : ℕ
  name : String
  deriving DecidableEq, Repr

namespace Presence

/-- The title that a bot in a single server shows. -/
def title (cache : Cache) : Option String :=
  if cache.guilds.size = 1 then cache.guilds.values.head?.bind fun guild => guild.activity.title
  else none

/-- How many guilds have a session in a voice channel. -/
def count (cache : Cache) : ℕ :=
  (cache.guilds.values.filter fun guild => guild.activity.channel.isSome).length

/-- The presence for the cached guilds. -/
def current (cache : Cache) : Presence :=
  match title cache with
  | some title => ⟨2, title⟩
  | none =>
      if count cache = 0 then ⟨3, "/play"⟩
      else ⟨2, toString (count cache) ++ " active session" ++
        if count cache = 1 then "" else "s"⟩

/-- The key under which a presence is remembered. -/
def key (self : Presence) : String := toString self.kind ++ ":" ++ self.name

end Presence

/-- What the loop remembers of the presence, and what it has sent, with the times. Instants
are milliseconds. -/
structure Display where
  lastPresence : String
  lastPresenceAt : ℤ
  sent : List (ℤ × Presence)

namespace Display

/-- The display of a loop that begins at an instant. -/
def start (now : ℤ) : Display := ⟨"", now - 20000, []⟩

/-- The arm of `presence_tick`. -/
def tick (self : Display) (now : ℤ) (cache : Cache) : Display :=
  let presence := Presence.current cache
  if presence.key ≠ self.lastPresence ∧ now - self.lastPresenceAt ≥ 4000 ∧ cache.ready then
    { lastPresence := presence.key
      lastPresenceAt := now
      sent := self.sent ++ [(now, presence)] }
  else self

/-- A run of ticks, each with its instant and the cache then. -/
def ticks (self : Display) (looks : List (ℤ × Cache)) : Display :=
  Runs.run (fun self look => self.tick look.1 look.2) self looks

end Display

/-! ## The display is a throttle -/

/-- A key says which presence it is of. -/
theorem Presence.key_inj {first second : Presence} : first.key = second.key ↔ first = second := by
  constructor
  · intro h
    have hchars := congrArg String.toList h
    simp only [key, String.toList_append, List.append_assoc] at hchars
    obtain ⟨hkind, hname⟩ := (Text.separated_inj (Text.notMem_repr (by decide) first.kind)
      (Text.notMem_repr (by decide) second.kind)).mp hchars
    cases first
    cases second
    rw [Presence.mk.injEq]
    exact ⟨Nat.repr_injective (String.toList_injective hkind), String.toList_injective hname⟩
  · rintro rfl
    rfl

theorem Presence.key_ne_empty (self : Presence) : self.key ≠ "" := by
  intro h
  have hchars := congrArg String.toList h
  simp [key] at hchars

/-- The display remembers what a throttle shows. -/
structure Display.Mirrors (throttle : Throttle (Option Presence)) (display : Display) : Prop where
  shown : display.lastPresence = (throttle.shown.map Presence.key).getD ""
  since : display.lastPresenceAt = throttle.since
  sent : throttle.sent = display.sent.map fun entry => (entry.1, some entry.2)

/-- What a tick offers. -/
def offered (look : ℤ × Cache) : Throttle.Offer (Option Presence) :=
  ⟨look.1, look.2.ready, some (Presence.current look.2)⟩

namespace Display

variable {self : Display} {throttle : Throttle (Option Presence)}

/-- A tick is an offer. -/
theorem Mirrors.tick (h : self.Mirrors throttle) (look : ℤ × Cache) :
    (self.tick look.1 look.2).Mirrors (throttle.take 4000 (offered look)) := by
  have hnew : (Presence.current look.2).key ≠ self.lastPresence ↔
      some (Presence.current look.2) ≠ throttle.shown := by
    rw [h.shown]
    cases throttle.shown with
    | none => simp [Presence.key_ne_empty]
    | some shown => simp [Presence.key_inj]
  have hlate : look.1 - self.lastPresenceAt ≥ 4000 ↔ throttle.since + 4000 ≤ look.1 := by
    rw [h.since]
    omega
  rw [Display.tick, Throttle.take]
  by_cases htaken : (offered look).value ≠ throttle.shown ∧
      throttle.since + 4000 ≤ (offered look).now ∧ (offered look).allowed = true
  · rw [if_pos htaken, if_pos ⟨hnew.mpr htaken.1, hlate.mpr htaken.2.1, htaken.2.2⟩]
    refine ⟨rfl, rfl, ?_⟩
    rw [h.sent, List.map_append, List.map_singleton]
    rfl
  · rw [if_neg htaken, if_neg]
    · exact h
    · rintro ⟨hkey, hgap, hready⟩
      exact htaken ⟨hnew.mp hkey, hlate.mp hgap, hready⟩

theorem mirrors_ticks (now : ℤ) (looks : List (ℤ × Cache)) :
    ((start now).ticks looks).Mirrors
      (Runs.run (Throttle.take 4000) (.start none (now - 20000)) (looks.map offered)) := by
  induction looks using List.reverseRecOn with
  | nil => exact ⟨rfl, rfl, rfl⟩
  | append_singleton looks look ih =>
      rw [ticks, Runs.run_concat, List.map_append, List.map_singleton, Runs.run_concat]
      exact ih.tick look

/-- However the cached guilds change, updates are sent at least four seconds apart and no
more than five of them in any twenty seconds, each differs from the one before it, and each
says what the cached guilds do at that moment, while the gateway is connected. -/
theorem ticks_paced (now : ℤ) (looks : List (ℤ × Cache)) :
    ((start now).ticks looks).sent.Pairwise (fun earlier later => earlier.1 + 4000 ≤ later.1) ∧
      (∀ first : ℤ, (((start now).ticks looks).sent.filter fun entry =>
        first ≤ entry.1 && entry.1 < first + 20000).length ≤ 5) ∧
      (((start now).ticks looks).sent.map Prod.snd).IsChain (· ≠ ·) ∧
      ∀ entry ∈ ((start now).ticks looks).sent, ∃ cache, (entry.1, cache) ∈ looks ∧
        cache.ready = true ∧ entry.2 = Presence.current cache := by
  have hmirrors := mirrors_ticks now looks
  have hpaced := Throttle.paced_run 4000 (by norm_num) (none : Option Presence)
    (now - 20000) (looks.map offered)
  generalize Runs.run (Throttle.take 4000) _ (looks.map offered) = throttle at hmirrors hpaced
  generalize (start now).ticks looks = display at hmirrors ⊢
  have hspaced : display.sent.Pairwise fun earlier later => earlier.1 + 4000 ≤ later.1 := by
    have hsent := hpaced.spaced
    rw [hmirrors.sent, List.pairwise_map] at hsent
    exact hsent
  refine ⟨hspaced, ?_, ?_, ?_⟩
  · intro first
    have hwindow : ((display.sent.filter fun entry =>
        first ≤ entry.1 && entry.1 < first + 20000).map Prod.fst).Pairwise
          fun earlier later => earlier + 4000 ≤ later := by
      rw [List.pairwise_map]
      exact hspaced.sublist List.filter_sublist
    have hinside : ∀ time ∈ (display.sent.filter fun entry =>
        first ≤ entry.1 && entry.1 < first + 20000).map Prod.fst,
          first ≤ time ∧ time < first + 4000 * (5 : ℕ) := by
      intro time htime
      obtain ⟨entry, hentry, rfl⟩ := List.mem_map.mp htime
      have hinside := (List.mem_filter.mp hentry).2
      rw [Bool.and_eq_true, decide_eq_true_eq, decide_eq_true_eq] at hinside
      exact hinside
    have hcount := length_le_of_spaced hwindow (fun time htime => (hinside time htime).1)
      fun time htime => (hinside time htime).2
    rw [List.length_map] at hcount
    exact hcount
  · have hchanges := hpaced.changes.tail
    rw [List.tail_cons, hmirrors.sent, List.map_map, List.isChain_map] at hchanges
    rw [List.isChain_map]
    apply hchanges.imp
    intro earlier later hdiffer heq
    exact hdiffer (congrArg some heq)
  · intro entry hentry
    obtain ⟨offer, hoffer, hallowed, hnow, hvalue⟩ := hpaced.offered (entry.1, some entry.2)
      (by rw [hmirrors.sent]; exact List.mem_map_of_mem hentry)
    obtain ⟨look, hlook, rfl⟩ := List.mem_map.mp hoffer
    refine ⟨look.2, ?_, hallowed, ?_⟩
    · rw [show entry.1 = look.1 from hnow.symm]
      exact hlook
    · exact (Option.some.inj hvalue).symm

/-- A presence that the cached guilds keep for four seconds and a tick, while the gateway is
connected, is the one that was sent last. -/
theorem ticks_settled (now since : ℤ) (presence : Presence) (before after : List (ℤ × Cache))
    (hnow : now - 20000 ≤ since) (hbefore : ∀ look ∈ before, look.1 ≤ since)
    (hafter : ∀ look ∈ after, Presence.current look.2 = presence ∧ look.2.ready = true)
    (hlate : ∃ look ∈ after, since + 4000 ≤ look.1) :
    (((start now).ticks (before ++ after)).sent.map Prod.snd).getLast? = some presence := by
  have hmirrors := mirrors_ticks now (before ++ after)
  have hpaced := Throttle.paced_run 4000 (by norm_num) (none : Option Presence)
    (now - 20000) ((before ++ after).map offered)
  have hsplit : Runs.run (Throttle.take 4000) (.start none (now - 20000))
      ((before ++ after).map offered) = Runs.run (Throttle.take 4000)
        (Runs.run (Throttle.take 4000) (.start none (now - 20000)) (before.map offered))
        (after.map offered) := by
    rw [List.map_append, Runs.run, List.foldl_append]
    rfl
  have hshown : (Runs.run (Throttle.take 4000) (.start none (now - 20000))
      ((before ++ after).map offered)).shown = some presence := by
    rw [hsplit]
    apply Throttle.shown_run
    · apply Throttle.since_run_le
      · exact hnow
      · intro offer hoffer
        obtain ⟨look, hlook, rfl⟩ := List.mem_map.mp hoffer
        exact hbefore look hlook
    · intro offer hoffer
      obtain ⟨look, hlook, rfl⟩ := List.mem_map.mp hoffer
      obtain ⟨hcurrent, hready⟩ := hafter look hlook
      exact ⟨congrArg some hcurrent, hready⟩
    · obtain ⟨look, hlook, hnow⟩ := hlate
      exact ⟨offered look, List.mem_map_of_mem hlook, hnow⟩
  have hlast := hpaced.last
  have hvalues : ((start now).ticks (before ++ after)).sent.map (fun entry =>
      some entry.2) = (((start now).ticks (before ++ after)).sent.map Prod.snd).map some := by
    rw [List.map_map]
    rfl
  rw [hshown, hmirrors.sent, List.map_map] at hlast
  change (none :: ((start now).ticks (before ++ after)).sent.map fun entry =>
    some entry.2).getLast? = _ at hlast
  rw [hvalues] at hlast
  generalize ((start now).ticks (before ++ after)).sent.map Prod.snd = names at hlast ⊢
  induction names using List.reverseRecOn with
  | nil => cases hlast
  | append_singleton names name _ =>
      rw [List.map_append, List.map_singleton, ← List.cons_append, List.getLast?_concat] at hlast
      rw [List.getLast?_concat]
      exact Option.some.inj hlast

/-- A title stays for four seconds, and is shown. -/
theorem ticks_settled_playing :
    let playing : Cache :=
      { guilds := (∅ : Std.TreeMap ℕ Guild).insert 1
          { Guild.default with activity := ⟨some 5, 1, 0, some "song"⟩ }
        ready := true }
    (((start 0).ticks ([(0, .default)] ++ [(1000, playing), (4000, playing)])).sent.map
      Prod.snd).getLast? = some ⟨2, "song"⟩ := by
  intro playing
  apply ticks_settled 0 0
  · norm_num
  · intro look hlook
    rw [List.mem_singleton.mp hlook]
  · intro look hlook
    rcases List.mem_pair.mp hlook with rfl | rfl
    · exact ⟨by decide, rfl⟩
    · exact ⟨by decide, rfl⟩
  · exact ⟨(4000, playing), List.mem_cons_of_mem _ (List.mem_singleton_self _), by norm_num⟩

end Display

end Raydio.Runtime
