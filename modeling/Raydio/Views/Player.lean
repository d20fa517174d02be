/-
# The player message and what Discord takes

Discord refuses a message if one of its texts is too long, a field of an embed is empty or
two of its buttons have the same identifier, and a panel with a refused message is not
shown at all. The player cuts what it shows, so that nothing is ever too long. It does
not replace a text of which nothing is left to show, so that a field can be empty.
-/

import Raydio.Foundation.Checked
import Raydio.Views.Lengths
import Raydio.Views.Safe

namespace Raydio.Views

open Raydio.Foundation Raydio.Foundation.Text Raydio.Playback

/-! ## What Discord takes -/

/-- What counts towards the length of an embed. -/
def Embed.total (embed : Embed) : ℕ :=
  units embed.title + units embed.description + units embed.author + units embed.footer +
    (embed.fields.map fun field => units field.name + units field.value).sum

/-- The published limits of an embed. -/
structure Embed.Fits (embed : Embed) : Prop where
  values : ∀ field ∈ embed.fields, 1 ≤ units field.value ∧ units field.value ≤ 1024
  title : units embed.title ≤ 256
  description : units embed.description ≤ 4096
  total : embed.total ≤ 6000

/-- The published limits of a message with embeds and buttons. -/
structure View.Fits (view : View) : Prop where
  embeds : ∀ embed ∈ view.embeds, embed.Fits
  distinct : (view.components.flatten.map Button.customId).Nodup
  ids : ∀ button ∈ view.components.flatten, units button.customId ≤ 100

/-! ## Nothing to show -/

/-- A text leaves something to show: a character to see, or a space between two words. -/
def Named (text : String) : Prop :=
  (∃ c ∈ text.toList, isVisible c = true) ∨ 2 ≤ (words [] text.toList).length

instance (text : String) : Decidable (Named text) := by
  unfold Named
  infer_instance

theorem shown_ne_nil_iff {text : String} : shown text ≠ [] ↔ Named text :=
  filter_flatten_ne_nil_iff

/-- Untrusted text is empty between Markdown exactly if it leaves nothing to show. -/
theorem safe_ne_empty_iff (text : String) {max : ℕ} (hmax : 0 < max) :
    1 ≤ units (safe text max) ↔ Named text := by
  rw [← shown_ne_nil_iff, Nat.one_le_iff_ne_zero, not_iff_not, units, utf16Count_eq_zero]
  obtain ⟨tokens, hprint, -, hvalue, -⟩ := exists_tokens_safe text hmax
  rw [hprint]
  constructor
  · intro hnil
    have htokens : tokens = [] := by
      cases tokens with
      | nil => rfl
      | cons token tokens => cases token <;> simp at hnil
    rcases hvalue with hvalue | ⟨kept, -, hvalue⟩
    · rw [← hvalue, htokens, List.map_nil]
    · rw [htokens] at hvalue
      simp at hvalue
  · intro hnil
    rw [← hprint, safe, String.toList_ofList, escape_eq_print, ← shown, hnil]
    exact truncateChars_of_le (Nat.zero_le _)

theorem units_safe_le (text : String) (max : ℕ) : units (safe text max) ≤ max :=
  utf16Count_safe text max

/-! ## The progress bar -/

/-- `u128::checked_mul`, in the range of the source's product. -/
def checkedMul (a b : ℕ) : Option ℕ := if a * b < 2 ^ 128 then some (a * b) else none

/-- `u128::checked_div`. -/
def checkedDiv (a b : ℕ) : Option ℕ := if b = 0 then none else some (a / b)

/-- The place of the marker as it is computed, with the product and the quotient of 128 bits
and the conversion to a word; nothing if a step overflows or divides by zero. -/
def computedMarker (position duration : ℕ) : Option ℕ := do
  let product ← checkedMul (min position duration) 30
  let quotient ← checkedDiv product duration
  return min (quotient % 2 ^ 64) 29

/-- The line of the bar. -/
def bar (text : String) : List Char := text.toList.takeWhile (· ≠ '\n')

/-- The bar of a track of known duration: one marker among thirty characters, at the place
computed for it, which never moves back. -/
structure Bar (track : Track) (position : ℕ) : Prop where
  computed : computedMarker position track.durationMs =
    some ((bar (progressText track position)).idxOf '●')
  marker : (bar (progressText track position)).count '●' = 1
  line : (bar (progressText track position)).count '━' = 29
  length : (bar (progressText track position)).length = 30
  monotone : ∀ later, position ≤ later → later ≤ u64Max →
    (bar (progressText track position)).idxOf '●' ≤ (bar (progressText track later)).idxOf '●'

/-- The place of the marker. -/
def marker (position duration : ℕ) : ℕ := min (min position duration * 30 / duration) 29

/-- The characters of the bar. -/
def barChars (index : ℕ) : List Char := (List.range 30).map fun i => if i = index then '●' else '━'

variable {track : Track} {position : ℕ}

theorem toList_progressText (hstream : track.stream = false) (hduration : track.durationMs ≠ 0) :
    (progressText track position).toList =
      barChars (marker position track.durationMs) ++ '\n' :: ("`" ++
        formatDuration (min position track.durationMs) false ++ " / " ++
        formatDuration track.durationMs false ++ "`").toList := by
  rw [progressText, if_neg (by simp [hstream]), if_neg hduration]
  change (String.ofList (barChars (marker position track.durationMs)) ++ "\n`" ++
    formatDuration (min position track.durationMs) false ++ " / " ++
    formatDuration track.durationMs false ++ "`").toList = _
  simp

theorem bar_progressText (hstream : track.stream = false) (hduration : track.durationMs ≠ 0) :
    bar (progressText track position) = barChars (marker position track.durationMs) := by
  have hplain : ∀ c ∈ barChars (marker position track.durationMs), c ≠ '\n' := by
    intro c hc
    obtain ⟨i, -, rfl⟩ := List.mem_map.mp hc
    split <;> decide
  rw [bar, toList_progressText hstream hduration,
    List.takeWhile_append_of_pos (by simpa using hplain)]
  simp

theorem barChars_spec : ∀ index < 30, (barChars index).idxOf '●' = index ∧
    (barChars index).count '●' = 1 ∧ (barChars index).count '━' = 29 := by
  decide

theorem marker_lt (position duration : ℕ) : marker position duration < 30 := by
  rw [marker]
  omega

theorem marker_mono {later duration : ℕ} (h : position ≤ later) :
    marker position duration ≤ marker later duration := by
  have hplayed : min position duration ≤ min later duration := min_le_min_right duration h
  exact min_le_min_right 29 (Nat.div_le_div_right (Nat.mul_le_mul_right 30 hplayed))

theorem computedMarker_eq {duration : ℕ} (hduration : duration ≠ 0)
    (hposition : position ≤ u64Max) :
    computedMarker position duration = some (marker position duration) := by
  have hmax : u64Max = 18446744073709551615 := by decide
  have hproduct : min position duration * 30 < 2 ^ 128 := by omega
  have hquotient : min position duration * 30 / duration ≤ 30 := by
    apply Nat.div_le_of_le_mul
    have hle : min position duration ≤ duration := min_le_right _ _
    omega
  simp only [computedMarker, checkedMul, checkedDiv, if_pos hproduct, if_neg hduration,
    Option.bind_eq_bind, Option.bind_some, marker]
  rw [Nat.mod_eq_of_lt (by omega)]
  rfl

theorem bar_sound (hstream : track.stream = false) (hduration : track.durationMs ≠ 0)
    (hposition : position ≤ u64Max) : Bar track position := by
  obtain ⟨hindex, hmarker, hline⟩ := barChars_spec _ (marker_lt position track.durationMs)
  refine ⟨?_, ?_, ?_, ?_, fun later hlater _ => ?_⟩
  · rw [bar_progressText hstream hduration, hindex, computedMarker_eq hduration hposition]
  · rw [bar_progressText hstream hduration, hmarker]
  · rw [bar_progressText hstream hduration, hline]
  · rw [bar_progressText hstream hduration, barChars, List.length_map, List.length_range]
  · rw [bar_progressText hstream hduration, bar_progressText hstream hduration, hindex,
      (barChars_spec _ (marker_lt later track.durationMs)).1]
    exact marker_mono hlater

/-! ## The message -/

theorem units_barChars (index : ℕ) : utf16Count (barChars index) = 30 := by
  rw [utf16Count_eq_length, barChars, List.length_map, List.length_range]
  intro c hc
  obtain ⟨i, -, rfl⟩ := List.mem_map.mp hc
  split <;> decide

/-- The progress of any track at any position is a short text. -/
theorem units_progressText (hduration : track.durationMs ≤ u64Max) (hposition : position ≤ u64Max) :
    units (progressText track position) ≤ 80 := by
  have hwhole : units (formatDuration track.durationMs false) ≤ 19 :=
    units_formatDuration_word hduration
  have hplayed : units (formatDuration (min position track.durationMs) false) ≤ 19 :=
    units_formatDuration_word (Nat.le_trans (Nat.min_le_left _ _) hposition)
  have helapsed : units (formatDuration position false) ≤ 19 := units_formatDuration_word hposition
  have hlive : units "🔴 **LIVE**" = 11 := by decide
  have htick : units "`" = 1 := by decide
  have hbreak : units "\n`" = 2 := by decide
  have hslash : units " / " = 3 := by decide
  have hunknown : units " elapsed • duration unknown`" = 28 := by decide
  rw [progressText]
  split
  · omega
  · split
    · simp only [units_append]
      omega
    · have hbar : units (String.ofList (barChars (marker position track.durationMs))) = 30 := by
        rw [units, String.toList_ofList, units_barChars]
      change units (String.ofList (barChars (marker position track.durationMs)) ++ "\n`" ++
        formatDuration (min position track.durationMs) false ++ " / " ++
        formatDuration track.durationMs false ++ "`") ≤ 80
      simp only [units_append]
      omega

/-- What a button of the player does. -/
def actions : List String := ["previous", "pause", "skip", "stop", "queue", "loop", "leave"]

/-- The identifier of a button. -/
def playerId (session action : String) : String := "raydio:player:" ++ session ++ ":" ++ action

theorem playerId_inj {session action action' : String}
    (h : playerId session action = playerId session action') : action = action' := by
  delta playerId at h
  exact (String.append_right_inj _).mp h

theorem units_playerId {session action : String} (hsession : session.length ≤ 16)
    (haction : action ∈ actions) : units (playerId session action) ≤ 100 := by
  have htoken : units session ≤ 32 := by
    rw [units]
    have htwo : utf16Count session.toList ≤ 2 * session.toList.length := utf16Count_le
    rw [String.length_toList] at htwo
    omega
  have hstart : units "raydio:player:" = 14 := by decide
  have hcolon : units ":" = 1 := by decide
  have hshort : ∀ action ∈ actions, units action ≤ 8 := by decide
  have := hshort action haction
  delta playerId
  rw [units_append, units_append, units_append]
  omega

variable {parseUrl : String → Option Url} {queue : Queue} {session : String} {paused : Bool}
  {volume : ℕ}

theorem player_of_none (h : queue.current = none) :
    player parseUrl queue session paused volume position = View.text "Nothing is playing." := by
  rw [player, h]

theorem player_ids (h : queue.current = some track) :
    (player parseUrl queue session paused volume position).components.flatten.map
      Button.customId = actions.map (playerId session) := by
  rw [player, h]
  rfl

/-- What is shown of the upcoming track. -/
def upNext (queue : Queue) : String :=
  (queue.upcoming.head?.map fun next => safe next.title 200).getD "Nothing queued"

/-- The fields of the player. -/
def playerFields (queue : Queue) (track : Track) (volume : ℕ) : List EmbedField :=
  [⟨"Channel", safe track.author 100⟩, ⟨"Requested by", safe track.requestedBy 64⟩,
    ⟨"Up next", upNext queue⟩, ⟨"Volume", s!"{volume}%"⟩]

theorem player_embeds (parseUrl : String → Option Url) (session : String) (paused : Bool)
    (volume position : ℕ) (h : queue.current = some track) : ∃ embed,
    (player parseUrl queue session paused volume position).embeds = [embed] ∧
      embed.title = safe track.title 200 ∧ embed.description = progressText track position ∧
      units embed.author = 20 ∧ units embed.footer ≤ 50 ∧
      embed.fields = playerFields queue track volume := by
  rw [player, h]
  refine ⟨_, rfl, rfl, rfl, ?_, ?_, rfl⟩
  · change units "Raydio • Now Playing" = 20
    decide
  · change units ((if paused then "Paused" else "Playing") ++ " • " ++ label queue.loopMode ++
      " • refreshes every second") ≤ 50
    cases paused <;> cases queue.loopMode <;> decide

/-- The limits hold of the fields exactly if none of the texts leaves nothing to show. -/
theorem playerFields_fit_iff (queue : Queue) (track : Track) (hvolume : volume ≤ 100) :
    (∀ field ∈ playerFields queue track volume,
      1 ≤ units field.value ∧ units field.value ≤ 1024) ↔
    Named track.author ∧ Named track.requestedBy ∧
      ∀ next, queue.upcoming.head? = some next → Named next.title := by
  have hauthor := units_safe_le track.author 100
  have hrequester := units_safe_le track.requestedBy 64
  have hnext : (1 ≤ units (upNext queue) ∧ units (upNext queue) ≤ 1024) ↔
      ∀ next, queue.upcoming.head? = some next → Named next.title := by
    rw [upNext]
    cases queue.upcoming.head? with
    | none =>
        have hnothing : units "Nothing queued" = 14 := by decide
        simp [hnothing]
    | some next =>
        have hle := units_safe_le next.title 200
        simp only [Option.map_some, Option.getD_some, Option.some.injEq, forall_eq',
          safe_ne_empty_iff next.title (show 0 < 200 by decide)]
        exact and_iff_left (by omega)
  have hdigits : 0 < units (Nat.repr volume) ∧ units (Nat.repr volume) ≤ 3 :=
    ⟨units_repr_pos volume, units_repr_le (by decide) (by omega)⟩
  have hpercent : units "%" = 1 := by decide
  have hvolumes : 1 ≤ units s!"{volume}%" ∧ units s!"{volume}%" ≤ 1024 := by
    simp only [units_append, units_toString_string, units_toString_nat, hpercent]
    omega
  simp only [playerFields, List.forall_mem_cons, List.not_mem_nil, false_imp_iff, implies_true,
    and_true, hnext, hvolumes, safe_ne_empty_iff track.author (show 0 < 100 by decide),
    safe_ne_empty_iff track.requestedBy (show 0 < 64 by decide)]
  constructor
  · rintro ⟨⟨hauthor, -⟩, ⟨hrequester, -⟩, hnext⟩
    exact ⟨hauthor, hrequester, hnext⟩
  · rintro ⟨hnamed, hasked, hnext⟩
    exact ⟨⟨hnamed, by omega⟩, ⟨hasked, by omega⟩, hnext⟩

theorem playerFields_total (queue : Queue) (track : Track) (hvolume : volume ≤ 100) :
    ((playerFields queue track volume).map fun field =>
      units field.name + units field.value).sum ≤ 404 := by
  have hauthor := units_safe_le track.author 100
  have hrequester := units_safe_le track.requestedBy 64
  have hnext : units (upNext queue) ≤ 200 := by
    rw [upNext]
    cases queue.upcoming.head? with
    | none =>
        have hnothing : units "Nothing queued" = 14 := by decide
        rw [Option.map_none, Option.getD_none]
        omega
    | some next => exact units_safe_le next.title 200
  have hdigits : units (Nat.repr volume) ≤ 3 := units_repr_le (by decide) (by omega)
  have hpercent : units "%" = 1 := by decide
  have hnames : units "Channel" + units "Requested by" + units "Up next" + units "Volume" = 32 := by
    decide
  simp only [playerFields, List.map_cons, List.map_nil, List.sum_cons, List.sum_nil, units_append,
    units_toString_string, units_toString_nat, hpercent]
  omega

/-- Discord takes the player, and its bar is sound, exactly if the author and the requester
of the current track and the title of the next one each leave something to show. -/
theorem player_fits_iff (parseUrl : String → Option Url) (queue : Queue) (session : String)
    (paused : Bool) (volume position : ℕ) (hsession : session.length ≤ 16) (hvolume : volume ≤ 100)
    (hposition : position ≤ u64Max)
    (hdurations : ∀ track, queue.current = some track → track.durationMs ≤ u64Max) :
    ((player parseUrl queue session paused volume position).Fits ∧
      ∀ track, queue.current = some track → track.stream = false → track.durationMs ≠ 0 →
        Bar track position) ↔
    ∀ track, queue.current = some track →
      Named track.author ∧ Named track.requestedBy ∧
        ∀ next, queue.upcoming.head? = some next → Named next.title := by
  cases hcurrent : queue.current with
  | none =>
      rw [player_of_none hcurrent]
      refine iff_of_true ⟨⟨?_, ?_, ?_⟩, ?_⟩ ?_ <;> simp [View.text]
  | some track =>
      obtain ⟨embed, hembeds, htitle, hdescription, hauthor, hfooter, hfields⟩ :=
        player_embeds parseUrl session paused volume position hcurrent
      have hfit := playerFields_fit_iff queue track hvolume
      have htitleLength := units_safe_le track.title 200
      have hprogress := units_progressText (hdurations track hcurrent) hposition
      have htotal := playerFields_total queue track hvolume
      constructor
      · rintro ⟨hfits, -⟩ track' ⟨⟩
        have hvalues := (hfits.embeds embed (hembeds ▸ List.mem_cons_self)).values
        rw [hfields] at hvalues
        exact hfit.mp hvalues
      · intro hnamed
        refine ⟨⟨?_, ?_, ?_⟩, ?_⟩
        · intro embed' hembed
          rw [hembeds, List.mem_singleton] at hembed
          subst hembed
          refine ⟨hfields ▸ hfit.mpr (hnamed track rfl), ?_, ?_, ?_⟩
          · rw [htitle]
            omega
          · rw [hdescription]
            omega
          · rw [Embed.total, hfields, htitle, hdescription]
            omega
        · rw [player_ids hcurrent]
          exact List.Nodup.map (fun _ _ => playerId_inj) (by decide)
        · intro button hbutton
          have hid := List.mem_map_of_mem (f := Button.customId) hbutton
          rw [player_ids hcurrent] at hid
          obtain ⟨action, haction, hcustom⟩ := List.mem_map.mp hid
          rw [← hcustom]
          exact units_playerId hsession haction
        · rintro track' ⟨⟩ hstream hduration
          exact bar_sound hstream hduration hposition

/-- A queue whose current track comes with the given channel. -/
def songBy (author : String) : Queue :=
  ⟨some ⟨"QAAA", "dQw4w9WgXcQ", "Song", author, 1000, false, none, "1", "listener"⟩, [], [],
    .off, 0⟩

theorem player_fits_iff_channel :
    (player (fun _ => none) (songBy "Channel") "0123456789abcdef" false 70 500).Fits := by
  refine ((player_fits_iff (fun _ => none) (songBy "Channel") "0123456789abcdef" false 70 500
    (by decide) (by decide) (by decide) ?_).mpr ?_).1
  · rintro track ⟨⟩
    decide
  · rintro track ⟨⟩
    exact ⟨.inl ⟨'C', by decide⟩, .inl ⟨'l', by decide⟩, by rintro next ⟨⟩⟩

/-- A track whose channel has no name gets a field that Discord refuses. -/
theorem player_unfit :
    ¬(player (fun _ => none) (songBy "") "0123456789abcdef" false 70 500).Fits := by
  intro h
  have hvalue := (h.embeds _ List.mem_cons_self).values ⟨"Channel", ""⟩ (by decide +kernel)
  exact absurd hvalue.1 (by decide)

end Raydio.Views
