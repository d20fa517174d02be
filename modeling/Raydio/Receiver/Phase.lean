/-
# The phase of a track, read back from the player

The audit of a receiver labels what it observes with the place in the track at which it
happened. It reads that place from the text of the player, with a pattern of its own for
the times that the player writes. The player writes hours where there are any, and the
pattern does not know them: it reads the last two numbers of the position and the first
two of the duration. So it reads back what is shown exactly of tracks that are shorter
than one hour.
-/

import Raydio.Foundation.Pattern
import Raydio.Resolver.Filter
import Raydio.Views.Player

namespace Raydio.Receiver

open Raydio.Foundation Raydio.Foundation.Pattern Raydio.Playback Raydio.Views

/-- Where in its track a position is. -/
inductive PhaseLabel
  | unknown
  | head
  | tail
  | middle
  deriving DecidableEq, Repr

/-- What `phase` returns. -/
structure Phase where
  positionSeconds : Option ℕ
  durationSeconds : Option ℕ
  label : PhaseLabel
  playing : Bool
  loop : Bool
  deriving DecidableEq, Repr

/-- The label of a position in a track of the given duration. -/
def phaseLabel (position duration : ℕ) : PhaseLabel :=
  if position < 2 then .head
  else if (position : ℤ) ≥ duration - 3 then .tail
  else .middle

/-- `(\d+):(\d+) \/ (\d+):(\d+)`. -/
def phasePattern : List Piece :=
  [.digits, .text [':'], .digits, .text [' ', '/', ' '], .digits, .text [':'], .digits]

/-- `phase`, of the text of the panel. `Number` of a group of digits is its value. -/
def phase (text : String) : Phase :=
  let found : Option (ℕ × ℕ) :=
    match search phasePattern text.toList with
    | some [first, second, third, fourth] =>
        some (Text.digits first * 60 + Text.digits second,
          Text.digits third * 60 + Text.digits fourth)
    | _ => none
  { positionSeconds := found.map Prod.fst
    durationSeconds := found.map Prod.snd
    label :=
      match found with
      | none => .unknown
      | some (position, duration) => phaseLabel position duration
    playing := "Playing •".toList <:+: text.toList
    loop := "Loop: ON".toList <:+: text.toList }

/-! ## The times that the player writes -/

/-- A run of digits that stands for a number. -/
structure Numeral (run : List Char) (n : ℕ) : Prop where
  ne_nil : run ≠ []
  digits : Digits run
  value : Text.digits run = n

theorem numeral_repr (n : ℕ) : Numeral (Nat.repr n).toList n := by
  rw [Nat.toList_repr]
  exact ⟨Nat.toDigits_ne_nil, fun c hc => Nat.isDigit_of_mem_toDigits (by decide) (by decide) hc,
    Nat.ofDigitChars_ten_toDigits⟩

theorem toString_string (text : String) : toString text = text := rfl

/-- A padded number stands for itself. -/
theorem numeral_pad2 (n : ℕ) : Numeral (Text.pad2 n).toList n := by
  rw [Text.pad2]
  split
  · have hdigits := numeral_repr n
    have hlist : (s!"0{n}").toList = '0' :: (Nat.repr n).toList := by
      simp [toString_string]
    rw [hlist]
    exact ⟨List.cons_ne_nil _ _, List.forall_mem_cons.mpr ⟨rfl, hdigits.digits⟩, hdigits.value⟩
  · exact numeral_repr n

/-- A time without hours: the minutes and the seconds. -/
theorem toList_formatDuration_short {ms : ℕ} (h : ms / 1000 < 3600) :
    (formatDuration ms false).toList
      = (Nat.repr (ms / 1000 / 60)).toList ++ ':' :: (Text.pad2 (ms / 1000 % 60)).toList := by
  rw [formatDuration, if_neg (by decide)]
  dsimp only
  rw [if_neg (by omega)]
  have hminutes : ms / 1000 % 3600 / 60 = ms / 1000 / 60 := by omega
  rw [hminutes]
  simp [toString_string]

/-- A time with hours: the hours, the minutes and the seconds. -/
theorem toList_formatDuration_long {ms : ℕ} (h : 3600 ≤ ms / 1000) :
    (formatDuration ms false).toList
      = (Nat.repr (ms / 1000 / 3600)).toList ++ ':' :: ((Text.pad2 (ms / 1000 % 3600 / 60)).toList
          ++ ':' :: (Text.pad2 (ms / 1000 % 60)).toList) := by
  rw [formatDuration, if_neg (by decide)]
  dsimp only
  rw [if_pos (by omega)]
  simp [toString_string]

theorem Numeral.colon_notMem {run : List Char} {n : ℕ} (h : Numeral run n) : ':' ∉ run := by
  intro hmem
  have hdigit := h.digits ':' hmem
  exact absurd hdigit (by decide)

/-- Runs that are alike stand for one number. -/
theorem Numeral.eq_of_eq {run run' : List Char} {n m : ℕ} (h : Numeral run n)
    (h' : Numeral run' m) (heq : run = run') : n = m := by
  rw [← h.value, ← h'.value, heq]

/-- A time with hours is not written as one without. -/
theorem formatDuration_ne {ms ms' : ℕ} (h : ms / 1000 < 3600) (h' : 3600 ≤ ms' / 1000) :
    formatDuration ms false ≠ formatDuration ms' false := by
  intro heq
  have hlists := congrArg String.toList heq
  rw [toList_formatDuration_short h, toList_formatDuration_long h', Text.separated_inj
    (numeral_repr _).colon_notMem (numeral_repr _).colon_notMem] at hlists
  apply (numeral_pad2 (ms / 1000 % 60)).colon_notMem
  rw [hlists.2]
  exact List.mem_append_right _ List.mem_cons_self

/-- Two times are written alike if they have the same seconds, and only then. -/
theorem formatDuration_inj (ms ms' : ℕ) :
    formatDuration ms false = formatDuration ms' false ↔ ms / 1000 = ms' / 1000 := by
  constructor
  · intro heq
    have hlists := congrArg String.toList heq
    by_cases h : ms / 1000 < 3600
    · by_cases h' : ms' / 1000 < 3600
      · rw [toList_formatDuration_short h, toList_formatDuration_short h', Text.separated_inj
          (numeral_repr _).colon_notMem (numeral_repr _).colon_notMem] at hlists
        have hminutes := (numeral_repr _).eq_of_eq (numeral_repr _) hlists.1
        have hseconds := (numeral_pad2 _).eq_of_eq (numeral_pad2 _) hlists.2
        omega
      · exact absurd heq (formatDuration_ne h (not_lt.mp h'))
    · by_cases h' : ms' / 1000 < 3600
      · exact absurd heq.symm (formatDuration_ne h' (not_lt.mp h))
      · rw [toList_formatDuration_long (not_lt.mp h), toList_formatDuration_long (not_lt.mp h'),
          Text.separated_inj (numeral_repr _).colon_notMem (numeral_repr _).colon_notMem,
          Text.separated_inj (numeral_pad2 _).colon_notMem (numeral_pad2 _).colon_notMem] at hlists
        have hhours := (numeral_repr _).eq_of_eq (numeral_repr _) hlists.1
        have hminutes := (numeral_pad2 _).eq_of_eq (numeral_pad2 _) hlists.2.1
        have hseconds := (numeral_pad2 _).eq_of_eq (numeral_pad2 _) hlists.2.2
        omega
  · intro h
    rw [formatDuration, formatDuration, h]

/-! ## What the pattern reads -/

section phasePattern

variable {first second third fourth : List Char} {a b c d : ℕ}

/-- The pattern matches two times of two numbers each. -/
theorem matchAt_times (hfirst : Numeral first a) (hsecond : Numeral second b)
    (hthird : Numeral third c) (hfourth : Numeral fourth d) {rest : List Char}
    (hrest : Stops rest) :
    matchAt phasePattern
        (first ++ ':' :: (second ++ ' ' :: '/' :: ' ' :: (third ++ ':' :: (fourth ++ rest))))
      = some [first, second, third, fourth] := by
  apply matchAt_run hfirst.ne_nil hfirst.digits (stops_cons rfl _)
  refine (matchAt_text [':'] _ _).trans ?_
  apply matchAt_run hsecond.ne_nil hsecond.digits (stops_cons rfl _)
  refine (matchAt_text [' ', '/', ' '] _ _).trans ?_
  apply matchAt_run hthird.ne_nil hthird.digits (stops_cons rfl _)
  refine (matchAt_text [':'] _ _).trans ?_
  exact matchAt_run hfourth.ne_nil hfourth.digits hrest rfl

/-- A number that starts a time of three is passed over. -/
theorem search_hours (hfirst : Numeral first a) (hsecond : Numeral second b) (rest : List Char) :
    search phasePattern (first ++ ':' :: (second ++ ':' :: rest))
      = search phasePattern (second ++ ':' :: rest) := by
  -- the digits after the first colon end at a colon, where the pattern wants a space
  have hguard : Guarded (phasePattern.drop 1) := ⟨':', [], _, rfl, rfl⟩
  have hfails : matchAt (phasePattern.drop 1) (':' :: (second ++ ':' :: rest)) = none := by
    refine (matchAt_text [':'] _ _).trans ?_
    apply matchAt_run_eq_none hsecond.digits (stops_cons rfl _) ⟨' ', ['/', ' '], _, rfl, rfl⟩
    exact matchAt_text_of_ne (by decide) _ _ _
  have hskip := search_skip_run hfirst.digits (stops_cons rfl _) hguard hfails
  have hcolon : ∀ c ∈ [':'], c.isDigit = false := List.forall_mem_singleton.mpr rfl
  exact hskip.trans (search_skip hcolon _)

end phasePattern

/-- What the first two numbers of a time are read as: its seconds, if it has no hours, or
else its hours and minutes as if they were minutes and seconds. -/
def firstTwo (seconds : ℕ) : ℕ :=
  if seconds < 3600 then seconds else seconds / 3600 * 60 + seconds % 3600 / 60

/-- A time before the slash is read by its last two numbers. -/
theorem search_played (ms : ℕ) (rest : List Char) :
    ∃ first second a b, Numeral first a ∧ Numeral second b ∧ a * 60 + b = ms / 1000 % 3600
      ∧ search phasePattern ((formatDuration ms false).toList ++ rest)
        = search phasePattern (first ++ ':' :: (second ++ rest)) := by
  by_cases hshort : ms / 1000 < 3600
  · refine ⟨_, _, _, _, numeral_repr (ms / 1000 / 60), numeral_pad2 (ms / 1000 % 60), ?_, ?_⟩
    · omega
    · rw [toList_formatDuration_short hshort, List.append_assoc, List.cons_append]
  · refine ⟨_, _, _, _, numeral_pad2 (ms / 1000 % 3600 / 60), numeral_pad2 (ms / 1000 % 60),
      ?_, ?_⟩
    · omega
    · rw [toList_formatDuration_long (not_lt.mp hshort)]
      simp only [List.append_assoc, List.cons_append]
      exact search_hours (numeral_repr _) (numeral_pad2 _) _

/-- A time after the slash is read by its first two numbers. -/
theorem split_whole (ms : ℕ) :
    ∃ third fourth c d rest, Numeral third c ∧ Numeral fourth d
      ∧ c * 60 + d = firstTwo (ms / 1000) ∧ Stops (rest ++ ['`'])
      ∧ (formatDuration ms false).toList = third ++ ':' :: (fourth ++ rest) := by
  by_cases hshort : ms / 1000 < 3600
  · refine ⟨_, _, _, _, [], numeral_repr (ms / 1000 / 60), numeral_pad2 (ms / 1000 % 60), ?_,
      stops_cons rfl [], ?_⟩
    · rw [firstTwo, if_pos hshort]
      omega
    · rw [toList_formatDuration_short hshort, List.append_nil]
  · refine ⟨_, _, _, _, _, numeral_repr (ms / 1000 / 3600),
      numeral_pad2 (ms / 1000 % 3600 / 60), ?_, stops_cons rfl _,
      toList_formatDuration_long (not_lt.mp hshort)⟩
    rw [firstTwo, if_neg hshort]

/-- Nothing of the bar is a digit. -/
theorem isDigit_bar (index : ℕ) : ∀ c ∈ barChars index ++ ['\n', '`'], c.isDigit = false := by
  intro c hc
  rcases List.mem_append.mp hc with hbar | hend
  · obtain ⟨i, -, rfl⟩ := List.mem_map.mp hbar
    split <;> rfl
  · simp only [List.mem_cons, List.not_mem_nil, or_false] at hend
    rcases hend with rfl | rfl <;> rfl

variable {track : Track} {position : ℕ}

/-- What is read from the progress of a track of known duration. -/
theorem phase_progressText (position : ℕ) (hstream : track.stream = false)
    (hknown : track.durationMs ≠ 0) :
    ∃ playing loop, phase (progressText track position) =
      { positionSeconds := some (min position track.durationMs / 1000 % 3600)
        durationSeconds := some (firstTwo (track.durationMs / 1000))
        label := phaseLabel (min position track.durationMs / 1000 % 3600)
          (firstTwo (track.durationMs / 1000))
        playing := playing
        loop := loop } := by
  obtain ⟨third, fourth, c, d, rest, hthird, hfourth, hwhole, hstops, hsplit⟩ :=
    split_whole track.durationMs
  obtain ⟨first, second, a, b, hfirst, hsecond, hplayed, hsearch⟩ :=
    search_played (min position track.durationMs)
      (' ' :: '/' :: ' ' :: (third ++ ':' :: (fourth ++ (rest ++ ['`']))))
  have hfound : search phasePattern (progressText track position).toList
      = some [first, second, third, fourth] := by
    have htext : (progressText track position).toList
        = (barChars (marker position track.durationMs) ++ ['\n', '`'])
          ++ ((formatDuration (min position track.durationMs) false).toList
            ++ ' ' :: '/' :: ' ' :: (third ++ ':' :: (fourth ++ (rest ++ ['`'])))) := by
      rw [toList_progressText hstream hknown]
      simp [hsplit]
    rw [htext]
    refine (search_skip (isDigit_bar _) _).trans (hsearch.trans ?_)
    exact search_of_match (matchAt_times hfirst hsecond hthird hfourth hstops)
  refine ⟨"Playing •".toList <:+: (progressText track position).toList,
    "Loop: ON".toList <:+: (progressText track position).toList, ?_⟩
  rw [phase, hfound]
  dsimp only
  rw [hfirst.value, hsecond.value, hthird.value, hfourth.value, hplayed, hwhole]
  rfl

/-- What is read of a track is what the player shows: the seconds of the position and of
the duration, and with them the label. -/
structure ReadsBack (track : Track) (position : ℕ) (read : Phase) : Prop where
  played : read.positionSeconds = some (min position track.durationMs / 1000)
  whole : read.durationSeconds = some (track.durationMs / 1000)
  label : read.label = phaseLabel (min position track.durationMs / 1000) (track.durationMs / 1000)

/-- The progress of a track is read back exactly if it is shorter than one hour. -/
theorem readsBack_iff (hstream : track.stream = false) (hknown : track.durationMs ≠ 0) :
    ReadsBack track position (phase (progressText track position))
      ↔ track.durationMs / 1000 < 3600 := by
  obtain ⟨playing, loop, hread⟩ := phase_progressText position hstream hknown
  rw [hread]
  constructor
  · intro h
    have hduration : firstTwo (track.durationMs / 1000) = track.durationMs / 1000 :=
      Option.some.inj h.whole
    by_contra hlong
    rw [firstTwo, if_neg hlong] at hduration
    omega
  · intro hshort
    have hplayed : min position track.durationMs / 1000 % 3600
        = min position track.durationMs / 1000 := by
      have hle : min position track.durationMs ≤ track.durationMs := min_le_right _ _
      omega
    have hwhole : firstTwo (track.durationMs / 1000) = track.durationMs / 1000 := if_pos hshort
    rw [hplayed, hwhole]
    exact ⟨rfl, rfl, rfl⟩

/-- The audit reads back what the player shows of a track exactly if the track is shorter
than one hour, although the times that the player writes tell all seconds apart. -/
theorem player_readsBack_iff (parseUrl : String → Option Url) {queue : Queue} {track : Track}
    (session : String) (paused : Bool) (volume position : ℕ)
    (hcurrent : queue.current = some track) (hstream : track.stream = false)
    (hknown : track.durationMs ≠ 0) :
    (∃ embed, (player parseUrl queue session paused volume position).embeds = [embed]
      ∧ (ReadsBack track position (phase embed.description) ↔ track.durationMs / 1000 < 3600))
      ∧ ∀ ms ms', formatDuration ms false = formatDuration ms' false ↔ ms / 1000 = ms' / 1000 := by
  obtain ⟨embed, hembeds, -, hdescription, -⟩ :=
    player_embeds parseUrl session paused volume position hcurrent
  refine ⟨⟨embed, hembeds, ?_⟩, formatDuration_inj⟩
  rw [hdescription]
  exact readsBack_iff hstream hknown

/-- A track of the given duration. -/
def songFor (durationMs : ℕ) : Track :=
  ⟨"QAAA", "dQw4w9WgXcQ", "Song", "Channel", durationMs, false, none, "1", "listener"⟩

/-- A queue in which only such a track is. -/
def songQueue (durationMs : ℕ) : Queue :=
  ⟨some (songFor durationMs), [], [], .off, 0⟩

theorem songQueue_current (durationMs : ℕ) :
    (songQueue durationMs).current = some (songFor durationMs) :=
  rfl

/-- The player of such a track, at a position. -/
def songPlayer (durationMs position : ℕ) : View :=
  player (fun _ => none) (songQueue durationMs) "0123456789abcdef" false 70 position

theorem player_readsBack_three_minutes :
    (∃ embed, (songPlayer 180000 100000).embeds = [embed]
      ∧ ReadsBack (songFor 180000) 100000 (phase embed.description))
      ∧ formatDuration 180000 false = formatDuration 180999 false := by
  obtain ⟨⟨embed, hembeds, hiff⟩, hinjective⟩ := player_readsBack_iff (fun _ => none)
    "0123456789abcdef" false 70 100000 (songQueue_current 180000) rfl (by decide)
  exact ⟨⟨embed, hembeds, hiff.mpr (by decide)⟩, (hinjective 180000 180999).mpr (by decide)⟩

/-- A track of ninety minutes within the default limits, not two minutes after its start:
it is read as one of ninety seconds, at its end. -/
theorem player_misread_ninety_minutes :
    (songFor 5400000).durationMs ≤ Resolver.Limits.default.maxDurationMs
      ∧ ∃ embed, (songPlayer 5400000 100000).embeds = [embed]
        ∧ (phase embed.description).positionSeconds = some 100
        ∧ (phase embed.description).durationSeconds = some 90
        ∧ (phase embed.description).label = .tail
        ∧ phaseLabel 100 5400 = .middle
        ∧ ¬ReadsBack (songFor 5400000) 100000 (phase embed.description) := by
  obtain ⟨embed, hembeds, -, hdescription, -⟩ := player_embeds (fun _ => none)
    "0123456789abcdef" false 70 100000 (songQueue_current 5400000)
  obtain ⟨playing, loop, hread⟩ := phase_progressText 100000
    (show (songFor 5400000).stream = false from rfl) (by decide)
  refine ⟨by decide, embed, hembeds, ?_⟩
  rw [hdescription, hread]
  refine ⟨rfl, rfl, rfl, by decide, ?_⟩
  intro h
  have hlabel : phaseLabel 100 90 = phaseLabel 100 5400 := h.label
  exact absurd hlabel (by decide)

end Raydio.Receiver
