/-
# Suggestions and what Discord takes

The choices for a search are the first tracks with different identifiers, as long as their
addresses fit. An address is classified as the video that it names when the user picks it.
A name is cut and rid of control characters, but a title of which only spaces are left is
not replaced, and Discord refuses a list with such a name as a whole.
-/

import Raydio.Resolver.Urls
import Raydio.Views.Player

namespace Raydio.Views

open Raydio.Foundation Raydio.Foundation.Text Raydio.Playback Raydio.Resolver

/-! ## Which tracks are offered -/

/-- The address that choices start with. -/
def watchPage : String := "https://www.youtube.com/watch?v="

/-- The value of the choice for a track. -/
def watchUrl (track : Track) : String := watchPage ++ track.identifier

/-- The tracks that are offered: of those with a valid identifier the first with each
identifier, of these the ones whose address fits, and of these the first ten. -/
def offered (tracks : List Track) : List Track :=
  (((tracks.filter fun track => validIdentifier track.identifier).eraseDupsBy
    fun track earlier => track.identifier == earlier.identifier).filter
      fun track => decide (units (watchUrl track) ≤ 100)).take 10

/-- The title of a choice, with what stands in for none. -/
def choiceTitle (track : Track) : String :=
  if (plain track.title).isEmpty then "Untitled YouTube track" else plain track.title

/-- The name of a choice before it is cut. -/
def choiceName (track : Track) : String :=
  if (plain track.author).isEmpty then choiceTitle track
  else choiceTitle track ++ " — " ++ plain track.author

theorem choice_eq (track : Track) : choice track =
    if units (watchUrl track) ≤ 100 then some ⟨truncate (choiceName track) 100, watchUrl track⟩
    else none := by
  rw [choice]
  by_cases hfits : units (watchUrl track) ≤ 100
  · rw [if_pos hfits]
    exact if_neg (Nat.not_lt.mpr hfits)
  · rw [if_neg hfits]
    exact if_pos (Nat.lt_of_not_le hfits)

/-- Tracks not seen before are the first with their identifiers. -/
theorem unseen_eq (seen : List String) (tracks : List Track) : unseen seen tracks =
    ((tracks.filter fun track => validIdentifier track.identifier).filter
      fun track => !seen.contains track.identifier).eraseDupsBy
        fun track earlier => track.identifier == earlier.identifier := by
  induction tracks generalizing seen with
  | nil => rfl
  | cons track rest ih =>
      rw [unseen]
      cases hvalid : validIdentifier track.identifier with
      | false =>
          rw [List.filter_cons_of_neg (by simp [hvalid]), ← ih]
          rfl
      | true =>
          rw [List.filter_cons_of_pos (by simpa using hvalid)]
          cases hseen : seen.contains track.identifier with
          | true =>
              rw [List.filter_cons_of_neg (by simpa using hseen), ← ih]
              rfl
          | false =>
              rw [List.filter_cons_of_pos (by simpa using hseen), List.eraseDupsBy_cons,
                List.filter_filter]
              simp only [Bool.not_true, Bool.or_self, Bool.false_eq_true, if_false, ih]
              congr 2
              apply List.filter_congr
              intro later _
              simp

/-- The choices are those of the tracks that are offered. -/
theorem searchChoices_eq (tracks : List Track) : searchChoices tracks =
    (offered tracks).map fun track => ⟨truncate (choiceName track) 100, watchUrl track⟩ := by
  have hall : unseen [] tracks =
      (tracks.filter fun track => validIdentifier track.identifier).eraseDupsBy
        fun track earlier => track.identifier == earlier.identifier := by
    rw [unseen_eq]
    simp
  rw [searchChoices, hall, offered, List.map_take]
  congr 1
  generalize (tracks.filter fun track => validIdentifier track.identifier).eraseDupsBy _ = firsts
  induction firsts with
  | nil => rfl
  | cons track rest ih =>
      by_cases hfits : units (watchUrl track) ≤ 100
      · rw [List.filterMap_cons_some ((choice_eq track).trans (if_pos hfits)),
          List.filter_cons_of_pos (by simpa using hfits), List.map_cons, ih]
      · rw [List.filterMap_cons_none ((choice_eq track).trans (if_neg hfits)),
          List.filter_cons_of_neg (by simpa using hfits), ih]

theorem offered_sublist (tracks : List Track) : List.Sublist (offered tracks)
    (unseen [] tracks) := by
  rw [unseen_eq]
  simp only [List.contains_nil, Bool.not_false, List.filter_true]
  exact (List.take_sublist _ _).trans List.filter_sublist

/-- Unseen tracks have valid identifiers that were not seen before. -/
theorem of_mem_unseen {seen : List String} {tracks : List Track} {track : Track}
    (h : track ∈ unseen seen tracks) :
    validIdentifier track.identifier = true ∧ track.identifier ∉ seen := by
  fun_induction unseen seen tracks with
  | case1 => cases h
  | case2 seen first rest hskip ih => exact ih h
  | case3 seen first rest htaken ih =>
      rcases List.mem_cons.mp h with rfl | h
      · simpa using htaken
      · obtain ⟨hvalid, hseen⟩ := ih h
        exact ⟨hvalid, List.not_mem_of_not_mem_cons hseen⟩

theorem nodup_unseen (seen : List String) (tracks : List Track) :
    ((unseen seen tracks).map Track.identifier).Nodup := by
  fun_induction unseen seen tracks with
  | case1 => exact List.nodup_nil
  | case2 seen first rest hskip ih => exact ih
  | case3 seen first rest htaken ih =>
      rw [List.map_cons, List.nodup_cons]
      refine ⟨fun hmem => ?_, ih⟩
      obtain ⟨track, htrack, hid⟩ := List.mem_map.mp hmem
      exact (of_mem_unseen htrack).2 (hid ▸ List.mem_cons_self)

/-! ## Names -/

/-- The title can be seen, is left out, or is cut; or else the author is shown beside it. -/
def Labelled (track : Track) : Prop :=
  (∃ c ∈ track.title.toList, isVisible c = true) ∨ (words [] track.title.toList).length < 2 ∨
    101 < (words [] track.title.toList).length ∨ Named track.author

variable {track : Track}

theorem toList_plain (text : String) : (plain text).toList = shown text := by
  rw [plain, String.toList_ofList, shown]

theorem plain_isEmpty_iff (text : String) : (plain text).isEmpty = true ↔ ¬Named text := by
  rw [← shown_ne_nil_iff, not_not, ← toList_plain, String.toList_eq_nil_iff, String.isEmpty_iff]

theorem isControl_of_mem_shown {text : String} {c : Char} (h : c ∈ shown text) :
    isControl c = false := by
  simpa using (List.mem_filter.mp h).2

/-- A name has no control characters before it is cut. -/
theorem isControl_of_mem_choiceName {c : Char} (h : c ∈ (choiceName track).toList) :
    isControl c = false := by
  have htitle : ∀ c ∈ (choiceTitle track).toList, isControl c = false := by
    intro c hc
    rw [choiceTitle] at hc
    split at hc
    · have hall : ("Untitled YouTube track".toList.all fun c => !isControl c) = true := by decide
      simpa using List.all_eq_true.mp hall c hc
    · rw [toList_plain] at hc
      exact isControl_of_mem_shown hc
  rw [choiceName] at h
  split at h
  · exact htitle c h
  · rw [String.toList_append, String.toList_append, List.mem_append, List.mem_append] at h
    rcases h with (h | h) | h
    · exact htitle c h
    · have hall : (" — ".toList.all fun c => !isControl c) = true := by decide
      simpa using List.all_eq_true.mp hall c h
    · rw [toList_plain] at h
      exact isControl_of_mem_shown h

/-- A cut text has the characters of the text, and the ellipsis. -/
theorem of_mem_truncate {text : String} {max : ℕ} {c : Char}
    (h : c ∈ (truncate text max).toList) : c ∈ text.toList ∨ c = '…' := by
  rw [truncate, String.toList_ofList, truncateChars] at h
  split at h
  · exact .inl h
  · rcases List.mem_append.mp h with h | h
    · exact .inl (fitting_isPrefix.subset h)
    · split at h
      · exact .inr (List.mem_singleton.mp h)
      · cases h

/-- What is left of an unlabelled title: spaces that fit. -/
theorem choiceName_of_unlabelled (h : ¬Labelled track) :
    (choiceName track).toList =
        List.replicate ((words [] track.title.toList).length - 1) ' ' ∧
      units (choiceName track) ≤ 100 := by
  obtain ⟨htitle, hlow, hhigh, hauthor⟩ :
      (¬∃ c ∈ track.title.toList, isVisible c = true) ∧
        ¬(words [] track.title.toList).length < 2 ∧
        ¬101 < (words [] track.title.toList).length ∧ ¬Named track.author := by
    simpa only [Labelled, not_or] using h
  have hinvisible : ∀ c ∈ track.title.toList, isVisible c = false := by
    intro c hc
    by_contra hvisible
    exact htitle ⟨c, hc, by simpa using hvisible⟩
  have hnamed : Named track.title := .inr (by omega)
  have hname : choiceName track = plain track.title := by
    rw [choiceName, if_pos ((plain_isEmpty_iff _).mpr hauthor), choiceTitle,
      if_neg fun hempty => (plain_isEmpty_iff _).mp hempty hnamed]
  have hchars : (choiceName track).toList =
      List.replicate ((words [] track.title.toList).length - 1) ' ' := by
    rw [hname, toList_plain, shown, filter_flatten_of_invisible hinvisible]
  refine ⟨hchars, ?_⟩
  rw [units, hchars, utf16Count_eq_length, List.length_replicate]
  · omega
  · intro c hc
    obtain rfl := List.eq_of_mem_replicate hc
    decide

/-- A labelled name that fits has a character that is not white space. -/
theorem exists_letter_of_labelled (h : Labelled track) (hfits : units (choiceName track) ≤ 100) :
    ∃ c ∈ (choiceName track).toList, isWhitespace c = false := by
  by_cases hauthor : Named track.author
  · have hname : choiceName track = choiceTitle track ++ " — " ++ plain track.author :=
      if_neg fun hempty => (plain_isEmpty_iff _).mp hempty hauthor
    exact ⟨'—', by simp [hname], by decide⟩
  · have hname : choiceName track = choiceTitle track :=
      if_pos ((plain_isEmpty_iff _).mpr hauthor)
    by_cases htitle : Named track.title
    · have hshown : (choiceName track).toList = shown track.title := by
        rw [hname, choiceTitle, if_neg fun hempty => (plain_isEmpty_iff _).mp hempty htitle,
          toList_plain]
      by_cases hvisible : ∃ c ∈ track.title.toList, isVisible c = true
      · obtain ⟨c, hc, hvisible⟩ := hvisible
        have hparts := hvisible
        simp only [isVisible, Bool.and_eq_true, Bool.not_eq_true'] at hparts
        refine ⟨c, ?_, hparts.1⟩
        rw [hshown]
        exact List.mem_filter.mpr ⟨(mem_flatten_iff hparts.1).mpr hc, by simp [hparts.2]⟩
      · -- only spaces are left, and more of them than fit
        have hinvisible : ∀ c ∈ track.title.toList, isVisible c = false := by
          intro c hc
          by_contra hc'
          exact hvisible ⟨c, hc, by simpa using hc'⟩
        have hlength : (words [] track.title.toList).length - 1 ≤ units (choiceName track) := by
          rw [units, hshown, shown, filter_flatten_of_invisible hinvisible]
          exact le_trans (by rw [List.length_replicate]) length_le_utf16Count
        have htwo : 2 ≤ (words [] track.title.toList).length := by
          rcases htitle with htitle | htwo
          · exact absurd htitle hvisible
          · exact htwo
        rcases h with h | h | h | h
        · exact absurd h hvisible
        · omega
        · omega
        · exact absurd h hauthor
    · refine ⟨'U', ?_, by decide⟩
      rw [hname, choiceTitle, if_pos ((plain_isEmpty_iff _).mpr htitle)]
      decide

/-- The name of a choice has a character that is not white space exactly if the track is
labelled. -/
theorem exists_letter_iff : (∃ c ∈ (truncate (choiceName track) 100).toList,
    isWhitespace c = false) ↔ Labelled track := by
  rcases Nat.lt_or_ge 100 (units (choiceName track)) with hcut | hfits
  · obtain ⟨kept, rest, -, htruncated⟩ := exists_cut (by decide : 0 < 100) hcut
    refine iff_of_true ⟨'…', ?_, by decide⟩ ?_
    · rw [truncate, String.toList_ofList, htruncated]
      simp
    · by_contra hunlabelled
      have hfits := (choiceName_of_unlabelled hunlabelled).2
      omega
  · have hwhole : truncate (choiceName track) 100 = choiceName track := by
      rw [truncate, truncateChars_of_le hfits, String.ofList_toList]
    rw [hwhole]
    refine ⟨?_, fun h => exists_letter_of_labelled h hfits⟩
    rintro ⟨c, hc, hletter⟩
    by_contra hunlabelled
    rw [(choiceName_of_unlabelled hunlabelled).1] at hc
    obtain rfl := List.eq_of_mem_replicate hc
    exact absurd hletter (by decide)

/-! ## Addresses -/

/-- What the `url` crate makes of the page of a video: the address as it is, with the
identifier as the only parameter of its query. -/
structure WatchPages (crate : UrlCrate) : Prop where
  page : ∀ id, validIdentifier id = true → ∃ url, crate.parse (watchPage ++ id) = some url ∧
    crate.text url = watchPage ++ id ∧ crate.scheme url = "https" ∧
    crate.hostStr url = some "www.youtube.com" ∧ crate.username url = "" ∧
    crate.password url = none ∧ crate.port url = none ∧ crate.path url = "/watch" ∧
    crate.queryPairs url = [("v", id)]

/-- The page of a video is classified as itself. -/
theorem classify_watchUrl {crate : UrlCrate} (hcrate : WatchPages crate)
    (hvalid : validIdentifier track.identifier = true) :
    crate.classify (watchUrl track) = .ok (.video (watchUrl track)) := by
  obtain ⟨url, hparse, htext, hscheme, hhost, husername, hpassword, hport, hpath, hpairs⟩ :=
    hcrate.page track.identifier hvalid
  have htrim : trim (watchUrl track) = watchUrl track :=
    Sample.trim_append watchPage (by decide +kernel) ⟨track.identifier, hvalid⟩
  have hvideo : crate.NamesVideo url :=
    .watch (by simp [hhost]) hpath track.identifier (by simp [UrlCrate.parameter, hpairs]) hvalid
  rw [UrlCrate.classify_of_video (by rw [htrim]; exact hparse)
    ⟨.inl hscheme, ⟨"www.youtube.com", by simp [hosts], hhost⟩, husername, hpassword, hport⟩
    (by simp [UrlCrate.parameter, hpairs]) hvideo, htext, watchUrl]

theorem of_mem_offered {tracks : List Track} (h : track ∈ offered tracks) :
    validIdentifier track.identifier = true :=
  (of_mem_unseen ((offered_sublist tracks).subset h)).1

theorem nodup_watchUrl (tracks : List Track) : ((offered tracks).map watchUrl).Nodup := by
  have hids : ((offered tracks).map Track.identifier).Nodup :=
    (nodup_unseen [] tracks).sublist ((offered_sublist tracks).map _)
  have hurls : (offered tracks).map watchUrl =
      ((offered tracks).map Track.identifier).map (watchPage ++ ·) := by
    rw [List.map_map]
    rfl
  rw [hurls]
  exact hids.map fun _ _ h => (String.append_right_inj watchPage).mp h

/-- Discord takes the choices, and each comes back as the video it names, exactly if every
track that is offered is labelled. -/
theorem searchChoices_iff (crate : UrlCrate) (hcrate : WatchPages crate) (tracks : List Track) :
    ((searchChoices tracks).length ≤ 10 ∧
      (searchChoices tracks).map Choice.value = (offered tracks).map watchUrl ∧
      ((searchChoices tracks).map Choice.value).Nodup ∧
      (∀ choice ∈ searchChoices tracks,
        crate.classify choice.value = .ok (.video choice.value)) ∧
      ∀ choice ∈ searchChoices tracks,
        (∃ c ∈ choice.name.toList, isWhitespace c = false) ∧
        (∀ c ∈ choice.name.toList, isControl c = false) ∧ units choice.name ≤ 100) ↔
    ∀ track ∈ offered tracks, Labelled track := by
  have hvalues : (searchChoices tracks).map Choice.value = (offered tracks).map watchUrl := by
    rw [searchChoices_eq, List.map_map]
    rfl
  constructor
  · rintro ⟨-, -, -, -, hnames⟩ track htrack
    rw [searchChoices_eq] at hnames
    exact exists_letter_iff.mp (hnames _ (List.mem_map_of_mem htrack)).1
  · intro hlabelled
    refine ⟨?_, hvalues, hvalues ▸ nodup_watchUrl tracks, ?_, ?_⟩
    · rw [searchChoices, List.length_take]
      omega
    · intro choice hchoice
      rw [searchChoices_eq] at hchoice
      obtain ⟨track, htrack, rfl⟩ := List.mem_map.mp hchoice
      exact classify_watchUrl hcrate (of_mem_offered htrack)
    · intro choice hchoice
      rw [searchChoices_eq] at hchoice
      obtain ⟨track, htrack, rfl⟩ := List.mem_map.mp hchoice
      refine ⟨exists_letter_iff.mpr (hlabelled track htrack), fun c hc => ?_,
        utf16Count_truncate _ _⟩
      rcases of_mem_truncate hc with hc | rfl
      · exact isControl_of_mem_choiceName hc
      · decide

/-! ## A crate that knows the pages of videos -/

namespace Sample

/-- A URL is the identifier of a video. -/
def crate : UrlCrate where
  Url := Resolver.Sample.Identifier
  parse := Resolver.Sample.after watchPage
  scheme _ := "https"
  hostStr _ := some "www.youtube.com"
  username _ := ""
  password _ := none
  port _ := none
  path _ := "/watch"
  pathSegments _ := some ["watch"]
  queryPairs id := [("v", id.1)]
  appendPair id _ _ := id
  text id := watchPage ++ id.1

theorem crate_watchPages : WatchPages crate where
  page id hvalid :=
    ⟨⟨id, hvalid⟩, Resolver.Sample.after_append watchPage ⟨id, hvalid⟩, rfl, rfl, rfl, rfl, rfl,
      rfl, rfl, rfl⟩

end Sample

/-- A search result with the given title and no author. -/
def titled (title : String) : Track :=
  ⟨"QAAA", "dQw4w9WgXcQ", title, "", 1000, false, none, "", ""⟩

theorem searchChoices_iff_titled :
    Sample.crate.classify "https://www.youtube.com/watch?v=dQw4w9WgXcQ" =
      .ok (.video "https://www.youtube.com/watch?v=dQw4w9WgXcQ") := by
  have hchoices := (searchChoices_iff Sample.crate Sample.crate_watchPages [titled "Song"]).mpr
  refine (hchoices ?_).2.2.2.1 ⟨"Song", "https://www.youtube.com/watch?v=dQw4w9WgXcQ"⟩
    (by decide +kernel)
  intro track htrack
  have hmem : offered [titled "Song"] = [titled "Song"] := by decide +kernel
  rw [hmem, List.mem_singleton] at htrack
  subst htrack
  exact .inl ⟨'S', by decide, by decide⟩

/-- A title of two control characters gives a choice whose name is one space. -/
theorem searchChoices_blank : ¬∀ choice ∈ searchChoices [titled "\x01 \x01"],
    ∃ c ∈ choice.name.toList, isWhitespace c = false := by
  intro h
  obtain ⟨c, hc, hletter⟩ :=
    h ⟨" ", "https://www.youtube.com/watch?v=dQw4w9WgXcQ"⟩ (by decide +kernel)
  obtain rfl : c = ' ' := by simpa using hc
  exact absurd hletter (by decide)

end Raydio.Views
