/-
# Normalizing as a filter

Which responses resolve to tracks, and to which ones. The three ways of asking differ in
where the loop stops and in what it counts; together they take the first acceptable
entries up to one bound, and no way of asking changes a track or their order. The node is
not trusted: the response is any value.
-/

import Mathlib.Data.ENat.Lattice
import Raydio.Foundation.Words
import Raydio.Resolver.Normalize

namespace Raydio.Resolver

open Raydio.Foundation Raydio.Playback Raydio.Views

/-! ## Limits -/

/-- Every limit lets something through. The configuration refuses any other. -/
structure Limits.Positive (limits : Limits) : Prop where
  playlists : 1 ≤ limits.playlists
  queue : 1 ≤ limits.queue
  maxDurationMs : 1 ≤ limits.maxDurationMs

/-- `Limits::default`. -/
def Limits.default : Limits := ⟨250, 1000, 10800000, false⟩

theorem Limits.default_positive : Limits.default.Positive := ⟨by decide, by decide, by decide⟩

/-! ## The rule -/

/-- An entry decodes to a track that suits the request. -/
structure Accepts (search : Bool) (limits : Limits) (entry : Value) (raw : RawTrack) : Prop where
  decoded : RawTrack.ofValue entry = some raw
  encoded : ∃ c ∈ raw.encoded.toList, Text.isWhitespace c = false
  duration : raw.info.length ≤ limits.maxDurationMs
  stream : raw.info.isStream = true → limits.allowStreams = true
  source : search = true → raw.info.sourceName = "youtube"
  identifier : search = true → validIdentifier raw.info.identifier = true

/-- The track has the fields of the decoded entry as they are, and nobody has asked for it
yet. -/
structure Unchanged (raw : RawTrack) (track : Track) : Prop where
  encoded : track.encoded = raw.encoded
  identifier : track.identifier = raw.info.identifier
  title : track.title = raw.info.title
  author : track.author = raw.info.author
  durationMs : track.durationMs = raw.info.length
  stream : track.stream = raw.info.isStream
  uri : track.uri = raw.info.uri
  requesterId : track.requesterId = ""
  requestedBy : track.requestedBy = ""

/-- A well-formed response with its entries. -/
inductive Container : Value → List Value → Prop
  | track {value : Value} (kind : value.get "loadType" = .string "track") :
      Container value [value.get "data"]
  | playlist {value : Value} {raw : List Value}
      (kind : value.get "loadType" = .string "playlist")
      (tracks : (value.get "data").get "tracks" = .array raw) : Container value raw
  | search {value : Value} {raw : List Value} (kind : value.get "loadType" = .string "search")
      (tracks : value.get "data" = .array raw) : Container value raw

/-- The bound that the way of asking sets on its own. -/
def modeLimit (playlist search : Bool) (limits : Limits) : ℕ∞ :=
  if playlist then limits.playlists else if search then ⊤ else 1

variable {limits : Limits} {value entry : Value} {raw : List Value} {search playlist : Bool}
  {capacity limit : ℕ} {result : Resolution}

theorem suitable_iff {decoded : RawTrack} : decoded.unsuitable search limits = false ↔
    (∃ c ∈ decoded.encoded.toList, Text.isWhitespace c = false) ∧
      decoded.info.length ≤ limits.maxDurationMs ∧
      (decoded.info.isStream = true → limits.allowStreams = true) ∧
      (search = true → decoded.info.sourceName = "youtube" ∧
        validIdentifier decoded.info.identifier = true) := by
  have hblank : (Text.trim decoded.encoded.toList).isEmpty = false ↔
      ∃ c ∈ decoded.encoded.toList, Text.isWhitespace c = false := by
    rw [← Bool.not_eq_true, List.isEmpty_iff, Text.trim_eq_nil_iff]
    simp
  rw [← hblank, RawTrack.unsuitable]
  cases search <;> cases limits.allowStreams <;> simp [and_assoc]

/-- The code changes no field. -/
theorem unchanged_iff {decoded : RawTrack} {track : Track} :
    Unchanged decoded track ↔ track = decoded.track := by
  constructor
  · intro h
    cases track
    rw [RawTrack.track, Track.mk.injEq]
    exact ⟨h.encoded, h.identifier, h.title, h.author, h.durationMs, h.stream, h.uri,
      h.requesterId, h.requestedBy⟩
  · rintro rfl
    exact ⟨rfl, rfl, rfl, rfl, rfl, rfl, rfl, rfl, rfl⟩

/-- An entry is acceptable exactly if it decodes to a track that suits, and it is taken
with all its fields. -/
theorem acceptable_eq_some {track : Track} : acceptable search limits entry = some track ↔
    ∃ decoded, Accepts search limits entry decoded ∧ Unchanged decoded track := by
  simp only [unchanged_iff]
  rw [acceptable]
  cases hdecoded : RawTrack.ofValue entry with
  | none =>
      constructor
      · rintro ⟨⟩
      · rintro ⟨decoded, haccepts, -⟩
        rw [haccepts.decoded] at hdecoded
        cases hdecoded
  | some decoded =>
      constructor
      · intro h
        dsimp only at h
        split at h
        · cases h
        · rename_i hsuitable
          obtain ⟨hencoded, hduration, hstream, hsearch⟩ :=
            suitable_iff.mp (Bool.not_eq_true _ ▸ hsuitable)
          exact ⟨decoded, ⟨hdecoded, hencoded, hduration, hstream, fun h => (hsearch h).1,
            fun h => (hsearch h).2⟩, (Option.some.inj h).symm⟩
      · rintro ⟨decoded', haccepts, rfl⟩
        obtain rfl : decoded = decoded' := Option.some.inj (hdecoded.symm.trans haccepts.decoded)
        have hsuitable : decoded.unsuitable search limits = false :=
          suitable_iff.mpr ⟨haccepts.encoded, haccepts.duration, haccepts.stream,
            fun h => ⟨haccepts.source h, haccepts.identifier h⟩⟩
        simp [hsuitable]

/-- A value that reads as a text is that text. -/
theorem asStr_eq_some {text : String} : value.asStr = some text ↔ value = .string text := by
  cases value <;> simp [Value.asStr]

theorem entries_ok_iff : entries value = .ok raw ↔ Container value raw := by
  constructor
  · intro h
    rw [entries] at h
    split at h
    · cases h
    · cases h
    · rename_i hkind
      cases h
      exact .track (asStr_eq_some.mp hkind)
    · rename_i hkind
      split at h
      · rename_i tracks htracks
        cases h
        exact .playlist (asStr_eq_some.mp hkind) htracks
      · cases h
    · rename_i hkind
      split at h
      · rename_i tracks htracks
        cases h
        exact .search (asStr_eq_some.mp hkind) htracks
      · cases h
    · cases h
  · rintro (⟨hkind⟩ | ⟨hkind, htracks⟩ | ⟨hkind, htracks⟩)
    · simp [entries, asStr_eq_some.mpr hkind]
    · simp [entries, asStr_eq_some.mpr hkind, htracks]
    · simp [entries, asStr_eq_some.mpr hkind, htracks]

/-! ## The loop -/

/-- The counters never count an entry twice. -/
theorem collect_count_le (playlist search : Bool) (limit : ℕ) (limits : Limits) (raw : List Value)
    (result : Resolution) :
    (collect playlist search limit limits raw result).tracks.length +
        (collect playlist search limit limits raw result).rejected +
        (collect playlist search limit limits raw result).omitted ≤
      result.tracks.length + result.rejected + result.omitted + raw.length := by
  fun_induction collect playlist search limit limits raw result with
  | case1 => simp
  | case2 entry rest result hentry ih =>
      simp only [List.length_cons] at ih ⊢
      omega
  | case3 entry rest result track hentry hfull ih =>
      cases playlist <;> simp only [List.length_cons, Bool.false_eq_true, if_true, if_false] at ih ⊢
        <;> omega
  | case4 entry rest result track hentry hroom result' hdirect =>
      simp only [List.length_append, List.length_cons, List.length_nil, result']
      omega
  | case5 entry rest result track hentry hroom result' hmany ih =>
      simp only [List.length_append, List.length_cons, List.length_nil, result'] at ih ⊢
      omega

/-- A search takes the acceptable entries in order as long as there is room. -/
theorem collect_search (hroom : result.tracks.length ≤ limit) :
    (collect false true limit limits raw result).tracks =
      result.tracks ++ (raw.filterMap (acceptable true limits)).take
        (limit - result.tracks.length) := by
  induction raw generalizing result with
  | nil => simp [collect]
  | cons entry rest ih =>
      rw [collect]
      cases hentry : acceptable true limits entry with
      | none =>
          dsimp only
          rw [ih (by exact hroom), List.filterMap_cons_none hentry]
      | some track =>
          by_cases hfull : result.tracks.length ≥ limit
          · simp only [if_pos hfull, Bool.false_eq_true, if_false]
            rw [ih hroom, Nat.sub_eq_zero_of_le hfull]
            simp
          · simp only [if_neg hfull, Bool.not_true, Bool.and_false, Bool.false_eq_true, if_false]
            obtain ⟨room, hlimit⟩ : ∃ room, limit - result.tracks.length = room + 1 :=
              ⟨limit - result.tracks.length - 1, by omega⟩
            have hrest : limit - (result.tracks ++ [track]).length = room := by
              simp only [List.length_append, List.length_singleton]
              omega
            rw [ih (by simp only [List.length_append, List.length_singleton]; omega), hrest,
              hlimit, List.filterMap_cons_some hentry]
            simp

/-- A direct input takes the first acceptable entry. -/
theorem collect_direct (hlimit : 0 < limit) (hempty : result.tracks = []) :
    (collect false false limit limits raw result).tracks =
      (raw.filterMap (acceptable false limits)).take 1 := by
  induction raw generalizing result with
  | nil => simp [collect, hempty]
  | cons entry rest ih =>
      rw [collect]
      cases hentry : acceptable false limits entry with
      | none =>
          dsimp only
          rw [ih (by exact hempty), List.filterMap_cons_none hentry]
      | some track =>
          have hroom : ¬result.tracks.length ≥ limit := by
            rw [hempty, List.length_nil]
            omega
          rw [List.filterMap_cons_some hentry]
          simp only [if_neg hroom, Bool.not_false, Bool.and_self, if_true]
          simp [hempty]

/-- Each way of asking takes the first acceptable entries, up to its bound. -/
theorem collect_tracks (playlist search : Bool) (hmodes : ¬(playlist = true ∧ search = true))
    (hlimit : 0 < trackLimit playlist search capacity limits) (hempty : result.tracks = []) :
    (collect playlist search (trackLimit playlist search capacity limits) limits raw
        result).tracks =
      (raw.filterMap (acceptable search limits)).take
        (trackLimit playlist search capacity limits) := by
  have hroom : result.tracks.length ≤ trackLimit playlist search capacity limits := by
    simp [hempty]
  cases playlist with
  | true =>
      rw [(collect_playlist search _ limits raw result hroom).1]
      simp [hempty]
  | false =>
      cases search with
      | true =>
          rw [collect_search hroom]
          simp [hempty]
      | false =>
          have hone : trackLimit false false capacity limits = 1 := by
            simp only [trackLimit, Bool.false_eq_true, if_false] at hlimit ⊢
            omega
          rw [collect_direct hlimit hempty, hone]

theorem trackLimit_pos (playlist search : Bool) (hcapacity : 0 < capacity)
    (hlimits : limits.Positive) : 0 < trackLimit playlist search capacity limits := by
  obtain ⟨hplaylists, hqueue, -⟩ := hlimits
  cases playlist <;> cases search <;>
    simp only [trackLimit, Bool.false_eq_true, if_true, if_false] <;> omega

/-- The bound of a request is the least of the capacity, the room of a queue and what the
way of asking allows. -/
theorem cast_trackLimit : (trackLimit playlist search capacity limits : ℕ∞) =
    min (min (capacity : ℕ∞) limits.queue) (modeLimit playlist search limits) := by
  have hcast (m n : ℕ) : ((min m n : ℕ) : ℕ∞) = min (m : ℕ∞) n := Nat.mono_cast.map_min
  cases playlist <;> cases search <;> simp [trackLimit, modeLimit, min_assoc, hcast]

/-! ## The whole -/

/-- The resolution of a request, when the response has entries. -/
theorem normalize_of_container (playlist search : Bool) (hcapacity : 0 < capacity)
    (hentries : entries value = .ok raw) :
    normalize value playlist search capacity limits =
      let result := collect playlist search (trackLimit playlist search capacity limits) limits raw
        ⟨[], playlistName value, 0, 0⟩
      if result.tracks.isEmpty then .error .noMatch else .ok result := by
  rw [normalize, if_neg hcapacity.ne', hentries]

/-- What resolves has room, entries, and at least one track. -/
theorem normalize_ok_iff {resolution : Resolution} :
    normalize value playlist search capacity limits = .ok resolution ↔
      0 < capacity ∧ ∃ raw, entries value = .ok raw ∧ resolution.tracks ≠ [] ∧
        resolution = collect playlist search (trackLimit playlist search capacity limits) limits
          raw ⟨[], playlistName value, 0, 0⟩ := by
  rcases Nat.eq_zero_or_pos capacity with rfl | hcapacity
  · simp [normalize]
  · cases hentries : entries value with
    | error failure => simp [normalize, hentries, hcapacity.ne']
    | ok raw =>
        rw [normalize_of_container playlist search hcapacity hentries]
        constructor
        · intro h
          dsimp only at h
          split at h
          · cases h
          · rename_i hsome
            cases h
            exact ⟨hcapacity, raw, rfl, by simpa using hsome, rfl⟩
        · rintro ⟨-, raw', hraw, hsome, hresult⟩
          cases hraw
          rw [hresult] at hsome
          simp [hsome, hresult]

/-- A response resolves exactly if there is room and it holds an acceptable entry. The
tracks are then the first acceptable entries, up to the least of the bounds, as they are.
Nothing is counted twice, and a playlist counts every entry. -/
theorem normalize_filter (value : Value) (playlist search : Bool) (capacity : ℕ) (limits : Limits)
    (hmodes : ¬(playlist = true ∧ search = true)) (hlimits : limits.Positive) :
    (∀ entry track, acceptable search limits entry = some track ↔
      ∃ decoded, Accepts search limits entry decoded ∧ Unchanged decoded track) ∧
    ((∃ resolution, normalize value playlist search capacity limits = .ok resolution) ↔
      0 < capacity ∧ ∃ raw, Container value raw ∧
        ∃ entry ∈ raw, ∃ decoded, Accepts search limits entry decoded) ∧
    ∀ resolution, normalize value playlist search capacity limits = .ok resolution →
      ∃ raw, Container value raw ∧
        resolution.tracks <+: raw.filterMap (acceptable search limits) ∧
        (resolution.tracks.length : ℕ∞) =
          min (min (min ((raw.filterMap (acceptable search limits)).length : ℕ∞) capacity)
            limits.queue) (modeLimit playlist search limits) ∧
        resolution.tracks.length + resolution.rejected + resolution.omitted ≤ raw.length ∧
        (playlist = true →
          resolution.tracks.length + resolution.rejected + resolution.omitted = raw.length) := by
  refine ⟨fun entry track => acceptable_eq_some, ?_, ?_⟩
  · constructor
    · rintro ⟨resolution, h⟩
      obtain ⟨hcapacity, raw, hentries, hsome, hresult⟩ := normalize_ok_iff.mp h
      obtain ⟨track, htrack⟩ := List.exists_mem_of_ne_nil _ hsome
      rw [hresult, collect_tracks playlist search hmodes
        (trackLimit_pos playlist search hcapacity hlimits) rfl] at htrack
      obtain ⟨entry, hentry, haccept⟩ := List.mem_filterMap.mp (List.mem_of_mem_take htrack)
      obtain ⟨decoded, haccepts, -⟩ := acceptable_eq_some.mp haccept
      exact ⟨hcapacity, raw, entries_ok_iff.mp hentries, entry, hentry, decoded, haccepts⟩
    · rintro ⟨hcapacity, raw, hcontainer, entry, hentry, decoded, haccepts⟩
      have hlimit := trackLimit_pos playlist search hcapacity hlimits
      refine ⟨_, normalize_ok_iff.mpr
        ⟨hcapacity, raw, entries_ok_iff.mpr hcontainer, ?_, rfl⟩⟩
      rw [collect_tracks playlist search hmodes hlimit rfl]
      have hmem : decoded.track ∈ raw.filterMap (acceptable search limits) :=
        List.mem_filterMap.mpr ⟨entry, hentry,
          acceptable_eq_some.mpr ⟨decoded, haccepts, unchanged_iff.mpr rfl⟩⟩
      intro hnil
      rcases List.take_eq_nil_iff.mp hnil with hzero | hnone
      · omega
      · rw [hnone] at hmem
        cases hmem
  · intro resolution h
    obtain ⟨hcapacity, raw, hentries, -, hresult⟩ := normalize_ok_iff.mp h
    have hlimit := trackLimit_pos playlist search hcapacity hlimits
    have htracks : resolution.tracks = (raw.filterMap (acceptable search limits)).take
        (trackLimit playlist search capacity limits) := by
      rw [hresult, collect_tracks playlist search hmodes hlimit rfl]
    refine ⟨raw, entries_ok_iff.mp hentries, ?_, ?_, ?_, ?_⟩
    · rw [htracks]
      exact List.take_prefix _ _
    · rw [htracks, List.length_take, min_comm, Nat.mono_cast.map_min, cast_trackLimit, min_assoc,
        min_assoc, min_assoc]
    · rw [hresult]
      simpa using collect_count_le playlist search
        (trackLimit playlist search capacity limits) limits raw ⟨[], playlistName value, 0, 0⟩
    · rintro rfl
      have hcount := (collect_playlist search (trackLimit true search capacity limits) limits raw
        ⟨[], playlistName value, 0, 0⟩ (Nat.zero_le _)).2
      rw [← hresult] at hcount
      simp only [List.length_nil, Nat.zero_add] at hcount
      omega

/-- A search whose first entry is not a track. -/
def mixedSearch : Value :=
  .object [("loadType", .string "search"), ("data", .array [.null, .object [
    ("encoded", .string "QAAA"),
    ("info", .object [("identifier", .string "a-1"), ("title", .string "Song"),
      ("author", .string "Band"), ("length", .number (.posInt 1000)),
      ("isStream", .bool false), ("sourceName", .string "youtube")])]])]

theorem normalize_filter_mixedSearch : ∃ resolution,
    normalize mixedSearch false true 3 Limits.default = .ok resolution := by
  refine (normalize_filter mixedSearch false true 3 Limits.default (by decide)
    Limits.default_positive).2.1.mpr ⟨by decide, _, .search rfl rfl, _,
      List.mem_cons_of_mem _ List.mem_cons_self,
      ⟨"QAAA", ⟨"a-1", "Song", "Band", 1000, false, none, "youtube"⟩⟩, ?_⟩
  exact ⟨by decide +kernel, ⟨'Q', by decide, by decide⟩, by decide, by decide, fun _ => rfl,
    fun _ => by decide +kernel⟩

end Raydio.Resolver
