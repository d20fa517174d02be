/-
# Normalizing the response of the music node

The tracks of a response are decoded one by one, checked against the limits and
counted: what cannot be decoded or does not suit is rejected, what suits but finds no
room is omitted. Only a playlist link has more than its own tracks to count, so that
nothing is counted as omitted for the others.
-/

import Raydio.Foundation.Json
import Raydio.Resolver.Resolution
import Raydio.Views.View

namespace Raydio.Resolver

open Raydio.Foundation Raydio.Playback Raydio.Views

/-! ## Decoding -/

/-- The information of a track in a response. -/
structure Info where
  identifier : String
  title : String
  author : String
  length : ℕ
  isStream : Bool
  uri : Option String
  sourceName : String
  deriving DecidableEq, Repr

/-- A track of a response. -/
structure RawTrack where
  encoded : String
  info : Info
  deriving DecidableEq, Repr

/-- `Option<String>` of a value. -/
def optionalString : Value → Option (Option String)
  | .null => some none
  | .string text => some (some text)
  | _ => none

/-- `Info` of a value: an object by the names of its keys, where only `uri` may be
missing, or an array by position. -/
def Info.ofValue : Value → Option Info
  | .object fields => do
      let value := Value.object fields
      let identifier ← (value.get "identifier").asStr
      let title ← (value.get "title").asStr
      let author ← (value.get "author").asStr
      let length ← (value.get "length").asU64
      let isStream ← (value.get "isStream").asBool
      let uri ← optionalString (value.get "uri")
      let sourceName ← (value.get "sourceName").asStr
      return ⟨identifier, title, author, length, isStream, uri, sourceName⟩
  | .array [identifier, title, author, length, isStream, uri, sourceName] => do
      return ⟨← identifier.asStr, ← title.asStr, ← author.asStr, ← length.asU64,
        ← isStream.asBool, ← optionalString uri, ← sourceName.asStr⟩
  | _ => none

/-- `RawTrack` of a value. -/
def RawTrack.ofValue : Value → Option RawTrack
  | .object fields => do
      let value := Value.object fields
      return ⟨← (value.get "encoded").asStr, ← Info.ofValue (value.get "info")⟩
  | .array [encoded, info] => do return ⟨← encoded.asStr, ← Info.ofValue info⟩
  | _ => none

/-! ## Suiting -/

/-- A decoded track does not suit. -/
def RawTrack.unsuitable (self : RawTrack) (search : Bool) (limits : Limits) : Bool :=
  (Text.trim self.encoded.toList).isEmpty ||
    decide (self.info.length > limits.maxDurationMs) ||
    (!limits.allowStreams && self.info.isStream) ||
    (search && (self.info.sourceName != "youtube" || !validIdentifier self.info.identifier))

/-- The track of a decoded one, which nobody has asked for yet. -/
def RawTrack.track (self : RawTrack) : Track :=
  { encoded := self.encoded, identifier := self.info.identifier, title := self.info.title
    author := self.info.author, durationMs := self.info.length, stream := self.info.isStream
    uri := self.info.uri, requesterId := "", requestedBy := "" }

/-- The track of an entry that can be decoded and suits. -/
def acceptable (search : Bool) (limits : Limits) (entry : Value) : Option Track :=
  match RawTrack.ofValue entry with
  | none => none
  | some raw => if raw.unsuitable search limits then none else some raw.track

/-! ## Counting -/

/-- The loop of `normalize`. -/
def collect (playlist search : Bool) (limit : ℕ) (limits : Limits) :
    List Value → Resolution → Resolution
  | [], result => result
  | entry :: rest, result =>
      match acceptable search limits entry with
      | none =>
          collect playlist search limit limits rest { result with rejected := result.rejected + 1 }
      | some track =>
          if result.tracks.length ≥ limit then
            collect playlist search limit limits rest
              (if playlist then { result with omitted := result.omitted + 1 } else result)
          else
            let result := { result with tracks := result.tracks ++ [track] }
            if !playlist && !search then result
            else collect playlist search limit limits rest result

/-- The entries of a response. -/
def entries (value : Value) : Except Failure (List Value) :=
  match (value.get "loadType").asStr with
  | some "error" => .error .loadFailed
  | some "empty" => .error .noMatch
  | some "track" => .ok [value.get "data"]
  | some "playlist" =>
      match (value.get "data").get "tracks" with
      | .array tracks => .ok tracks
      | _ => .error .invalidResponse
  | some "search" =>
      match value.get "data" with
      | .array tracks => .ok tracks
      | _ => .error .invalidResponse
  | _ => .error .invalidResponse

/-- How many tracks a request may have. -/
def trackLimit (playlist search : Bool) (capacity : ℕ) (limits : Limits) : ℕ :=
  min (min capacity limits.queue)
    (if playlist then limits.playlists else if search then capacity else 1)

/-- The name of the playlist of a response. -/
def playlistName (value : Value) : Option String :=
  if (value.get "loadType").isStr "playlist" then
    (((value.get "data").get "info").get "name").asStr
  else none

/-- `normalize`. -/
def normalize (value : Value) (playlist search : Bool) (capacity : ℕ) (limits : Limits) :
    Except Failure Resolution :=
  if capacity = 0 then .error .full
  else match entries value with
  | .error failure => .error failure
  | .ok raw =>
      let result := collect playlist search (trackLimit playlist search capacity limits) limits raw
        ⟨[], playlistName value, 0, 0⟩
      if result.tracks.isEmpty then .error .noMatch else .ok result

/-! ## What a playlist link counts -/

variable {limits : Limits}

/-- Every entry of a playlist link is taken, omitted or rejected, and the acceptable ones
are taken in order as long as there is room. -/
theorem collect_playlist (search : Bool) (limit : ℕ) (limits : Limits) (raw : List Value)
    (result : Resolution) (hroom : result.tracks.length ≤ limit) :
    (collect true search limit limits raw result).tracks =
        result.tracks ++ (raw.filterMap (acceptable search limits)).take
          (limit - result.tracks.length) ∧
      (collect true search limit limits raw result).tracks.length +
          (collect true search limit limits raw result).omitted +
          (collect true search limit limits raw result).rejected =
        result.tracks.length + result.omitted + result.rejected + raw.length := by
  induction raw generalizing result with
  | nil => simp [collect]
  | cons entry rest ih =>
      rw [collect]
      cases hentry : acceptable search limits entry with
      | none =>
          obtain ⟨htracks, hcount⟩ := ih { result with rejected := result.rejected + 1 } hroom
          refine ⟨?_, ?_⟩
          · simpa [List.filterMap_cons, hentry] using htracks
          · simp only [List.length_cons] at hcount ⊢
            omega
      | some track =>
          by_cases hfull : result.tracks.length ≥ limit
          · obtain ⟨htracks, hcount⟩ := ih { result with omitted := result.omitted + 1 } hroom
            have hzero : limit - result.tracks.length = 0 := Nat.sub_eq_zero_of_le hfull
            simp only [if_pos hfull, if_true]
            refine ⟨?_, ?_⟩
            · rw [htracks, hzero]
              simp
            · simp only [List.length_cons] at hcount ⊢
              omega
          · obtain ⟨htracks, hcount⟩ := ih { result with tracks := result.tracks ++ [track] } (by
              simp only [List.length_append, List.length_singleton]
              omega)
            obtain ⟨room, hlimit⟩ : ∃ room, limit - result.tracks.length = room + 1 :=
              ⟨limit - result.tracks.length - 1, by omega⟩
            have hrest : limit - (result.tracks ++ [track]).length = room := by
              simp only [List.length_append, List.length_singleton]
              omega
            simp only [if_neg hfull, Bool.not_true, Bool.false_and, Bool.false_eq_true, if_false]
            refine ⟨?_, ?_⟩
            · rw [htracks, hrest, hlimit, List.filterMap_cons, hentry]
              simp
            · simp only [List.length_append, List.length_cons, List.length_nil] at hcount ⊢
              omega

/-- The resolution of a playlist link accounts for every entry of the response. -/
theorem normalize_playlist {value : Value} {capacity : ℕ} {resolution : Resolution}
    {raw : List Value} (hentries : entries value = .ok raw)
    (h : normalize value true false capacity limits = .ok resolution) :
    resolution.tracks = (raw.filterMap (acceptable false limits)).take
        (trackLimit true false capacity limits) ∧
      resolution.tracks ≠ [] ∧
      resolution.tracks.length + resolution.omitted + resolution.rejected = raw.length := by
  rw [normalize] at h
  split at h
  · cases h
  · rw [hentries] at h
    dsimp only at h
    obtain ⟨htracks, hcount⟩ := collect_playlist false
      (trackLimit true false capacity limits) limits raw ⟨[], playlistName value, 0, 0⟩
      (Nat.zero_le _)
    split at h
    · cases h
    · rename_i hsome
      cases h
      refine ⟨by simpa using htracks, ?_, by simpa using hcount⟩
      rwa [List.isEmpty_iff] at hsome

end Raydio.Resolver
