/-
# No entry of a playlist is unaccounted for

The capacity of a playlist is fixed when its request starts to load, and the room in the
queue is another when the request is committed. Whatever happened in between, a commit
that gets to the enqueue adds a track, and what is added, reported as omitted and
reported as unsuitable adds up to the entries of the response.

Only a playlist link is counted like this. Of the response to any other request at most
one track is wanted, and the others are not counted at all, also if the node answers
with a playlist.
-/

import Raydio.Resolver.Normalize
import Raydio.Session.Authorization

namespace Raydio.Playback.Queue

variable {self : Queue} {maxTracks : ℕ}

/-- What an enqueue does, whether or not something is current. -/
theorem enqueue_spec (self : Queue) (tracks : List Track) (maxTracks : ℕ) :
    (self.enqueue tracks maxTracks).1 = min (maxTracks - self.len) tracks.length ∧
      (self.enqueue tracks maxTracks).2.current =
        (self.current <|> (tracks.take (maxTracks - self.len)).head?) ∧
      (self.enqueue tracks maxTracks).2.upcoming = self.upcoming ++
        (if self.current.isSome then tracks.take (maxTracks - self.len)
          else (tracks.take (maxTracks - self.len)).tail) := by
  cases hcurrent : self.current with
  | some current =>
      rw [enqueue_of_some hcurrent]
      exact ⟨List.length_take, hcurrent, rfl⟩
  | none =>
      cases htake : tracks.take (maxTracks - self.len) with
      | nil =>
          rw [enqueue_of_none_of_nil hcurrent htake, ← List.length_take, htake]
          exact ⟨rfl, hcurrent, (List.append_nil _).symm⟩
      | cons first rest =>
          rw [enqueue_of_none_of_cons hcurrent htake, ← List.length_take, htake]
          exact ⟨rfl, rfl, rfl⟩

/-- The queue grows by what was added. -/
theorem len_enqueue (self : Queue) (tracks : List Track) (maxTracks : ℕ) :
    (self.enqueue tracks maxTracks).2.len = self.len + (self.enqueue tracks maxTracks).1 := by
  cases hcurrent : self.current with
  | some current =>
      rw [enqueue_of_some hcurrent]
      simp [len, hcurrent, Nat.add_assoc]
  | none =>
      cases htake : tracks.take (maxTracks - self.len) with
      | nil =>
          rw [enqueue_of_none_of_nil hcurrent htake]
          rfl
      | cons first rest =>
          rw [enqueue_of_none_of_cons hcurrent htake]
          simp only [len, hcurrent, Option.isSome_some, Option.isSome_none, List.length_append]
          simp only [Bool.false_eq_true, if_true, if_false]
          omega

end Raydio.Playback.Queue

namespace Raydio.Session

open Raydio.Foundation Raydio.Playback Raydio.Discord Raydio.Resolver

/-! ## Reaching the enqueue -/

namespace GuildSession

/-- The voice check of a commit passes. -/
def mayPlay (self : GuildSession) (pending : Pending) : Bool :=
  match self.shared.access self.id pending.request.user (some pending.channel) with
  | .ok _ => true
  | .error _ => false

/-- The session on which a commit enqueues, if it gets there. -/
def reachesEnqueue (self : GuildSession) (pending : Pending) : Option GuildSession :=
  if pending.epoch ≠ self.epoch ∨ self.mayPlay pending = false ∨
      (self.channel.any fun active => active != pending.channel) ∨
        self.queue.len ≥ self.shared.config.limits.queue then none
  else if self.channel.isNone then
    let joined := (self.mark (.joined pending.admission)).join pending.channel
    if joined.1 && joined.2.mayPlay pending then some joined.2 else none
  else some self

variable (self : GuildSession)

theorem access_of_mayPlay {pending : Pending} (h : self.mayPlay pending = true) :
    ∃ channel, self.shared.access self.id pending.request.user (some pending.channel) =
      .ok channel := by
  rw [mayPlay] at h
  split at h
  · rename_i channel haccess
    exact ⟨channel, haccess⟩
  · cases h

theorem commitJoined_of_mayPlay {pending : Pending} (resolution : Resolution)
    (h : self.mayPlay pending = true) :
    self.commitJoined pending resolution = self.enqueueResolved pending resolution := by
  obtain ⟨channel, haccess⟩ := self.access_of_mayPlay h
  rw [commitJoined, haccess]

/-- A commit that gets to the enqueue has room in the queue, which is the one it began
with. -/
theorem commit_of_reaches {pending : Pending} {middle : GuildSession}
    (h : self.reachesEnqueue pending = some middle) (resolution : Resolution) :
    self.commit pending (.ok resolution) = middle.enqueueResolved pending resolution ∧
      middle.queue = self.queue ∧ self.queue.len < self.shared.config.limits.queue ∧
        middle.shared.config = self.shared.config := by
  rw [reachesEnqueue] at h
  split at h
  · cases h
  · rename_i hguard
    simp only [not_or, Bool.not_eq_false, not_not, not_le] at hguard
    obtain ⟨hepoch, hmay, hsame, hroom⟩ := hguard
    obtain ⟨channel, haccess⟩ := self.access_of_mayPlay hmay
    have hcommit : self.commit pending (.ok resolution) =
        if self.channel.isNone then
          if ((self.mark (.joined pending.admission)).join pending.channel).1 then
            ((self.mark (.joined pending.admission)).join pending.channel).2.commitJoined pending
              resolution
          else ((((self.mark (.joined pending.admission)).join pending.channel).2.cleanup
            none).error pending.request
              "I could not join that voice channel. Check its permissions and try again.")
        else self.commitJoined pending resolution := by
      rw [commit, if_neg (not_not.mpr hepoch)]
      dsimp only
      rw [haccess]
      dsimp only
      rw [if_neg hsame, if_neg (not_le.mpr hroom)]
    rw [hcommit]
    split at h
    · rename_i haway
      dsimp only at h
      split at h
      · rename_i hjoined
        cases h
        rw [Bool.and_eq_true] at hjoined
        obtain ⟨hjoins, hmay'⟩ := hjoined
        have hsetting := (join_setting (self.mark (.joined pending.admission)) pending.channel).1
          hjoins
        have hconfig := join_config (self.mark (.joined pending.admission)) pending.channel
          (Option.isNone_iff_eq_none.mp haway)
        rw [if_pos haway, if_pos hjoins]
        exact ⟨commitJoined_of_mayPlay _ resolution hmay', congrArg Setting.queue hsetting, hroom,
          hconfig⟩
      · cases h
    · rename_i hactive
      cases h
      rw [if_neg hactive]
      exact ⟨self.commitJoined_of_mayPlay resolution hmay, rfl, hroom, rfl⟩

end GuildSession

/-! ## Accounting -/

/-- A track in the name of the user who asked for it. -/
def requestedTrack (request : Request) (track : Track) : Track :=
  { track with requesterId := toString request.user, requestedBy := request.label }

/-- What a commit does with the acceptable entries of a response: the first `added` of them
enter the queue in the name of the user, behind what is queued, and the first of these
becomes current if nothing is. -/
structure Accounted (request : Request) (maxTracks entries : ℕ) (acceptable : List Track)
    (added omitted rejected : ℕ) (before after : Queue) : Prop where
  some_added : 1 ≤ added
  added_le : added ≤ acceptable.length
  sum : added + omitted + rejected = entries
  current : after.current =
    (before.current <|> ((acceptable.take added).map (requestedTrack request)).head?)
  upcoming : after.upcoming = before.upcoming ++
    (if before.current.isSome then (acceptable.take added).map (requestedTrack request)
      else ((acceptable.take added).map (requestedTrack request)).tail)
  len_le : after.len ≤ maxTracks

/-- Entering the acceptable entries that a playlist link resolved to accounts for all
entries of the response. -/
theorem accounted_enqueue {limits : Limits} {capacity : ℕ} {value : Value} {raw : List Value}
    {resolution : Resolution} (request : Request) {before : Queue}
    (hentries : entries value = .ok raw)
    (hresolved : normalize value true false capacity limits = .ok resolution)
    (hroom : before.len < limits.queue) :
    let enqueued := before.enqueue (requestedTracks request resolution) limits.queue
    Accounted request limits.queue raw.length (raw.filterMap (acceptable false limits)) enqueued.1
      (resolution.omitted + (requestedTracks request resolution).length - enqueued.1)
      resolution.rejected before enqueued.2 := by
  obtain ⟨htracks, hsome, hcount⟩ := normalize_playlist hentries hresolved
  obtain ⟨hadded, hcurrent, hupcoming⟩ :=
    before.enqueue_spec (requestedTracks request resolution) limits.queue
  intro enqueued
  have hlength : (requestedTracks request resolution).length = resolution.tracks.length :=
    List.length_map _
  have hpos : 0 < resolution.tracks.length := List.length_pos_iff.mpr hsome
  have hle : enqueued.1 ≤ resolution.tracks.length := by
    show (before.enqueue _ _).1 ≤ _
    omega
  have hacceptable : resolution.tracks.length = min (trackLimit true false capacity limits)
      (raw.filterMap (acceptable false limits)).length := by
    rw [htracks, List.length_take]
  have htaken : (requestedTracks request resolution).take (limits.queue - before.len) =
      ((raw.filterMap (acceptable false limits)).take enqueued.1).map (requestedTrack request) := by
    have hmap : requestedTracks request resolution =
        resolution.tracks.map (requestedTrack request) := rfl
    have hsame : (raw.filterMap (acceptable false limits)).take
        (min (limits.queue - before.len) (trackLimit true false capacity limits)) =
          (raw.filterMap (acceptable false limits)).take enqueued.1 := by
      rw [List.take_eq_take_iff]
      show _ = min (before.enqueue _ _).1 _
      omega
    rw [hmap, ← List.map_take, htracks, List.take_take, hsame]
  refine ⟨?_, ?_, ?_, ?_, ?_, ?_⟩
  · show 1 ≤ (before.enqueue _ _).1
    omega
  · omega
  · omega
  · rw [← htaken]
    exact hcurrent
  · rw [← htaken]
    exact hupcoming
  · show (before.enqueue _ _).2.len ≤ _
    rw [Queue.len_enqueue]
    omega

namespace GuildSession

/-- What a commit does once its tracks are in the queue. -/
theorem enqueueResolved_eq (self : GuildSession) (pending : Pending) {resolution : Resolution}
    (hadded : 1 ≤ (self.queue.enqueue (requestedTracks pending.request resolution)
      self.shared.config.limits.queue).1) :
    let enqueued := self.queue.enqueue (requestedTracks pending.request resolution)
      self.shared.config.limits.queue
    ∃ (first : Track) (entered : GuildSession), entered.queue = enqueued.2 ∧
      self.enqueueResolved pending resolution =
        if self.queue.current.isNone then
          entered.replyStarted pending.request resolution enqueued.1
            (resolution.omitted + (requestedTracks pending.request resolution).length - enqueued.1)
        else entered.replyQueued pending.request resolution first enqueued.1
            (resolution.omitted + (requestedTracks pending.request resolution).length -
              enqueued.1) := by
  intro enqueued
  cases htracks : requestedTracks pending.request resolution with
  | nil =>
      obtain ⟨hnone, -, -⟩ := self.queue.enqueue_spec [] self.shared.config.limits.queue
      rw [htracks, hnone] at hadded
      simp at hadded
  | cons first rest =>
      have hne : enqueued.1 ≠ 0 := Nat.one_le_iff_ne_zero.mp hadded
      refine ⟨first, ({ self with queue := enqueued.2 } : GuildSession).noteEnqueued pending,
        rfl, ?_⟩
      rw [← htracks, enqueueResolved]
      dsimp only
      have hhead : (requestedTracks pending.request resolution).head? = some first := by
        rw [htracks]
        rfl
      rw [hhead]
      dsimp only
      rw [if_neg hne]

end GuildSession

/-- When the commit of a playlist link gets to the enqueue, then whatever happened since its
request started to load: it adds a track, no fewer than it reports, and answers with counts
that account for all entries of the response. -/
theorem playlist_accounted (session : GuildSession) (pending : Pending) (value : Value)
    (raw : List Value) (capacity : ℕ) (resolution : Resolution) {middle : GuildSession}
    (hplaylist : value.get "loadType" = .string "playlist")
    (hraw : (value.get "data").get "tracks" = .array raw)
    (hresolved : normalize value true false capacity session.shared.config.limits =
      .ok resolution)
    (hreaches : session.reachesEnqueue pending = some middle) :
    ∃ (added omitted : ℕ) (first : Track) (entered : GuildSession),
      Accounted pending.request session.shared.config.limits.queue raw.length
        (raw.filterMap (acceptable false session.shared.config.limits)) added omitted
        resolution.rejected session.queue entered.queue ∧
      added ≤ resolution.tracks.length ∧
      omitted = resolution.omitted + resolution.tracks.length - added ∧
      session.commit pending (.ok resolution) =
        if session.queue.current.isNone then
          entered.replyStarted pending.request resolution added omitted
        else entered.replyQueued pending.request resolution first added omitted := by
  have hentries : entries value = .ok raw := by
    simp [entries, hplaylist, hraw, Value.asStr]
  obtain ⟨hcommit, hqueue, hroom, hconfig⟩ := session.commit_of_reaches hreaches resolution
  have haccounted := accounted_enqueue pending.request hentries hresolved hroom
  obtain ⟨first, entered, hentered, hreply⟩ := middle.enqueueResolved_eq pending (by
    rw [hqueue, hconfig]
    exact haccounted.some_added)
  rw [hqueue, hconfig] at hreply hentered
  have hlength : (requestedTracks pending.request resolution).length = resolution.tracks.length :=
    List.length_map _
  dsimp only at haccounted
  rw [← hentered, hlength] at haccounted
  rw [hlength] at hreply
  refine ⟨_, _, first, entered, haccounted, ?_, rfl, ?_⟩
  · obtain ⟨hadded, -, -⟩ := session.queue.enqueue_spec
      (requestedTracks pending.request resolution) session.shared.config.limits.queue
    omega
  · rw [hcommit, hreply]

namespace Sample

/-- An entry of a response. -/
def entry (encoded : String) (length : UInt64) : Value :=
  .object [("encoded", .string encoded), ("info", .object
    [("identifier", .string encoded), ("title", .string encoded), ("author", .string "author"),
      ("length", .number (.posInt length)), ("isStream", .bool false),
      ("sourceName", .string "youtube")])]

/-- A playlist of three entries, the second of which is too long. -/
def list : List Value := [entry "a" 60000, entry "b" 100000000, entry "c" 60000]

def response : Value :=
  .object [("loadType", .string "playlist"), ("data", .object [("tracks", .array list)])]

/-- A request of the user, which was admitted in the voice channel. -/
def admitted : Pending := ⟨command "play" [("request", .string "song")], 5, 0, 1, 1⟩

/-- A session in the voice channel with room for one more track. -/
def almostFull : GuildSession := { GuildSession.new 1
    { shared with config.limits := ⟨20, 3, 600000, true⟩ } with
  channel := some 5
  queue := { Queue.default with current := some (track "x"), upcoming := [track "y"] } }

end Sample

/-- Of the three entries one is added, one does not suit, and one is reported as omitted. -/
theorem playlist_accounted_list : ∃ (added omitted : ℕ) (first : Track) (entered : GuildSession),
    Accounted Sample.admitted.request Sample.almostFull.shared.config.limits.queue
      Sample.list.length
      (Sample.list.filterMap (acceptable false Sample.almostFull.shared.config.limits)) added
      omitted 1 Sample.almostFull.queue entered.queue ∧
    added ≤ 2 ∧ omitted = 0 + 2 - added ∧
      Sample.almostFull.commit Sample.admitted
          (.ok ⟨[Sample.track "a", Sample.track "c"], none, 1, 0⟩) =
        if Sample.almostFull.queue.current.isNone then
          entered.replyStarted Sample.admitted.request
            ⟨[Sample.track "a", Sample.track "c"], none, 1, 0⟩ added omitted
        else entered.replyQueued Sample.admitted.request
          ⟨[Sample.track "a", Sample.track "c"], none, 1, 0⟩ first added omitted :=
  have hreaches : (Sample.almostFull.reachesEnqueue Sample.admitted).isSome = true := by
    decide +kernel
  playlist_accounted Sample.almostFull Sample.admitted Sample.response Sample.list 3
    ⟨[Sample.track "a", Sample.track "c"], none, 1, 0⟩ rfl rfl (by decide +kernel)
    (Option.some_get hreaches).symm

/-- If the node answers a link to a single video with the playlist, one entry is added and
the two others are neither added nor reported. -/
theorem video_link_unaccounted :
    Sample.response.get "loadType" = .string "playlist" ∧
    normalize Sample.response false false 3 Sample.almostFull.shared.config.limits =
      .ok ⟨[Sample.track "a"], none, 0, 0⟩ ∧
    (Sample.almostFull.reachesEnqueue Sample.admitted).isSome = true ∧
    let added := (Sample.almostFull.queue.enqueue (requestedTracks Sample.admitted.request
      ⟨[Sample.track "a"], none, 0, 0⟩) Sample.almostFull.shared.config.limits.queue).1
    added = 1 ∧ added + (0 + 1 - added) + 0 ≠ Sample.list.length :=
  ⟨rfl, by decide +kernel, by decide +kernel, by decide +kernel⟩

end Raydio.Session
