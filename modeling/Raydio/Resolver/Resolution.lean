/-
# Results of resolving a play request
-/

import Raydio.Playback.Queue

namespace Raydio.Resolver

open Raydio.Playback

/-- Why a request resolved to nothing. -/
inductive Failure
  | noMatch
  | invalidResponse
  | loadFailed
  | unavailable
  | unsupported
  | full
  deriving DecidableEq, Repr

/-- The tracks of a request, the playlist they came from and what was left out. -/
structure Resolution where
  tracks : List Track
  playlist : Option String
  rejected : ℕ
  omitted : ℕ
  deriving DecidableEq, Repr

/-- The bounds a resolution is held to. -/
structure Limits where
  playlists : ℕ
  queue : ℕ
  maxDurationMs : ℕ
  allowStreams : Bool
  deriving DecidableEq, Repr

end Raydio.Resolver
