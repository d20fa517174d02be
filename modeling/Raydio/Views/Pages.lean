/-
# The pages of the queue list

The upcoming tracks in pages of ten, numbered as the commands that edit the queue address
them. The pages together have every upcoming track once. A page of a queue of the usual
size is short enough to be shown whole: what is untrusted in it is cut piece by piece.
-/

import Raydio.Playback.Admission
import Raydio.Playback.Positions
import Raydio.Views.Player

namespace Raydio.Views

open Raydio.Foundation Raydio.Foundation.Text Raydio.Playback

/-! ## Slices -/

/-- How many pages a queue has. -/
def pageCount (queue : Queue) : ℕ := max ((queue.upcoming.length + 9) / 10) 1

/-- The page that is shown for a requested one. -/
def shownPage (queue : Queue) (requested : ℕ) : ℕ := min requested (pageCount queue - 1)

/-- The upcoming tracks with their numbers. -/
def numbered (queue : Queue) : List (ℕ × Track) :=
  queue.upcoming.zipIdx.map fun (track, index) => (index + 1, track)

/-- The identifier of the button that leads to a page. -/
def pageId (session : String) (page : ℕ) : String :=
  "raydio:queue:" ++ session ++ s!":{page}"

variable {self : Queue} {current : Track} {requested page number : ℕ} {track : Track}

theorem length_numbered : (numbered self).length = self.upcoming.length := by
  simp [numbered]

/-- The numbers count the upcoming tracks from one. -/
theorem numbers : (numbered self).map Prod.fst = List.range' 1 self.upcoming.length := by
  rw [numbered, List.map_map]
  apply List.ext_getElem
  · simp
  · intro index hleft hright
    simp [Nat.add_comm]

/-- A track is live, or of unknown duration, or takes three hours at most. -/
def Bounded (track : Track) : Prop := track.stream = false → track.durationMs ≤ 10800000

end Raydio.Views
