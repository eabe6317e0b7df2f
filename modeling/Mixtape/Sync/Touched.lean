import Mixtape.Sorting
import Mixtape.Text.Order

/-!
# Touched records

The tracks, albums and artists a pass has touched, each once, so that totals are brought up to
date once at its end.

* `Touched` — the sets of ids.
* `Touched.addTrack` and its siblings — noting one id.
-/

namespace Mixtape

/-- The ids of the records a pass has touched, each once. -/
structure Touched where
  /-- Tracks. -/
  tracks : List String := []
  /-- Albums. -/
  albums : List String := []
  /-- Artists. -/
  artists : List String := []
  deriving DecidableEq

namespace Touched

/-- Adds an id to a list that holds every id once. -/
def note (id : String) (ids : List String) : List String :=
  if id ∈ ids then ids else ids ++ [id]

/-- Notes a track. -/
def addTrack (t : Touched) (id : String) : Touched := { t with tracks := note id t.tracks }

/-- Notes an album. -/
def addAlbum (t : Touched) (id : String) : Touched := { t with albums := note id t.albums }

/-- Notes an artist. -/
def addArtist (t : Touched) (id : String) : Touched := { t with artists := note id t.artists }

/-- Whether anything was touched. -/
def any (t : Touched) : Bool := !t.tracks.isEmpty || !t.albums.isEmpty || !t.artists.isEmpty

/-- How many records were touched. -/
def count (t : Touched) : Nat := t.tracks.length + t.albums.length + t.artists.length

/-- Ids in order. -/
def sorted (ids : List String) : List String := sortBy Text.leText ids

@[simp] theorem mem_note {a id : String} {ids : List String} :
    a ∈ note id ids ↔ a = id ∨ a ∈ ids := by
  unfold note
  split
  · rename_i h
    constructor
    · exact Or.inr
    · rintro (rfl | h')
      · exact h
      · exact h'
  · simp [or_comm]

end Touched

end Mixtape
