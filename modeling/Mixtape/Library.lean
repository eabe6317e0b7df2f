import Mixtape.Track

/-!
# Library snapshots

What rules are evaluated against: the tracks and tags of a library at one moment.

* `Library` — the snapshot.
* `Library.track?` — the track with a number.
* `Library.externalIds` — the platform ids of tracks given by number.
-/

namespace Mixtape

/-- The tracks and tags of a library at one moment. -/
structure Library where
  /-- The tracks. -/
  tracks : List Track
  /-- The tags. -/
  tags : List Tag := []

namespace Library

/-- The track with a number; of several the last. -/
def track? (l : Library) (id : Int) : Option Track :=
  l.tracks.reverse.find? fun t => t.id == some id

/-- The platform ids of tracks given by number, in order; unknown numbers are passed over. -/
def externalIds (l : Library) (ids : List Int) : List String :=
  ids.filterMap fun id => (l.track? id).map Track.externalId

/-- Adds a name and its number; a name that is there keeps its place and takes the number. -/
def putName (name : String) (id : Int) : List (String × Int) → List (String × Int)
  | [] => [(name, id)]
  | (other, n) :: rest =>
    if other = name then (name, id) :: rest else (other, n) :: putName name id rest

/-- Names and numbers with every name once, at its first place with its last number. -/
def namesOf (entries : List (String × Int)) : List (String × Int) :=
  entries.foldl (fun names entry => putName entry.1 entry.2 names) []

/-- The tag names of the library and their numbers. -/
def tagNames (l : Library) : List (String × Int) := namesOf (l.tags.map fun t => (t.name, t.id))

end Library

end Mixtape
