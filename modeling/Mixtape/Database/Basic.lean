import Mixtape.Action
import Mixtape.Database.Column
import Mixtape.Jobs.Job
import Mixtape.Library
import Mixtape.Playlist

/-!
# The database

The tables the program keeps. Rows of a table stand in the order in which they were put in, and
are numbered upwards from one. Dates lose their offset when they are stored: what is kept is the
wall clock, read back as universal time.

* `TrackRow`, `SourceLink`, `PlayRow`, `Totals`, `PlaylistRow`, `SnapshotRow` — the rows.
* `Database` — the tables.
* `Database.nextId` — the number of a new row.
-/

namespace Mixtape

/-- A track as it is stored, without its tags and sources. -/
structure TrackRow where
  /-- The number. -/
  id : Int
  /-- The id at the platform; no two rows share it. -/
  externalId : String
  /-- The title. -/
  title : String
  /-- The artist. -/
  artist : String
  /-- The album. -/
  album : String := ""
  /-- The id of the artist at the platform. -/
  artistId : Option String := none
  /-- The id of the album at the platform. -/
  albumId : Option String := none
  /-- The duration in milliseconds. -/
  duration : Json := .int 0
  /-- When the track was released. -/
  releaseDate : Option Timestamp := none
  /-- When it was added. -/
  addedAt : Timestamp
  /-- The user's rating. -/
  rating : Option Rating := none
  /-- When it was rated. -/
  ratedAt : Option Timestamp := none
  /-- How often it was played. -/
  playCount : Json := .int 0
  /-- When it was last played. -/
  lastPlayedAt : Option Timestamp := none
  /-- Its audio features. -/
  features : Option Json := none
  deriving DecidableEq

/-- One way one track came into the library. A source without id is stored with an empty one; no
two links share track, type and id. -/
structure SourceLink where
  /-- The number of the track. -/
  track : Int
  /-- How. -/
  type : SourceType
  /-- The album, playlist or artist it came with. -/
  sourceId : String
  /-- The name of that album, playlist or artist. -/
  name : Option String
  deriving DecidableEq

/-- One play of a track; no two rows share track and time. -/
structure PlayRow where
  /-- The number of the track. -/
  track : Int
  /-- When it was played. -/
  playedAt : Timestamp
  /-- For how many milliseconds. -/
  duration : Json
  deriving DecidableEq

/-- What is known of an album or an artist, and the totals over its tracks. -/
structure Totals where
  /-- The id at the platform. -/
  id : String
  /-- The name. -/
  name : String
  /-- How many tracks of the library belong to it. -/
  trackCount : Nat := 0
  /-- The mean of their ratings, if any is rated. -/
  averageRating : Option Binary64 := none
  deriving DecidableEq

/-- A smart playlist as it is stored; its criteria are kept as a document. -/
structure PlaylistRow where
  /-- The number. -/
  id : Int
  /-- The name; no two rows share it. -/
  name : String
  /-- The description. -/
  description : Option String
  /-- The criteria. -/
  criteria : Json
  /-- Whether the playlist takes part in scheduled syncs. -/
  isActive : Bool
  /-- The id of the outward copy. -/
  remoteId : Option String
  /-- The size of the latest membership. -/
  trackCount : Json
  /-- The fingerprint of the latest membership. -/
  fingerprint : Option String
  /-- The fingerprint of what the outward copy holds. -/
  syncedFingerprint : Option String
  /-- When the outward copy was last brought up to date. -/
  lastSyncedAt : Option Timestamp
  deriving DecidableEq

/-- What was last read of a playlist of the platform. -/
structure SnapshotRow where
  /-- The number. -/
  id : Int
  /-- The id at the platform; no two rows share it. -/
  externalId : String
  /-- The name. -/
  name : String := ""
  /-- The mark of the contents that were read. -/
  snapshotId : Option String := none
  /-- When they were read. -/
  readAt : Option Timestamp := none
  deriving DecidableEq

/-- The tables. -/
structure Database where
  /-- Tracks. -/
  tracks : List TrackRow := []
  /-- Tags; no two share a name. -/
  tags : List Tag := []
  /-- Which track has which tag, each pair once. -/
  tagLinks : List (Int × Int) := []
  /-- How the tracks came into the library. -/
  sources : List SourceLink := []
  /-- Plays. -/
  plays : List PlayRow := []
  /-- Albums. -/
  albums : List Totals := []
  /-- Artists. -/
  artists : List Totals := []
  /-- Smart playlists. -/
  playlists : List PlaylistRow := []
  /-- Playlists of the platform that were read. -/
  snapshots : List SnapshotRow := []
  /-- Jobs; no two share an id, or a key other than none. -/
  jobs : List Job := []
  deriving DecidableEq

namespace Database

/-- The number of a new row: one more than the largest in use. -/
def nextId (ids : List Int) : Int := ids.foldl max 0 + 1

/-- Refuses a row that breaks a constraint of its table. -/
def require (holds : Bool) (reason : String := "") : Except Failure Unit :=
  if holds then .ok () else .error (.constraint reason)

/-- Changes the rows that are selected, leaving all others and the order as they are. -/
def changeWhere {α : Type} (selected : α → Bool) (f : α → α) (rows : List α) : List α :=
  rows.map fun r => if selected r then f r else r

/-- What is found after rows with one key were replaced: the row in their place, or what was found
before. -/
theorem find?_changeWhere {α κ : Type} [DecidableEq κ] (key : α → κ) {rows : List α} {row : α} {k : κ}
    (hrow : key row = k) (k' : κ) :
    (changeWhere (key · == k) (fun _ => row) rows).find? (key · == k') =
      (rows.find? (key · == k')).map fun q => if key q == k then row else q := by
  unfold changeWhere
  rw [List.find?_map]
  congr 2
  funext q
  by_cases hq : key q = k <;> simp [hq, hrow]

theorem le_foldl_max (ids : List Int) (start : Int) : start ≤ ids.foldl max start := by
  induction ids generalizing start with
  | nil => simp
  | cons i rest ih => exact Int.le_trans (Int.le_max_left start i) (ih (max start i))

theorem mem_le_foldl_max {ids : List Int} {i : Int} (h : i ∈ ids) (start : Int) :
    i ≤ ids.foldl max start := by
  induction ids generalizing start with
  | nil => simp at h
  | cons j rest ih =>
    rcases List.mem_cons.1 h with rfl | h
    · exact Int.le_trans (Int.le_max_right start i) (le_foldl_max rest (max start i))
    · exact ih h (max start j)

/-- The number of a new row is larger than all in use. -/
theorem lt_nextId {ids : List Int} {i : Int} (h : i ∈ ids) : i < nextId ids :=
  Int.lt_add_one_of_le (mem_le_foldl_max h 0)

end Database

/-- A rating as it is read back: the number of stars with a point. -/
def Rating.stored (r : Rating) : Rating := { r with given := .real (.ofHalves r.halves) }

/-- Optional wall clocks are read back as universal time. -/
def Timestamp.stored? (t : Option Timestamp) : Option Timestamp := t.map Timestamp.asUtc

end Mixtape
