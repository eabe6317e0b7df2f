import Mixtape.Json.Value
import Mixtape.Sorting
import Mixtape.Text.Order
import Mixtape.Time.Timestamp

/-!
# Tracks

The tracks of a library and the way they came into it.

* `Rating` — one of the ten half-star ratings.
* `Count` — a number that is not below zero.
* `TrackSource` — one way a track came into the library.
* `Track` — a track of the library.
* `RemoteTrack` — a track as a platform shows it.
-/

namespace Mixtape

/-! ### Ratings -/

/-- A rating of half a star to five stars. -/
structure Rating where
  /-- The rating in half stars. -/
  halves : Nat
  /-- The number as it was given. -/
  given : Json
  /-- No rating is below half a star. -/
  one_le : 1 ≤ halves
  /-- No rating is above five stars. -/
  le_ten : halves ≤ 10
  deriving DecidableEq

namespace Rating

/-- The rating with a whole number of half stars, if there is one. -/
def ofHalves? (n : Nat) : Option Rating :=
  if h : 1 ≤ n ∧ n ≤ 10 then some ⟨n, .real (.ofHalves n), h.1, h.2⟩ else none

/-- The refusal of a number that is no rating. -/
def offScale (given : Json) : Failure :=
  .outOfRange ("rating must be between 0.5 and 5.0 in 0.5 steps, got " ++ given.plain)

/-- The rating of a number of units of `2 ^ -1074`. -/
def ofUnits (units : Int) (given : Json) : Except Failure Rating :=
  let halves := units / Binary64.unitsPerHalf
  if h : units % Binary64.unitsPerHalf = 0 ∧ 1 ≤ halves.toNat ∧ halves.toNat ≤ 10 then
    .ok ⟨halves.toNat, given, h.2.1, h.2.2⟩
  else .error (offScale given)

/-- The rating a value gives; true counts as one star. -/
def ofJson (j : Json) : Except Failure Rating :=
  match j with
  | .int n => ofUnits (n * Binary64.unitsPerOne) j
  | .real (.finite negative count) =>
    ofUnits (if negative then -(count : Int) else count) j
  | .real _ => .error (offScale j)
  | .bool b => ofUnits (if b then Binary64.unitsPerOne else 0) j
  | _ => .error (Json.incomparable "<=" (.real (.ofHalves 1)) j)

/-- The rating a value gives, or none for null. -/
def ofJson? : Json → Except Failure (Option Rating)
  | .null => .ok none
  | j => (ofJson j).map some

end Rating

/-! ### Counts -/

/-- A number that is not below zero. -/
structure Count where
  /-- The number as it was given. -/
  given : Json
  /-- Its size. -/
  size : Magnitude
  deriving DecidableEq

namespace Count

/-- A natural number as a count. -/
def ofNat (n : Nat) : Count := ⟨.int n, .ofInt n⟩

/-- The count a value gives; `field` names it in the refusal. -/
def ofJson (field : String) (j : Json) : Except Failure Count :=
  let failure : Failure := .outOfRange ("'" ++ field ++ "' must be >= 0: " ++ j.plain)
  match j.magnitude? with
  | some size => if Magnitude.zero.isLe size then .ok ⟨j, size⟩ else .error failure
  | none => .error (if j.number?.isSome then failure else Json.incomparable ">=" j (.int 0))

theorem ofJson_nat (field : String) (n : Nat) : ofJson field (.int n) = .ok (ofNat n) := by
  simp [ofJson, ofNat, Json.magnitude?, Json.number?, Magnitude.zero_isLe_ofInt_nat n]

end Count

/-! ### Sources -/

/-- How a track came into the library. -/
inductive SourceType where
  /-- It was liked. -/
  | likedSongs
  /-- Its album was saved. -/
  | album
  /-- It is on a playlist. -/
  | playlist
  /-- It is among the top tracks of a followed artist. -/
  | artistTopTracks
  deriving DecidableEq

namespace SourceType

/-- The spelling of a source type. -/
def name : SourceType → String
  | likedSongs => "liked_songs"
  | album => "album"
  | playlist => "playlist"
  | artistTopTracks => "artist_top_tracks"

/-- All source types. -/
def all : List SourceType := [likedSongs, album, playlist, artistTopTracks]

/-- The source type with a spelling. -/
def ofName? (s : String) : Option SourceType := all.find? fun t => t.name == s

@[simp] theorem ofName?_name (t : SourceType) : ofName? t.name = some t := by cases t <;> decide

/-- The source type a value spells. -/
def ofJson (j : Json) : Except Failure SourceType :=
  let failure : Failure := .outOfRange (j.display ++ " is not a valid SourceType")
  match j with
  | .text s => (ofName? s).elim (.error failure) .ok
  | _ => .error failure

end SourceType

/-- One way a track came into the library. -/
structure TrackSource where
  /-- How. -/
  type : SourceType
  /-- The album, playlist or artist it came with. -/
  id : Option String := none
  /-- The name of that album, playlist or artist. -/
  name : Option String := none
  deriving DecidableEq

namespace TrackSource

/-- Type, id and name, what is missing counting as empty. -/
def sortKey (s : TrackSource) : List String := [s.type.name, s.id.getD "", s.name.getD ""]

/-- Whether `a` comes no later than `b`: by type, then by id, then by name. -/
def isLe (a b : TrackSource) : Bool := Text.leTexts a.sortKey b.sortKey

end TrackSource

/-! ### Tracks -/

/-- Whether a tag's number comes no later than another: by size, and before all texts. -/
def leTagId (a b : Json) : Bool :=
  match a.magnitude?, b.magnitude? with
  | some m, some n => m.isLe n
  | none, some _ => false
  | some _, none => true
  | none, none => Text.leText a.plain b.plain

/-- Adds a number to numbers unless an equal one is among them. -/
def addTagId (ids : List Json) (id : Json) : List Json :=
  if ids.any (·.isSame id) then ids else ids ++ [id]

/-- The smallest list of ascending numbers with the same members. -/
def ascendingIds (ids : List Json) : List Json := sortBy leTagId (ids.foldl addTagId [])

/-- The numbers of tags a value lists. -/
def tagIdsOf (j : Json) : Except Failure (List Json) := do
  let ids ← j.elements
  match ids.find? fun id => id.kind == "list" || id.kind == "dict" with
  | some id => throw (.wrongType ("unhashable type: '" ++ id.kind ++ "'"))
  | none => return ascendingIds ids

/-- A track of the library. -/
structure Track where
  /-- The id at the platform. -/
  externalId : String
  /-- The title. -/
  title : String
  /-- The artist. -/
  artist : String
  /-- The album. -/
  album : Json := .text ""
  /-- The duration in milliseconds. -/
  duration : Count := .ofNat 0
  /-- The user's rating. -/
  rating : Option Rating := none
  /-- When the track was rated. -/
  ratedAt : Option Timestamp := none
  /-- How often the track was played. -/
  playCount : Count := .ofNat 0
  /-- When it was last played. -/
  lastPlayedAt : Option Timestamp := none
  /-- When it was added. -/
  addedAt : Option Timestamp := none
  /-- When it was released. -/
  releaseDate : Option Timestamp := none
  /-- The numbers of its tags, ascending. -/
  tagIds : List Json := []
  /-- The ways it came into the library, each once. -/
  sources : List TrackSource := []
  /-- The id of the artist at the platform. -/
  artistId : Json := .null
  /-- The id of the album at the platform. -/
  albumId : Json := .null
  /-- The number of the track in the library, once it is stored. -/
  id : Option Int := none
  deriving DecidableEq

namespace Track

/-- A text; other values are refused. -/
def textOf : Json → Except Failure String
  | .text s => .ok s
  | j => .error (.wrongType ("must be a text, not " ++ j.display))

/-- A track with the checked parts put in: ids and names first, then the duration, the rating and
the play count. -/
def ofParts (externalId title artist duration rating playCount : Json) (rest : Track) :
    Except Failure Track := do
  let externalId ← textOf externalId
  let title ← textOf title
  let artist ← textOf artist
  let duration ← Count.ofJson "duration_ms" duration
  let rating ← Rating.ofJson? rating
  let playCount ← Count.ofJson "play_count" playCount
  pure
    { rest with
      externalId, title, artist, duration, rating, playCount
      sources := dedup rest.sources }

/-- The track with its number in the library; numbers are positive. -/
def withId (t : Track) (id : Json) : Except Failure Track :=
  let failure : Failure :=
    .outOfRange ("Invalid database ID: " ++ id.plain ++ ". Must be a positive integer.")
  match id with
  | .int n => if 0 < n then .ok { t with id := some n } else .error failure
  | .bool true => .ok { t with id := some 1 }
  | _ => .error failure

/-- The track with other tags. -/
def withTags (t : Track) (ids : List Json) : Track := { t with tagIds := ascendingIds ids }

/-- The track with another rating, given at a moment; without a rating there is no moment. -/
def withRating (t : Track) (rating : Option Rating) (ratedAt : Timestamp) : Track :=
  { t with rating, ratedAt := rating.map fun _ => ratedAt }

/-- The refusal of an album that cannot be read as a text. -/
def albumRefusal (t : Track) : Failure :=
  .unsupported ("'" ++ t.album.kind ++ "' object has no attribute 'casefold'")

/-- Whether the track came into the library through a source of the given type, and with the
given id if one is given. -/
def hasSource (t : Track) (type : String) (id : Option String) : Bool :=
  t.sources.any fun s => s.type.name == type && (id.isNone || s.id == id)

@[simp] theorem rating_withRating (t : Track) (r : Option Rating) (at' : Timestamp) :
    (t.withRating r at').rating = r := rfl

end Track

/-- A track as a platform shows it. -/
structure RemoteTrack where
  /-- The id at the platform. -/
  externalId : String
  /-- The title. -/
  title : Json
  /-- The artist. -/
  artist : Json
  /-- The album. -/
  album : Json := .text ""
  /-- The id of the artist. -/
  artistId : Json := .null
  /-- The id of the album. -/
  albumId : Json := .null
  /-- The duration in milliseconds. -/
  duration : Json := .int 0
  /-- When it was released. -/
  releaseDate : Option Timestamp := none
  /-- When it was added to the collection it is read from. -/
  addedAt : Option Timestamp := none
  deriving DecidableEq

/-- One play from the platform's history. -/
structure Play where
  /-- The track's id at the platform. -/
  externalId : String
  /-- When it was played. -/
  playedAt : Timestamp
  /-- For how many milliseconds. -/
  duration : Json := .int 0
  deriving DecidableEq

/-- A user's label for tracks. -/
structure Tag where
  /-- The number of the tag. -/
  id : Int
  /-- Its name. -/
  name : String
  /-- Its color. -/
  color : String := "#6b7280"
  deriving DecidableEq

end Mixtape
