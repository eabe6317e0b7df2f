import Mixtape.Documents
import Mixtape.Playlist
import Mixtape.Text.Search
import Mixtape.Time.Reader

/-!
# Listings

What the streaming service answers: documents of tracks, albums, playlists and plays. They are
taken as they come, so what is listed as null stays null.

* `entry`, `entryOr`, `needed` — looking into an answer.
* `readDate` — a date as the service writes it.
* `TrackListing.ofJson`, `AlbumListing.ofJson`, `PlaylistListing.ofJson`, `PlayListing.ofJson?` —
  the listings an answer holds.
-/

namespace Mixtape.Service

/-! ### Looking into an answer -/

/-- A field of an object; other values have no fields. -/
def entryOr (j : Json) (key : String) (missing : Json) : Except Failure Json :=
  match j with
  | .object fields => .ok ((Json.lookupField key fields).getD missing)
  | _ => .error (.unsupported ("'" ++ j.kind ++ "' object has no attribute 'get'"))

/-- A field of an object, null if it is missing. -/
def entry (j : Json) (key : String) : Except Failure Json := entryOr j key .null

/-- A field an object has to have. -/
def needed (j : Json) (key : String) : Except Failure Json :=
  match j.field? key with
  | some v => .ok v
  | none => .error (.missingField (Text.quoted key))

/-- A value, or an empty object in place of one that counts as not given. -/
def orEmpty (j : Json) : Json := if j.isTruthy then j else .object []

/-- The values that count as given and for which a function has a result, with those results. -/
def collect {α β : Type} (f : α → Except Failure (Option β)) : List α → Except Failure (List β)
  | [] => .ok []
  | a :: rest => do
    let found ← f a
    let others ← collect f rest
    pure (found.toList ++ others)

/-! ### Dates -/

/-- A universal-time mark is an offset of zero. -/
def spellOffset (s : String) : String :=
  String.ofList (s.toList.flatMap fun c => if c = 'Z' then "+00:00".toList else [c])

/-- How many parts a date with the given precision has; a precision that is not known means the
day. -/
def formOf (precision : Json) : Time.ShortForm :=
  if precision = .text "year" then .year else if precision = .text "month" then .month else .day

/-- A date: the wall clock and the offset, if one is written. A text with a `T` is of the full
form, any other of the short form, which is universal time. -/
def readDate (j precision : Json) : Except Failure (Option (Int × Option Int)) :=
  if !j.isTruthy then .ok none
  else
    match j with
    | .text s =>
      if Text.contains s "T" then .ok (Time.readFull (spellOffset s)).toOption
      else .ok ((Time.readShort? (formOf precision) s).map fun wall => (wall, some 0))
    | .list items => .error (if Json.text "T" ∈ items then .unsupported else .wrongType)
    | .object fields =>
      .error (if (Json.lookupField "T" fields).isSome then .unsupported else .wrongType)
    | _ => .error .wrongType

/-- A date as a moment; without an offset it is universal time. -/
def readMoment (j precision : Json) : Except Failure (Option Timestamp) :=
  (readDate j precision).map fun d => d.map fun (wall, offset) => ⟨wall, offset.getD 0⟩

/-- A date as a document, with the offset only if one is written. -/
def dateJson : Option (Int × Option Int) → Json
  | none => .null
  | some (wall, none) => .text (Timestamp.wallText wall)
  | some (wall, some offset) => .text (Timestamp.text ⟨wall, offset⟩)

/-! ### Tracks, albums and playlists -/

/-- A track as the service lists it. -/
structure TrackListing where
  /-- The id. -/
  externalId : Json
  /-- The title. -/
  title : Json
  /-- The artists, in one text. -/
  artist : String
  /-- The album. -/
  album : Json
  /-- The id of the first artist. -/
  artistId : Json
  /-- The id of the album. -/
  albumId : Json
  /-- The duration in milliseconds. -/
  duration : Json
  /-- When it was released. -/
  releaseDate : Option Timestamp
  /-- When it was added to the collection it is listed in. -/
  addedAt : Option Timestamp
  deriving DecidableEq

/-- An album as the service lists it. -/
structure AlbumListing where
  /-- The id. -/
  externalId : Json
  /-- The name. -/
  name : Json
  /-- The artists, in one text. -/
  artist : String
  /-- The tracks. -/
  tracks : List TrackListing
  deriving DecidableEq

/-- A playlist as the service lists it. -/
structure PlaylistListing where
  /-- The id. -/
  externalId : Json
  /-- The name. -/
  name : Json
  /-- A mark that changes with the contents. -/
  snapshotId : Json
  /-- The id of the owner. -/
  ownerId : Json
  /-- The number of tracks. -/
  totalTracks : Json
  deriving DecidableEq

/-- A play as the service lists it. -/
structure PlayListing where
  /-- The id of the track. -/
  externalId : Json
  /-- When it was played. -/
  playedAt : Timestamp
  /-- For how many milliseconds. -/
  duration : Json
  deriving DecidableEq

/-- The name of an artist, if it has one. -/
def artistName? (artist : Json) : Except Failure (Option Json) := do
  let name ← entry artist "name"
  pure (if name.isTruthy then some name else none)

/-- The artists of a track or album. -/
def artistsIn (listed : Json) : Except Failure (List Json) :=
  if listed.isTruthy then listed.elements else .ok []

/-- The names of the artists, in one text. -/
def artistText (listed : Json) : Except Failure String := do
  let names ← collect artistName? (← artistsIn listed)
  let texts ← names.mapM Track.textOf
  pure (", ".intercalate texts)

/-- The id of the first artist. -/
def firstArtistId (listed : Json) : Except Failure Json := do
  match ← artistsIn listed with
  | [] => pure .null
  | a :: _ => entry a "id"

/-- The track a document lists; the enclosing album, if there is one, stands for its own. -/
def TrackListing.ofJson (j addedAt enclosing : Json) : Except Failure TrackListing := do
  let album ← if enclosing.isTruthy then pure enclosing else orEmpty <$> entry j "album"
  let artists ← entry j "artists"
  let externalId ← needed j "id"
  let title ← entryOr j "name" (.text "")
  let artist ← artistText artists
  let albumName ← entryOr album "name" (.text "")
  let artistId ← firstArtistId artists
  let albumId ← entry album "id"
  let duration ← entry j "duration_ms"
  let released ← readMoment (← entry album "release_date")
    (← entryOr album "release_date_precision" (.text "day"))
  let added ← readMoment addedAt (.text "day")
  pure
    { externalId, title, artist, album := albumName, artistId, albumId
      duration := if duration.isTruthy then duration else .int 0
      releaseDate := released, addedAt := added }

/-- The album a document lists, with the tracks among the given documents that have an id. -/
def AlbumListing.ofJson (j : Json) (tracks : List Json) (addedAt : Json) :
    Except Failure AlbumListing := do
  let artists ← entry j "artists"
  let externalId ← needed j "id"
  let name ← entryOr j "name" (.text "")
  let artist ← artistText artists
  let tracks ← collect (fun t => do
    let id ← entry t "id"
    if id.isTruthy then some <$> TrackListing.ofJson t addedAt j else pure none) tracks
  pure { externalId, name, artist, tracks }

/-- The playlist a document lists. -/
def PlaylistListing.ofJson (j : Json) : Except Failure PlaylistListing := do
  let externalId ← if j.isObject then needed j "id" else throw .wrongType
  let name ← entryOr j "name" (.text "")
  let snapshotId ← entry j "snapshot_id"
  let ownerId ← entry (orEmpty (← entry j "owner")) "id"
  let totalTracks ← entryOr (orEmpty (← entry j "tracks")) "total" (.int 0)
  pure { externalId, name, snapshotId, ownerId, totalTracks }

/-- The track of an entry of a playlist or of the liked tracks; none for a local file or an entry
without a track. -/
def listedTrack? (item : Json) (allowsLocal : Bool) : Except Failure (Option Json) := do
  let isLocal ← if allowsLocal then pure (.bool false) else entry item "is_local"
  if isLocal.isTruthy then return none
  let track ← entry item "track"
  if !track.isTruthy then return none
  let id ← entry track "id"
  pure (if id.isTruthy then some track else none)

/-- The play an entry of the history lists: of the track the user knows, if another stood in for
it. Entries without track or time list none. -/
def PlayListing.ofJson? (item : Json) : Except Failure (Option PlayListing) := do
  let track := orEmpty (← entry item "track")
  let linked ← entry (orEmpty (← entry track "linked_from")) "id"
  let externalId ← if linked.isTruthy then pure linked else entry track "id"
  let playedAt ← readMoment (← entry item "played_at") (.text "day")
  match playedAt with
  | none => pure none
  | some playedAt =>
    if !externalId.isTruthy then return none
    let duration ← entry track "duration_ms"
    pure (some ⟨externalId, playedAt, if duration.isTruthy then duration else .int 0⟩)

/-! ### Listings as documents -/

/-- A listed track as a document. -/
def TrackListing.toJson (t : TrackListing) : Json :=
  .object
    [("external_id", t.externalId), ("title", t.title), ("artist", .text t.artist),
      ("album", t.album), ("artist_id", t.artistId), ("album_id", t.albumId),
      ("duration_ms", t.duration), ("release_date", .ofTimestamp? t.releaseDate),
      ("added_at", .ofTimestamp? t.addedAt)]

/-- A listed album as a document. -/
def AlbumListing.toJson (a : AlbumListing) : Json :=
  .object
    [("external_id", a.externalId), ("name", a.name), ("artist", .text a.artist),
      ("tracks", .list (a.tracks.map TrackListing.toJson))]

/-- A listed playlist as a document. -/
def PlaylistListing.toJson (p : PlaylistListing) : Json :=
  .object
    [("external_id", p.externalId), ("name", p.name), ("snapshot_id", p.snapshotId),
      ("owner_id", p.ownerId), ("total_tracks", p.totalTracks)]

/-- A listed play as a document: track, time and duration. -/
def PlayListing.toJson (p : PlayListing) : Json :=
  .list [p.externalId, p.playedAt.toJson, p.duration]

end Mixtape.Service
