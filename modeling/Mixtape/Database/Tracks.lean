import Mixtape.Database.Basic
import Mixtape.Registry

/-!
# Stored tracks

Saving and reading tracks with their tags and sources, and taking in tracks from the platform.

* `Database.track` — the track with a number.
* `Database.saveTrack` — a track put in, or put in place of the one with its platform id.
* `Database.library` — the tracks that belong to the library, and all tags.
* `Database.takeIn` — tracks of the platform put in, or brought up to date without touching what
  belongs to the user.
-/

namespace Mixtape

/-- A link as a source; an empty id counts as none. -/
def SourceLink.source (l : SourceLink) : TrackSource :=
  ⟨l.type, if l.sourceId = "" then none else some l.sourceId, l.name⟩

/-- A source as a link of a track. -/
def TrackSource.link (s : TrackSource) (track : Int) : SourceLink :=
  ⟨track, s.type, s.id.getD "", s.name⟩

/-- What a row holds of a track besides its number, platform id and audio features. -/
def TrackRow.filled (r : TrackRow) (t : Track) (album : String) (addedAt : Timestamp) :
    Except Failure TrackRow := do
  let artistId ← Column.text? t.artistId
  let albumId ← Column.text? t.albumId
  let duration ← Column.neededCount t.duration.given
  let playCount ← Column.neededCount t.playCount.given
  return { r with
    title := t.title, artist := t.artist, album, artistId, albumId, duration
    releaseDate := Timestamp.stored? t.releaseDate, addedAt := addedAt.asUtc
    rating := t.rating.map Rating.stored, ratedAt := Timestamp.stored? t.ratedAt, playCount
    lastPlayedAt := Timestamp.stored? t.lastPlayedAt }

/-- A row brought up to date with what the platform tells of the track. -/
def TrackRow.refreshed (r : TrackRow) (t : RemoteTrack) : Except Failure TrackRow := do
  let title ← Column.needed (Column.text? t.title)
  let artist ← Column.needed (Column.text? t.artist)
  let album ← Column.needed (Column.text? t.album)
  let artistId ← Column.text? t.artistId
  let albumId ← Column.text? t.albumId
  let duration ← Column.neededCount t.duration
  return { r with
    title, artist, album, artistId, albumId, duration
    releaseDate := Timestamp.stored? t.releaseDate }

/-- A value, or what stands in its place when it is null. -/
def orDefault (j missing : Json) : Json := if j.isNull then missing else j

/-- The row of a track the platform tells of for the first time. An album or duration that is null
is that of a track of which none is known. -/
def RemoteTrack.row (t : RemoteTrack) (id : Int) (now : Timestamp) : Except Failure TrackRow :=
  TrackRow.refreshed
    { id, externalId := t.externalId, title := "", artist := ""
      addedAt := (t.addedAt.getD now).asUtc }
    { t with album := orDefault t.album (.text ""), duration := orDefault t.duration (.int 0) }

namespace Database

/-! ### Reading -/

/-- The row with a platform id. -/
def trackNamed? (d : Database) (externalId : String) : Option TrackRow :=
  d.tracks.find? (·.externalId == externalId)

/-- The numbers of a track's tags. -/
def tagIdsOf (d : Database) (track : Int) : List Json :=
  ascendingIds ((d.tagLinks.filter (·.1 == track)).map fun l => .int l.2)

/-- The sources of a track. -/
def sourcesOf (d : Database) (track : Int) : List TrackSource :=
  dedup ((d.sources.filter (·.track == track)).map SourceLink.source)

/-- Whether a track has a source, and so belongs to the library. -/
def isHeld (d : Database) (track : Int) : Bool := d.sources.any (·.track == track)

/-- A stored count as a track holds it: what counts as not given is zero. -/
def readCount (field : String) (stored : Json) : Except Failure Count :=
  Count.ofJson field (if stored.isTruthy then stored else .int 0)

/-- A row with its tags and sources as a track. -/
def readTrack (d : Database) (r : TrackRow) : Except Failure Track := do
  let duration ← readCount "duration_ms" r.duration
  let playCount ← readCount "play_count" r.playCount
  pure
    { externalId := r.externalId, title := r.title, artist := r.artist, album := .text r.album
      duration, rating := r.rating, ratedAt := r.ratedAt, playCount
      lastPlayedAt := r.lastPlayedAt, addedAt := some r.addedAt, releaseDate := r.releaseDate
      tagIds := d.tagIdsOf r.id, sources := d.sourcesOf r.id, artistId := .ofText? r.artistId
      albumId := .ofText? r.albumId, id := some r.id }

/-- The track with a number. -/
def track (id : Int) : Action Database Track := do
  Action.ofExcept (storable id)
  let d ← get
  match d.tracks.find? (·.id == id) with
  | some r => Action.ofExcept (d.readTrack r)
  | none => throw (.notFound "Track" (toString id))

/-- The tags by name. -/
def tagsByName (d : Database) : List Tag := sortBy (fun a b => Text.leText a.name b.name) d.tags

/-- The tracks that belong to the library, or all stored ones, and all tags. -/
def library (withDetached : Bool) : Action Database Library := do
  let d ← get
  let rows := d.tracks.filter fun r => withDetached || d.isHeld r.id
  let tracks ← Action.ofExcept (rows.mapM d.readTrack)
  return ⟨tracks, d.tagsByName⟩

/-! ### Saving -/

/-- Links a track to tags, which have to exist. -/
def addTagLinks (track : Int) (ids : List Json) : Action Database Unit := do
  let tags ← Action.ofExcept (ids.mapM fun id => Column.needed (Column.number? id))
  let d ← get
  Action.ofExcept (require (tags.all fun id => d.tags.any (·.id == id)))
  set { d with tagLinks := d.tagLinks ++ tags.map fun id => (track, id) }

/-- Puts in a new track with its tags and sources. -/
def insertTrack (now : Timestamp) (t : Track) : Action Database Unit := do
  let album ← Action.ofExcept (Column.text? t.album)
  let d ← get
  let id := nextId (d.tracks.map (·.id))
  let links := t.sources.map fun s => s.link id
  let keys : List (SourceType × String) := links.map fun l => (l.type, l.sourceId)
  Action.ofExcept (require (decide keys.Nodup))
  let blank : TrackRow :=
    { id, externalId := t.externalId, title := t.title, artist := t.artist, addedAt := now }
  let row ← Action.ofExcept (blank.filled t (album.getD "") (t.addedAt.getD now))
  set { d with tracks := d.tracks ++ [row], sources := d.sources ++ links }
  addTagLinks id t.tagIds

/-- Puts a track in place of a stored one. Its tags are replaced, its sources stay as they are. A
stored track does not lose its album or the date it was added. -/
def replaceTrack (r : TrackRow) (t : Track) : Action Database Unit := do
  let album ← Action.ofExcept (Column.needed (Column.text? t.album))
  let addedAt ← Action.ofExcept (Column.needed (.ok t.addedAt))
  let row ← Action.ofExcept (r.filled t album addedAt)
  let d ← get
  let kept := d.tagLinks.filter fun l => l.1 != r.id || t.tagIds.any (·.isSame (.int l.2))
  set
    { d with tracks := changeWhere (·.id == r.id) (fun _ => row) d.tracks, tagLinks := kept }
  addTagLinks r.id
    (t.tagIds.filter fun id => !kept.any fun l => l.1 == r.id && id.isSame (.int l.2))

/-- Puts a track in, or in place of the one with its platform id; the track as it is stored. -/
def saveTrack (now : Timestamp) (t : Track) : Action Database Track := do
  match (← get).trackNamed? t.externalId with
  | none => insertTrack now t
  | some r => replaceTrack r t
  let d ← get
  match d.trackNamed? t.externalId with
  | some r => Action.ofExcept (d.readTrack r)
  | none => throw .constraint

/-! ### Taking in tracks of the platform -/

/-- Tracks by platform id, in order of first appearance; of several with one id the last. -/
def latestById (ts : List RemoteTrack) : Registry RemoteTrack :=
  ts.foldl (fun r t => r.put t.externalId t) []

/-- The first of several artists. -/
def firstArtist : List Char → List Char
  | ',' :: ' ' :: _ => []
  | c :: rest => c :: firstArtist rest
  | [] => []

/-- Adds totals for ids that have none yet. -/
def addTotals (named : Registry String) (known : List Totals) : List Totals :=
  known ++ (named.filter fun n => !known.any (·.id == n.1)).map fun n => { id := n.1, name := n.2 }

/-- The ids and names that tracks tell, in order of first appearance; of several names the last.
An id that counts as not given is none. -/
def namesBy (idOf nameOf : RemoteTrack → Json) (ts : List RemoteTrack) : Registry Json :=
  ts.foldl (fun r t => if (idOf t).isTruthy then r.put (idOf t).plain (nameOf t) else r) []

/-- The name of the album an id was told with, empty if none was told. -/
def albumName (told : Json) : Except Failure String := do return (← Column.text? told).getD ""

/-- The name of the artist an id was told with: the first of several. -/
def artistName (told : Json) : Except Failure String :=
  match told with
  | .text s => .ok (String.ofList (firstArtist s.toList))
  | j => .error (.unsupported ("'" ++ j.kind ++ "' object has no attribute 'split'"))

/-- The names that were told for ids that have no totals yet. -/
def newNames (nameOf : Json → Except Failure String) (told : Registry Json)
    (known : List Totals) : Except Failure (Registry String) :=
  (told.filter fun n => !known.any (·.id == n.1)).mapM fun n => do return (n.1, ← nameOf n.2)

/-- Puts in one track, or brings it up to date. -/
def takeInOne (now : Timestamp) (d : Database) (t : RemoteTrack) : Except Failure Database := do
  match d.trackNamed? t.externalId with
  | some r =>
    let row ← r.refreshed t
    return { d with tracks := changeWhere (·.externalId == t.externalId) (fun _ => row) d.tracks }
  | none =>
    let row ← t.row (nextId (d.tracks.map (·.id))) now
    return { d with tracks := d.tracks ++ [row] }

/-- Puts in tracks of the platform, or brings them up to date; the platform ids of the new ones
and of the others. Albums and artists that are not known yet get totals. -/
def takeIn (now : Timestamp) (ts : List RemoteTrack) :
    Action Database (List String × List String) := do
  let latest := latestById ts
  let tracks := latest.map Prod.snd
  let d ← get
  let isKnown (id : String) : Bool := (d.trackNamed? id).isSome
  let taken ← Action.ofExcept (tracks.foldlM (takeInOne now) d)
  let albums ← Action.ofExcept
    (newNames albumName (namesBy (·.albumId) (·.album) tracks) taken.albums)
  let artists ← Action.ofExcept
    (newNames artistName (namesBy (·.artistId) (·.artist) tracks) taken.artists)
  set
    { taken with
      albums := addTotals albums taken.albums, artists := addTotals artists taken.artists }
  return (latest.keys.filter fun id => !isKnown id, latest.keys.filter isKnown)

end Database

end Mixtape
