import Mixtape.Number.Reader
import Mixtape.Service.Listing
import Mixtape.Service.Request
import Mixtape.Sync.Apply

/-!
# The connector

Reading from and writing to the streaming service. A write is made once. A read follows all pages
of a listing, and begins anew when a call fails in a way that may pass.

* `Session` — the client's state and the id of the user, once known.
* `collectPages` — the entries of all pages.
* `retrying` — a read with several tries.
* `Connector` — the client and its limits, with one operation for each thing to read or write.
* `Connector.writer` — the connector as what changes a playlist.
-/

namespace Mixtape.Service

/-- The client's state and the id of the user, once it was asked for. -/
structure Session (σ : Type) where
  /-- The client's state. -/
  client : σ
  /-- The id of the user. -/
  user : Option Json := none

/-- The client and the limits of its use. -/
structure Connector (σ : Type) where
  /-- What carries out calls. -/
  client : Client σ
  /-- How many entries of a playlist are asked for at once. -/
  readPage : Json := .int 100
  /-- How many liked tracks are asked for at once. -/
  likedPage : Json := .int 50
  /-- How often a read is begun anew. -/
  retries : Nat := 2
  /-- The most pages of one listing. -/
  maxPages : Nat

/-- The most items of one write. -/
def maxWrite : Nat := 100

/-- The most tracks one lookup of audio features takes. -/
def maxLookup : Nat := 100

/-- The audio features that are kept. -/
def featureKeys : List String :=
  ["acousticness", "danceability", "energy", "instrumentalness", "liveness", "loudness",
    "speechiness", "tempo", "valence"]

/-- Runs a computation, and runs it anew at most `again` times after failures that may pass. -/
def retrying {σ α : Type} (x : Action σ α) : (again : Nat) → Action σ α
  | 0 => x
  | again + 1 => do
    match ← x.attempt with
    | .ok a => pure a
    | .error (.transient _) => retrying x again
    | .error f => throw f

/-- The entries on a page that count as given. -/
def pageItems (page : Json) : Except Failure (List Json) := do
  return (← (← entryOr page "items" (.list [])).elements).filter Json.isTruthy

namespace Connector

variable {σ : Type}

/-- A call within a session. -/
def call (c : Connector σ) (r : Request) : Action (Session σ) Json :=
  .ofRun fun s =>
    let (answer, client) := (c.client.call r).runOn s.client
    (answer, { s with client })

/-- A read with several tries. -/
def read {α : Type} (c : Connector σ) (x : Action (Session σ) α) : Action (Session σ) α :=
  retrying x c.retries

/-- The entries of a page and of at most `more` pages that follow it. -/
def collectPages (c : Connector σ) : (more : Nat) → (page : Json) → Action (Session σ) (List Json)
  | more, page => do
    if !page.isTruthy then return []
    let items ← Action.ofExcept (pageItems page)
    let link ← Action.ofExcept (entry page "next")
    if !link.isTruthy then return items
    match more with
    | 0 => return items
    | more + 1 =>
      let next ← c.call (.nextPage page)
      let others ← collectPages c more next
      return items ++ others

/-- The entries of all pages of a listing. -/
def listing (c : Connector σ) (r : Request) : Action (Session σ) (List Json) := do
  let first ← c.call r
  c.collectPages c.maxPages first

/-! ### Writing -/

/-- Refuses more items than one call takes; `noun` says what they are. -/
def withinLimit (limit : Nat) (noun : String) (count : Nat) : Except Failure Unit :=
  if limit < count then
    .error (.outOfRange
      ("At most " ++ toString limit ++ " " ++ noun ++ " per call, got " ++ toString count))
  else .ok ()

/-- Changes the items of a playlist by one call: the mark of its new contents, null if nothing was
to be done. -/
def change (c : Connector σ) (request : List String → Request) (ids : List String) :
    Action (Session σ) Json := do
  if ids.isEmpty then return .null
  Action.ofExcept (withinLimit maxWrite "items" ids.length)
  let answer ← c.call (request (ids.map trackUri))
  Action.ofExcept (entry (orEmpty answer) "snapshot_id")

/-- Adds tracks at the end of a playlist. -/
def addItems (c : Connector σ) (playlist : Json) (ids : List String) : Action (Session σ) Json :=
  c.change (.addItems playlist) ids

/-- Removes every occurrence of tracks from a playlist. -/
def removeItems (c : Connector σ) (playlist : Json) (ids : List String) :
    Action (Session σ) Json :=
  c.change (.removeItems playlist) ids

/-- The failure of a call whose answer lacks what it is for. -/
def lacking (message : String) : Failure := .fatal { message }

/-- The id of the user, asked for once. -/
def userId (c : Connector σ) : Action (Session σ) Json := do
  match (← get).user with
  | some id => return id
  | none =>
    let id ← Action.ofExcept (entry (orEmpty (← c.call .currentUser)) "id")
    if !id.isTruthy then throw (lacking "Could not resolve current Spotify user")
    modify fun s => { s with user := some id }
    return id

/-- Creates an empty private playlist and hands back its id. -/
def createPlaylist (c : Connector σ) (name description : String) : Action (Session σ) Json := do
  let user ← c.userId
  let answer ← c.call (.createPlaylist user name description)
  let id ← Action.ofExcept (entry (orEmpty answer) "id")
  if !id.isTruthy then throw (lacking "Failed to create playlist, received no ID")
  return id

/-- Changes name and description of a playlist. -/
def changeDetails (c : Connector σ) (playlist : Json) (name description : String) :
    Action (Session σ) Unit := do
  let _ ← c.call (.changeDetails playlist name description)

/-- The connector as what changes a playlist. -/
def writer (c : Connector σ) : Writer (Session σ) where
  add playlist ids := do let _ ← c.addItems (.ofText? playlist) ids
  remove playlist ids := do let _ ← c.removeItems (.ofText? playlist) ids

/-! ### Reading -/

/-- The mark of a playlist's contents. -/
def snapshotId (c : Connector σ) (playlist : Json) : Action (Session σ) Json :=
  c.read do
    let answer ← c.call (.snapshot playlist)
    Action.ofExcept (entryOr (orEmpty answer) "snapshot_id" (.text ""))

/-- The id of an entry of a playlist, if it is a track of the service. -/
def itemId? (item : Json) : Except Failure (Option Json) := do
  return (← listedTrack? item false).map fun track => track.get "id"

/-- The track of an entry of a playlist or of the liked tracks. -/
def itemTrack? (allowsLocal : Bool) (item : Json) : Except Failure (Option TrackListing) := do
  match ← listedTrack? item allowsLocal with
  | none => return none
  | some track => return some (← TrackListing.ofJson track (item.get "added_at") .null)

/-- The ids on a playlist, in its order; local files are left out. -/
def playlistIds (c : Connector σ) (playlist : Json) : Action (Session σ) (List Json) :=
  c.read do
    let items ← c.listing (.playlistIds playlist c.readPage)
    Action.ofExcept (collect itemId? items)

/-- The tracks on a playlist, in its order; local files are left out. -/
def playlistTracks (c : Connector σ) (playlist : Json) : Action (Session σ) (List TrackListing) :=
  c.read do
    let items ← c.listing (.playlistTracks playlist c.readPage)
    Action.ofExcept (collect (itemTrack? false) items)

/-- The user's playlists. -/
def userPlaylists (c : Connector σ) : Action (Session σ) (List PlaylistListing) :=
  c.read do
    let items ← c.listing .userPlaylists
    Action.ofExcept (items.mapM PlaylistListing.ofJson)

/-- The liked tracks. -/
def likedTracks (c : Connector σ) : Action (Session σ) (List TrackListing) :=
  c.read do
    let items ← c.listing (.likedTracks c.likedPage)
    Action.ofExcept (collect (itemTrack? true) items)

/-- The albums of entries, each with the tracks on all pages of its own listing. -/
def albumsOf (c : Connector σ) : List Json → Action (Session σ) (List AlbumListing)
  | [] => pure []
  | item :: rest => do
    let album ← Action.ofExcept (entry item "album")
    if !album.isTruthy then albumsOf c rest
    else
      let first ← Action.ofExcept (entry album "tracks")
      let tracks ← c.collectPages c.maxPages first
      let listed ← Action.ofExcept (AlbumListing.ofJson album tracks (item.get "added_at"))
      let others ← albumsOf c rest
      return listed :: others

/-- The saved albums with their tracks. -/
def savedAlbums (c : Connector σ) : Action (Session σ) (List AlbumListing) :=
  c.read do
    let items ← c.listing .savedAlbums
    c.albumsOf items

/-- The latest plays, latest first. -/
def recentPlays (c : Connector σ) (limit : Int) : Action (Session σ) (List PlayListing) :=
  c.read do
    let answer ← c.call (.recentPlays (min limit Request.pageSize))
    let items ← Action.ofExcept (entryOr (orEmpty answer) "items" (.list []))
    Action.ofExcept (items.elements >>= collect PlayListing.ofJson?)

/-! ### Audio features -/

/-- A value as a number. -/
def numberOf : Json → Except Failure Binary64
  | .text s =>
    (Numeral.real? s).elim
      (.error (.outOfRange ("could not convert string to float: " ++ Text.quoted s))) .ok
  | j => j.toBinary64

/-- The features that are kept of those of one track. -/
def keptFeatures (data : Json) : Except Failure (List (String × Json)) :=
  collect (fun key => do
    let value ← entry data key
    if value.isNull then return none
    return some (key, .real (← numberOf value))) featureKeys

/-- Puts the answers into a table of features, each for the id at its place. -/
def placeFeatures (table : List (String × Json)) :
    List (String × Json) → Except Failure (List (String × Json))
  | [] => .ok table
  | (id, data) :: rest =>
    if !data.isTruthy then placeFeatures table rest
    else do
      let features ← keptFeatures data
      placeFeatures (Json.putField id (.object features) table) rest

/-- The audio features of tracks: an object with one field for each id asked for, null for tracks
without. -/
def audioFeatures (c : Connector σ) (ids : List String) : Action (Session σ) Json :=
  c.read do
    Action.ofExcept (withinLimit maxLookup "IDs" ids.length)
    let answer ← c.call (.audioFeatures ids)
    let items ← Action.ofExcept (if answer.isTruthy then answer.elements else .ok [])
    let table := ids.foldl (fun t id => Json.putField id .null t) []
    let table ← Action.ofExcept (placeFeatures table (ids.zip items))
    return .object table

end Connector

end Mixtape.Service
