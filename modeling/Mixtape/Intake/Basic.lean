import Mixtape.Database.Playlists
import Mixtape.Database.Plays
import Mixtape.Database.Sources
import Mixtape.Settings.Basic
import Mixtape.Sync.Apply
import Mixtape.Sync.Enrichment
import Mixtape.Sync.Touched
import Mixtape.World

/-!
# Taking in the remote library

The local library is brought in line with the liked tracks, the saved albums and the playlists of
the platform. Each collection is one source; the tracks that hold the source are brought in line
with the collection by the same diff and chunks as an outward copy. Tracks that leave a collection
lose the source and nothing else.

* `IntakeOptions` — what is taken in.
* `Intake` — the state of a pass: the world, and what the pass has touched and seen.
* `Intake.bringInLine` — one collection.
* `takeInLibrary` — the pass.
-/

namespace Mixtape

/-- What is taken in. -/
structure IntakeOptions where
  /-- Whether playlists are read that have not changed. -/
  forceRefresh : Bool := false
  /-- Whether saved albums are taken in. -/
  albums : Bool := true
  /-- Whether liked tracks are taken in. -/
  likedTracks : Bool := true
  /-- Whether playlists are taken in. -/
  playlists : Bool := true
  /-- Whether audio features are looked up. -/
  features : Bool := true
  deriving DecidableEq

/-- The state of a pass. -/
structure Intake (σ : Type) where
  /-- The world. -/
  world : World σ
  /-- The records that were touched. -/
  touched : Touched := {}
  /-- The tracks seen in any collection, each once. -/
  seen : List String := []
  /-- The tracks of the present collection that are new, each once. -/
  added : List String := []
  /-- The tracks of the present collection that were changed, each once. -/
  changed : List String := []

/-- The pace of a pass. -/
structure IntakePace where
  /-- The most items of a chunk. -/
  chunkSize : Int
  /-- Seconds between two playlists. -/
  playlistDelay : Amount

/-- The pace that the settings ask for. -/
def Settings.intakePace (s : Settings) : IntakePace := ⟨s.localChunk, s.playlistDelay⟩

/-- Adds ids to a list that holds every id once. -/
def noteAll (ids seen : List String) : List String := ids.foldl (fun s id => Touched.note id s) seen

namespace Touched

/-- Notes a track with its album and its artist; empty ids do not count. -/
def addOwned (t : Touched) (track : String) (album artist : Option String) : Touched :=
  let t := t.addTrack track
  let t := (album.filter (· ≠ "")).elim t t.addAlbum
  (artist.filter (· ≠ "")).elim t t.addArtist

end Touched

namespace Intake

variable {σ α : Type}

/-- Work in the world. -/
def inWorld (x : Action (World σ) α) : Action (Intake σ) α :=
  x.within Intake.world fun world p => { p with world }

/-- Work on the database. -/
def query (x : Action Database α) : Action (Intake σ) α := inWorld (World.query x)

/-- Work outside. -/
def ask (x : Action σ α) : Action (Intake σ) α := inWorld (World.ask x)

/-- A monitor outside. -/
def watch (m : Monitor σ) : Monitor (Intake σ) :=
  (World.watch m).within Intake.world fun world p => { p with world }

/-- The id a platform tells of an album or artist; what counts as not given is none. -/
def ownerId (told : Json) : Option String := if told.isTruthy then some told.plain else none

/-- Puts tracks in, or brings them up to date, and gives them a source. -/
def addTracks (o : Outside σ) (s : TrackSource) (known : Registry RemoteTrack)
    (ids : List String) : Action (Intake σ) Unit := do
  let tracks := ids.filterMap fun id => known.find? id
  let now ← inWorld (World.now o)
  let (new, old) ← query (Database.takeIn now tracks)
  modify fun p =>
    { p with
      added := noteAll new p.added, changed := noteAll old p.changed
      touched := tracks.foldl
        (fun t r => t.addOwned r.externalId (ownerId r.albumId) (ownerId r.artistId)) p.touched }
  let _ ← query (Database.attach (tracks.map (·.externalId)) s)

/-- Takes a source away from tracks. -/
def removeTracks (s : TrackSource) (ids : List String) : Action (Intake σ) Unit := do
  let owners := (← get).world.database.ownersOf ids
  modify fun p =>
    { p with
      changed := noteAll ids p.changed
      touched := owners.foldl (fun t (id, album, artist) => t.addOwned id album artist) p.touched }
  let _ ← query (Database.detach ids s)

/-- What changes the tracks that hold a source. -/
def writer (o : Outside σ) (s : TrackSource) (known : Registry RemoteTrack) :
    Writer (Intake σ) where
  add _ ids := addTracks o s known ids
  remove _ ids := removeTracks s ids

/-- Brings the tracks that hold a source in line with a collection. -/
def bringInLine (o : Outside σ) (m : Monitor σ) (pace : IntakePace) (s : TrackSource)
    (remote : List RemoteTrack) : Action (Intake σ) SyncResult := do
  let known := Database.latestById remote
  modify fun p => { p with seen := noteAll known.keys p.seen, added := [], changed := [] }
  let held := (← get).world.database.heldBy s
  let diff := computeDiff s.id known.keys held
  let applied ← diff.apply (writer o s known) (watch m) ⟨pace.chunkSize, {}⟩
  let p ← get
  return ⟨known.length, p.added.length, p.changed.length, applied.errors.map ChunkError.text⟩

/-! ### The stages of a pass -/

/-- Takes in the liked tracks. -/
def likedStage (o : Outside σ) (m : Monitor σ) (pace : IntakePace) :
    Action (Intake σ) SyncResult := do
  (watch m).tell "tracks" 0 1 "Fetching liked songs"
  let liked ← ask o.platform.likedTracks
  let result ← bringInLine o m pace ⟨.likedSongs, none, none⟩ liked
  (watch m).tell "tracks" 1 1 (toString liked.length ++ " liked songs")
  inWorld World.commit
  return result

/-- Takes in albums, the first of which has place `index` of `total`. -/
def eachAlbum (o : Outside σ) (m : Monitor σ) (pace : IntakePace) (total : Nat) :
    (index : Nat) → List RemoteAlbum → Action (Intake σ) SyncResult
  | _, [] => pure {}
  | index, a :: rest => do
    (watch m).check
    (watch m).tell "albums" index total a.name
    let result ← bringInLine o m pace ⟨.album, some a.externalId, some a.name⟩ a.tracks
    let others ← eachAlbum o m pace total (index + 1) rest
    return result.merge others

/-- Takes all tracks out of sources. -/
def emptySources (o : Outside σ) (m : Monitor σ) (pace : IntakePace) :
    List TrackSource → Action (Intake σ) SyncResult
  | [] => pure {}
  | s :: rest => do
    let result ← bringInLine o m pace s []
    let others ← emptySources o m pace rest
    return result.merge others

/-- Takes in the saved albums; albums that are saved no longer lose their tracks. -/
def albumStage (o : Outside σ) (m : Monitor σ) (pace : IntakePace) :
    Action (Intake σ) SyncResult := do
  (watch m).tell "albums" 0 0 "Fetching saved albums"
  let albums ← ask o.platform.savedAlbums
  let total := albums.length
  let result ← eachAlbum o m pace total 0 albums
  let sources := (← get).world.database.sourcesOfType .album
  let gone := sources.filter fun s => !albums.any fun a => some a.externalId == s.id
  let others ← emptySources o m pace gone
  (watch m).tell "albums" total total (toString total ++ " albums")
  inWorld World.commit
  return result.merge others

/-- Reads one playlist. What was read is noted only if every chunk was taken in, so that the next
pass tries again. -/
def readPlaylist (o : Outside σ) (m : Monitor σ) (pace : IntakePace) (p : RemotePlaylist) :
    Action (Intake σ) SyncResult := do
  let tracks ← ask (o.platform.playlistTracks p.externalId)
  let result ← bringInLine o m pace ⟨.playlist, some p.externalId, some p.name⟩ tracks
  if result.errors.isEmpty then
    let now ← inWorld (World.now o)
    let _ ← query (Database.saveSnapshot p.externalId p.name p.snapshotId (some now))
  inWorld World.commit
  return result

/-- Takes in playlists, the first of which has place `index` of `total`: the result, and how many
were passed over because they had not changed. -/
def eachPlaylist (o : Outside σ) (m : Monitor σ) (pace : IntakePace) (force : Bool)
    (snapshotOf : String → Option String) (total : Nat) :
    (index : Nat) → List RemotePlaylist → Action (Intake σ) (SyncResult × Nat)
  | _, [] => pure ({}, 0)
  | index, p :: rest => do
    (watch m).check
    (watch m).tell "playlists" index total p.name
    if !shouldRead (.ofText? p.snapshotId) (.ofText? (snapshotOf p.externalId)) force then
      let (others, skipped) ← eachPlaylist o m pace force snapshotOf total (index + 1) rest
      return (others, skipped + 1)
    if 0 < index then (watch m).pauseFor pace.playlistDelay
    let result ← readPlaylist o m pace p
    let (others, skipped) ← eachPlaylist o m pace force snapshotOf total (index + 1) rest
    return (result.merge others, skipped)

/-- Takes in the user's playlists, apart from the outward copies of smart playlists. -/
def playlistStage (o : Outside σ) (m : Monitor σ) (pace : IntakePace) (force : Bool) :
    Action (Intake σ) SyncResult := do
  let d := (← get).world.database
  (watch m).tell "playlists" 0 0 "Fetching playlists"
  let listed ← ask o.platform.userPlaylists
  let playlists := listed.filter fun p => !d.remoteIds.contains p.externalId
  let total := playlists.length
  let (result, skipped) ← eachPlaylist o m pace force d.snapshotOf total 0 playlists
  (watch m).tell "playlists" total total (toString skipped ++ " unchanged")
  return result

/-- Looks up the audio features that are missing. A lasting failure of the lookup is an error of
the result. -/
def featureStage (s : Settings) (o : Outside σ) (m : Monitor σ) :
    Action (Intake σ) SyncResult := do
  let missing := (← get).world.database.missingFeatures
  if missing.isEmpty then return {}
  (watch m).tell "audio_features" 0 missing.length "Fetching audio features"
  let found ← (fetchFeatures (watch m) (fun ids => ask (o.platform.audioFeatures ids))
    s.featureDelay s.featureBatch missing).attempt
  match found with
  | .ok features =>
    let saved ← query (Database.saveFeatures features)
    (watch m).tell "audio_features" missing.length missing.length
      (toString saved ++ " tracks enriched")
    return {}
  | .error (.fatal f) => return ⟨0, 0, 0, ["audio features: " ++ f.message]⟩
  | .error f => throw f

/-- A stage, if it is wanted. -/
def stage (wanted : Bool) (x : Action (Intake σ) SyncResult) : Action (Intake σ) SyncResult :=
  if wanted then x else pure {}

/-- The stages of a pass, one after another. -/
def stages (s : Settings) (o : Outside σ) (m : Monitor σ) (pace : IntakePace)
    (options : IntakeOptions) : Action (Intake σ) SyncResult := do
  let liked ← stage options.likedTracks (likedStage o m pace)
  let albums ← stage options.albums (albumStage o m pace)
  let playlists ← stage options.playlists (playlistStage o m pace options.forceRefresh)
  let features ← stage options.features (featureStage s o m)
  return ((liked.merge albums).merge playlists).merge features

/-- The stages of a pass, and the totals of what they touched. -/
def pass (s : Settings) (o : Outside σ) (m : Monitor σ) (pace : IntakePace)
    (options : IntakeOptions) : Action (Intake σ) SyncResult := do
  let result ← stages s o m pace options
  let touched := (← get).touched
  let _ ← query (Database.recompute touched.albums touched.artists)
  inWorld World.commit
  return { result with total := (← get).seen.length }

end Intake

/-- Brings the local library in line with the remote one. -/
def takeInLibrary {σ : Type} (s : Settings) (o : Outside σ) (m : Monitor σ) (pace : IntakePace)
    (options : IntakeOptions) : Action (World σ) SyncResult :=
  World.unit (.ofRun fun w =>
    let (result, p) := (Intake.pass s o m pace options).runOn { world := w }
    (result, p.world))

end Mixtape
