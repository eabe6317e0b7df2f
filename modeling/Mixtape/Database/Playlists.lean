import Mixtape.Database.Basic

/-!
# Stored playlists

Smart playlists, and what was last read of the platform's own playlists.

* `Database.createPlaylist`, `Database.playlist`, `Database.playlistNamed?`,
  `Database.listPlaylists` — putting in and reading.
* `Database.saveCriteria`, `Database.setActive`, `Database.saveMembership`,
  `Database.setRemoteId`, `Database.markSynced` — changing one thing.
* `Database.saveSnapshot` — noting what was read.
-/

namespace Mixtape

/-- The playlist of a row; its criteria are read from their document. -/
def PlaylistRow.playlist (r : PlaylistRow) : Except Failure SmartPlaylist := do
  let criteria ← Criteria.ofDocument r.criteria
  SmartPlaylist.named
    { name := r.name, criteria, description := .ofText? r.description, isActive := .bool r.isActive
      remoteId := .ofText? r.remoteId
      trackCount := if r.trackCount.isTruthy then r.trackCount else .int 0
      fingerprint := .ofText? r.fingerprint, syncedFingerprint := .ofText? r.syncedFingerprint
      lastSyncedAt := r.lastSyncedAt, id := some r.id }

/-- The row of a playlist under a number. One that does not tell whether it is active is, and one
that does not tell its size is empty. -/
def SmartPlaylist.row (p : SmartPlaylist) (id : Int) : Except Failure PlaylistRow := do
  let description ← Column.text? p.description
  let isActive ← Column.flag? p.isActive
  let remoteId ← Column.text? p.remoteId
  let trackCount ← Column.count p.trackCount
  let fingerprint ← Column.text? p.fingerprint
  let syncedFingerprint ← Column.text? p.syncedFingerprint
  return {
    id, name := p.name, description, criteria := p.criteria.toDocument
    isActive := isActive.getD true, remoteId
    trackCount := if trackCount.isNull then .int 0 else trackCount
    fingerprint, syncedFingerprint, lastSyncedAt := Timestamp.stored? p.lastSyncedAt }

namespace Database

/-! ### Smart playlists -/

/-- The row with a number. -/
def playlistRow (id : Int) : Action Database PlaylistRow := do
  Action.ofExcept (storable id)
  match (← get).playlists.find? (·.id == id) with
  | some r => return r
  | none => throw (.notFound "SmartPlaylist" (toString id))

/-- The playlist with a number. -/
def playlist (id : Int) : Action Database SmartPlaylist := do
  Action.ofExcept (← playlistRow id).playlist

/-- The playlist with a name. -/
def playlistNamed? (name : String) : Action Database (Option SmartPlaylist) := do
  match (← get).playlists.find? (·.name == name) with
  | some r => return some (← Action.ofExcept r.playlist)
  | none => return none

/-- All playlists, or those that take part in scheduled syncs. -/
def listPlaylists (activeOnly : Bool) : Action Database (List SmartPlaylist) := do
  let rows := (← get).playlists.filter fun r => !activeOnly || r.isActive
  Action.ofExcept (rows.mapM PlaylistRow.playlist)

/-- Puts in a new playlist; the playlist as it is stored. -/
def createPlaylist (p : SmartPlaylist) : Action Database SmartPlaylist := do
  let d ← get
  let r ← Action.ofExcept (p.row (nextId (d.playlists.map (·.id))))
  Action.ofExcept (require (!d.playlists.any (·.name == p.name)))
  set { d with playlists := d.playlists ++ [r] }
  Action.ofExcept r.playlist

/-- Changes the row with a number; the playlist as it is stored. -/
def changePlaylist (id : Int) (f : PlaylistRow → Except Failure PlaylistRow) :
    Action Database SmartPlaylist := do
  let r ← playlistRow id
  let changed ← Action.ofExcept (f r)
  modify fun d => { d with playlists := changeWhere (·.id == id) (fun _ => changed) d.playlists }
  Action.ofExcept changed.playlist

/-- Gives a playlist other criteria. -/
def saveCriteria (id : Int) (c : Criteria) : Action Database SmartPlaylist :=
  changePlaylist id fun r => .ok { r with criteria := c.toDocument }

/-- Lets a playlist take part in scheduled syncs, or not. -/
def setActive (id : Int) (isActive : Json) : Action Database SmartPlaylist :=
  changePlaylist id fun r => do
    let isActive ← Column.needed (Column.flag? isActive)
    return { r with isActive }

/-- Notes size and fingerprint of a new membership. -/
def saveMembership (id : Int) (trackCount fingerprint : Json) : Action Database SmartPlaylist :=
  changePlaylist id fun r => do
    let trackCount ← Column.neededCount trackCount
    let fingerprint ← Column.text? fingerprint
    return { r with trackCount, fingerprint }

/-- Notes the outward copy. -/
def setRemoteId (id : Int) (remoteId : Json) : Action Database SmartPlaylist :=
  changePlaylist id fun r => do
    let remoteId ← Column.text? remoteId
    return { r with remoteId }

/-- Notes that the outward copy was brought up to date. -/
def markSynced (id : Int) (remoteId fingerprint : Json) (now : Timestamp) :
    Action Database SmartPlaylist :=
  changePlaylist id fun r => do
    let remoteId ← Column.text? remoteId
    let syncedFingerprint ← Column.text? fingerprint
    return { r with remoteId, syncedFingerprint, lastSyncedAt := some now.asUtc }

/-- The ids of all outward copies, each once. -/
def remoteIds (d : Database) : List String := dedup (d.playlists.filterMap (·.remoteId))

/-! ### The platform's playlists -/

/-- The mark of the contents that were last read of a playlist of the platform. -/
def snapshotOf (d : Database) (externalId : String) : Option String :=
  (d.snapshots.find? (·.externalId == externalId)).bind (·.snapshotId)

/-- Notes what was read of a playlist of the platform; the row as it is stored. -/
def saveSnapshot (externalId name : String) (snapshotId : Option String)
    (readAt : Option Timestamp) : Action Database SnapshotRow := do
  let d ← get
  let readAt := Timestamp.stored? readAt
  match d.snapshots.find? (·.externalId == externalId) with
  | some r =>
    let changed := { r with name, snapshotId, readAt }
    set
      { d with
        snapshots := changeWhere (·.externalId == externalId) (fun _ => changed) d.snapshots }
    return changed
  | none =>
    let r : SnapshotRow :=
      { id := nextId (d.snapshots.map (·.id)), externalId, name, snapshotId, readAt }
    set { d with snapshots := d.snapshots ++ [r] }
    return r

end Database

end Mixtape
