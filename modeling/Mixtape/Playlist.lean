import Mixtape.Criteria.Basic
import Mixtape.Track

/-!
# Playlists

Smart playlists, whose membership is computed, and the playlists and albums a platform lists.

* `SmartPlaylist` — a playlist computed from criteria, with what is known of its outward copy.
* `Membership` — the tracks a smart playlist holds at one moment.
* `RemotePlaylist`, `RemoteAlbum` — a platform's listing.
-/

namespace Mixtape

/-- A playlist computed from criteria. The fingerprint is that of the latest membership; the
synced one is that of the membership the outward copy is known to hold. -/
structure SmartPlaylist where
  /-- The name, not empty. -/
  name : String
  /-- What the playlist holds. -/
  criteria : Criteria := {}
  /-- A description. -/
  description : Json := .null
  /-- Whether the playlist takes part in scheduled syncs. -/
  isActive : Json := .bool true
  /-- The id of the outward copy. -/
  remoteId : Json := .null
  /-- The size of the latest membership. -/
  trackCount : Json := .int 0
  /-- The fingerprint of the latest membership. -/
  fingerprint : Json := .null
  /-- The fingerprint of what the outward copy holds. -/
  syncedFingerprint : Json := .null
  /-- When the outward copy was last brought up to date. -/
  lastSyncedAt : Option Timestamp := none
  /-- The number of the playlist, once it is stored. -/
  id : Option Int := none
  deriving DecidableEq

namespace SmartPlaylist

/-- A playlist with a checked name. -/
def named (p : SmartPlaylist) : Except Failure SmartPlaylist :=
  if p.name = "" then .error (.outOfRange "Length of 'name' must be >= 1: 0") else .ok p

/-- Whether the playlist has an outward copy. -/
def isSyncedOutward (p : SmartPlaylist) : Bool := !p.remoteId.isNull

/-- The playlist with a new membership's size and fingerprint. -/
def withMembership (p : SmartPlaylist) (count fingerprint : Json) : SmartPlaylist :=
  { p with trackCount := count, fingerprint }

/-- The playlist after its outward copy was brought up to date. -/
def withSync (p : SmartPlaylist) (remoteId fingerprint : Json) (at' : Timestamp) :
    SmartPlaylist :=
  { p with remoteId, syncedFingerprint := fingerprint, lastSyncedAt := some at' }

end SmartPlaylist

/-- The tracks a smart playlist holds at one moment. -/
structure Membership where
  /-- The numbers of the tracks, in order. -/
  trackIds : List Int
  /-- Their ids at the platform. -/
  externalIds : List String
  /-- The fingerprint of those ids. -/
  fingerprint : String
  deriving DecidableEq

/-- A playlist as a platform lists it. -/
structure RemotePlaylist where
  /-- The id at the platform. -/
  externalId : String
  /-- The name. -/
  name : String
  /-- A mark that changes with the contents. -/
  snapshotId : Option String := none
  /-- The id of the owner. -/
  ownerId : Option String := none
  /-- The number of tracks. -/
  totalTracks : Int := 0
  deriving DecidableEq

/-- A saved album with its tracks in order. -/
structure RemoteAlbum where
  /-- The id at the platform. -/
  externalId : String
  /-- The name. -/
  name : String
  /-- The artist. -/
  artist : String := ""
  /-- The tracks. -/
  tracks : List RemoteTrack := []
  deriving DecidableEq

end Mixtape
