import Mixtape.Action
import Mixtape.Playlist
import Mixtape.Time.Timestamp

/-!
# The platform

What the program asks of the streaming platform.

* `Platform` — the calls.
* `Outside` — the platform and the clock.
* `upTo` — the beginning of a list.
-/

namespace Mixtape

/-- The first `n` of a list; all but the last `-n` for a negative count. -/
def upTo {α : Type} (n : Int) (l : List α) : List α :=
  if n < 0 then l.take (l.length - n.natAbs) else l.take n.toNat

/-- The calls the platform takes. Each may fail. -/
structure Platform (σ : Type) where
  /-- Creates an empty playlist with a name and a description; its id. -/
  createPlaylist : (name description : String) → Action σ String
  /-- Changes name and description of a playlist. -/
  updateDetails : (id name description : String) → Action σ Unit
  /-- The ids on a playlist, in order. -/
  itemIds : (id : String) → Action σ (List String)
  /-- Adds tracks at the end of a playlist. -/
  addItems : Option String → List String → Action σ Unit
  /-- Removes every occurrence of tracks from a playlist. -/
  removeItems : Option String → List String → Action σ Unit
  /-- The liked tracks. -/
  likedTracks : Action σ (List RemoteTrack)
  /-- The saved albums with their tracks. -/
  savedAlbums : Action σ (List RemoteAlbum)
  /-- The user's playlists. -/
  userPlaylists : Action σ (List RemotePlaylist)
  /-- The tracks on a playlist, in order. -/
  playlistTracks : (id : String) → Action σ (List RemoteTrack)
  /-- The latest plays, so many at most if a number is given, latest first. -/
  recentPlays : (limit : Option Int) → Action σ (List Play)
  /-- Audio features by track. -/
  audioFeatures : (ids : List String) → Action σ Json

/-- What lies outside the program: the platform and the clock. -/
structure Outside (σ : Type) where
  /-- The platform. -/
  platform : Platform σ
  /-- The clock. -/
  now : σ → Timestamp

end Mixtape
