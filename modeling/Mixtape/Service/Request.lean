import Mixtape.Action
import Mixtape.Documents
import Mixtape.Service.Fault
import Mixtape.Text.Search

/-!
# Requests

The calls the streaming service takes, and what carries them out.

* `Request` — the calls.
* `Client` — what carries them out.
* `trackUri` — how a track is named in a call.
-/

namespace Mixtape.Service

/-- A call to the service. -/
inductive Request where
  /-- Adds tracks at the end of a playlist. -/
  | addItems (playlist : Json) (uris : List String)
  /-- Removes every occurrence of tracks from a playlist. -/
  | removeItems (playlist : Json) (uris : List String)
  /-- Asks who the user is. -/
  | currentUser
  /-- Creates a private playlist. -/
  | createPlaylist (user : Json) (name description : String)
  /-- Changes name and description of a playlist. -/
  | changeDetails (playlist : Json) (name description : String)
  /-- Asks for the mark of a playlist's contents. -/
  | snapshot (playlist : Json)
  /-- Asks for the ids on a playlist. -/
  | playlistIds (playlist : Json) (limit : Json)
  /-- Asks for the tracks on a playlist. -/
  | playlistTracks (playlist : Json) (limit : Json)
  /-- Asks for the user's playlists. -/
  | userPlaylists
  /-- Asks for the liked tracks. -/
  | likedTracks (limit : Json)
  /-- Asks for the saved albums. -/
  | savedAlbums
  /-- Asks for the latest plays. -/
  | recentPlays (limit : Int)
  /-- Asks for audio features. -/
  | audioFeatures (ids : List String)
  /-- Asks for the page that follows a page. -/
  | nextPage (page : Json)
  deriving DecidableEq

namespace Request

/-- The name of the call. -/
def method : Request → String
  | addItems _ _ => "playlist_add_items"
  | removeItems _ _ => "playlist_remove_all_occurrences_of_items"
  | currentUser => "current_user"
  | createPlaylist _ _ _ => "user_playlist_create"
  | changeDetails _ _ _ => "playlist_change_details"
  | snapshot _ => "playlist"
  | playlistIds _ _ | playlistTracks _ _ => "playlist_items"
  | userPlaylists => "current_user_playlists"
  | likedTracks _ => "current_user_saved_tracks"
  | savedAlbums => "current_user_saved_albums"
  | recentPlays _ => "current_user_recently_played"
  | audioFeatures _ => "audio_features"
  | nextPage _ => "next"

/-- The arguments given by place. -/
def positional : Request → List Json
  | addItems playlist uris | removeItems playlist uris => [playlist, .texts uris]
  | changeDetails playlist _ _ | snapshot playlist | playlistIds playlist _
  | playlistTracks playlist _ => [playlist]
  | audioFeatures ids => [.texts ids]
  | nextPage page => [page.get "next"]
  | _ => []

/-- The most entries on a page of a listing that has no setting of its own. -/
def pageSize : Int := 50

/-- The arguments given by name. -/
def named : Request → List (String × Json)
  | createPlaylist user name description =>
    [("user", user), ("name", .text name), ("public", .bool false),
      ("description", .text description)]
  | changeDetails _ name description => [("name", .text name), ("description", .text description)]
  | snapshot _ => [("fields", .text "snapshot_id")]
  | playlistIds _ limit =>
    [("fields", .text "items(is_local,track(id)),next"), ("limit", limit),
      ("additional_types", .texts ["track"])]
  | playlistTracks _ limit => [("limit", limit), ("additional_types", .texts ["track"])]
  | userPlaylists | savedAlbums => [("limit", .int pageSize)]
  | likedTracks limit => [("limit", limit)]
  | recentPlays limit => [("limit", .int limit)]
  | _ => []

/-- A call as a document: its name, the arguments by place, and those by name. -/
def toJson (r : Request) : Json :=
  .list [.text r.method, .list r.positional, .object r.named]

end Request

/-- What carries out calls. -/
structure Client (σ : Type) where
  /-- Carries out a call. -/
  send : Request → σ → Except CallFault Json × σ

/-- A call as a computation. -/
def Client.call {σ : Type} (c : Client σ) (r : Request) : Action σ Json :=
  .ofRun fun s =>
    match c.send r s with
    | (.ok answer, t) => (.ok answer, t)
    | (.error fault, t) => (.error fault.ending, t)

/-- How a track is named in a call: by its id under the service's scheme, unless it is a name of
that scheme already. -/
def trackUri (id : String) : String :=
  if Text.startsWith id "spotify:" then id else "spotify:track:" ++ id

@[simp] theorem trackUri_empty : trackUri "" = "spotify:track:" := by decide +kernel

end Mixtape.Service
