import Mixtape.Jobs.Store
import Mixtape.Json.Basic
import Mixtape.Platform.Basic

/-!
# An account in memory

An account at the platform that is held in memory, together with a clock and everything that is
seen from outside of a program at work: the calls it makes, its pauses and its reports. Calls can
be made to fail, and a call can cancel the work that makes it.

* `Account` — the collections of the account.
* `Surroundings` — the account, the clock, and what is seen.
* `Surroundings.platform`, `Surroundings.outside`, `Surroundings.monitor` — what the program is
  given of them.
-/

namespace Mixtape

/-- The collections of an account. -/
structure Account where
  /-- Liked tracks. -/
  liked : List RemoteTrack := []
  /-- Saved albums. -/
  albums : List RemoteAlbum := []
  /-- The playlists the account lists. -/
  userPlaylists : List RemotePlaylist := []
  /-- The tracks of listed playlists. -/
  playlistTracks : Registry (List RemoteTrack) := []
  /-- The ids on the playlists that can be written. -/
  items : Registry (List String) := []
  /-- Audio features by track. -/
  features : List (String × Json) := []
  /-- Plays, latest first. -/
  plays : List Play := []
  /-- Names and descriptions given to playlists. -/
  details : Registry (String × String) := []
  /-- How many playlists were created. -/
  created : Nat := 0

namespace Account

/-- The failure of a call about a playlist the account does not have. -/
def unknown : Failure := .fatal { message := "Not found", status := .int 404 }

/-- The id of the `n`-th created playlist. -/
def createdId (n : Nat) : String := "created-" ++ toString n

/-- Creates an empty playlist. -/
def create (name description : String) : Action Account String := do
  let a ← get
  let id := createdId (a.created + 1)
  set
    { a with
      created := a.created + 1, items := a.items.put id []
      details := a.details.put id (name, description) }
  return id

/-- Changes name and description of a playlist. -/
def describe (id name description : String) : Action Account Unit :=
  modify fun a => { a with details := a.details.put id (name, description) }

/-- The ids on a playlist. -/
def itemsOf (id : String) : Action Account (List String) := do
  match (← get).items.find? id with
  | some ids => return ids
  | none => throw unknown

/-- Changes the ids on a playlist. -/
def changeItems (id : Option String) (f : List String → List String) : Action Account Unit := do
  match id with
  | none => throw unknown
  | some id =>
    let ids ← itemsOf id
    modify fun a => { a with items := a.items.put id (f ids) }

/-- The audio features of tracks, null for those without. -/
def featuresOf (a : Account) (ids : List String) : Json :=
  .object (ids.foldl (fun fields id =>
    Json.putField id ((Json.lookupField id a.features).getD .null) fields) [])

end Account

/-- The account, the clock, and what is seen of the program. -/
structure Surroundings where
  /-- The time. -/
  clock : Timestamp
  /-- The account. -/
  account : Account := {}
  /-- The next calls of these names fail. -/
  failing : Registry Failure := []
  /-- The writes that fail, counted from one. -/
  failingWrites : List (Int × Failure) := []
  /-- How many writes were made since the failing ones were chosen. -/
  writes : Int := 0
  /-- The calls made. -/
  calls : List Json := []
  /-- The pauses made. -/
  pauses : List Amount := []
  /-- The progress reported. -/
  reports : List Progress := []
  /-- How many looks for cancellation find none; without a number all do. -/
  checks : Option Nat := none
  /-- Whether cancellation was asked for. -/
  cancelled : Bool := false
  /-- The name of the call that asks for cancellation. -/
  cancelAt : Option String := none
  /-- Job records. -/
  jobs : MemoryJobs := {}

namespace Surroundings

/-- Notes a call, which may ask for cancellation, and fails if it is to fail. -/
def note (method : String) (arguments : List Json) : Action Surroundings Unit := do
  let s ← get
  set
    { s with
      calls := s.calls ++ [Json.list (Json.text method :: arguments)]
      cancelled := s.cancelled || s.cancelAt == some method
      failing := s.failing.erase method }
  match s.failing.find? method with
  | some f => throw f
  | none => pure ()

/-- Work on the account. -/
def onAccount {α : Type} (x : Action Account α) : Action Surroundings α :=
  x.within Surroundings.account fun account s => { s with account }

/-- A call about the account. -/
def call {α : Type} (method : String) (arguments : List Json) (x : Action Account α) :
    Action Surroundings α := do
  note method arguments
  onAccount x

/-- A write: a call that is counted once it is not to fail by its name. -/
def write (method : String) (id : Option String) (ids : List String)
    (f : List String → List String) : Action Surroundings Unit := do
  note method [.ofText? id, .texts ids]
  let s ← get
  let n := s.writes + 1
  set { s with writes := n }
  match s.failingWrites.lookup n with
  | some failure => throw failure
  | none => onAccount (Account.changeItems id f)

/-- The platform of the account. -/
def platform : Platform Surroundings where
  createPlaylist name description :=
    call "create_playlist" [.text name, .text description] (Account.create name description)
  updateDetails id name description :=
    call "update_playlist_details" [.text id, .text name, .text description]
      (Account.describe id name description)
  itemIds id := call "get_playlist_item_ids" [.text id] (Account.itemsOf id)
  addItems id ids := write "add_items" id ids (· ++ ids)
  removeItems id ids := write "remove_items" id ids (·.filter (!ids.contains ·))
  likedTracks := call "get_liked_tracks" [] do return (← get).liked
  savedAlbums := call "get_saved_albums" [] do return (← get).albums
  userPlaylists := call "get_user_playlists" [] do return (← get).userPlaylists
  playlistTracks id :=
    call "get_playlist_tracks" [.text id] do return ((← get).playlistTracks.find? id).getD []
  recentPlays limit :=
    call "get_recently_played" [.ofInt? limit] do
      let plays := (← get).plays
      return limit.elim plays (upTo · plays)
  audioFeatures ids :=
    call "get_audio_features" [.texts ids] do return (← get).featuresOf ids

/-- The platform of the account, and the clock. -/
def outside : Outside Surroundings := ⟨platform, Surroundings.clock⟩

/-- A look for cancellation. -/
def check : Action Surroundings Unit := do
  let s ← get
  if s.cancelled then throw .cancelled
  match s.checks with
  | none => pure ()
  | some 0 => throw .cancelled
  | some (n + 1) => set { s with checks := some n }

/-- Reports and pauses are noted, and cancellation is found when it was asked for. -/
def monitor : Monitor Surroundings where
  report p := modify fun s => { s with reports := s.reports ++ [p] }
  check := check
  pause seconds := modify fun s => { s with pauses := s.pauses ++ [seconds] }

/-- What was seen since it was last looked at is forgotten. -/
def unseen (s : Surroundings) : Surroundings := { s with calls := [], pauses := [], reports := [] }

end Surroundings

end Mixtape
