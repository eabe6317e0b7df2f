import Mixtape.Documents
import Mixtape.Json.Access
import Mixtape.Number.Reader
import Mixtape.Platform.Account
import Mixtape.Service.Fault
import Mixtape.Sync.Record
import Mixtape.Intake.Basic
import Mixtape.Time.Reader

/-!
# Records from documents

How timestamps, tracks, playlists, jobs, failures and whole accounts are read from documents.

* `Timestamp.ofJson?` — a moment.
* `Track.ofJson`, `RemoteTrack.ofJson`, `RemoteAlbum.ofJson`, `RemotePlaylist.ofJson`, `Play.ofJson`
  — what is listed and played.
* `SmartPlaylist.ofJson`, `Job.ofJson`, `IntakeOptions.ofJson` — the program's own records.
* `Failure.ofJson`, `CallFault.ofJson` — failures.
* `Surroundings.arrange` — an account changed as a document says.
-/

namespace Mixtape

open Json (has getOr textOr intOf listOf textsOf intsOf flag nth fieldsOf)

/-! ### Moments -/

/-- The moment a text writes; without an offset it is universal time. -/
def Timestamp.read (s : String) : Except Failure Timestamp :=
  match Time.readFull s with
  | .ok (wall, offset) => .ok ⟨wall, offset.getD 0⟩
  | .error cause => .error (.outOfRange (cause.message s))

/-- The moment a value writes, none for null. -/
def Timestamp.ofJson? : Json → Except Failure (Option Timestamp)
  | .text s => (Timestamp.read s).map some
  | .null => .ok none
  | _ => .error (.wrongType "fromisoformat: argument must be str")

/-- The moment a field writes, `missing` where it is missing. -/
def Timestamp.field (j : Json) (key : String) (missing : Option Timestamp) :
    Except Failure (Option Timestamp) :=
  match j.field? key with
  | some v => Timestamp.ofJson? v
  | none => .ok missing

/-! ### Fields -/

/-- Refuses an object with a field beyond the given ones. -/
def Json.onlyFields (j : Json) (keys : List String) : Except Failure Unit :=
  match (fieldsOf j).find? fun f => !keys.contains f.1 with
  | some f => .error (.wrongType ("got an unexpected keyword argument " ++ Text.quoted f.1))
  | none => .ok ()

/-- A field that cannot be missing where a record is made. -/
def Json.argument (j : Json) (key : String) : Except Failure Json :=
  match j.field? key with
  | some v => .ok v
  | none => .error (.wrongType ("missing 1 required positional argument: " ++ Text.quoted key))

/-! ### Tracks -/

/-- The fields of a track of the library. -/
def Track.fieldNames : List String :=
  ["external_id", "title", "artist", "album", "duration_ms", "rating", "rated_at", "play_count",
    "last_played_at", "added_at", "release_date", "tag_ids", "sources", "artist_id", "album_id",
    "id"]

/-- The fields of a track of the platform. -/
def RemoteTrack.fieldNames : List String :=
  ["external_id", "title", "artist", "album", "artist_id", "album_id", "duration_ms",
    "release_date", "added_at"]

/-- A source: type, id and name. -/
def TrackSource.ofJson (j : Json) : Except Failure TrackSource := do
  return ⟨← SourceType.ofJson (nth j 0), (nth j 1).text?, (nth j 2).text?⟩

/-- A track of the library; one without a date of adding was added now. -/
def Track.ofJson (now : Timestamp) (j : Json) : Except Failure Track := do
  let ratedAt ← Timestamp.field j "rated_at" none
  let lastPlayedAt ← Timestamp.field j "last_played_at" none
  let addedAt ← Timestamp.field j "added_at" (some now)
  let releaseDate ← Timestamp.field j "release_date" none
  let sources ← (listOf j "sources").mapM TrackSource.ofJson
  j.onlyFields Track.fieldNames
  let tagIds ← tagIdsOf (getOr j "tag_ids" (.list []))
  let rest : Track :=
    { externalId := "", title := "", artist := "", album := getOr j "album" (.text ""), ratedAt
      lastPlayedAt, addedAt, releaseDate, tagIds, sources, artistId := j.get "artist_id"
      albumId := j.get "album_id", id := (j.get "id").int? }
  Track.ofParts (j.get "external_id") (j.get "title") (j.get "artist")
    (getOr j "duration_ms" (.int 0)) (j.get "rating") (getOr j "play_count" (.int 0)) rest

/-- A track of the platform. -/
def RemoteTrack.ofJson (j : Json) : Except Failure RemoteTrack := do
  let some id := j.field? "external_id" | throw (.missingField (Text.quoted "external_id"))
  let releaseDate ← Timestamp.field j "release_date" none
  let addedAt ← Timestamp.field j "added_at" none
  j.onlyFields RemoteTrack.fieldNames
  return {
    externalId := id.plain, title := getOr j "title" (.text ("Remote " ++ id.plain))
    artist := getOr j "artist" (.text "Remote Artist"), album := getOr j "album" (.text "")
    artistId := j.get "artist_id", albumId := j.get "album_id"
    duration := getOr j "duration_ms" (.int 0), releaseDate, addedAt }

/-- A saved album. -/
def RemoteAlbum.ofJson (j : Json) : Except Failure RemoteAlbum := do
  let tracks ← (listOf j "tracks").mapM RemoteTrack.ofJson
  j.onlyFields ["external_id", "name", "artist", "tracks"]
  let id ← j.argument "external_id"
  let name ← j.argument "name"
  return ⟨id.plain, name.plain, textOr j "artist" "", tracks⟩

/-- A playlist of the platform. -/
def RemotePlaylist.ofJson (j : Json) : Except Failure RemotePlaylist := do
  j.onlyFields ["external_id", "name", "snapshot_id", "owner_id", "total_tracks"]
  let id ← j.argument "external_id"
  let name ← j.argument "name"
  return ⟨id.plain, name.plain, (j.get "snapshot_id").text?, (j.get "owner_id").text?,
    intOf j "total_tracks" 0⟩

/-- A play: track, time and duration. -/
def Play.ofJson (j : Json) : Except Failure Play := do
  match ← Timestamp.ofJson? (nth j 1) with
  | some playedAt =>
    return ⟨((nth j 0).text?).getD "", playedAt, (j.items[2]?).getD (.int 0)⟩
  | none => throw .wrongType

/-! ### The program's own records -/

/-- The fields of a smart playlist. -/
def SmartPlaylist.fieldNames : List String :=
  ["name", "criteria", "description", "is_active", "spotify_playlist_id", "track_count",
    "fingerprint", "synced_fingerprint", "last_synced_at", "created_at", "updated_at", "id"]

/-- A smart playlist. -/
def SmartPlaylist.ofJson (j : Json) : Except Failure SmartPlaylist := do
  let criteria ← Criteria.ofDocument (getOr j "criteria" (.object []))
  let lastSyncedAt ← Timestamp.field j "last_synced_at" none
  j.onlyFields SmartPlaylist.fieldNames
  let given ← j.argument "name"
  let some name := given.text?
    | throw (.wrongType ("object of type '" ++ given.kind ++ "' has no len()"))
  SmartPlaylist.named
    { name, criteria, description := j.get "description"
      isActive := getOr j "is_active" (.bool true), remoteId := j.get "spotify_playlist_id"
      trackCount := getOr j "track_count" (.int 0), fingerprint := j.get "fingerprint"
      syncedFingerprint := j.get "synced_fingerprint", lastSyncedAt, id := (j.get "id").int? }

/-- The progress a document writes; what is missing is zero or empty, and so is everything in a
document that counts as not given. -/
def Progress.ofJson (j : Json) : Except Failure Progress := do
  if !j.isTruthy then return {}
  j.requireObject
  return ⟨getOr j "phase" (.text ""), getOr j "current" (.int 0), getOr j "total" (.int 0),
    j.get "message"⟩

/-- A job; one without a date of creation was created now. -/
def Job.ofJson (now : Timestamp) (j : Json) : Except Failure Job := do
  let kind ← JobKind.ofJson (getOr j "kind" (.text JobKind.smartPlaylist.name))
  let status ← JobStatus.ofJson (getOr j "status" (.text JobStatus.waiting.name))
  let progress ← Progress.ofJson (j.get "progress")
  let result ← ResultRecord.ofJson? (j.get "result")
  return {
    id := textOr j "id" "", kind, target := textOr j "target" "", status, progress, result
    error := j.get "error", key := (j.get "idempotency_key").text?
    payload := getOr j "payload" (.object [])
    createdAt := ← Timestamp.field j "created_at" (some now)
    startedAt := ← Timestamp.field j "started_at" none
    finishedAt := ← Timestamp.field j "finished_at" none }

/-- What is to be taken in. -/
def IntakeOptions.ofJson (j : Json) : IntakeOptions :=
  ⟨flag j "force_refresh_playlists" false, flag j "sync_albums" true,
    flag j "sync_liked_tracks" true, flag j "sync_playlists" true,
    flag j "sync_audio_features" true⟩

/-! ### Failures -/

/-- The failure of a kind, if there is one; a result that cannot be read is a failure of its own. -/
def Failure.ofJson? (j : Json) : Option Failure :=
  let message := textOr j "message" ""
  let fault : ServiceFault :=
    { message, service := textOr j "service" "spotify", status := j.get "status" }
  match textOr j "kind" "" with
  | "ValidationError" => some (.invalid message (j.get "path").text?)
  | "NotFoundError" => some (.notFound (textOr j "entity" "") (j.get "id").plain)
  | "TransientExternalError" => some (.transient fault)
  | "FatalExternalError" => some (.fatal fault)
  | "ExternalServiceError" => some (.external fault)
  | "ConcurrencyConflict" => some (.conflict (textOr j "target" "") (textOr j "job" ""))
  | "JobCancelledError" => some .cancelled
  | "SyncFailedError" => match ResultRecord.ofJson? (j.get "result") with
    | .ok result => some (.syncFailed message result)
    | .error f => some f
  | "TimeoutError" => some (.timeout message)
  | "ValueError" => some (.outOfRange message)
  | "RuntimeError" => some (.misuse message)
  | _ => none

/-- The failure of a kind. -/
def Failure.ofJson (j : Json) : Failure := (Failure.ofJson? j).getD (.misuse (textOr j "message" ""))

/-- The fault of a call. -/
def Service.CallFault.ofJson (j : Json) : Service.CallFault :=
  let kind := textOr j "kind" ""
  if kind = "SpotifyException" then
    .refused (j.get "status") (j.get "msg").text? (getOr j "code" (.int (-1))) (j.get "reason")
  else
    match Failure.ofJson? j with
    | some f => .other f
    | none => .undelivered kind (textOr j "message" "")

/-! ### Accounts -/

/-- The fields of an object, each read. -/
def readFields {α : Type} (f : Json → Except Failure α) (j : Json) :
    Except Failure (Registry α) :=
  (fieldsOf j).mapM fun (key, v) => do return (key, ← f v)

/-- Tracks of the platform. -/
def RemoteTrack.listOf (j : Json) : Except Failure (List RemoteTrack) :=
  j.items.mapM RemoteTrack.ofJson

/-- An account with one collection changed: a list stands in place of the old one, what belongs to
single playlists is put in. -/
def Account.changed (a : Account) (key : String) (v : Json) : Except Failure Account := do
  match key with
  | "liked" => return { a with liked := ← RemoteTrack.listOf v }
  | "albums" => return { a with albums := ← v.items.mapM RemoteAlbum.ofJson }
  | "user_playlists" => return { a with userPlaylists := ← v.items.mapM RemotePlaylist.ofJson }
  | "features" => return { a with features := fieldsOf v }
  | "plays" => return { a with plays := ← v.items.mapM Play.ofJson }
  | "playlist_tracks" =>
    return { a with
      playlistTracks := a.playlistTracks.putAll (← readFields RemoteTrack.listOf v) }
  | "items" =>
    return { a with
      items := a.items.putAll (← readFields (fun v => .ok (v.items.filterMap Json.text?)) v) }
  | _ => throw (.missingField (Text.quoted key))

/-- The failures an object names. -/
def Failure.registry (j : Json) : Registry Failure :=
  (fieldsOf j).map fun (key, f) => (key, Failure.ofJson f)

/-- The place of a write that is to fail. -/
def writePlace (key : String) : Except Failure Int :=
  match Numeral.whole? key with
  | some n => .ok n
  | none =>
    .error (.outOfRange ("invalid literal for int() with base 10: " ++ Text.quoted key))

/-- The surroundings with one thing changed: failures of calls are added, writes that are to fail
stand in place of the old ones and are counted anew, all else belongs to the account. -/
def Surroundings.changed (s : Surroundings) (key : String) (v : Json) :
    Except Failure Surroundings := do
  match key with
  | "fail" => return { s with failing := s.failing.putAll (Failure.registry v) }
  | "fail_write" =>
    let failingWrites ← (Failure.registry v).mapM fun (n, f) => do return (← writePlace n, f)
    return { s with writes := 0, failingWrites }
  | _ => return { s with account := ← s.account.changed key v }

/-- Changes what a document names, in its order; what comes before a fault stays changed. -/
def Surroundings.arrange (j : Json) : Action Surroundings Unit :=
  (fieldsOf j).forM fun (key, v) => do
    set (← Action.ofExcept ((← get).changed key v))

end Mixtape
