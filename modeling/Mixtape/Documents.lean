import Mixtape.Json.Basic
import Mixtape.Jobs.Job
import Mixtape.Library
import Mixtape.Sync.Apply
import Mixtape.Sync.Touched

/-!
# Records as documents

How tracks, playlists, diffs, results and jobs are written as documents, and how the records that
are stored as documents are read back.
-/

namespace Mixtape

/-- A timestamp as a document. -/
def Timestamp.toJson (t : Timestamp) : Json := .text t.text

/-- An optional timestamp as a document. -/
def Json.ofTimestamp? (t : Option Timestamp) : Json := .ofText? (t.map Timestamp.text)

/-- A source as a document: type, id and name. -/
def TrackSource.toJson (s : TrackSource) : Json :=
  .list [.text s.type.name, .ofText? s.id, .ofText? s.name]

/-- A track as a document. -/
def Track.toJson (t : Track) : Json :=
  .object
    [("external_id", .text t.externalId), ("title", .text t.title), ("artist", .text t.artist),
      ("album", t.album), ("duration_ms", t.duration.given),
      ("rating", (t.rating.map Rating.given).getD .null), ("rated_at", .ofTimestamp? t.ratedAt),
      ("play_count", t.playCount.given), ("last_played_at", .ofTimestamp? t.lastPlayedAt),
      ("added_at", .ofTimestamp? t.addedAt), ("release_date", .ofTimestamp? t.releaseDate),
      ("tag_ids", .list (t.tagIds)),
      ("sources", .list ((sortBy TrackSource.isLe t.sources).map TrackSource.toJson)),
      ("artist_id", t.artistId), ("album_id", t.albumId), ("id", .ofInt? t.id)]

/-- A smart playlist as a document. -/
def SmartPlaylist.toJson (p : SmartPlaylist) : Json :=
  .object
    [("name", .text p.name), ("criteria", p.criteria.toDocument),
      ("description", p.description), ("is_active", p.isActive),
      ("spotify_playlist_id", p.remoteId), ("track_count", p.trackCount),
      ("fingerprint", p.fingerprint), ("synced_fingerprint", p.syncedFingerprint),
      ("last_synced_at", .ofTimestamp? p.lastSyncedAt), ("id", .ofInt? p.id),
      ("is_synced_outward", .bool p.isSyncedOutward)]

/-- A membership as a document. -/
def Membership.toJson (m : Membership) : Json :=
  .object
    [("track_ids", .list (m.trackIds.map .int)), ("external_ids", .texts m.externalIds),
      ("fingerprint", .text m.fingerprint), ("len", .nat m.trackIds.length)]

/-- A kept result as a document. -/
def ResultRecord.toJson (r : ResultRecord) : Json :=
  .object
    [("totalTracks", r.total), ("newTracks", r.added), ("updatedTracks", r.changed),
      ("errors", .list r.errors)]

/-- The result of a sync as a document. -/
def SyncResult.toJson (r : SyncResult) : Json := r.record.toJson

/-- An optional result as a document. -/
def Json.ofResult? (r : Option ResultRecord) : Json := (r.map ResultRecord.toJson).getD .null

/-- The parts of progress in order: phase, counts and message, the share done in between. -/
def Progress.parts (p : Progress) : Except Failure (List Json) := do
  return [p.phase, p.current, p.total, .real (← p.percentage), p.message]

/-- Progress as a document, with the percentage. -/
def Progress.toJson (p : Progress) : Except Failure Json := do
  return .object (["phase", "current", "total", "percentage", "message"].zip (← p.parts))

/-- A job as a document. -/
def Job.toJson (j : Job) : Except Failure Json := do
  let progress ← j.progress.toJson
  return .object
    [("id", .text j.id), ("kind", .text j.kind.name), ("target", .text j.target),
      ("status", .text j.status.name), ("progress", progress),
      ("result", .ofResult? j.result), ("error", j.error),
      ("idempotency_key", .ofText? j.key), ("payload", j.payload),
      ("created_at", .ofTimestamp? j.createdAt), ("started_at", .ofTimestamp? j.startedAt),
      ("finished_at", .ofTimestamp? j.finishedAt)]

/-- A diff as a document. -/
def Diff.toJson (d : Diff) : Json :=
  .object
    [("playlist", .ofText? d.playlist), ("to_add", .texts d.toAdd), ("to_remove", .texts d.toRemove),
      ("unchanged", .nat d.unchanged), ("has_changes", .bool d.hasChanges)]

/-- What applying a diff has done, as a document. -/
def Applied.toJson (a : Applied) : Json :=
  .object
    [("added", .texts a.added), ("removed", .texts a.removed), ("calls_made", .nat a.calls),
      ("errors", .list (a.errors.map fun e =>
        .list [.text e.operation.name, .texts e.items, .text e.message, .bool e.isPassing,
          .text e.text])),
      ("is_complete", .bool a.isComplete), ("all_chunks_failed", .bool a.allFailed)]

/-- The touched ids, in order, as a document. -/
def Touched.toJson (t : Touched) : Json :=
  .object
    [("tracks", .texts (Touched.sorted t.tracks)), ("albums", .texts (Touched.sorted t.albums)),
      ("artists", .texts (Touched.sorted t.artists)), ("total", .nat t.count), ("any", .bool t.any)]

/-- A track of a platform as a document. -/
def RemoteTrack.toJson (t : RemoteTrack) : Json :=
  .object
    [("external_id", .text t.externalId), ("title", t.title), ("artist", t.artist),
      ("album", t.album), ("artist_id", t.artistId), ("album_id", t.albumId),
      ("duration_ms", t.duration), ("release_date", .ofTimestamp? t.releaseDate),
      ("added_at", .ofTimestamp? t.addedAt)]

/-- A failure as a document: its cause, its wording where it has one, and what belongs to the
cause. -/
def Failure.toJson (f : Failure) : Json :=
  let fault (s : ServiceFault) : List (String × Json) :=
    [("service", .text s.service), ("http_status", s.status)]
  let wording : List (String × Json) :=
    if f.isDomain then [("message", .text f.message)]
    else
      match f with
      | .timeout _ | .outOfRange _ | .misuse _ => [("message", .text f.message)]
      | _ => []
  let more : List (String × Json) :=
    match f with
    | .invalid _ path => [("path", .ofText? path)]
    | .transient s | .fatal s | .external s => fault s
    | .syncFailed _ r => [("result", .ofResult? r)]
    | _ => []
  .object ([("error", .text f.name)] ++ wording ++ more)

end Mixtape
