import Mixtape.Documents
import Mixtape.Database.Sources
import Mixtape.Schedule

/-!
# Overview

Everything a studio holds as one document, and the remaining records as documents.

* `Tag.toJson`, `SnapshotRow.toJson`, `Library.toJson`, `SyncOutcome.toJson` — records.
* `Studio.overview` — the database and the account.
-/

namespace Mixtape

/-- A tag as a document. -/
def Tag.toJson (t : Tag) : Json :=
  .object [("id", .int t.id), ("name", .text t.name), ("color", .text t.color)]

/-- What was read of a playlist, as a document. -/
def SnapshotRow.toJson (r : SnapshotRow) : Json :=
  .object
    [("id", .int r.id), ("external_id", .text r.externalId), ("name", .text r.name),
      ("snapshot_id", .ofText? r.snapshotId), ("last_mirrored_at", .ofTimestamp? r.readAt)]

/-- A library as a document. -/
def Library.toJson (l : Library) : Json :=
  .object
    [("tracks", .list (l.tracks.map Track.toJson)), ("tags", .list (l.tags.map Tag.toJson))]

/-- A playlist together with its membership as a document. -/
def membershipJson (p : SmartPlaylist × Membership) : Json :=
  .object [("playlist", p.1.toJson), ("materialized", p.2.toJson)]

/-- What became of an outward copy, as a document. -/
def SyncOutcome.toJson (o : SyncOutcome) : Json :=
  .object
    [("status", .text o.status.name), ("playlist", o.playlist.toJson),
      ("materialized", o.membership.toJson), ("diff", (o.diff.map Diff.toJson).getD .null),
      ("applied", (o.applied.map Applied.toJson).getD .null), ("result", o.result.toJson)]

/-- A report of progress as a document: phase, counts and message. -/
def Progress.entry (p : Progress) : List Json := [p.phase, p.current, p.total, p.message]

/-- A number that may be missing, as a document. -/
def Json.ofReal? (x : Option Binary64) : Json := (x.map Json.real).getD .null

namespace Database

/-- Totals as documents, by id. -/
def totalsJson (ts : List Totals) : Json :=
  .list ((sortBy (fun a b => Text.leText a.id b.id) ts).map fun t =>
    .list [.text t.id, .text t.name, .nat t.trackCount, .ofReal? t.averageRating])

/-- Plays as documents, by track and time. -/
def playsJson (ps : List PlayRow) : Json :=
  let isLe (a b : PlayRow) : Bool :=
    decide (a.track < b.track) || a.track == b.track && a.playedAt.isLe b.playedAt
  .list ((sortBy isLe ps).map fun p => .list [.int p.track, p.playedAt.toJson, p.duration])

/-- The marks of what was read, by id. -/
def snapshotsJson (rs : List SnapshotRow) : Json :=
  .list ((sortBy (fun a b => Text.leText a.externalId b.externalId) rs).map fun r =>
    .list [.text r.externalId, .ofText? r.snapshotId])

end Database

/-- The playlists of an account as a document: what is on them, and their names and
descriptions. -/
def Account.toJson (a : Account) : Json :=
  .object
    [("items", .object (a.items.map fun (id, ids) => (id, .texts ids))),
      ("details", .object (a.details.map fun (id, name, description) =>
        (id, .texts [name, description])))]

/-- The database and the account as a document, if every track and playlist can be read. -/
def Studio.overview (w : Studio) : Except Failure Json := do
  let d := w.database
  let tracks ← d.tracks.mapM d.readTrack
  let playlists ← d.playlists.mapM PlaylistRow.playlist
  return .object
    [("tracks", .list (tracks.map Track.toJson)),
      ("tags", .list (d.tagsByName.map Tag.toJson)),
      ("in_library", .texts ((d.tracks.filter fun r => d.isHeld r.id).map (·.externalId))),
      ("missing_features", .texts d.missingFeatures),
      ("playlists", .list (playlists.map SmartPlaylist.toJson)),
      ("snapshots", Database.snapshotsJson d.snapshots),
      ("albums", Database.totalsJson d.albums), ("artists", Database.totalsJson d.artists),
      ("plays", Database.playsJson d.plays), ("remote", w.outside.account.toJson)]

end Mixtape
