import Mixtape.Database.Refusal
import Mixtape.Database.Tracks

/-!
# Stored plays and audio features

* `Database.recordPlays` — plays put in, each counted once.
* `Database.missingFeatures`, `Database.saveFeatures` — the tracks without audio features, and
  features put in.
-/

namespace Mixtape.Database

/-! ### Plays -/

/-- The later of two moments, the first of two that denote one instant. -/
def laterOf (a b : Timestamp) : Timestamp := if a.isLt b then b else a

/-- A play of a stored track. -/
structure KnownPlay where
  /-- The number of the track. -/
  track : Int
  /-- When it was played. -/
  playedAt : Timestamp
  /-- For how many milliseconds. -/
  duration : Json

/-- Whether a play is among rows: of the same track and at the same instant. -/
def isRecorded (rows : List PlayRow) (p : KnownPlay) : Bool :=
  rows.any fun r => r.track == p.track && r.playedAt.instant == p.playedAt.instant

/-- The plays that are not recorded yet, each once. -/
def unrecorded (rows : List PlayRow) : List KnownPlay → List KnownPlay
  | [] => []
  | p :: rest =>
    if isRecorded rows p then unrecorded rows rest
    else p :: unrecorded (⟨p.track, p.playedAt, p.duration⟩ :: rows) rest

/-- The columns of a new play. -/
def playColumns (p : KnownPlay) : List (String × Json) :=
  [("track_id", .int p.track), ("played_at", .text p.playedAt.columnText),
    ("duration_ms", orDefault p.duration (.int 0))]

/-- Puts a play in, alone or as one of several; the time of no two plays of a track is shown
alike. -/
def insertPlay (now : Timestamp) (oneOfSeveral : Bool) (d : Database) (p : KnownPlay) :
    Except Failure Database := do
  let duration ← Column.neededCount (orDefault p.duration (.int 0))
  requireFree (!d.plays.any fun r => r.track == p.track && r.playedAt == p.playedAt.asUtc)
    ["plays.track_id", "plays.played_at"]
    (.insertion "plays" (playColumns p) oneOfSeveral now)
  return { d with plays := d.plays ++ [⟨p.track, p.playedAt.asUtc, duration⟩] }

/-- A stored count with a number added. -/
def increased (stored : Json) (n : Nat) : Json :=
  match stored with
  | .int m => .int (m + n)
  | .real x => Column.ofReal (x.add (.ofHalves (2 * n)))
  | j => j

/-- A track with its plays counted in. -/
def played (plays : List KnownPlay) (r : TrackRow) : TrackRow :=
  match plays.filter (·.track == r.id) with
  | [] => r
  | first :: rest =>
    let latest := rest.foldl (fun t p => laterOf t p.playedAt) first.playedAt
    { r with
      playCount := increased r.playCount (first :: rest).length
      lastPlayedAt :=
        some ((r.lastPlayedAt.elim latest fun previous => laterOf previous latest).asUtc) }

/-- Records plays of stored tracks that are not recorded yet, and counts them in; their number.
Plays of other tracks are passed over. -/
def recordPlays (now : Timestamp) (plays : List Play) : Action Database Nat := do
  let d ← get
  let known := plays.filterMap fun p =>
    (d.trackNamed? p.externalId).map fun r => (⟨r.id, p.playedAt, p.duration⟩ : KnownPlay)
  let fresh := unrecorded d.plays known
  let filled ← Action.ofExcept (fresh.foldlM (insertPlay now (decide (1 < fresh.length))) d)
  let tracks := filled.tracks.map (played fresh)
  Action.ofExcept (tracks.forM fun r => Column.neededCount r.playCount >>= fun _ => pure ())
  set { filled with tracks }
  return fresh.length

/-! ### Audio features -/

/-- The platform ids of the tracks of the library without audio features. -/
def missingFeatures (d : Database) : List String :=
  (d.tracks.filter fun r => r.features.isNone && d.isHeld r.id).map (·.externalId)

/-- Stores audio features, those that count as given; the number of tracks that got them. -/
def saveFeatures (features : List (String × Json)) : Action Database Nat := do
  let found := features.filter (·.2.isTruthy)
  let d ← get
  let featuresOf (r : TrackRow) : Option Json := Json.lookupField r.externalId found
  set
    { d with
      tracks := changeWhere (fun r => (featuresOf r).isSome)
        (fun r => { r with features := featuresOf r }) d.tracks }
  return (d.tracks.filter fun r => (featuresOf r).isSome).length

end Mixtape.Database
