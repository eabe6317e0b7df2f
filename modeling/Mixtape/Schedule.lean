import Mixtape.Authoring
import Mixtape.Database.Jobs
import Mixtape.Edits
import Mixtape.Intake.Basic
import Mixtape.Jobs.Runner
import Mixtape.Platform.Account

/-!
# Scheduled work

The program's work as jobs: bringing a playlist outward, taking in the library, onboarding and
importing plays. All playlists with an outward copy can be brought outward one after another.

* `Studio` — the world of an account in memory.
* `databaseJobs`, `memoryJobs` — the stores of job records.
* `outwardOrder`, `intakeOrder`, `onboardingOrder`, `playImportOrder` — the jobs.
* `JobSystem.syncAll` — every playlist with an outward copy.
-/

namespace Mixtape

/-- The world of an account in memory. -/
abbrev Studio := World Surroundings

namespace Studio

/-! ### Stores -/

/-- The time. -/
def clock (w : Studio) : Timestamp := w.outside.clock

/-- Job records in the database, each written in a unit of its own. -/
def databaseJobs : JobStore Studio where
  now := clock
  save j := do
    let _ ← World.unit (World.query (Database.saveJob (← get).clock j))
  get id := do return (← get).database.job? id
  claim j := do World.unit (World.query (Database.claimJob (← get).clock j))

/-- Job records in memory. -/
def memoryJobs : JobStore Studio :=
  MemoryJobs.store clock (·.outside.jobs) fun jobs w => { w with outside := { w.outside with jobs } }

/-! ### Jobs -/

/-- A computation as the work of a job: its reports are the job's progress, and cancellation of the
job is what it finds. -/
def work (x : Action Studio SyncResult) : Work Studio :=
  .ofRun fun cancelled w =>
    let begun := { w with outside := { w.outside with cancelled, reports := [] } }
    let (result, t) := x.runOn begun
    ((result, t.outside.reports),
      { t with outside := { t.outside with cancelled := false, reports := [] } })

/-- What a job reports to. -/
def watch : Monitor Studio := World.watch Surroundings.monitor

/-- The target of the jobs of the playlist that a value asks for. -/
def playlistTarget (id : Json) : String := "smart-playlist:" ++ id.plain

/-- The job that brings outward the playlist that a value asks for. -/
def outwardOrder (s : Settings) (id : Json) (force : Bool) : JobSystem.Order Studio where
  kind := .smartPlaylist
  target := playlistTarget id
  work := work do
    let row ← Action.ofExcept (Column.number "SmartPlaylist" id)
    let outcome ←
      bringOutward s Surroundings.outside Surroundings.monitor s.applyOptions row force
    return outcome.result
  payload := .object [("playlist_id", id), ("force", .bool force)]

/-- Takes in the library at the pace that the settings ask for. -/
def intake (s : Settings) (options : IntakeOptions) : Action Studio SyncResult :=
  takeInLibrary s Surroundings.outside Surroundings.monitor s.intakePace options

/-- The job that takes in the library. -/
def intakeOrder (s : Settings) (options : IntakeOptions) : JobSystem.Order Studio where
  kind := .libraryIntake
  target := "library"
  work := work (intake s options)
  payload :=
    .object
      [("force_refresh_playlists", .bool options.forceRefresh),
        ("sync_albums", .bool options.albums), ("sync_liked_tracks", .bool options.likedTracks),
        ("sync_playlists", .bool options.playlists),
        ("sync_audio_features", .bool options.features)]

/-- The job that takes in the library and creates the first playlists, once for an account. -/
def onboardingOrder (s : Settings) (account : String) : JobSystem.Order Studio where
  kind := .onboarding
  target := "onboarding"
  work := work do
    let result ← intake s {}
    watch.check
    watch.tell "seed" 0 1 "Creating default smart playlists"
    let seeded ← seedPlaylists Surroundings.outside
    watch.tell "seed" 1 1 (toString seeded.length ++ " playlists created")
    return result
  payload := .object [("account", .text account)]
  key := some ("onboarding:" ++ account)

/-- How many plays are asked for at once. -/
def playWindow : Int := 50

/-- The job that imports plays. -/
def playImportOrder : JobSystem.Order Studio where
  kind := .playImport
  target := "plays"
  work := work do
    watch.tell "plays" 0 1 "Fetching recently played"
    let result ← importPlays Surroundings.outside (some playWindow)
    watch.tell "plays" 1 1 (toString result.changed ++ " plays recorded")
    return result

/-! ### All playlists -/

/-- Work on the world of a job system. -/
def onWorld {α : Type} (x : Action Studio α) (s : JobSystem Studio) :
    Except Failure α × JobSystem Studio :=
  let (r, shared) := x.runOn s.shared
  (r, { s with shared })

/-- Brings playlists outward, one job for each, with a pause between two of them that lasts until
the jobs have ended. A playlist whose job is refused is passed over. -/
def syncEach (store : JobStore Studio) (policy : ConflictPolicy) (settings : Settings)
    (delay : Amount) (force : Bool) : (first : Bool) → List Int → JobSystem Studio →
    Except Failure (List String) × JobSystem Studio
  | _, [], s => (.ok [], s)
  | first, id :: rest, s =>
    let s :=
      if !first && decide (0 < delay.units) then
        (onWorld (watch.pause delay) s).2.settle store
      else s
    match s.enqueue store policy (outwardOrder settings (.int id) force) with
    | (.error (.conflict _ _), s) => syncEach store policy settings delay force false rest s
    | (.error f, s) => (.error f, s)
    | (.ok job, s) =>
      let (others, s) := syncEach store policy settings delay force false rest s
      (others.map (job :: ·), s)

/-- Brings outward every playlist that takes part in scheduled syncs and has an outward copy; the
ids of the jobs. -/
def syncAll (store : JobStore Studio) (policy : ConflictPolicy) (settings : Settings)
    (delay : Amount) (force : Bool) (s : JobSystem Studio) : Except Failure (List String) × JobSystem Studio :=
  match onWorld (World.unit (World.query (Database.listPlaylists true))) s with
  | (.error f, s) => (.error f, s)
  | (.ok playlists, s) =>
    syncEach store policy settings delay force true
      ((playlists.filter (·.isSyncedOutward)).filterMap (·.id)) s

end Studio

end Mixtape
