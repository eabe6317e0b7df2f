import Mixtape.Sync.Progress
import Mixtape.Time.Timestamp

/-!
# Jobs

The record of one background job and the steps of its life: waiting, active, then completed or
failed.

* `JobKind`, `JobStatus` — what a job does and where it stands.
* `Job` — the record.
* `Job.start`, `Job.complete`, `Job.fail` — the steps.
-/

namespace Mixtape

/-- What a job does. -/
inductive JobKind where
  /-- It brings the outward copy of one smart playlist up to date. -/
  | smartPlaylist
  /-- It reads the remote collections into the library. -/
  | libraryIntake
  /-- It reads the remote collections and creates the first smart playlists. -/
  | onboarding
  /-- It reads the play history. -/
  | playImport
  deriving DecidableEq

namespace JobKind

/-- All kinds. -/
def all : List JobKind := [smartPlaylist, libraryIntake, onboarding, playImport]

/-- The spelling of a kind. -/
def name : JobKind → String
  | smartPlaylist => "smart_playlist"
  | libraryIntake => "library_mirror"
  | onboarding => "onboarding"
  | playImport => "play_import"

/-- The kind with a spelling. -/
def ofName? (s : String) : Option JobKind := all.find? fun k => k.name == s

/-- The kind a value spells. -/
def ofJson (j : Json) : Except Failure JobKind :=
  let failure : Failure := .outOfRange (j.display ++ " is not a valid JobKind")
  match j with
  | .text s => (ofName? s).elim (.error failure) .ok
  | _ => .error failure

@[simp] theorem ofName?_name (k : JobKind) : ofName? k.name = some k := by cases k <;> decide

end JobKind

/-- Where a job stands. -/
inductive JobStatus where
  /-- It has been recorded. -/
  | waiting
  /-- It is at work. -/
  | active
  /-- It has ended well. -/
  | completed
  /-- It has ended otherwise. -/
  | failed
  deriving DecidableEq

namespace JobStatus

/-- All statuses. -/
def all : List JobStatus := [waiting, active, completed, failed]

/-- The spelling of a status. -/
def name : JobStatus → String
  | waiting => "waiting"
  | active => "active"
  | completed => "completed"
  | failed => "failed"

/-- The status with a spelling. -/
def ofName? (s : String) : Option JobStatus := all.find? fun t => t.name == s

/-- The status a value spells. -/
def ofJson (j : Json) : Except Failure JobStatus :=
  let failure : Failure := .outOfRange (j.display ++ " is not a valid JobStatus")
  match j with
  | .text s => (ofName? s).elim (.error failure) .ok
  | _ => .error failure

/-- Whether a job with this status has ended. -/
def isTerminal : JobStatus → Bool
  | waiting | active => false
  | completed | failed => true

@[simp] theorem ofName?_name (t : JobStatus) : ofName? t.name = some t := by cases t <;> decide

end JobStatus

/-- The record of a job. -/
structure Job where
  /-- The id. -/
  id : String
  /-- What the job does. -/
  kind : JobKind
  /-- What it works on; no two jobs work on one target at a time. -/
  target : String
  /-- Where it stands. -/
  status : JobStatus := .waiting
  /-- How far it has come. -/
  progress : Progress := {}
  /-- Its result. -/
  result : Option ResultRecord := none
  /-- Why it failed. -/
  error : Json := .null
  /-- The key under which it is recorded once. -/
  key : Option String := none
  /-- What it was given. -/
  payload : Json := .object []
  /-- When it was recorded. -/
  createdAt : Option Timestamp := none
  /-- When it began. -/
  startedAt : Option Timestamp := none
  /-- When it ended. -/
  finishedAt : Option Timestamp := none
  deriving DecidableEq

namespace Job

/-- The job at work. -/
def start (j : Job) (now : Timestamp) : Job := { j with status := .active, startedAt := some now }

/-- The job with new progress. -/
def withProgress (j : Job) (p : Progress) : Job := { j with progress := p }

/-- The job ended well. -/
def complete (j : Job) (r : ResultRecord) (now : Timestamp) : Job :=
  { j with status := .completed, result := some r, finishedAt := some now }

/-- The job ended otherwise; it keeps the result it has unless another is given. -/
def fail (j : Job) (error : Json) (r : Option ResultRecord) (now : Timestamp) : Job :=
  { j with
    status := .failed, error, result := r.orElse fun _ => j.result,
    finishedAt := some now }

@[simp] theorem status_start (j : Job) (now : Timestamp) : (j.start now).status = .active := rfl

@[simp] theorem status_withProgress (j : Job) (p : Progress) :
    (j.withProgress p).status = j.status := rfl

@[simp] theorem status_complete (j : Job) (r : ResultRecord) (now : Timestamp) :
    (j.complete r now).status = .completed := rfl

@[simp] theorem status_fail (j : Job) (e : Json) (r : Option ResultRecord) (now : Timestamp) :
    (j.fail e r now).status = .failed := rfl

@[simp] theorem id_start (j : Job) (now : Timestamp) : (j.start now).id = j.id := rfl

@[simp] theorem id_withProgress (j : Job) (p : Progress) : (j.withProgress p).id = j.id := rfl

@[simp] theorem id_complete (j : Job) (r : ResultRecord) (now : Timestamp) :
    (j.complete r now).id = j.id := rfl

@[simp] theorem id_fail (j : Job) (e : Json) (r : Option ResultRecord) (now : Timestamp) :
    (j.fail e r now).id = j.id := rfl

end Job

end Mixtape
