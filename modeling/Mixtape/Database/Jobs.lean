import Mixtape.Database.Basic
import Mixtape.Documents
import Mixtape.Jobs.Store

/-!
# Stored jobs

Job records kept in the database, where they outlive the program.

* `Database.saveJob`, `Database.job?`, `Database.claimJob` — what a job store does.
-/

namespace Mixtape

/-- A job as it is read back. A job whose progress, result or payload cannot be written as a document
is refused, and so is one whose payload does not make up an object. -/
def Job.stored (j : Job) (now : Timestamp) : Except Failure Job := do
  let progress ← j.progress.toJson
  let payload ← j.payload.asObject
  Column.documents [progress, .ofResult? j.result, payload]
  let error ← Column.text? j.error
  return { j with
    payload, error := .ofText? error, createdAt := some (j.createdAt.getD now).asUtc
    startedAt := Timestamp.stored? j.startedAt, finishedAt := Timestamp.stored? j.finishedAt }

namespace Database

/-- The job with an id. -/
def job? (d : Database) (id : String) : Option Job := d.jobs.find? (·.id == id)

/-- The job with a key. -/
def jobUnder? (d : Database) (key : String) : Option Job := d.jobs.find? (·.key == some key)

/-- Whether a key is free for the job with an id. -/
def keyIsFree (d : Database) (j : Job) : Bool :=
  j.key.isNone || !d.jobs.any fun other => other.id != j.id && other.key == j.key

/-- Records a job, in place of an earlier record with its id; only the time it was created stays.
The job as it is stored. -/
def saveJob (now : Timestamp) (j : Job) : Action Database Job := do
  let d ← get
  let stored ← Action.ofExcept (j.stored now)
  Action.ofExcept (require (d.keyIsFree j))
  match d.job? j.id with
  | none =>
    set { d with jobs := d.jobs ++ [stored] }
    return stored
  | some old =>
    let changed := { stored with createdAt := old.createdAt }
    set { d with jobs := changeWhere (·.id == j.id) (fun _ => changed) d.jobs }
    return changed

/-- Records a job unless its key is taken; the recorded job, and whether it is this one. -/
def claimJob (now : Timestamp) (j : Job) : Action Database (Job × Bool) := do
  match j.key with
  | none => return (← saveJob now j, true)
  | some key =>
    let d ← get
    match d.jobUnder? key with
    | some recorded => return (recorded, false)
    | none =>
      let stored ← Action.ofExcept (j.stored now)
      Action.ofExcept (require (d.job? j.id).isNone)
      set { d with jobs := d.jobs ++ [stored] }
      return (j, true)

end Database

end Mixtape
