import Mixtape.Action
import Mixtape.Jobs.Job
import Mixtape.Registry

/-!
# Job stores

Where job records are kept. A job with a key is recorded once: the first claim of a key records
its job, and every later claim hands back that job.

* `JobStore` — what a runner needs of a store.
* `MemoryJobs` — a store that lives as long as the program.
-/

namespace Mixtape

/-- What a runner needs of the state it works in: the time, and a store of job records. -/
structure JobStore (σ : Type) where
  /-- The time. -/
  now : σ → Timestamp
  /-- Records a job. -/
  save : Job → Action σ Unit
  /-- The recorded job with an id. -/
  get : String → Action σ (Option Job)
  /-- Records a job unless its key is taken; the recorded job, and whether it is this one. -/
  claim : Job → Action σ (Job × Bool)

/-- Job records kept in memory: the jobs by id, and the id each key was first recorded under. -/
structure MemoryJobs where
  /-- The jobs by id. -/
  jobs : Registry Job := []
  /-- The id of the job of each key. -/
  keys : Registry String := []
  /-- Statuses in which records are refused. -/
  refused : List JobStatus := []

namespace MemoryJobs

/-- A key that counts: not missing and not empty. -/
def keyOf (j : Job) : Option String := j.key.filter (· ≠ "")

/-- Records a job. -/
def save (j : Job) (m : MemoryJobs) : Except Failure MemoryJobs :=
  if j.status ∈ m.refused then .error (.misuse "store down")
  else
    .ok
      { m with
        jobs := m.jobs.put j.id j
        keys := (keyOf j).elim m.keys fun k => m.keys.putNew k j.id }

/-- The job recorded under a key. -/
def findKey (k : String) (m : MemoryJobs) : Option Job := do
  let id ← m.keys.find? k
  m.jobs.find? id

/-- Records a job unless its key is taken; the recorded job, and whether it is this one. -/
def claim (j : Job) (m : MemoryJobs) : Except Failure ((Job × Bool) × MemoryJobs) :=
  match (keyOf j).bind m.findKey with
  | some stored => .ok ((stored, false), m)
  | none => (save j m).map fun n => ((j, true), n)

/-- The store of a state that holds job records in memory. -/
def store {σ : Type} (now : σ → Timestamp) (view : σ → MemoryJobs) (set : MemoryJobs → σ → σ) :
    JobStore σ where
  now := now
  save j := .ofRun fun s =>
    match save j (view s) with
    | .ok m => (.ok (), set m s)
    | .error f => (.error f, s)
  get id := .ofRun fun s => (.ok ((view s).jobs.find? id), s)
  claim j := .ofRun fun s =>
    match claim j (view s) with
    | .ok (r, m) => (.ok r, set m s)
    | .error f => (.error f, s)

end MemoryJobs

end Mixtape
