import Mixtape.Jobs.Store
import Mixtape.Jobs.Work

/-!
# The job runner

Jobs run side by side, at most one for each target. A job runs until it ends or waits at a gate;
jobs that can go on do so in the order in which they became able to.

A system holds the state the jobs work in, the runners made so far, and the tasks that have not ended.
What is asked is asked of the last runner made, unless another is named; the others go on with the jobs
they have. Everything that is announced about jobs is kept in order.

* `Runner` — the records of one runner: jobs, cancellation flags, tasks and busy targets.
* `Task` — a job's work that has not ended, and where it stands.
* `JobSystem` — the whole.
* `JobSystem.enqueue` — takes a new job.
* `JobSystem.advance` — runs a task until it ends or waits.
* `JobSystem.settle` — runs every task that can go on.
* `JobSystem.cancel`, `JobSystem.abort`, `JobSystem.release`, `JobSystem.shutdown` — what comes from
  outside.
-/

namespace Mixtape

/-- What to do with a job for a busy target. -/
inductive ConflictPolicy where
  /-- The caller is given the job at work. -/
  | join
  /-- The caller is refused. -/
  | reject
  deriving DecidableEq

/-- The policy with a spelling. -/
def ConflictPolicy.ofName? : String → Option ConflictPolicy
  | "join" => some join
  | "reject" => some reject
  | _ => none

/-- The records of one runner. -/
structure Runner where
  /-- The jobs the runner knows, by id. -/
  jobs : Registry Job := []
  /-- The cancellation flags of the jobs that have not ended. -/
  contexts : Registry Bool := []
  /-- The tasks that have not ended, by job id. -/
  tasks : Registry Unit := []
  /-- The job at work for each busy target. -/
  active : Registry String := []

/-- The work of a job that has not ended. -/
structure Task (σ : Type) where
  /-- The runner of the job. -/
  runner : Nat
  /-- The id of the job. -/
  id : String
  /-- Whether the work has begun. -/
  begun : Bool := false
  /-- Whether the task was aborted from outside. -/
  aborted : Bool := false
  /-- The gate the task waits at. -/
  gate : Option String := none
  /-- What remains to be done. -/
  work : Work σ

/-- The runners and tasks over one state. -/
structure JobSystem (σ : Type) where
  /-- The state the jobs work in. -/
  shared : σ
  /-- The runners, latest last. -/
  runners : List Runner := [{}]
  /-- The tasks that can go on, first come first. -/
  ready : List (Task σ) := []
  /-- The tasks waiting at gates, in the order in which they began waiting. -/
  blocked : List (Task σ) := []
  /-- The gates, in the order in which they were first named. -/
  gates : List String := []
  /-- The gates that are open; an open gate stays open. -/
  opened : List String := []
  /-- Whether all gates are open. -/
  allOpen : Bool := false
  /-- Everything announced about jobs, in order. -/
  announced : List Job := []
  /-- The number of job ids given out. -/
  made : Nat := 0

namespace JobSystem

variable {σ : Type}

/-! ### Runners -/

/-- The number of the last runner, which is asked unless another is named. -/
def current (s : JobSystem σ) : Nat := s.runners.length - 1

/-- A runner by number. -/
def runner (s : JobSystem σ) (r : Nat) : Runner := s.runners.getD r {}

/-- The system with one runner's records changed. -/
def updateRunner (s : JobSystem σ) (r : Nat) (f : Runner → Runner) : JobSystem σ :=
  { s with runners := s.runners.modify r f }

/-- Announces a job. -/
def announce (s : JobSystem σ) (j : Job) : JobSystem σ := { s with announced := s.announced ++ [j] }

/-- Adds a runner, which is asked from then on. -/
def restart (s : JobSystem σ) : JobSystem σ := { s with runners := s.runners ++ [{}] }

/-- Changes a runner's record of a job and announces it. The store is told; if it fails, the
runner's record stands. -/
def transition (store : JobStore σ) (s : JobSystem σ) (r : Nat) (j : Job) : JobSystem σ :=
  let s := s.updateRunner r fun n => { n with jobs := n.jobs.put j.id j }
  announce { s with shared := ((store.save j).runOn s.shared).2 } j

/-- Takes progress into a runner's record of a job that has not ended. -/
def progress (s : JobSystem σ) (r : Nat) (id : String) (p : Progress) : JobSystem σ :=
  match (s.runner r).jobs.find? id with
  | none => s
  | some j =>
    if j.status.isTerminal then s
    else
      (s.updateRunner r fun n => { n with jobs := n.jobs.put id (j.withProgress p) }).announce
        (j.withProgress p)

/-- Changes a runner's record of a job by a step of the job's life. -/
def step (store : JobStore σ) (s : JobSystem σ) (r : Nat) (id : String)
    (f : Job → Timestamp → Job) : JobSystem σ :=
  match (s.runner r).jobs.find? id with
  | none => s
  | some j => s.transition store r (f j (store.now s.shared))

/-- Removes what a runner keeps of a job only while it has not ended. -/
def cleanUp (s : JobSystem σ) (r : Nat) (id : String) : JobSystem σ :=
  s.updateRunner r fun n =>
    let target := ((n.jobs.find? id).map Job.target).getD ""
    { n with
      active := if n.active.find? target = some id then n.active.erase target else n.active
      contexts := n.contexts.erase id
      tasks := n.tasks.erase id }

/-! ### Running tasks -/

/-- The end of a job's life for a failure of its work. -/
def failing (f : Failure) (j : Job) (now : Timestamp) : Job :=
  match f with
  | .syncFailed reason result => j.fail (.text reason) result now
  | _ =>
    j.fail (.text (if f.isDomain then f.message else "Unexpected error: " ++ f.message)) none now

/-- Ends a job by a step of its life. -/
def finish (store : JobStore σ) (s : JobSystem σ) (r : Nat) (id : String)
    (f : Job → Timestamp → Job) : JobSystem σ :=
  (s.step store r id f).cleanUp r id

/-- Whether a gate is open. -/
def isOpen (s : JobSystem σ) (gate : String) : Bool := s.allOpen || s.opened.contains gate

/-- Notes a gate. -/
def noteGate (s : JobSystem σ) (gate : String) : JobSystem σ :=
  if s.gates.contains gate then s else { s with gates := s.gates ++ [gate] }

/-- Whether cancellation of a job was asked for. -/
def isCancelled (s : JobSystem σ) (r : Nat) (id : String) : Bool :=
  ((s.runner r).contexts.find? id).getD false

/-- Runs a job's work until it ends or has to wait at a gate. -/
def advance (store : JobStore σ) (r : Nat) (id : String) : Work σ → JobSystem σ → JobSystem σ
  | .done result, s => s.finish store r id fun j now => j.complete result now
  | .fail f, s => s.finish store r id (failing f)
  | .report p next, s => advance store r id next (s.progress r id p)
  | .check next, s =>
    if s.isCancelled r id then s.finish store r id (failing .cancelled)
    else advance store r id next s
  | .poll next, s => advance store r id (next (s.isCancelled r id)) s
  | .await gate next, s =>
    let s := s.noteGate gate
    if s.isOpen gate then advance store r id next s
    else
      let task : Task σ := { runner := r, id, begun := true, gate := some gate, work := next }
      { s with blocked := s.blocked ++ [task] }
  | .read next, s => advance store r id (next s.shared) s
  | .write state next, s => advance store r id next { s with shared := state }

/-- Runs a task. A task aborted before it began never runs, and nothing is cleaned up after it; one
aborted later ends its job. -/
def runTask (store : JobStore σ) (t : Task σ) (s : JobSystem σ) : JobSystem σ :=
  if t.begun then
    if t.aborted then s.finish store t.runner t.id (failing .cancelled)
    else advance store t.runner t.id t.work s
  else if t.aborted then s
  else advance store t.runner t.id t.work (s.step store t.runner t.id Job.start)

/-- Runs every task that can go on, in order. -/
def settle (store : JobStore σ) (s : JobSystem σ) : JobSystem σ :=
  s.ready.foldl (fun s t => runTask store t s) { s with ready := [] }

/-! ### Taking jobs -/

/-- What is asked for when a job is enqueued. -/
structure Order (σ : Type) where
  /-- What the job does. -/
  kind : JobKind
  /-- What it works on. -/
  target : String
  /-- Its work. -/
  work : Work σ
  /-- What it is given. -/
  payload : Json := .object []
  /-- The key under which it is recorded once. -/
  key : Option String := none

/-- The id of the `n`-th job. -/
def jobId (n : Nat) : String := "job-" ++ toString n

/-- The record of a new job. -/
def Order.job (o : Order σ) (id : String) (now : Timestamp) : Job :=
  { id, kind := o.kind, target := o.target, payload := o.payload, key := o.key
    createdAt := some now }

/-- Takes a recorded job to work: it is filed under all four records, its task is made ready, and
it is announced. -/
def begin (s : JobSystem σ) (j : Job) (work : Work σ) (r : Nat := s.current) : JobSystem σ :=
  let s := s.updateRunner r fun n =>
    { jobs := n.jobs.put j.id j
      contexts := n.contexts.put j.id false
      tasks := n.tasks.put j.id ()
      active := n.active.put j.target j.id }
  let task : Task σ := { runner := r, id := j.id, work }
  announce { s with ready := s.ready ++ [task] } j

/-- Takes a new job: hands back the id of the job that does the work. If the target is busy, the
caller joins the job at work or is refused; if the key is taken, the job recorded under it is
handed back. -/
def enqueue (store : JobStore σ) (policy : ConflictPolicy) (o : Order σ) (s : JobSystem σ)
    (r : Nat := s.current) : Except Failure String × JobSystem σ :=
  match (s.runner r).active.find? o.target with
  | some id =>
    match policy with
    | .reject => (.error (.conflict o.target id), s)
    | .join => (.ok id, s)
  | none =>
    let s := { s with made := s.made + 1 }
    let j := o.job (jobId s.made) (store.now s.shared)
    if (MemoryJobs.keyOf j).isSome then
      match (store.claim j).runOn s.shared with
      | (.error f, t) => (.error f, { s with shared := t })
      | (.ok (stored, true), t) => (.ok stored.id, begin { s with shared := t } j o.work r)
      | (.ok (stored, false), t) =>
        (.ok stored.id,
          updateRunner { s with shared := t } r fun n =>
            { n with jobs := n.jobs.putNew stored.id stored })
    else
      match (store.save j).runOn s.shared with
      | (.error f, t) => (.error f, { s with shared := t })
      | (.ok _, t) => (.ok j.id, begin { s with shared := t } j o.work r)

/-! ### Looking -/

/-- A job as the runner knows it, or else as it is recorded. -/
def get (store : JobStore σ) (id : String) (s : JobSystem σ) (r : Nat := s.current) :
    Except Failure (Option Job) :=
  match (s.runner r).jobs.find? id with
  | some j => .ok (some j)
  | none => ((store.get id).runOn s.shared).1

/-- The job at work for a target. -/
def activeFor (target : String) (s : JobSystem σ) (r : Nat := s.current) : Option String :=
  (s.runner r).active.find? target

/-! ### From outside -/

/-- Asks for cancellation of a job, which honors it at its next check; whether the job can be
asked. -/
def cancel (id : String) (s : JobSystem σ) (r : Nat := s.current) : Bool × JobSystem σ :=
  match (s.runner r).contexts.find? id with
  | none => (false, s)
  | some _ =>
    (true, s.updateRunner r fun n => { n with contexts := n.contexts.put id true })

/-- Makes the waiting tasks that pass a test ready, in the order in which they began waiting. -/
def wake (wakes : Task σ → Bool) (s : JobSystem σ) : JobSystem σ :=
  { s with
    ready := s.ready ++ (s.blocked.filter wakes).map ({ · with gate := none })
    blocked := s.blocked.filter (!wakes ·) }

/-- Opens a gate for good. -/
def release (gate : String) (s : JobSystem σ) : JobSystem σ :=
  let s := s.noteGate gate
  wake (·.gate == some gate) { s with opened := s.opened ++ [gate] }

/-- Aborts the task of a job, wherever it stands; whether it had not ended yet. A job without a
task is refused. -/
def abort (id : String) (s : JobSystem σ) (r : Nat := s.current) :
    Except Failure Bool × JobSystem σ :=
  let isIt (t : Task σ) : Bool := t.runner == r && t.id == id
  match (s.runner r).tasks.find? id with
  | none => (.error (.missingField (Text.quoted id)), s)
  | some _ =>
    let mark (t : Task σ) : Task σ := if isIt t then { t with aborted := true } else t
    let marked : JobSystem σ :=
      { s with ready := s.ready.map mark, blocked := s.blocked.map mark }
    (.ok (s.ready.any isIt || s.blocked.any isIt), marked.wake isIt)

/-- Opens all gates for good, asks for cancellation of all jobs of the runner, and makes the waiting
tasks ready, gate by gate. -/
def shutdown (s : JobSystem σ) (r : Nat := s.current) : JobSystem σ :=
  let s := s.updateRunner r fun n =>
    { n with contexts := n.contexts.map fun c => (c.1, true) }
  s.gates.foldl (fun s gate => s.release gate) { s with allOpen := true }

end JobSystem

end Mixtape
