import Mixtape.Sync.Progress

/-!
# Work

What a job does, as a tree of steps. A step reports, looks for cancellation, waits at a gate, or
reads and writes the state; the leaves are a result or a failure.

* `Work` — the steps.
* `Work.ofRun` — a computation as work, with the reports it made told one by one.
-/

namespace Mixtape

/-- What a job does, step by step. -/
inductive Work (σ : Type) where
  /-- The work ends with a result. -/
  | done (result : ResultRecord)
  /-- The work ends with a failure. -/
  | fail (failure : Failure)
  /-- The work tells how far it has come. -/
  | report (progress : Progress) (next : Work σ)
  /-- The work ends here if cancellation was asked for. -/
  | check (next : Work σ)
  /-- The work learns whether cancellation was asked for. -/
  | poll (next : Bool → Work σ)
  /-- The work waits until a gate is open. -/
  | await (gate : String) (next : Work σ)
  /-- The work reads the state. -/
  | read (next : σ → Work σ)
  /-- The work writes the state. -/
  | write (state : σ) (next : Work σ)

namespace Work

variable {σ : Type}

/-- Tells several reports, then goes on. -/
def reports (ps : List Progress) (next : Work σ) : Work σ := ps.foldr .report next

/-- The end of a computation. -/
def ofResult : Except Failure SyncResult → Work σ
  | .ok r => .done r.record
  | .error f => .fail f

/-- A computation as work. The computation starts with the flag of cancellation and runs in one
piece; the reports it made are told after it. -/
def ofRun (run : Bool → σ → (Except Failure SyncResult × List Progress) × σ) : Work σ :=
  .poll fun cancelled =>
    .read fun s =>
      let ((result, told), t) := run cancelled s
      .write t (reports told (ofResult result))

end Work

end Mixtape
