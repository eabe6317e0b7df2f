import Mixtape.Sync.Chunks
import Mixtape.Sync.Diff

/-!
# Applying a diff

A diff is applied chunk by chunk: all removals first, then all additions. Chunks that fail in a way
that may pass are recorded; any other failure, and cancellation between chunks, ends the work.

* `Writer` — what changes a collection.
* `ChunkError`, `Applied` — the failed chunks, and what was really done.
* `Diff.apply` — the work.
-/

namespace Mixtape

/-- What changes a collection. -/
structure Writer (σ : Type) where
  /-- Adds items at the end. -/
  add : Option String → List String → Action σ Unit
  /-- Removes items. -/
  remove : Option String → List String → Action σ Unit

/-- The two directions of a change. -/
inductive ChunkOperation where
  /-- Items are added. -/
  | add
  /-- Items are removed. -/
  | remove
  deriving DecidableEq

/-- The spelling of a direction. -/
def ChunkOperation.name : ChunkOperation → String
  | add => "add"
  | remove => "remove"

/-- A chunk that failed. -/
structure ChunkError where
  /-- What was tried. -/
  operation : ChunkOperation
  /-- The items of the chunk. -/
  items : List String
  /-- Why it failed. -/
  message : String
  /-- Whether it may be tried again. -/
  isPassing : Bool
  deriving DecidableEq

/-- A failed chunk as a line for the operator. -/
def ChunkError.text (e : ChunkError) : String :=
  e.operation.name ++ " of " ++ toString e.items.length ++ " items failed: " ++ e.message

/-- What applying a diff has done. -/
structure Applied where
  /-- The items added. -/
  added : List String := []
  /-- The items removed. -/
  removed : List String := []
  /-- The failed chunks. -/
  errors : List ChunkError := []
  /-- How many calls were made. -/
  calls : Nat := 0
  deriving DecidableEq

namespace Applied

/-- Whether no chunk failed. -/
def isComplete (a : Applied) : Bool := a.errors.isEmpty

/-- Whether there were failures and nothing was done. -/
def allFailed (a : Applied) : Bool := !a.errors.isEmpty && a.added.isEmpty && a.removed.isEmpty

end Applied

/-- The error a chunk's outcome stands for. -/
def chunkError? (operation : ChunkOperation) (o : Outcome String Unit) : Option ChunkError :=
  o.failure?.map fun f => ⟨operation, o.items, f.shown, f.isPassing⟩

/-- The items of the chunks that succeeded. -/
def doneItems (os : List (Outcome String Unit)) : List String :=
  (os.filter (·.succeeded)).flatMap (·.items)

/-- The size of chunks and the pacing of calls. -/
structure ApplyOptions where
  /-- The most items of a chunk. -/
  chunkSize : Int
  /-- The pacing. -/
  pacing : Pacing

/-- The hook before each chunk of one direction: looks for cancellation, then reports the calls
made so far, of which `before` were made in the other direction. -/
def chunkHook {σ : Type} (m : Monitor σ) (operation : ChunkOperation) (before : Nat) (total : Int)
    (index count : Nat) : Action σ Unit := do
  m.check
  m.tell "apply" ((before + index : Nat) : Int) total
    (operation.name ++ " chunk " ++ toString (index + 1) ++ "/" ++ toString count)

/-- Applies a diff: all removals in chunks, then all additions in chunks. -/
def Diff.apply {σ : Type} (d : Diff) (w : Writer σ) (m : Monitor σ) (options : ApplyOptions) :
    Action σ Applied := do
  if !d.hasChanges then return {}
  let total ← Action.ofExcept (d.callEstimate options.chunkSize)
  let removed ← processChunks m options.pacing (chunkHook m .remove 0 total) passingKinds
    (w.remove d.playlist) d.toRemove options.chunkSize
  if !removed.isEmpty && !d.toAdd.isEmpty then m.pauseFor options.pacing.delay
  let added ← processChunks m options.pacing (chunkHook m .add removed.length total) passingKinds
    (w.add d.playlist) d.toAdd options.chunkSize
  let calls := removed.length + added.length
  m.tell "apply" calls total "applied"
  return {
    added := doneItems added
    removed := doneItems removed
    errors := removed.filterMap (chunkError? .remove) ++ added.filterMap (chunkError? .add)
    calls }

end Mixtape
