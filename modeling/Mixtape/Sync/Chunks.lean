import Mixtape.Action

/-!
# Work in chunks

Long lists are worked off in chunks of bounded size, one after another, with a pause between two
of them. Failures of chosen kinds are put down to their chunk; any other failure ends the work.

* `chunksOf`, `chunked` — the chunks of a list.
* `Outcome` — what became of a chunk.
* `Pacing` — the pause between calls and the time a call may take.
* `processChunks` — the work.
-/

namespace Mixtape

/-- The chunks of at most `size` items, for a positive size; the fuel is the number of items. -/
def chunksUpTo {ι : Type} (size : Nat) : (fuel : Nat) → List ι → List (List ι)
  | 0, _ => []
  | _ + 1, [] => []
  | fuel + 1, items => items.take size :: chunksUpTo size fuel (items.drop size)

/-- The chunks of a list: all but the last have exactly `size` items. -/
def chunksOf {ι : Type} (size : Nat) (items : List ι) : List (List ι) :=
  chunksUpTo size items.length items

/-- The refusal of a size that is not positive. -/
def notPositive (size : Json) : Failure :=
  .outOfRange ("Chunk size must be positive, got " ++ size.plain)

/-- The chunk size a value gives: a whole number. -/
def chunkSizeOf (j : Json) : Except Failure Int :=
  match j.number? with
  | some (.int n) => .ok n
  | some _ =>
    .error (if j.magnitude?.any (·.isLe .zero) then notPositive j
      else .wrongType "can't multiply sequence by non-int of type 'float'")
  | none => .error (Json.incomparable "<=" j (.int 0))

/-- One more than the greatest chunk size. -/
def sizeBound : Int := 9223372036854775808

/-- The bytes of an item's place in a list. -/
def placeBytes : Int := 8

/-- The chunks of a list; sizes below one, and those no list can have, are refused. -/
def chunked {ι : Type} (items : List ι) (size : Int) : Except Failure (List (List ι)) :=
  if size ≤ 0 then .error (notPositive (.int size))
  else if sizeBound ≤ size then
    .error (.overflow "cannot fit 'int' into an index-sized integer")
  else if sizeBound ≤ size * placeBytes then .error .tooLong
  else .ok (chunksOf size.toNat items)

/-- What became of a chunk. -/
structure Outcome (ι ρ : Type) where
  /-- The place of the chunk, from zero. -/
  index : Nat
  /-- Its items. -/
  items : List ι
  /-- The result of its call, or the failure put down to it. -/
  result : Except Failure ρ

namespace Outcome

variable {ι ρ : Type}

/-- Whether the call succeeded. -/
def succeeded (o : Outcome ι ρ) : Bool := o.result.isOk

/-- The failure put down to the chunk. -/
def failure? (o : Outcome ι ρ) : Option Failure :=
  match o.result with
  | .ok _ => none
  | .error f => some f

end Outcome

/-- The pause between calls and the time a call may take. -/
structure Pacing where
  /-- Seconds between two calls. -/
  delay : Amount := .whole 0
  /-- Seconds a call may take, zero for as long as it likes. -/
  timeLimit : Option Amount := none

namespace Pacing

/-- Whether a call may begin: a limit below zero has passed before it does. -/
def letsBegin (p : Pacing) : Bool := !p.timeLimit.any (·.isNegative)

/-- A call within its time. -/
def bounded {σ α : Type} (p : Pacing) (call : Action σ α) : Action σ α :=
  if p.letsBegin then call else throw (.timeout "")

end Pacing

section Processing

variable {σ ι ρ : Type}

/-- Works off chunks, the first of which has place `index` of `total`. Before each call the hook
runs; it may end the work. -/
def runChunks (m : Monitor σ) (pacing : Pacing) (hook : Nat → Nat → Action σ Unit)
    (isolate : List FailureKind) (call : List ι → Action σ ρ) (total : Nat) :
    (index : Nat) → List (List ι) → Action σ (List (Outcome ι ρ))
  | _, [] => pure []
  | index, chunk :: rest => do
    hook index total
    if 0 < index then m.pauseFor pacing.delay
    let result ← (pacing.bounded (call chunk)).attempt
    match result with
    | .error f =>
      if isolate.any (·.covers f) then
        let others ← runChunks m pacing hook isolate call total (index + 1) rest
        pure (⟨index, chunk, .error f⟩ :: others)
      else throw f
    | .ok r =>
      let others ← runChunks m pacing hook isolate call total (index + 1) rest
      pure (⟨index, chunk, .ok r⟩ :: others)

/-- Works off a list in chunks of at most `size` items: one outcome for each. -/
def processChunks (m : Monitor σ) (pacing : Pacing) (hook : Nat → Nat → Action σ Unit)
    (isolate : List FailureKind) (call : List ι → Action σ ρ) (items : List ι) (size : Int) :
    Action σ (List (Outcome ι ρ)) := do
  let chunks ← Action.ofExcept (chunked items size)
  runChunks m pacing hook isolate call chunks.length 0 chunks

end Processing

end Mixtape
