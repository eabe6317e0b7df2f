import Mixtape.Json.Basic
import Mixtape.Sorting
import Mixtape.Sync.Chunks

/-!
# Looking up audio features

A service is asked for the audio features of tracks in batches. A failed batch loses only its own
tracks; a track the service does not know has none.

* `FeatureTable` — the features found, by track.
* `mergeFeatures` — the answer of one batch put into the table.
* `fetchFeatures` — the lookup.
-/

namespace Mixtape

/-- Audio features by track, null for tracks without. -/
abbrev FeatureTable := List (String × Json)

/-- Puts an answer's features into a table; tracks that are not in the table are passed over. -/
def mergeFeatures (table : FeatureTable) (answer : List (String × Json)) : FeatureTable :=
  table.map fun (id, known) => (id, (Json.lookupField id answer).getD known)

/-- The features of a batch's answer: those of an object, none of an answer that counts as not
given. -/
def featuresOf (answer : Json) : Except Failure (List (String × Json)) :=
  if !answer.isTruthy then .ok []
  else
    match answer with
    | .object fields => .ok fields
    | _ => .error (.unsupported ("'" ++ answer.kind ++ "' object has no attribute 'items'"))

/-- Puts the answers of the successful batches into a table, in order. -/
def mergeOutcomes (table : FeatureTable) :
    List (Outcome String Json) → Except Failure FeatureTable
  | [] => .ok table
  | o :: rest =>
    match o.result with
    | .error _ => mergeOutcomes table rest
    | .ok answer => do
      let fields ← featuresOf answer
      mergeOutcomes (mergeFeatures table fields) rest

/-- The features of tracks, each asked for once, in batches of at most `size`. -/
def fetchFeatures {σ : Type} (m : Monitor σ) (lookup : List String → Action σ Json)
    (delay : Amount) (size : Int) (ids : List String) : Action σ FeatureTable := do
  let wanted := dedup ids
  if wanted.isEmpty then return []
  let outcomes ← processChunks m { delay } (fun _ _ => pure ()) passingKinds lookup wanted size
  Action.ofExcept (mergeOutcomes (wanted.map fun id => (id, .null)) outcomes)

end Mixtape
