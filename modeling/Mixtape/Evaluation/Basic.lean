import Mixtape.Evaluation.Order
import Mixtape.Evaluation.Predicate
import Mixtape.Library
import Mixtape.Playlist
import Mixtape.Sync.Fingerprint

/-!
# Evaluating criteria

Criteria select tracks of a library snapshot at a moment: filter, order, cut.

* `evaluate` — the numbers of the selected tracks, in order.
* `membership` — the selected tracks with their platform ids and fingerprint.
-/

namespace Mixtape

/-- The first tracks up to a limit. -/
def cutTo (limit : Option Nat) (ts : List Track) : List Track :=
  match limit with
  | some n => ts.take n
  | none => ts

/-- The tracks a predicate selects: those stored in the library that pass it, in order, up to the
limit. -/
def Criteria.select (c : Criteria) (p : TrackPredicate) (l : Library) : List Track :=
  cutTo c.limit
    (sortTracks (l.tracks.filter fun t => t.id.isSome && p t) c.orderBy c.direction)

/-- Refuses the tracks that rules or order cannot take because their album is no text. -/
def Criteria.checkAlbums (c : Criteria) (ps : List TrackPredicate) (l : Library) :
    Except Failure Unit := do
  let stored := l.tracks.filter (·.id.isSome)
  match stored.find? fun t => !c.logic.isAnswered t (c.rules.zip ps) with
  | some t => throw t.albumRefusal
  | none => checkOrder c.orderBy (stored.filter (c.logic.join ps))

/-- The numbers of the tracks criteria select from a library at a moment, in order. -/
def evaluate (c : Criteria) (l : Library) (now : Timestamp) : Except Failure (List Int) := do
  let ps ← compileRules now c.rules
  c.checkAlbums ps l
  return (c.select (c.logic.join ps) l).filterMap Track.id

/-- The membership criteria give at a moment. -/
def membership (c : Criteria) (l : Library) (now : Timestamp) : Except Failure Membership :=
  (evaluate c l now).map fun ids =>
    let externalIds := l.externalIds ids
    ⟨ids, externalIds, fingerprint externalIds⟩

end Mixtape
