import Mixtape.Database.Playlists
import Mixtape.Database.Tracks
import Mixtape.Evaluation.Basic
import Mixtape.Settings.Basic
import Mixtape.Sync.Apply
import Mixtape.World

/-!
# Bringing a playlist outward

The outward copy of a smart playlist is brought up to date: its membership is computed, compared
with what the copy is known to hold, and the difference written. Only when every chunk was written
is the copy known to hold the new membership.

* `SyncStatus`, `SyncOutcome` — what became of it.
* `materialize` — the membership of a stored playlist.
* `openCopy`, `writeCopy` — the outward copy, and what is written to it.
* `bringOutward` — the work.
-/

namespace Mixtape

/-- What became of an outward copy. -/
inductive SyncStatus where
  /-- Nothing had changed. -/
  | skipped
  /-- The copy was created. -/
  | created
  /-- The copy was changed. -/
  | updated
  /-- The copy held the membership already. -/
  | unchanged
  /-- Some chunks failed. -/
  | incomplete
  deriving DecidableEq

/-- The spelling of a status. -/
def SyncStatus.name : SyncStatus → String
  | skipped => "skipped"
  | created => "created"
  | updated => "updated"
  | unchanged => "unchanged"
  | incomplete => "partial"

/-- What became of an outward copy, and how. -/
structure SyncOutcome where
  /-- The playlist. -/
  playlist : SmartPlaylist
  /-- What became of its copy. -/
  status : SyncStatus
  /-- The membership. -/
  membership : Membership
  /-- The difference, if it came to one. -/
  diff : Option Diff := none
  /-- What was done about it. -/
  applied : Option Applied := none

/-- An outcome as the result of a sync. -/
def SyncOutcome.result (o : SyncOutcome) : SyncResult :=
  let applied := o.applied.getD {}
  ⟨o.membership.trackIds.length, applied.added.length, applied.removed.length,
    applied.errors.map ChunkError.text⟩

/-- The name of the outward copy. -/
def SmartPlaylist.outwardName (p : SmartPlaylist) (s : Settings) : String :=
  if s.namePrefix = "" then p.name else s.namePrefix ++ " " ++ p.name

/-- The description of the outward copy. -/
def SmartPlaylist.outwardDescription (p : SmartPlaylist) (s : Settings) : String :=
  if p.description.isTruthy then p.description.plain else s.description

/-- What the outward copy is to hold: the membership up to the limit of the criteria, or up to the
most tracks of a copy. -/
def desiredIds (s : Settings) (p : SmartPlaylist) (m : Membership) : List String :=
  upTo (p.criteria.limit.elim s.maxTracks fun n => (n : Int)) m.externalIds

section

variable {σ : Type}

/-- The platform as what changes a playlist. -/
def Platform.writer (p : Platform σ) : Writer (World σ) where
  add playlist ids := World.ask (p.addItems playlist ids)
  remove playlist ids := World.ask (p.removeItems playlist ids)

/-- The membership of a stored playlist in a library, noted with the playlist. -/
def noteMembership (o : Outside σ) (p : SmartPlaylist) (l : Library) :
    Action (World σ) Membership := do
  let now ← World.now o
  let m ← Action.ofExcept (membership p.criteria l now)
  match p.id with
  | some id =>
    let _ ← World.query
      (Database.saveMembership id (.nat m.trackIds.length) (.text m.fingerprint))
  | none => pure ()
  return m

/-- A stored playlist and its membership, which is noted with the playlist if asked for. -/
def materialize (o : Outside σ) (id : Int) (persist : Bool) :
    Action (World σ) (SmartPlaylist × Membership) := do
  let p ← World.query (Database.playlist id)
  let l ← World.query (Database.library false)
  if persist then return (p, ← noteMembership o p l)
  let m ← Action.ofExcept (membership p.criteria l (← World.now o))
  return (p, m)

/-- The outward copy of a playlist, whether it was just created, and what it holds. A copy that
was created is noted at once, so that no failure leads to a second one. -/
def openCopy (s : Settings) (o : Outside σ) (id : Int) (p : SmartPlaylist) :
    Action (World σ) (SmartPlaylist × String × Bool × List String) := do
  let name := p.outwardName s
  let description := p.outwardDescription s
  match p.remoteId.text? with
  | none =>
    let copy ← World.ask (o.platform.createPlaylist name description)
    let p ← World.query (Database.setRemoteId id (.text copy))
    World.commit
    return (p, copy, true, [])
  | some copy =>
    World.ask (o.platform.updateDetails copy name description)
    let held ← World.ask (o.platform.itemIds copy)
    return (p, copy, false, held)

/-- Opens the outward copy of a playlist and writes what it lacks of a membership. -/
def writeCopy (s : Settings) (o : Outside σ) (watch : Monitor (World σ)) (options : ApplyOptions)
    (id : Int) (p : SmartPlaylist) (members : Membership) : Action (World σ) SyncOutcome := do
  let desired := desiredIds s p members
  let (p, copy, created, held) ← openCopy s o id p
  let diff := computeDiff (some copy) desired held
  let applied ← diff.apply o.platform.writer watch options
  let outcome : SyncOutcome :=
    { playlist := p, status := if created then .created else .updated, membership := members
      diff := some diff, applied := some applied }
  if applied.allFailed then
    throw (.syncFailed
      ("All " ++ toString applied.errors.length ++ " write chunks failed for '" ++ p.name ++ "'")
      (some outcome.result.record))
  if !applied.isComplete then return { outcome with status := .incomplete }
  let now ← World.now o
  let p ← World.query (Database.markSynced id (.text copy) (.text members.fingerprint) now)
  World.commit
  return { outcome with
    playlist := p, status := if diff.hasChanges then outcome.status else .unchanged }

/-- Brings the outward copy of a playlist up to date. -/
def bringOutward (s : Settings) (o : Outside σ) (m : Monitor σ) (options : ApplyOptions)
    (id : Int) (force : Bool) : Action (World σ) SyncOutcome :=
  World.unit do
    let watch := World.watch m
    let p ← World.query (Database.playlist id)
    watch.tell "tracks" 0 1 "Evaluating criteria"
    let library ← World.query (Database.library false)
    let members ← noteMembership o p library
    World.commit
    watch.tell "tracks" 1 1 (toString members.trackIds.length ++ " tracks match")
    if !shouldSync p (.text members.fingerprint) force then
      return { playlist := p, status := .skipped, membership := members }
    watch.check
    writeCopy s o watch options id p members

/-- The chunks and the pacing that the settings ask for. -/
def Settings.applyOptions (s : Settings) : ApplyOptions :=
  ⟨s.writeChunk, ⟨s.chunkDelay, if s.timeout.units = 0 then none else some s.timeout⟩⟩

end

end Mixtape
