import Mixtape.Playlist
import Mixtape.Sorting

/-!
# Diffs

What has to be added to and removed from a collection so that it holds what is desired, and when
it is worth looking at all.

* `Diff` — the additions and removals.
* `computeDiff` — the least diff between two lists of ids.
* `shouldSync`, `shouldRead` — whether a collection may have changed.
-/

namespace Mixtape

/-- What has to be added to and removed from a collection. -/
structure Diff where
  /-- The collection. -/
  playlist : Option String := none
  /-- The missing items, in desired order. -/
  toAdd : List String := []
  /-- The superfluous items, in the order they were found. -/
  toRemove : List String := []
  /-- How many items stay. -/
  unchanged : Nat := 0
  deriving DecidableEq

/-- How many parts of at most `size` items a list of `n` items has: the quotient, rounded up. -/
def partCount (n : Nat) (size : Int) : Int := -(Int.fdiv (-(n : Int)) size)

namespace Diff

/-- Whether there is anything to do. -/
def hasChanges (d : Diff) : Bool := !d.toAdd.isEmpty || !d.toRemove.isEmpty

/-- How many calls the diff takes at a number of items per call, which is not zero. -/
def callEstimate (d : Diff) (size : Int) : Except Failure Int :=
  if size = 0 then .error .divisionByZero
  else .ok (partCount d.toAdd.length size + partCount d.toRemove.length size)

end Diff

/-- The least diff that turns `current` into a list with the members of `desired`; repeated items
count once. -/
def computeDiff (playlist : Option String) (desired current : List String) : Diff :=
  let wanted := dedup desired
  let present := dedup current
  { playlist
    toAdd := wanted.filter (!present.contains ·)
    toRemove := present.filter (!wanted.contains ·)
    unchanged := (wanted.filter present.contains).length }

/-- Whether a smart playlist has to be reconciled with its outward copy: on demand, when there is
no copy or nothing is known of it, and when it holds something else. -/
def shouldSync (p : SmartPlaylist) (fingerprint : Json) (force : Bool) : Bool :=
  force || p.remoteId.isNull || p.syncedFingerprint.isNull
    || !p.syncedFingerprint.isSame fingerprint

/-- Whether a remote playlist has to be read again: on demand, when either snapshot is unknown, and
when they differ. -/
def shouldRead (remote stored : Json) (force : Bool) : Bool :=
  force || remote.isNull || stored.isNull || !remote.isSame stored

end Mixtape
