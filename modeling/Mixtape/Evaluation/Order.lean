import Mixtape.Criteria.Vocabulary
import Mixtape.Text.CaseFold
import Mixtape.Track

/-!
# Ordering tracks

Tracks are ordered by one attribute, those without a value last, and tracks with equal values by
their number, in either direction.

* `OrderKey` — the values tracks are ordered by.
* `Track.orderKey` — the value of a track.
* `sortTracks` — the tracks in order.
* `checkOrder` — refuses albums that are no texts.
-/

namespace Mixtape

/-- A value tracks are ordered by. -/
inductive OrderKey where
  /-- A folded text. -/
  | text (s : String)
  /-- A number. -/
  | number (n : Int)
  /-- The size of a number. -/
  | size (m : Magnitude)
  deriving DecidableEq

/-- Whether a value comes no later than another; the values of one attribute are of one kind. -/
def OrderKey.isLe : OrderKey → OrderKey → Bool
  | text s, text t => Text.leText s t
  | number m, number n => decide (m ≤ n)
  | size m, size n => m.isLe n
  | text _, _ | number _, size _ => true
  | _, _ => false

/-- The value of a track, if it has one. Texts are compared ignoring case, ratings by half stars
and dates by the instant they denote. -/
def Track.orderKey (t : Track) : OrderField → Option OrderKey
  | .title => some (.text (Text.foldCase t.title))
  | .artist => some (.text (Text.foldCase t.artist))
  | .album => t.album.text?.map fun a => .text (Text.foldCase a)
  | .rating => t.rating.map fun r => .number r.halves
  | .ratedAt => t.ratedAt.map fun d => .number d.instant
  | .playCount => some (.size t.playCount.size)
  | .duration => some (.size t.duration.size)
  | .lastPlayed => t.lastPlayedAt.map fun d => .number d.instant
  | .dateAdded => t.addedAt.map fun d => .number d.instant

/-- Refuses tracks that cannot be ordered by a field because their album is no text. -/
def checkOrder (f : OrderField) (ts : List Track) : Except Failure Unit :=
  match ts.find? fun t => f == .album && !t.album.isNull && t.album.text?.isNone with
  | some t => .error t.albumRefusal
  | none => .ok ()

/-- Whether a value comes no later than another in a direction. -/
def Direction.isLe (d : Direction) (a b : OrderKey) : Bool :=
  match d with
  | ascending => a.isLe b
  | descending => b.isLe a

/-- Whether a track's number is no greater than another's; a missing number counts as zero. -/
def leById (a b : Track) : Bool := decide (a.id.getD 0 ≤ b.id.getD 0)

/-- The tracks that have a value, with it, in order. -/
def withKeys (f : OrderField) (ts : List Track) : List (OrderKey × Track) :=
  ts.filterMap fun t => (t.orderKey f).map fun k => (k, t)

/-- The tracks in order: by number first, then stably by value, those without a value last. -/
def sortTracks (ts : List Track) (f : OrderField) (d : Direction) : List Track :=
  let byId := sortBy leById ts
  (sortBy (fun a b => d.isLe a.1 b.1) (withKeys f byId)).map Prod.snd
    ++ byId.filter fun t => (t.orderKey f).isNone

end Mixtape
