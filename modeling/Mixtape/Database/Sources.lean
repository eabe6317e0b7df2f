import Mixtape.Database.Tracks

/-!
# Sources

Which tracks a collection of the platform holds. A track that loses its last source stays stored,
but no longer belongs to the library.

* `Database.attach`, `Database.detach` — giving a source to tracks and taking it away.
* `Database.heldBy` — the tracks with a source.
* `Database.sourcesOfType` — the sources of a type that any track has.
* `Database.recompute` — the totals over the tracks of albums and artists.
-/

namespace Mixtape

/-- Whether a link is to a source; names do not matter, and no id is the same as an empty one. -/
def SourceLink.isTo (l : SourceLink) (s : TrackSource) : Bool :=
  l.type == s.type && l.sourceId == s.id.getD ""

namespace Database

/-- The texts by which platform ids are looked for; null is never found. -/
def idTexts (ids : List Json) : Except Failure (List String) := do
  return (← ids.mapM Column.text?).reduceOption

/-- The numbers of the stored tracks among platform ids, each once, in order. -/
def numbersOf (d : Database) (externalIds : List String) : List Int :=
  (dedup externalIds).filterMap fun id => (d.trackNamed? id).map (·.id)

/-- The platform ids of the tracks with a source, in the order in which they got it. -/
def heldBy (d : Database) (s : TrackSource) : List String :=
  (d.sources.filter (·.isTo s)).filterMap fun l =>
    (d.tracks.find? (·.id == l.track)).map (·.externalId)

/-- Gives a source to the stored tracks among platform ids; the number of those that did not have
it. -/
def attach (externalIds : List String) (s : TrackSource) : Action Database Nat := do
  let d ← get
  let fresh := (d.numbersOf externalIds).filter fun id =>
    !d.sources.any fun l => l.track == id && l.isTo s
  set { d with sources := d.sources ++ fresh.map s.link }
  return fresh.length

/-- Takes a source away from the stored tracks among platform ids; the number of those that had
it. -/
def detach (externalIds : List String) (s : TrackSource) : Action Database Nat := do
  let d ← get
  let numbers := d.numbersOf externalIds
  let isGone (l : SourceLink) : Bool := numbers.contains l.track && l.isTo s
  set { d with sources := d.sources.filter fun l => !isGone l }
  return (d.sources.filter isGone).length

/-- The later of two optional names; a missing one is the earlier. -/
def laterName : (a b : Option String) → Option String
  | none, b => b
  | a, none => a
  | some a, some b => some (if Text.leText a b then b else a)

/-- The sources of a type that any track has, by id, each with the last of its names. -/
def sourcesOfType (d : Database) (type : SourceType) : List TrackSource :=
  let links := d.sources.filter (·.type == type)
  (sortBy Text.leText (dedup (links.map (·.sourceId)))).map fun id =>
    SourceLink.source ⟨0, type, id,
      ((links.filter (·.sourceId == id)).map (·.name)).foldl laterName none⟩

/-- Platform ids, album ids and artist ids of the stored tracks among platform ids. -/
def ownersOf (d : Database) (externalIds : List String) :
    List (String × Option String × Option String) :=
  (d.tracks.filter fun r => externalIds.contains r.externalId).map fun r =>
    (r.externalId, r.albumId, r.artistId)

/-! ### Totals -/

/-- The mean of ratings, if there is one. -/
def meanRating (ratings : List Rating) : Option Binary64 :=
  if ratings.isEmpty then none
  else some (.roundRatio false (ratings.foldr (·.halves + ·) 0) (2 * ratings.length))

/-- The totals over the tracks of the library that a test selects. -/
def totalsOver (d : Database) (selected : TrackRow → Bool) (t : Totals) : Totals :=
  let rows := d.tracks.filter fun r => selected r && d.isHeld r.id
  { t with trackCount := rows.length, averageRating := meanRating (rows.filterMap (·.rating)) }

/-- Brings the totals of albums and artists up to date; the number of those that are known. -/
def recompute (albumIds artistIds : List String) : Action Database Nat := do
  let d ← get
  set
    { d with
      albums := changeWhere (fun t => albumIds.contains t.id)
        (fun t => d.totalsOver (·.albumId == some t.id) t) d.albums
      artists := changeWhere (fun t => artistIds.contains t.id)
        (fun t => d.totalsOver (·.artistId == some t.id) t) d.artists }
  return (d.albums.filter fun t => albumIds.contains t.id).length
    + (d.artists.filter fun t => artistIds.contains t.id).length

end Database

end Mixtape
