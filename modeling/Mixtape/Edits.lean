import Mixtape.Database.Plays
import Mixtape.Database.Tags
import Mixtape.World

/-!
# Editing the library

What a user does to tracks, each as one unit of work.

* `rateTrack` — a rating, or none.
* `tagTrack` — a tag, by number or name.
* `importPlays` — the play history of the platform.
-/

namespace Mixtape

variable {σ : Type}

/-- Rates a track, or takes its rating away. -/
def rateTrack (o : Outside σ) (id : Int) (rating : Json) : Action (World σ) Track :=
  World.unit do
    let t ← World.query (Database.track id)
    let now ← World.now o
    match Rating.ofJson? rating with
    | .ok r => World.query (Database.saveTrack now (t.withRating r now))
    | .error (.outOfRange reason) => throw (.invalid reason (some "rating"))
    | .error f => throw f

/-- Tags a track; the tag goes by number or by name. -/
def tagTrack (id : Int) (tag : String) : Action (World σ) Track :=
  World.unit do
    let _ ← World.query (Database.track id)
    let tags := (← get).database.tagsByName
    let tag ← Action.ofExcept (resolveTag tags tag)
    World.query (Database.linkTag id tag.id)
    World.query (Database.track id)

/-- Records the latest plays of the platform's history, so many at most if a number is given. -/
def importPlays (o : Outside σ) (limit : Option Int) : Action (World σ) SyncResult := do
  let plays ← World.ask (o.platform.recentPlays limit)
  let now ← World.now o
  let recorded ← World.unit (World.query (Database.recordPlays now plays))
  return ⟨plays.length, 0, recorded, []⟩

end Mixtape
