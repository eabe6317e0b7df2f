import Mixtape.Database.Basic
import Mixtape.Platform.Basic

/-!
# The world

The state the program works in: its database and what lies outside it. Work on the database is
done in units. What a unit has not committed is undone when the unit fails; what was done outside
cannot be undone.

* `World` — the state.
* `World.query`, `World.ask` — work on the database, and outside.
* `World.commit`, `World.unit` — units of work.
-/

namespace Mixtape

/-- The database, as it is now and as it was last committed, and what lies outside. -/
structure World (σ : Type) where
  /-- The database as it is now. -/
  database : Database := {}
  /-- The database as it was last committed. -/
  saved : Database := {}
  /-- What lies outside. -/
  outside : σ

namespace World

variable {σ α : Type}

/-- Work on the database. -/
def query (x : Action Database α) : Action (World σ) α :=
  x.within World.database fun database w => { w with database }

/-- Work outside. -/
def ask (x : Action σ α) : Action (World σ) α :=
  x.within World.outside fun outside w => { w with outside }

/-- A monitor outside. -/
def watch (m : Monitor σ) : Monitor (World σ) :=
  m.within World.outside fun outside w => { w with outside }

/-- The time. -/
def now (o : Outside σ) : Action (World σ) Timestamp := do return o.now (← get).outside

/-- Keeps what was done to the database. -/
def commit : Action (World σ) Unit := modify fun w => { w with saved := w.database }

/-- Undoes what was done to the database since it was last committed. -/
def rollback (w : World σ) : World σ := { w with database := w.saved }

/-- A unit of work: committed at its end, and undone back to the last commit when it fails. -/
def unit (x : Action (World σ) α) : Action (World σ) α :=
  Action.restoring (fun _ after => after.rollback) do
    let a ← x
    commit
    return a

end World

end Mixtape
