import Mixtape.Json.Basic

/-!
# Results

What a finished sync reports.

* `SyncResult` — counts and error lines of a finished sync.
* `SyncResult.merge` — the result of two syncs taken together.
* `ResultRecord` — a result as it is kept, its parts as they were given.
-/

namespace Mixtape

/-- The result a sync shows its operator. -/
structure SyncResult where
  /-- Tracks the sync was about. -/
  total : Int := 0
  /-- Tracks it added. -/
  added : Int := 0
  /-- Tracks it changed or removed. -/
  changed : Int := 0
  /-- One line per failed part. -/
  errors : List String := []
  deriving DecidableEq

namespace SyncResult

/-- Two results taken together: counts add up and error lines follow one another. -/
def merge (r s : SyncResult) : SyncResult :=
  ⟨r.total + s.total, r.added + s.added, r.changed + s.changed, r.errors ++ s.errors⟩

@[simp] theorem errors_merge (r s : SyncResult) : (r.merge s).errors = r.errors ++ s.errors := rfl

@[simp] theorem added_merge (r s : SyncResult) : (r.merge s).added = r.added + s.added := rfl

@[simp] theorem total_merge (r s : SyncResult) : (r.merge s).total = r.total + s.total := rfl

end SyncResult

/-- A result as it is kept. Whoever hands in a result decides what its parts are. -/
structure ResultRecord where
  /-- Tracks the sync was about. -/
  total : Json := .int 0
  /-- Tracks it added. -/
  added : Json := .int 0
  /-- Tracks it changed or removed. -/
  changed : Json := .int 0
  /-- One item per failed part. -/
  errors : List Json := []
  deriving DecidableEq

/-- The record of a result. -/
def SyncResult.record (r : SyncResult) : ResultRecord :=
  ⟨.int r.total, .int r.added, .int r.changed, r.errors.map .text⟩

end Mixtape
