import Mixtape.Json.Access
import Mixtape.Json.Value

/-!
# Records of results

Results that were handed in from outside: their counts need not be whole numbers.

* `ResultRecord.ofJson` — the record a document writes.
* `ResultRecord.merge` — the record of two results taken together.
-/

namespace Mixtape.ResultRecord

/-- The record a document writes; what is missing is zero or empty. -/
def ofJson (j : Json) : Except Failure ResultRecord := do
  j.requireObject
  let errors ← (j.getOr "errors" (.list [])).elements
  return ⟨j.getOr "totalTracks" (.int 0), j.getOr "newTracks" (.int 0),
    j.getOr "updatedTracks" (.int 0), errors⟩

/-- The record a document writes, none for null. -/
def ofJson? (j : Json) : Except Failure (Option ResultRecord) :=
  if j.isNull then .ok none else (ofJson j).map some

/-- Two records taken together: counts add up and errors follow one another. -/
def merge (r s : ResultRecord) : Except Failure ResultRecord := do
  let total ← r.total.plus s.total
  let added ← r.added.plus s.added
  let changed ← r.changed.plus s.changed
  return ⟨total, added, changed, r.errors ++ s.errors⟩

end Mixtape.ResultRecord
