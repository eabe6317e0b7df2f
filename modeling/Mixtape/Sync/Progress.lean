import Mixtape.Json.Value

/-!
# Progress

How far a running sync has come.

* `Progress` — phase, items done, items in all, and a line for the operator, as they were given.
* `Progress.of` — the progress of a phase that counts its items.
* `Progress.percentage` — the share done, in percent with one decimal.
-/

namespace Mixtape

/-- How far a phase of a sync has come. Whoever reports decides what the parts are. -/
structure Progress where
  /-- The phase. -/
  phase : Json := .text ""
  /-- Items done. -/
  current : Json := .int 0
  /-- Items in all. -/
  total : Json := .int 0
  /-- A line for the operator. -/
  message : Json := .null
  deriving DecidableEq

namespace Progress

/-- The progress of a phase that counts its items. -/
def of (phase : String) (current total : Int) (message : String) : Progress :=
  ⟨.text phase, .int current, .int total, .text message⟩

/-- The binary number nearest to a share; the whole is not zero. -/
def share (current total : Json) : Except Failure Binary64 :=
  match current.number?, total.number? with
  | some (.int m), some (.int n) =>
    match Binary64.roundRatio (decide (m < 0)) m.natAbs n.natAbs with
    | .infinite _ => .error (.overflow "integer division result too large for a float")
    | x => .ok x
  | some m, some n => do
    let x ← m.toBinary64
    let y ← n.toBinary64
    pure (x.dividedBy y)
  | _, _ => .error (Json.unsuited "/" current total)

/-- A share in percent, at most a hundred, to one decimal. Each step rounds to the nearest binary
number. -/
def percent : Binary64 → Binary64
  | .finite negative units =>
    let units := if negative then units else min units Binary64.unitsPerOne
    (Binary64.roundRatio negative (units * 100) Binary64.unitsPerOne).roundTenths
  | .infinite false => .finite false (100 * Binary64.unitsPerOne)
  | x => x

/-- Whether a number of items counts as nothing to do; a value that is no number is refused. -/
def isNothing (total : Json) : Except Failure Bool :=
  if total.number?.isSome then .ok (total.magnitude?.any (·.isLe .zero))
  else .error (Json.incomparable "<=" total (.int 0))

/-- The share done in percent, zero when there is nothing to do. -/
def percentage (p : Progress) : Except Failure Binary64 := do
  if ← isNothing p.total then return .finite false 0
  return percent (← share p.current p.total)

end Progress

end Mixtape
