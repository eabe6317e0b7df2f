import Mixtape.Number.Shortest

/-!
# Amounts

A number as a document writes it: a whole number of any size, or a finite binary number. The two
compare exactly, so `5` and `5.0` are equal in value and differ in the way they are written.

* `Amount` — the two kinds.
* `Amount.units` — the exact value, in units of `2 ^ -1074`; order and equality of values are
  those of the units.
* `Amount.halves?` — the value in halves, if it is a whole number of them.
-/

namespace Mixtape

/-- A finite number, as written. -/
inductive Amount where
  /-- Written without point or exponent. -/
  | whole (n : Int)
  /-- Written with point or exponent: `count` units of `2 ^ -1074`, with a sign. -/
  | real (negative : Bool) (count : Nat)
  deriving DecidableEq

namespace Amount

/-- The exact value, in units of `2 ^ -1074`. -/
def units : Amount → Int
  | whole n => n * Binary64.unitsPerOne
  | real negative count => if negative then -(count : Int) else count

/-- The amount of a finite binary number. -/
def ofBinary64? : Binary64 → Option Amount
  | .finite negative count => some (real negative count)
  | _ => none

/-- The amount nearest to a number of tenths. -/
def ofTenths (n : Nat) : Amount :=
  (ofBinary64? (.ofDecimal false n (-1))).getD (.whole 0)

/-- Whether the value is below zero. -/
def isNegative (a : Amount) : Bool := decide (a.units < 0)

/-- The value in halves, if it is a whole number of them. -/
def halves? (a : Amount) : Option Int :=
  if a.units % Binary64.unitsPerHalf = 0 then some (a.units / Binary64.unitsPerHalf) else none

/-- A whole number no binary number can stand for: its nearest one is infinite. -/
def overflows : Amount → Bool
  | whole n => (Binary64.ofInt? n).isNone
  | real _ _ => false

@[simp] theorem units_whole (n : Int) : (whole n).units = n * Binary64.unitsPerOne := rfl

end Amount

end Mixtape
