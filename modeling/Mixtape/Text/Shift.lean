/-!
# Tables over code points

A class of characters is given by its boundaries, and a map of characters by the runs of code
points it moves by the same distance.

* `withinBounds` — membership in a class given by alternating boundaries.
* `Shift`, `shiftCode` — a run of code points moved by one distance, and the map a list of runs
  describes.
-/

namespace Mixtape.Text

/-- Membership in the class that begins at the first number, ends before the second, begins
again at the third, and so on. The numbers ascend. -/
def withinBounds : List Nat → Nat → Bool
  | [], _ => false
  | bound :: rest, n => decide (bound ≤ n) && !withinBounds rest n

/-- A run of code points: the first, the last, the step between neighbours, and the distance all
of them move. -/
abbrev Shift := Nat × Nat × Nat × Int

/-- The code point `n` is moved to by the first run that reaches it; a code point in no run stays.
The runs ascend and do not overlap. -/
def shiftCode : List Shift → Nat → Nat
  | [], n => n
  | (first, last, step, distance) :: rest, n =>
    if last < n then shiftCode rest n
    else if first ≤ n ∧ (n - first) % step = 0 then (n + distance).toNat
    else n

@[simp] theorem withinBounds_nil (n : Nat) : withinBounds [] n = false := rfl

@[simp] theorem shiftCode_nil (n : Nat) : shiftCode [] n = n := rfl

end Mixtape.Text
