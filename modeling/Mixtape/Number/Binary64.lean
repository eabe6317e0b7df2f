/-!
# Binary floating point

The numbers of the 64-bit binary format, held exactly: a finite one is a whole number of units of
`2 ^ -1074`, the smallest positive number of the format. Order and equality of finite numbers are
those of their unit counts, so nothing here rounds except `roundRatio`.

* `Binary64` — the numbers of the format.
* `Binary64.roundRatio` — the number nearest to a ratio, an even last bit deciding a tie.
* `Binary64.ofDecimal` — the number nearest to a decimal.
* `Binary64.add`, `Binary64.dividedBy` — the numbers nearest to a sum and a quotient.
* `Binary64.roundTenths` — the number nearest to the value rounded to tenths.
-/

namespace Mixtape

/-- A number of the 64-bit binary format. -/
inductive Binary64 where
  /-- `units * 2 ^ -1074`, or its negative; zero has both signs. -/
  | finite (negative : Bool) (units : Nat)
  /-- Beyond all finite numbers. -/
  | infinite (negative : Bool)
  /-- No number. -/
  | nan
  deriving DecidableEq

namespace Binary64

/-- One half, counted in units. -/
def unitsPerHalf : Nat := Nat.pow 2 1073

/-- One, counted in units. -/
def unitsPerOne : Nat := 2 * unitsPerHalf

/-- The unit count from which on a number is infinite. -/
def overflowUnits : Nat := Nat.pow 2 2098

/-- The whole number nearest to `num / den`, the even one of two. -/
def divideToEven (num den : Nat) : Nat :=
  let q := num / den
  let twice := 2 * (num % den)
  if twice < den then q
  else if den < twice then q + 1
  else if q % 2 = 0 then q else q + 1

/-- The unit count nearest to `num / den` units among those of 53 significant bits. -/
def roundUnits (num den : Nat) : Nat :=
  let spare := (num / den).log2 - 52
  divideToEven num (den * Nat.pow 2 spare) * Nat.pow 2 spare

/-- The number nearest to `num / den` (ties to the even last bit); `den` is positive. -/
def roundRatio (negative : Bool) (num den : Nat) : Binary64 :=
  let units := roundUnits (num * unitsPerOne) den
  if units < overflowUnits then .finite negative units else .infinite negative

/-- The number nearest to a whole number, or `none` if that would be infinite. -/
def ofInt? (n : Int) : Option Binary64 :=
  match roundRatio (decide (n < 0)) n.natAbs 1 with
  | .infinite _ => none
  | x => some x

/-- Why a whole number has no nearest number. -/
def tooLarge : String := "int too large to convert to float"

/-- The number nearest to a signed unit count. -/
def ofUnits (units : Int) : Binary64 :=
  let count := roundUnits units.natAbs 1
  if count < overflowUnits then .finite (decide (units < 0)) count
  else .infinite (decide (units < 0))

/-- The number nearest to a sum. Zeros of both signs, and numbers that cancel, add up to the zero
without sign. -/
def add : (x y : Binary64) → Binary64
  | .finite a m, .finite b n =>
    let sum : Int := (if a then -(m : Int) else m) + (if b then -(n : Int) else n)
    if sum = 0 then .finite (a && b) 0 else ofUnits sum
  | .infinite a, .infinite b => if a = b then .infinite a else .nan
  | .nan, _ | _, .nan => .nan
  | .infinite a, .finite _ _ | .finite _ _, .infinite a => .infinite a

/-- The number nearest to a quotient; the divisor is positive. -/
def dividedBy : (x y : Binary64) → Binary64
  | .finite a m, .finite _ n => roundRatio a m n
  | .finite a _, .infinite _ => .finite a 0
  | .infinite a, .finite _ _ => .infinite a
  | _, _ => .nan

/-- A whole number of halves. -/
def ofHalves (n : Nat) : Binary64 := .finite false (n * unitsPerHalf)

/-- Decimal exponents beyond this bound, counted from the leading digit, give zero or infinity. -/
def exponentBound : Int := 400

/-- The number nearest to `digits * 10 ^ exponent`. -/
def ofDecimal (negative : Bool) (digits : Nat) (exponent : Int) : Binary64 :=
  let magnitude := exponent + (Nat.toDigits 10 digits).length
  if digits = 0 ∨ magnitude < -exponentBound then .finite negative 0
  else if exponentBound < magnitude then .infinite negative
  else roundRatio negative (digits * Nat.pow 10 exponent.toNat) (Nat.pow 10 (-exponent).toNat)

/-- The number nearest to the value rounded to tenths, a half tenth going to the even one. -/
def roundTenths : Binary64 → Binary64
  | .finite negative units => roundRatio negative (divideToEven (units * 10) unitsPerOne) 10
  | x => x

/-- Whether a finite number is whole. -/
def isWhole : Binary64 → Bool
  | .finite _ units => units % unitsPerOne == 0
  | _ => false

/-- The part before the point of a finite number. -/
def truncate : Binary64 → Int
  | .finite negative units =>
    let n : Int := (units / unitsPerOne : Nat)
    if negative then -n else n
  | _ => 0

/-- Whether a number is finite. -/
def isFinite : Binary64 → Bool
  | .finite _ _ => true
  | _ => false

/-- Whether a number is zero, of either sign. -/
def isZero : Binary64 → Bool
  | .finite _ units => units == 0
  | _ => false

/-- The signed unit count of a finite number, zero for the others. -/
def units : Binary64 → Int
  | .finite negative units => if negative then -(units : Int) else units
  | _ => 0

@[simp] theorem isFinite_finite (negative : Bool) (units : Nat) :
    (finite negative units).isFinite = true := rfl

@[simp] theorem units_ofHalves (n : Nat) : (ofHalves n).units = ((n * unitsPerHalf : Nat) : Int) := rfl

end Binary64

end Mixtape
