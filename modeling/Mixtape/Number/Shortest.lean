import Mixtape.Number.Binary64

/-!
# The shortest decimal

A finite number is written with the fewest decimal digits that read back as it, the nearest such
decimal if there are several.

* `Decimal` — digits and the position of the point.
* `readsBack` — whether a decimal lies among the reals that round to a number.
* `shortest` — the decimal chosen for a positive unit count.
* `Layout`, `Binary64.render` — how the digits are laid out.
-/

namespace Mixtape

/-- The decimal `digits * 10 ^ exponent`. -/
structure Decimal where
  /-- The significant digits, as a number. -/
  digits : Nat
  /-- The power of ten they are multiplied by. -/
  exponent : Int
  deriving DecidableEq

namespace Decimal

/-- A decimal in units of `2 ^ -1074`, over a power of ten: `num / den` units. -/
def num (d : Decimal) : Nat := d.digits * Nat.pow 10 d.exponent.toNat * Binary64.unitsPerOne

/-- The power of ten below `num`. -/
def den (d : Decimal) : Nat := Nat.pow 10 (-d.exponent).toNat

/-- The distance of a decimal from a unit count, times `den`. -/
def distance (d : Decimal) (units : Nat) : Nat :=
  (d.num - units * d.den) + (units * d.den - d.num)

/-- Removes trailing zeros, at most `fuel` of them. -/
def stripZeros : (fuel : Nat) → Decimal → Decimal
  | 0, d => d
  | fuel + 1, d =>
    if d.digits % 10 = 0 ∧ d.digits ≠ 0 then stripZeros fuel ⟨d.digits / 10, d.exponent + 1⟩ else d

end Decimal

/-- Whether a decimal lies among the reals that round to a positive unit count: from halfway to
the neighbour below to halfway to the neighbour above, the ends included iff the last bit is
even. -/
def readsBack (units : Nat) (d : Decimal) : Bool :=
  let step := Nat.pow 2 (units.log2 - 52)
  let below := if units = Nat.pow 2 units.log2 ∧ 53 ≤ units.log2 then step / 2 else step
  let low := (2 * units - below) * d.den
  let high := (2 * units + step) * d.den
  let value := 2 * d.num
  if units / step % 2 = 0 then decide (low ≤ value ∧ value ≤ high)
  else decide (low < value ∧ value < high)

/-- The number of digits before the point of a positive unit count, negative for the zeros that
follow the point. -/
def pointPosition (units : Nat) : Int :=
  ((Nat.toDigits 10 (units * Nat.pow 10 340 / Binary64.unitsPerOne)).length : Int) - 340

/-- The decimal of `size` digits chosen for a unit count, if one reads back: of the two nearest
the nearer, of two equally near the even one. -/
def decimalOfSize? (units : Nat) (size : Nat) : Option Decimal :=
  let exponent := pointPosition units - size
  let scaled := units * Nat.pow 10 (-exponent).toNat
  let grid := Binary64.unitsPerOne * Nat.pow 10 exponent.toNat
  let low : Decimal := ⟨scaled / grid, exponent⟩
  let high : Decimal := ⟨scaled / grid + 1, exponent⟩
  match readsBack units low, readsBack units high with
  | true, true =>
    if low.distance units < high.distance units then some low
    else if high.distance units < low.distance units then some high
    else if low.digits % 2 = 0 then some low else some high
  | true, false => some low
  | false, true => some high
  | false, false => none

/-- The first of the given sizes at which a decimal reads back; the last one is used if none
does. -/
def firstSize (units : Nat) : (size more : Nat) → Decimal
  | size, 0 => ((decimalOfSize? units size).getD ⟨0, 0⟩)
  | size, more + 1 =>
    match decimalOfSize? units size with
    | some d => d
    | none => firstSize units (size + 1) more

/-- The shortest decimal that reads back as a positive unit count. -/
def shortest (units : Nat) : Decimal := (firstSize units 1 16).stripZeros 20

/-- The decimal of at most `size` digits nearest to a positive unit count, a half rounded up. -/
def nearestDecimal (units size : Nat) : Decimal :=
  let exponent := pointPosition units - size
  let scaled := units * Nat.pow 10 (-exponent).toNat
  let grid := Binary64.unitsPerOne * Nat.pow 10 exponent.toNat
  Decimal.stripZeros 20 ⟨(2 * scaled + grid) / (2 * grid), exponent⟩

/-- How the digits of a number are laid out. -/
structure Layout where
  /-- The least point position written without an exponent. -/
  leastPoint : Int
  /-- The greatest point position written without an exponent. -/
  greatestPoint : Int
  /-- Whether a whole number keeps a point and a zero. -/
  keepsPoint : Bool
  /-- Whether a single digit keeps them before an exponent. -/
  keepsExponentPoint : Bool

/-- Numbers are written positionally from `0.0001` up to sixteen digits before the point, whole
ones with `.0`, the others with a signed exponent of at least two digits. -/
def plainLayout : Layout := ⟨-3, 16, true, false⟩

/-- In a column of texts numbers are written positionally up to fifteen digits before the point,
and always with a point. -/
def columnLayout : Layout := ⟨-3, 15, true, true⟩

/-- A whole number in decimal digits, of at least two places. -/
def twoPlaces (n : Nat) : String := if n < 10 then "0" ++ toString n else toString n

/-- The digits of a decimal, laid out. -/
def Decimal.render (layout : Layout) (d : Decimal) : String :=
  let digits := (toString d.digits).toList
  let point : Int := digits.length + d.exponent
  if layout.leastPoint ≤ point ∧ point ≤ layout.greatestPoint then
    if point ≤ 0 then
      "0." ++ String.ofList (List.replicate (-point).toNat '0' ++ digits)
    else if digits.length ≤ point.toNat then
      String.ofList (digits ++ List.replicate (point.toNat - digits.length) '0')
        ++ (if layout.keepsPoint then ".0" else "")
    else
      String.ofList (digits.take point.toNat ++ '.' :: digits.drop point.toNat)
  else
    let exponent := point - 1
    String.ofList (digits.take 1)
      ++ (if digits.length ≤ 1 then (if layout.keepsExponentPoint then ".0" else "")
          else String.ofList ('.' :: digits.drop 1))
      ++ "e" ++ (if exponent < 0 then "-" else "+") ++ twoPlaces exponent.natAbs

namespace Binary64

/-- A number as text, in its shortest decimal; the infinite ones and the missing one by the given
names. -/
def renderWith (infinity missing : String) : Binary64 → String
  | .finite negative units =>
    (if negative then "-" else "") ++
      (if units = 0 then "0.0" else (shortest units).render plainLayout)
  | .infinite negative => (if negative then "-" else "") ++ infinity
  | .nan => missing

/-- A number as messages show it. -/
def render : Binary64 → String := renderWith "inf" "nan"

/-- A number in fifteen digits, as a column of texts keeps it, if it is a number. -/
def columnText? : Binary64 → Option String
  | .finite negative units =>
    some (if units = 0 then "0.0"
      else (if negative then "-" else "") ++ (nearestDecimal units 15).render columnLayout)
  | .infinite negative => some ((if negative then "-" else "") ++ "Inf")
  | .nan => none

end Binary64

end Mixtape
