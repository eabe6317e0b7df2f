import Mixtape.Time.Calendar
import Mixtape.Number.Shortest

/-!
# Timestamps

A timestamp is what a clock on a wall shows, to the microsecond, together with the wall's distance
from universal time. Timestamps are compared by the instant they denote; two with different
offsets may denote the same instant.

* `Timestamp` — wall clock and offset.
* `Timestamp.instant` — the instant denoted.
* `Timestamp.text` — the timestamp as text.
* `Timestamp.minusDays?` — the same wall clock some days earlier.
-/

namespace Mixtape

/-- A moment as a wall clock shows it. -/
structure Timestamp where
  /-- Microseconds on the wall clock since the beginning of year 1. -/
  wall : Int
  /-- Microseconds the wall clock is ahead of universal time. -/
  offset : Int
  deriving DecidableEq

namespace Timestamp

/-- The microseconds of a second. -/
def perSecond : Nat := 1000000

/-- The microseconds of a day. -/
def perDay : Nat := 86400000000

/-- Microseconds of universal time since the beginning of year 1. -/
def instant (t : Timestamp) : Int := t.wall - t.offset

/-- A timestamp of universal time. -/
def utc (wall : Int) : Timestamp := ⟨wall, 0⟩

/-- The same wall clock, read as universal time. -/
def asUtc (t : Timestamp) : Timestamp := utc t.wall

theorem asUtc_of_offset {t : Timestamp} (h : t.offset = 0) : t.asUtc = t := by
  obtain ⟨wall, offset⟩ := t
  obtain rfl : offset = 0 := h
  rfl

/-- Whether `t` is no later than `u`. -/
def isLe (t u : Timestamp) : Bool := decide (t.instant ≤ u.instant)

/-- Whether `t` is earlier than `u`. -/
def isLt (t u : Timestamp) : Bool := decide (t.instant < u.instant)

/-- The wall clock of a day and a time of day. -/
def wallOf (d : Time.CivilDate) (hour minute second micro : Nat) : Int :=
  ((d.dayNumber - 1) * perDay + ((hour * 60 + minute) * 60 + second) * perSecond + micro : Nat)

/-- The most days a time span holds. -/
def maxSpanDays : Nat := 999999999

/-- The same wall clock some days earlier, if the span exists and the calendar reaches back so
far. -/
def minusDays? (t : Timestamp) (days : Nat) : Option Timestamp :=
  if maxSpanDays < days then none
  else if t.wall - days * perDay < 0 then none
  else some ⟨t.wall - days * perDay, t.offset⟩

/-- One more than the most days that can be asked for. -/
def countBound : Nat := 2147483648

/-- Why there is no wall clock so many days earlier. -/
def beyondReach (days : Nat) : String :=
  if days ≤ maxSpanDays then "date value out of range"
  else if days < countBound then
    "days=" ++ toString days ++ "; must have magnitude <= " ++ toString maxSpanDays
  else "Python int too large to convert to C int"

/-! ### Text -/

/-- A number with leading zeros up to the given width. -/
def padded (width n : Nat) : String :=
  let digits := (toString n).toList
  String.ofList (List.replicate (width - digits.length) '0' ++ digits)

/-- A fraction of a second: nothing when zero, else a point and six digits. -/
def fractionText (micro : Nat) : String := if micro = 0 then "" else "." ++ padded 6 micro

/-- The offset as text: hours and minutes, and seconds only when there are any. -/
def offsetText (offset : Int) : String :=
  let n := offset.natAbs
  let seconds := n / perSecond
  let micro := n % perSecond
  (if offset < 0 then "-" else "+") ++ padded 2 (seconds / 3600) ++ ":"
    ++ padded 2 (seconds / 60 % 60)
    ++ (if seconds % 60 = 0 ∧ micro = 0 then ""
        else ":" ++ padded 2 (seconds % 60) ++ fractionText micro)

/-- The day of a wall clock. -/
def dateOf (wall : Int) : Time.CivilDate := Time.civilDate (wall.toNat / perDay + 1)

/-- The day as text: year, month and day. -/
def dateText (wall : Int) : String :=
  let d := dateOf wall
  padded 4 d.year ++ "-" ++ padded 2 d.month ++ "-" ++ padded 2 d.day

/-- Hour and minute of a wall clock. -/
def clockText (wall : Int) : String :=
  let minutes := wall.toNat % perDay / perSecond / 60
  padded 2 (minutes / 60) ++ ":" ++ padded 2 (minutes % 60)

/-- A wall clock as text: day, time of day, and the fraction of a second when there is one. -/
def wallText (wall : Int) : String :=
  dateText wall ++ "T" ++ clockText wall ++ ":"
    ++ padded 2 (wall.toNat % perDay / perSecond % 60) ++ fractionText (wall.toNat % perSecond)

/-- The timestamp as text: the wall clock followed by the offset. -/
def text (t : Timestamp) : String := wallText t.wall ++ offsetText t.offset

end Timestamp

end Mixtape
