import Mixtape.Text.Digit
import Mixtape.Text.Quoted
import Mixtape.Time.Timestamp

/-!
# Reading timestamps

Two forms are read. The full form is a date, any one separating character, a time of day and an
optional offset; dates may be written with or without hyphens, by month or by week, and times with
or without colons. The short form is a year, a year and a month, or a year, a month and a day.

* `Unreadable` — why a text of the full form denotes no moment.
* `readFull` — the full form: the wall clock and the offset, if one is written.
* `readShort?` — the short form, whose shape is chosen by the number of parts.
-/

namespace Mixtape.Time

/-! ### Causes -/

/-- Why a text of the full form denotes no moment. -/
inductive Unreadable where
  /-- The text has another shape. -/
  | shape
  /-- There is no such year. -/
  | year (year : Nat)
  /-- There is no such month. -/
  | month
  /-- The month has no such day. -/
  | day
  /-- The day has no such hour. -/
  | hour
  /-- The hour has no such minute. -/
  | minute
  /-- The minute has no such second. -/
  | second
  /-- The offset, in microseconds, is a day or longer. -/
  | offset (micro : Int)
  deriving DecidableEq

/-- A span of time as the message about an offset shows it: whole days, which may be negative, and
the seconds and microseconds after them, each only if it is not zero. -/
def spanText (micro : Int) : String :=
  let days := micro / (Timestamp.perDay : Int)
  let rest := (micro % (Timestamp.perDay : Int)).toNat
  let parts := [("days", days), ("seconds", ((rest / Timestamp.perSecond : Nat) : Int)),
    ("microseconds", ((rest % Timestamp.perSecond : Nat) : Int))].filter fun p => p.2 ≠ 0
  "datetime.timedelta("
    ++ ", ".intercalate (parts.map fun p => p.1 ++ "=" ++ toString p.2) ++ ")"

/-- The wording of a cause for the text it was found in. -/
def Unreadable.message (text : String) : Unreadable → String
  | shape => "Invalid isoformat string: " ++ Text.quoted text
  | year y => "year " ++ toString y ++ " is out of range"
  | month => "month must be in 1..12"
  | day => "day is out of range for month"
  | hour => "hour must be in 0..23"
  | minute => "minute must be in 0..59"
  | second => "second must be in 0..59"
  | offset micro =>
    "offset must be a timedelta strictly between -timedelta(hours=24) and timedelta(hours=24), not "
      ++ spanText micro ++ "."

/-! ### Digits -/

/-- Whether a character is an ASCII digit. -/
def isClockDigit (c : Char) : Bool := decide ('0' ≤ c ∧ c ≤ '9')

/-- The number of exactly `n` leading digits and what follows, if there are so many. -/
def takeDigits? : (n acc : Nat) → List Char → Option (Nat × List Char)
  | 0, acc, cs => some (acc, cs)
  | _ + 1, _, [] => none
  | n + 1, acc, c :: rest =>
    if isClockDigit c then takeDigits? n (acc * 10 + (c.toNat - 48)) rest else none

/-! ### The full form: where the date ends -/

/-- The character at a position, if there is one. -/
def charAt (cs : List Char) (i : Nat) : Char := cs.getD i '\x00'

/-- The length of the date, judged by its shape; the text has at least seven characters. -/
def dateLength (cs : List Char) : Option Nat :=
  let n := cs.length
  if n = 7 then some 7
  else if charAt cs 4 = '-' then
    if charAt cs 5 = 'W' then
      if 8 < n ∧ charAt cs 8 = '-' then
        if n = 9 then none
        else if 10 < n ∧ isClockDigit (charAt cs 10) then some 8
        else some 10
      else some 8
    else some 10
  else if charAt cs 4 = 'W' then
    let digitsEnd := 7 + ((cs.drop 7).takeWhile isClockDigit).length
    if digitsEnd < 9 then some digitsEnd
    else if digitsEnd % 2 = 0 then some 7
    else some 8
  else some 8

/-- A date as it is written. -/
inductive WrittenDate where
  /-- Year, month and day. -/
  | byMonth (year month day : Nat)
  /-- Year, one of its weeks, and weekday, 1 for Monday. -/
  | byWeek (year week day : Nat)

/-- The date at the beginning of a text, which ends after `length` characters. -/
def readDate? (cs : List Char) (length : Nat) : Option WrittenDate := do
  let (year, rest) ← takeDigits? 4 0 cs
  let hyphens := rest.head? = some '-'
  let rest := if hyphens then rest.drop 1 else rest
  match rest with
  | 'W' :: rest =>
    let (week, rest) ← takeDigits? 2 0 rest
    let day ←
      if length ≤ cs.length - rest.length then some 1
      else if hyphens ∧ rest.head? ≠ some '-' then none
      else (takeDigits? 1 0 (if hyphens then rest.drop 1 else rest)).map (·.1)
    if isWeekOf year week ∧ 1 ≤ day ∧ day ≤ 7 then some (.byWeek year week day) else none
  | rest =>
    let (month, rest) ← takeDigits? 2 0 rest
    if hyphens ∧ rest.head? ≠ some '-' then none
    else
      let (day, _) ← takeDigits? 2 0 (if hyphens then rest.drop 1 else rest)
      some (.byMonth year month day)

/-- The day a written date names. No month holds a week before the first year. -/
def WrittenDate.resolve : WrittenDate → Except Unreadable CivilDate
  | byMonth year month day =>
    if year < firstYear ∨ lastYear < year then .error (.year year)
    else if month = 0 ∨ 12 < month then .error .month
    else if day = 0 ∨ daysInMonth year month < day then .error .day
    else .ok ⟨year, month, day⟩
  | byWeek year week day =>
    if year < firstYear then .error .month
    else
      let date := civilDate (weekDayNumber year week day)
      if lastYear < date.year then .error (.year date.year) else .ok date

/-! ### The full form: time of day and offset -/

/-- A time of day, and whether the text ended with it. -/
structure ClockReading where
  /-- Hours. -/
  hour : Nat
  /-- Minutes. -/
  minute : Nat
  /-- Seconds. -/
  second : Nat
  /-- Microseconds. -/
  micro : Nat
  /-- Whether nothing followed. -/
  complete : Bool

/-- Whether a text is at its end; a zero character ends it early. -/
def atEnd (cs : List Char) : Bool := charAt cs 0 == '\x00'

/-- Microseconds of a fraction: six digits count, fewer are extended and more are cut. -/
def readFraction? (cs : List Char) : Option (Nat × Bool) := do
  let n := min cs.length 6
  let (micro, rest) ← takeDigits? n 0 cs
  some (micro * Nat.pow 10 (6 - n), atEnd (rest.dropWhile isClockDigit))

/-- The parts of a time of day after those already read, of which at most `more` are to come;
`colons` tells whether the parts are separated. A single ASCII character may be left over. -/
def readParts? (colons : Bool) : (more : Nat) → (done : List Nat) → List Char →
    Option (List Nat × Nat × Bool)
  | 0, done, cs => (readFraction? cs).map fun (micro, complete) => (done, micro, complete)
  | more + 1, done, cs => do
    let (value, rest) ← takeDigits? 2 0 cs
    let done := done ++ [value]
    let colons := if done.length = 1 then rest.head? = some ':' else colons
    match rest with
    | [] => some (done, 0, true)
    | [c] => if c.toNat < 128 then some (done, 0, c == '\x00') else none
    | c :: after =>
      if colons ∧ c = ':' then readParts? colons more done after
      else if c = '.' ∨ c = ',' then
        (readFraction? after).map fun (micro, complete) => (done, micro, complete)
      else if colons then none
      else readParts? colons more done rest

/-- A time of day: hours, and minutes, seconds and a fraction as far as they are written. -/
def readClock? (cs : List Char) : Option ClockReading := do
  let (parts, micro, complete) ← readParts? true 3 [] cs
  some ⟨parts.getD 0 0, parts.getD 1 0, parts.getD 2 0, micro, complete⟩

/-- Whether a character begins an offset. -/
def beginsOffset (c : Char) : Bool := c == '+' || c == '-' || c == 'Z'

/-- A time of day with an optional offset, in microseconds. Before an offset the time of day may
break off anywhere after a part. -/
def readTime? (cs : List Char) : Option (ClockReading × Option Int) := do
  let clock ← readClock? (cs.takeWhile (!beginsOffset ·))
  match cs.dropWhile (!beginsOffset ·) with
  | [] => if clock.complete then some (clock, none) else none
  | mark :: after =>
    if mark = 'Z' then if atEnd after then some (clock, some 0) else none
    else
      let offset ← readClock? after
      if offset.complete then
        let seconds := (offset.hour * 60 + offset.minute) * 60 + offset.second
        let magnitude : Int :=
          if seconds = 0 then 0 else (seconds * Timestamp.perSecond + offset.micro : Nat)
        some (clock, some (if mark = '-' then -magnitude else magnitude))
      else none

/-- What a text of the full form writes: a date, and a time of day with an optional offset if there
is one. -/
def readForm? (cs : List Char) : Option (WrittenDate × Option (ClockReading × Option Int)) := do
  if cs.length < 7 then none
  else
    let length ← dateLength cs
    let date ← readDate? cs length
    match cs.drop length with
    | [] => some (date, none)
    | _ :: rest => some (date, some (← readTime? rest))

/-- The time of day, if a day has it. -/
def ClockReading.check (c : ClockReading) : Except Unreadable Unit :=
  if 23 < c.hour then .error .hour
  else if 59 < c.minute then .error .minute
  else if 59 < c.second then .error .second
  else .ok ()

/-- The full form: the wall clock and the offset, if one is written. A text of the right shape is
judged by its offset first, then by its date, last by its time of day. -/
def readFull (s : String) : Except Unreadable (Int × Option Int) :=
  match readForm? s.toList with
  | none => .error .shape
  | some (date, none) => (date.resolve).map fun d => (Timestamp.wallOf d 0 0 0 0, none)
  | some (date, some (clock, offset)) => do
    let micro := offset.getD 0
    if Timestamp.perDay ≤ micro.natAbs then throw (.offset micro)
    let d ← date.resolve
    clock.check
    return (Timestamp.wallOf d clock.hour clock.minute clock.second clock.micro, offset)

/-! ### The short form -/

/-- A month: two digits up to `12`, or one digit; what follows is handed back. -/
def takeMonth? : List Char → Option (Nat × List Char)
  | '1' :: '0' :: rest => some (10, rest)
  | '1' :: '1' :: rest => some (11, rest)
  | '1' :: '2' :: rest => some (12, rest)
  | '0' :: d :: rest => if '1' ≤ d ∧ d ≤ '9' then some (d.toNat - 48, rest) else none
  | d :: rest => if '1' ≤ d ∧ d ≤ '9' then some (d.toNat - 48, rest) else none
  | [] => none

/-- A day of the month: two digits up to `31`, or one digit, which may follow a space; the second
of two digits may be of any script. -/
def takeDay? : List Char → Option (Nat × List Char)
  | '3' :: '0' :: rest => some (30, rest)
  | '3' :: '1' :: rest => some (31, rest)
  | '0' :: d :: rest => if '1' ≤ d ∧ d ≤ '9' then some (d.toNat - 48, rest) else none
  | ' ' :: d :: rest => if '1' ≤ d ∧ d ≤ '9' then some (d.toNat - 48, rest) else none
  | a :: b :: rest =>
    if a = '1' ∨ a = '2' then
      match Text.digitValue? b with
      | some v => some ((a.toNat - 48) * 10 + v, rest)
      | none => some (a.toNat - 48, b :: rest)
    else if '1' ≤ a ∧ a ≤ '9' then some (a.toNat - 48, b :: rest)
    else none
  | [a] => if '1' ≤ a ∧ a ≤ '9' then some (a.toNat - 48, []) else none
  | [] => none

/-- A year of four decimal digits of any script. -/
def takeYear? : List Char → Option (Nat × List Char)
  | a :: b :: c :: d :: rest => do
    let a ← Text.digitValue? a
    let b ← Text.digitValue? b
    let c ← Text.digitValue? c
    let d ← Text.digitValue? d
    some (((a * 10 + b) * 10 + c) * 10 + d, rest)
  | _ => none

/-- A hyphen, and what follows it. -/
def takeHyphen? : List Char → Option (List Char)
  | '-' :: rest => some rest
  | _ => none

/-- How many parts the short form has. -/
inductive ShortForm where
  /-- A year. -/
  | year
  /-- A year and a month. -/
  | month
  /-- A year, a month and a day. -/
  | day

/-- The wall clock at the beginning of the day, month or year a text of the short form writes. -/
def readShort? (form : ShortForm) (s : String) : Option Int := do
  let (year, rest) ← takeYear? s.toList
  match form with
  | .year =>
    if rest.isEmpty then (CivilDate.ofParts? year 1 1).map (Timestamp.wallOf · 0 0 0 0) else none
  | .month =>
    let (month, rest) ← takeMonth? (← takeHyphen? rest)
    if rest.isEmpty then (CivilDate.ofParts? year month 1).map (Timestamp.wallOf · 0 0 0 0) else none
  | .day =>
    let (month, rest) ← takeMonth? (← takeHyphen? rest)
    let (day, rest) ← takeDay? (← takeHyphen? rest)
    if rest.isEmpty then (CivilDate.ofParts? year month day).map (Timestamp.wallOf · 0 0 0 0)
    else none

end Mixtape.Time
