import Mixtape.Json.Access
import Mixtape.Json.Value
import Mixtape.Number.Reader

/-!
# Columns

What the columns of a table keep of a value. A column of texts keeps a number as its digits, a
column of counts keeps a whole number without its point and reads a text that is a numeral, and a
column of truth values takes one and zero for them. Lists and objects are kept by none of them; a
column of documents keeps every value, if all whole numbers in it can be written.

* `Column.text?`, `Column.count`, `Column.flag?` — the three kinds of columns.
* `Column.documents` — columns of documents.
* `Column.needed` — the value of a column that cannot be empty.
* `Column.number?` — the number of the row a value asks for.
-/

namespace Mixtape

namespace Database

/-- One more than the largest whole number that can be stored. -/
def storableBound : Int := 9223372036854775808

/-- A whole number of 64 bits; others cannot be stored or looked for. -/
def storable (n : Int) : Except Failure Unit :=
  if -storableBound ≤ n ∧ n < storableBound then .ok ()
  else .error (.overflow "Python int too large to convert to SQLite INTEGER")

end Database

namespace Column

open Database (storable storableBound)

/-- The text a column of texts keeps of a value, nothing of null. -/
def text? : Json → Except Failure (Option String)
  | .null => .ok none
  | .text s => .ok (some s)
  | .bool b => .ok (some (if b then "1" else "0"))
  | .int n => do
    storable n
    pure (some (toString n))
  | .real x => .ok x.columnText?
  | .list _ | .object _ => .error .unstorable

/-- A binary number as a column of counts keeps it: without its point if it is whole and not too
large. -/
def ofReal (x : Binary64) : Json :=
  let n := x.truncate
  if x.isWhole && decide (-storableBound < n ∧ n < storableBound - 1) then .int n else .real x

/-- Whether a character occurs in numerals. -/
def isNumeral (c : Char) : Bool :=
  decide ('0' ≤ c ∧ c ≤ '9') || c == '+' || c == '-' || c == '.' || c == 'e' || c == 'E'

/-- Whether a character is a blank around numerals. -/
def isBlank (c : Char) : Bool := c == ' ' || decide ('\t' ≤ c ∧ c ≤ '\r')

/-- The number a text writes, if it is a numeral. -/
def numeral? (s : String) : Option Json :=
  let cs := ((s.toList.dropWhile isBlank).reverse.dropWhile isBlank).reverse
  let digits := (Numeral.signed cs).2
  if !cs.all isNumeral then none
  else if !digits.isEmpty && digits.all Char.isDigit then
    let n : Int := Text.natOfDigits 0 digits
    let n := if (Numeral.signed cs).1 then -n else n
    if -storableBound ≤ n ∧ n < storableBound then some (.int n)
    else (Numeral.ofChars? cs).map .real
  else (Numeral.ofChars? cs).map ofReal

/-- What a column of counts keeps of a value. -/
def count : Json → Except Failure Json
  | .null => .ok .null
  | .bool b => .ok (.int (if b then 1 else 0))
  | .int n => do
    storable n
    pure (.int n)
  | .real .nan => .ok .null
  | .real x => .ok (ofReal x)
  | .text s => .ok ((numeral? s).getD (.text s))
  | .list _ | .object _ => .error .unstorable

/-- What a column of truth values keeps of a value, nothing of null. -/
def flag? (j : Json) : Except Failure (Option Bool) :=
  if j.isNull then .ok none
  else if j.isSame (.int 1) then .ok (some true)
  else if j.isSame (.int 0) then .ok (some false)
  else .error .unwritable

/-- Columns of documents keep values as they are, if they can be written. -/
def documents (values : List Json) : Except Failure Unit :=
  if values.all Json.isShowable then .ok () else .error .unwritable

/-- The value of a column that cannot be empty. -/
def needed {α : Type} (value : Except Failure (Option α)) : Except Failure α := do
  match ← value with
  | some a => return a
  | none => throw .constraint

/-- A count that cannot be missing. -/
def neededCount (j : Json) : Except Failure Json := do
  let kept ← count j
  if kept.isNull then throw .constraint else return kept

/-- A whole number is kept as it is, if it can be stored. -/
theorem neededCount_int {n : Int} {kept : Json} : neededCount (.int n) = .ok kept ↔
    (-storableBound ≤ n ∧ n < storableBound) ∧ kept = .int n := by
  unfold neededCount count
  dsimp only
  by_cases hn : -storableBound ≤ n ∧ n < storableBound
  · rw [Database.storable, if_pos hn]
    constructor
    · intro h
      cases h
      exact ⟨hn, rfl⟩
    · rintro ⟨-, rfl⟩
      rfl
  · rw [Database.storable, if_neg hn]
    exact ⟨nofun, fun h => absurd h.1 hn⟩

/-- The number of the row a value asks for, if it can be one. -/
def number? (j : Json) : Except Failure (Option Int) := do
  return (← count j).int?

/-- The number of the row of an entity that a value asks for. -/
def number (entity : String) (j : Json) : Except Failure Int := do
  match ← number? j with
  | some n => return n
  | none => throw (.notFound entity j.plain)

end Column

end Mixtape
