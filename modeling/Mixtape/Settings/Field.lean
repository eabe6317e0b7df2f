import Mixtape.Json.Basic
import Mixtape.Number.Entry
import Mixtape.Text.Path

/-!
# Fields of settings

What a setting may be, and how a value that is given for it, often as text from the environment,
is brought to it.

* `FieldKind` — what a setting may be.
* `FieldKind.accept?` — the setting a value stands for.
-/

namespace Mixtape.Settings

/-- What a setting may be. -/
inductive FieldKind where
  /-- A text. -/
  | text
  /-- A truth value. -/
  | flag
  /-- A whole number. -/
  | whole
  /-- A number. -/
  | number
  /-- A place in the file system. -/
  | path
  /-- One of several words. -/
  | choice (words : List String)

/-- The words for true. -/
def trueWords : List String := ["1", "on", "t", "true", "y", "yes"]

/-- The words for false. -/
def falseWords : List String := ["0", "off", "f", "false", "n", "no"]

/-- The truth value a value stands for. -/
def flagOf? : Json → Option Bool
  | .bool b => some b
  | .int 0 => some false
  | .int 1 => some true
  | .real x =>
    if x.isZero then some false else if x = .ofHalves 2 then some true else none
  | .text s =>
    if trueWords.contains (Text.lowerAscii s) then some true
    else if falseWords.contains (Text.lowerAscii s) then some false
    else none
  | _ => none

/-- Whether a whole number lies within 64 bits with a sign, the least of them left out. -/
def isWide (n : Int) : Bool := decide (n.natAbs < 9223372036854775808)

/-- The whole number a value stands for; one with a point stands for one within 64 bits only. -/
def wholeOf? : Json → Option Int
  | .int n => some n
  | .bool b => some (if b then 1 else 0)
  | .real x => if x.isWhole ∧ isWide x.truncate then some x.truncate else none
  | .text s => Entry.whole? s
  | _ => none

/-- The number a value stands for. -/
def numberOf? : Json → Option Binary64
  | .int n => Binary64.ofInt? n
  | .bool b => some (.ofHalves (if b then 2 else 0))
  | .real x => some x
  | .text s => Entry.number? s
  | _ => none

/-- The setting a value stands for. -/
def FieldKind.accept? : FieldKind → Json → Option Json
  | text, .text s => some (.text s)
  | flag, j => (flagOf? j).map .bool
  | whole, j => (wholeOf? j).map .int
  | number, j => (numberOf? j).map .real
  | path, .text s => some (.text (Text.plainPath s))
  | choice words, .text s => if words.contains s then some (.text s) else none
  | _, _ => none

end Mixtape.Settings
