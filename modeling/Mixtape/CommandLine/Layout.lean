import Mixtape.Text.Blank
import Mixtape.Text.Search
import Mixtape.Text.Width

/-!
# Layout

How text fills columns of cells. A tabulator moves on to the next column divisible by eight. A
column is as wide as the widest line of its cells, so a cell is broken between words only where
tabulators widen it; a title is broken where it is wider than the table below it.

* `breakLine` — a line broken to a width.
* `Table` — a table, and its lines as text.
-/

namespace Mixtape.CommandLine

/-! ### Lines -/

/-- Whether a character ends a line. -/
def endsLine (c : Char) : Bool :=
  [10, 11, 12, 13, 28, 29, 30, 133, 8232, 8233].contains c.toNat

/-- The lines of characters, split where the given ones stand. -/
def linesAt (ends : Char → Bool) : List Char → List (List Char)
  | [] => [[]]
  | c :: rest =>
    if ends c then [] :: linesAt ends rest
    else
      match linesAt ends rest with
      | [] => [[c]]
      | line :: lines => (c :: line) :: lines

/-- The distance between two stops of the tabulator. -/
def tabDistance : Nat := 8

/-- A line with spaces for tabulators, from a column on. -/
def withoutTabs (column : Nat) : List Char → List Char
  | [] => []
  | '\t' :: rest =>
    let n := tabDistance - column % tabDistance
    List.replicate n ' ' ++ withoutTabs (column + n) rest
  | c :: rest => c :: withoutTabs (column + Text.cells c) rest

/-- The width of the widest line of a text. -/
def widest (cs : List Char) : Nat := ((linesAt endsLine cs).map Text.width).foldl max 0

/-! ### Breaking -/

/-- The words of a line, each with the blanks after it, and the first with the blanks before it;
`word` holds the characters of the word at hand, the latest first, and `closed` tells whether blanks
have followed it. -/
def spacedWords (word : List Char) (closed : Bool) : List Char → List (List Char)
  | [] => if word.all Text.isBlank then [] else [word.reverse]
  | c :: rest =>
    if Text.isBlank c then spacedWords (c :: word) (closed || !word.all Text.isBlank) rest
    else if closed then word.reverse :: spacedWords [c] false rest
    else spacedWords (c :: word) false rest

/-- A word without the blanks after it. -/
def bareWord (word : List Char) : List Char := (word.reverse.dropWhile Text.isBlank).reverse

/-- The parts of a word, each of at most `limit` cells, after the part at hand, the latest character
of which comes first. -/
def chopped (limit : Nat) (part : List Char) : List Char → List (List Char)
  | [] => [part.reverse]
  | c :: rest =>
    if limit < Text.width part + Text.cells c then part.reverse :: chopped limit [c] rest
    else chopped limit (c :: part) rest

/-- The lines of words after the line at hand, none of more than `limit` cells but for the blanks
at its end. A word that fits into no line is chopped. -/
def filledLines (limit : Nat) (line : List Char) : List (List Char) → List (List Char)
  | [] => [line]
  | word :: rest =>
    if Text.width (bareWord word) + Text.width line ≤ limit then
      filledLines limit (line ++ word) rest
    else if limit < Text.width (bareWord word) then
      let parts := chopped limit [] word
      (if line.isEmpty then [] else [line]) ++ parts.dropLast
        ++ filledLines limit (parts.getLastD []) rest
    else if line.isEmpty then filledLines limit word rest
    else line :: filledLines limit word rest

/-- A line broken to a width. -/
def breakLine (limit : Nat) (line : List Char) : List (List Char) :=
  match spacedWords [] false line with
  | [] => [line]
  | words => filledLines limit [] words

/-- A text broken to a width. -/
def breakText (limit : Nat) (cs : List Char) : List (List Char) :=
  (Text.splitAt '\n' cs).flatMap fun line => breakLine limit (withoutTabs 0 line)

/-! ### Tables -/

/-- A table. -/
structure Table where
  /-- The title. -/
  title : String
  /-- The heads of the columns. -/
  heads : List String
  /-- The cells of the rows. -/
  rows : List (List String)

/-- The width of each column. -/
def Table.widths (t : Table) : List Nat :=
  t.heads.zipIdx.map fun (head, i) =>
    (t.rows.map fun cells => widest (cells.getD i "").toList).foldl max (widest head.toList)

/-- The width of the table: every column has a blank on either side and a bar after it, the first
one also before it. -/
def Table.width (t : Table) : Nat := t.widths.foldr (fun w n => w + 3 + n) 1

/-- Cells between bars. -/
def barred (bar : String) (cells : List String) : String :=
  bar ++ " " ++ (" " ++ bar ++ " ").intercalate cells ++ " " ++ bar

/-- The lines of a row: as many as its tallest cell has. -/
def rowLines (widths : List Nat) (bar : String) (cells : List String) : List String :=
  let parts := cells.zipIdx.map fun (cell, i) =>
    (breakText (widths.getD i 0) cell.toList).map String.ofList
  (List.range ((parts.map List.length).foldl max 0)).map fun i =>
    barred bar (parts.map (·.getD i ""))

/-- The lines of a table: the title, the heads and the rows. -/
def Table.lines (t : Table) : List String :=
  (breakText t.width t.title.toList).map String.ofList ++ rowLines t.widths "┃" t.heads
    ++ t.rows.flatMap (rowLines t.widths "│")

example : breakText 5 "ab cd efghijkl".toList
    = ["ab cd ".toList, "efghi".toList, "jkl".toList] := by decide +kernel

end Mixtape.CommandLine
