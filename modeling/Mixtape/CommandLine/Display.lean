import Mixtape.CommandLine.Layout
import Mixtape.CommandLine.Markup
import Mixtape.Json.Basic

/-!
# Display

What a command shows: lines of text and tables. Blanks at either end of a line are left out, inner
runs of blanks show as one space, and lines without text are left out; cells of tables keep their
inner blanks.

* `Line` — a line as it is shown.
* `Shown` — what is to be shown, with its markup.
* `Shown.lines` — the lines it comes to.
* `Response` — what a command shows and how it ends.
-/

namespace Mixtape.CommandLine

/-! ### Lines -/

/-- A line as it is shown. -/
inductive Line where
  /-- A line of text. -/
  | text (s : String)
  /-- A row of a table. -/
  | row (cells : List String)
  deriving DecidableEq

/-- A line as a document. -/
def Line.toJson : Line → Json
  | text s => .text s
  | row cells => .texts cells

/-- A line as plain text: the cells of a row with bars between them. -/
def Line.plain : Line → String
  | text s => s
  | row cells => " | ".intercalate cells

/-- Whether a character is left out of what is shown: the bell, the backspace, and the vertical
tabulator to the carriage return. -/
def isUnshown (c : Char) : Bool := [7, 8, 11, 12, 13].contains c.toNat

/-- A text without the characters that are left out. -/
def visible (s : String) : String := String.ofList (s.toList.filter (!isUnshown ·))

/-- A line with one space between two words and none at either end. -/
def tidy (s : String) : String := " ".intercalate (Text.words s)

/-- The bars between the cells of a table. -/
def isBar (c : Char) : Bool := c == '│' || c == '┃'

/-- A line of text as it is shown: one that begins with a bar is the row of a table, any other loses
superfluous blanks; one without text is left out. -/
def Line.ofText? (s : String) : Option Line :=
  let s := Text.trim s
  if s.toList.head?.any isBar then
    some (.row ((linesAt isBar (Text.trimBy isBar s.toList)).map fun cell =>
      Text.trim (String.ofList cell)))
  else if s = "" then none
  else some (.text (tidy s))

/-- The lines of a text. -/
def linesOfText (s : String) : List Line :=
  (linesAt endsLine s.toList).filterMap fun line => Line.ofText? (String.ofList line)

/-! ### What is shown -/

/-- What is to be shown. -/
inductive Shown where
  /-- Text with markup. -/
  | text (markup : String)
  /-- A table, its title and its cells with markup. -/
  | table (t : Table)

/-- A table without its markup. -/
def Table.plain (t : Table) : Except Markup.Fault Table := do
  let plain (s : String) := (Markup.plain s).map visible
  return ⟨← plain t.title, t.heads, ← t.rows.mapM fun cells => cells.mapM plain⟩

/-- The lines something comes to, if its markup is sound. -/
def Shown.lines : Shown → Except Markup.Fault (List Line)
  | text markup => (Markup.plain markup).map fun s => linesOfText (visible s)
  | table t => (Table.plain t).map fun t => t.lines.flatMap linesOfText

/-! ### Responses -/

/-- What a command shows, and whether it ends well. -/
structure Response where
  /-- What it shows, in order. -/
  shown : List Shown := []
  /-- Whether it ends well. -/
  endsWell : Bool := true

/-- The lines up to the first thing whose markup is at fault, and the fault. -/
def linesOf : List Shown → List Line × Option Markup.Fault
  | [] => ([], none)
  | s :: rest =>
    match s.lines with
    | .error fault => ([], some fault)
    | .ok lines => let (more, fault) := linesOf rest; (lines ++ more, fault)

end Mixtape.CommandLine
