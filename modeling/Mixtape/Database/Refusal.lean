import Mixtape.Database.Basic

/-!
# Refused statements

How the database tells that a row would be one too many of its kind: the columns whose values are
taken, the statement that was refused, and the values it was given.

* `Statement` — a statement and its values.
* `Statement.insertion` — the statement that puts a row in.
* `Statement.refusal`, `requireFree` — the wording of a refusal, and the refusal.
-/

namespace Mixtape

/-- Day and time of day of a wall clock, always with a fraction of a second. -/
def Timestamp.columnText (t : Timestamp) : String :=
  dateText t.wall ++ " " ++ clockText t.wall ++ ":"
    ++ padded 2 (t.wall.toNat % perDay / perSecond % 60) ++ "."
    ++ padded 6 (t.wall.toNat % perSecond)

namespace Database

/-- A statement and the values it is given. -/
structure Statement where
  /-- The statement, with a mark in place of each value. -/
  wording : String
  /-- The values in the order of the marks. -/
  values : List Json

/-- The time a row is written at, as its columns hold it. -/
def writtenAt (now : Timestamp) : Json := .text (Timestamp.utc now.instant).columnText

/-- The columns every new row has beside its own. -/
def rowColumns (now : Timestamp) : List (String × Json) :=
  [("created_at", writtenAt now), ("updated_at", writtenAt now), ("is_deleted", .int 0),
    ("deleted_at", .null)]

/-- The statement that puts a row into a table. One row of several is put in by a statement that
asks for its number. -/
def Statement.insertion (table : String) (columns : List (String × Json)) (oneOfSeveral : Bool)
    (now : Timestamp) : Statement :=
  let columns := columns ++ rowColumns now
  ⟨"INSERT INTO " ++ table ++ " (" ++ ", ".intercalate (columns.map (·.1)) ++ ") VALUES ("
      ++ ", ".intercalate (columns.map fun _ => "?") ++ ")"
      ++ (if oneOfSeveral then " RETURNING id" else ""),
    columns.map (·.2)⟩

/-- The most characters of a value that are shown. -/
def shownLength : Nat := 300

/-- A value as refusals show it; of a long one only the two ends. -/
def shownValue (j : Json) : String :=
  let cs := j.display.toList
  if cs.length ≤ shownLength then j.display
  else
    let half := shownLength / 2
    String.ofList (cs.take half) ++ " ... (" ++ toString (cs.length - shownLength)
      ++ " characters truncated) ... " ++ String.ofList (cs.drop (cs.length - half))

/-- Where refusals of constraints are explained. -/
def background : String := "/".intercalate ["https:", "", "sqlalche.me", "e", "21", "gkpj"]

/-- The wording of a refusal because the values of the given columns are taken. -/
def Statement.refusal (s : Statement) (columns : List String) : String :=
  "\n".intercalate
    ["(sqlite3.IntegrityError) UNIQUE constraint failed: " ++ ", ".intercalate columns,
      "[SQL: " ++ s.wording ++ "]",
      "[parameters: (" ++ ", ".intercalate (s.values.map shownValue) ++ ")]",
      "(Background on this error at: " ++ background ++ ")"]

/-- Refuses a statement unless the values of the given columns are free. -/
def requireFree (free : Bool) (columns : List String) (s : Statement) : Except Failure Unit :=
  require free (s.refusal columns)

end Database

end Mixtape
