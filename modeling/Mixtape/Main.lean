import Mixtape.CommandLine.Journal
import Mixtape.Json.Writer

/-!
# The program

Carries out one command. What happened before is kept in a journal in the current directory, one
entry on a line: it is carried out again, then the time, the file the command reads and the command
itself are added to it. The account can be arranged by entries written into the journal by hand.
-/

namespace Mixtape.Program

open CommandLine

/-- The name of the journal. -/
def journalName : String := "mixtape.journal"

/-- Microseconds from the beginning of year 1 to the beginning of 1970. -/
def epoch : Int := 719162 * Timestamp.perDay

/-- Writes entries at the end of the journal, one on a line. -/
def note (entries : List Json) : IO Unit :=
  IO.FS.withFile journalName .append fun h => entries.forM fun e => h.putStrLn e.write

/-- The time, to the microsecond: when the journal was last changed, after it was changed. -/
def now : IO Timestamp := do
  IO.FS.withFile journalName .append fun h => h.putStrLn ""
  let changed := (← (← IO.FS.realPath journalName).metadata).modified
  return .utc (epoch + changed.sec * Timestamp.perSecond + changed.nsec.toNat / 1000)

/-- The entries of the journal; lines that are no documents are passed over. -/
def past : IO (List Json) := do
  return ((← IO.FS.readFile journalName).splitOn "\n").filterMap fun line =>
    (Json.read line).toOption

/-- The file or folder that a command reads, as an entry; none if there is no such. -/
def fileEntry (words : List String) : IO (List Json) := do
  match ((Command.ofWords? words).bind Command.file?).map Text.plainPath with
  | none => return []
  | some name =>
    try
      let text ← IO.FS.readFile name
      return [.object [("files", .object [(name, .text text)])]]
    catch _ =>
      try
        let _ ← IO.FS.realPath name
        return [.object [("folders", .texts [name])]]
      catch _ => return []

/-- What is told of words that ask for no command. -/
def usage : String :=
  "Usage: mixtape COMMAND\n" ++ "\n".intercalate (Command.forms.map fun f => "  " ++ f.words)

end Mixtape.Program

open Mixtape Mixtape.CommandLine Mixtape.Program in
/-- Carries out the command that the arguments ask for. -/
def main (words : List String) : IO UInt32 := do
  let clock ← now
  let before ← past
  let entries := .object [("now", clock.toJson)] :: (← fileEntry words)
  let session := ((Session.begin clock).replay (before ++ entries)).2
  note (entries ++ [.texts words])
  match (session.run words).1 with
  | none =>
    IO.eprintln usage
    return UInt32.ofNat misused
  | some printed =>
    for line in printed.lines do IO.println line.plain
    return UInt32.ofNat printed.exit
