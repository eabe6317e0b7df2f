import Mixtape.CommandLine.Session
import Mixtape.Overview
import Mixtape.Records

/-!
# Journals

A journal tells what happened to a session, in order: a list of words is a command that was given,
and an object arranges what lies outside. Since nothing else bears on a session, carrying out a
journal again leads to the same session.

* `Session.arrange` — an entry that arranges: the account, the time, the files and
  the folders.
* `Session.step` — an entry, and the answer to it.
* `Session.replay` — a journal.
-/

namespace Mixtape.CommandLine

/-- The exit code for words that ask for no command. -/
def misused : Nat := 2

/-- What is printed as a document: the exit code and the lines. -/
def printedFields : Option Printed → List (String × Json)
  | none => [("exit", .nat misused)]
  | some p => [("exit", .nat p.exit), ("lines", .list (p.lines.map Line.toJson))]

namespace Session

/-- A session at a moment, with everything else empty. -/
def begin (clock : Timestamp) : Session where
  system := { shared := { outside := { clock } } }

/-- The session with other surroundings. -/
def withSurroundings (s : Session) (outside : Surroundings) : Session :=
  { s with system := { s.system with shared := { s.system.shared with outside } } }

/-- The surroundings. -/
def surroundings (s : Session) : Surroundings := s.system.shared.outside

/-- Takes in an entry that arranges. -/
def arrange (s : Session) (j : Json) : Except Failure Session := do
  let (arranged, outside) := (Surroundings.arrange (j.get "remote")).runOn s.surroundings
  let _ ← arranged
  let clock ← Timestamp.field j "now" none
  let texts ← readFields (fun v => .ok (v.text?.getD "")) (j.get "files")
  let folders := (j.get "folders").items.filterMap Json.text?
  let s := s.withSurroundings { outside with clock := clock.getD outside.clock }
  return { s with files := s.files.add texts folders }

/-- Forgets what was seen of the session, apart from its state. -/
def unseen (s : Session) : Session :=
  let s := s.withSurroundings s.surroundings.unseen
  { s with system := { s.system with announced := [] } }

/-- Carries out the command that words ask for: the answer tells the exit code, the lines and the
calls that were made. -/
def answer (s : Session) (words : List String) : Json × Session :=
  let (printed, s) := s.run words
  let calls := s.surroundings.calls
  (.object (printedFields printed ++ if calls.isEmpty then [] else [("calls", .list calls)]),
    s.unseen)

/-- Takes in an entry: the answer to a command. -/
def step (s : Session) (entry : Json) : Option Json × Session :=
  match entry with
  | .list words => let (a, s) := s.answer (words.filterMap Json.text?); (some a, s)
  | j => (none, ((s.arrange j).toOption.getD s))

/-- Takes in a journal: the answers to its commands. -/
def replay : Session → List Json → List Json × Session
  | s, [] => ([], s)
  | s, entry :: rest =>
    let (a, s) := s.step entry
    let (more, s) := replay s rest
    (a.toList ++ more, s)

theorem replay_append (s : Session) (a b : List Json) :
    (s.replay (a ++ b)).2 = ((s.replay a).2.replay b).2 := by
  induction a generalizing s with
  | nil => rfl
  | cons entry rest ih => exact ih (s.step entry).2

end Session

end Mixtape.CommandLine
