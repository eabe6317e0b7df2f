/-!
# Arguments

The words of a command line. A word that begins with a hyphen names switches, any other word is an
operand. A switch with a long spelling may have its text attached after an equals sign; switches
with spellings of one letter may be run together behind one hyphen, and what follows the letter of
a switch that takes a text is its text. After two hyphens alone, every word is an operand.

* `Switch` — what may be given by a name.
* `Given` — what was given.
* `read` — the switches and operands among words.
-/

namespace Mixtape.CommandLine

/-- Something that may be given by a name. -/
structure Switch where
  /-- Its spellings. -/
  spellings : List String
  /-- What it sets. -/
  field : String
  /-- The truth value it sets; without one it takes a text. -/
  sets : Option Bool := none
  deriving DecidableEq

/-- What was given: of several settings of a field the latest comes first. -/
structure Given where
  /-- Texts by field. -/
  texts : List (String × String) := []
  /-- Truth values by field. -/
  flags : List (String × Bool) := []
  /-- The operands, in order. -/
  operands : List String := []
  deriving DecidableEq

namespace Given

/-- The text of a field. -/
def text? (g : Given) (field : String) : Option String := g.texts.lookup field

/-- The truth value of a field. -/
def flag? (g : Given) (field : String) : Option Bool := g.flags.lookup field

/-- The truth value of a field, or the one that holds when none is given. -/
def flag (g : Given) (field : String) (missing : Bool) : Bool := (g.flag? field).getD missing

/-- With a text for a field. -/
def withText (g : Given) (field text : String) : Given :=
  { g with texts := (field, text) :: g.texts }

/-- With a truth value for a field. -/
def withFlag (g : Given) (field : String) (value : Bool) : Given :=
  { g with flags := (field, value) :: g.flags }

/-- With more operands. -/
def withOperands (g : Given) (words : List String) : Given :=
  { g with operands := g.operands ++ words }

end Given

/-- What was given, and the words still to read; nothing if a word is refused. -/
abbrev Reading := Option (Given × List String)

/-- The switch with a spelling. -/
def Switch.find? (switches : List Switch) (spelling : String) : Option Switch :=
  switches.find? (·.spellings.contains spelling)

/-- Gives a switch its text: the attached one, or else the next word. -/
def giveText (s : Switch) (attached : Option String) (rest : List String) (g : Given) : Reading :=
  match attached, rest with
  | some text, rest => some (g.withText s.field text, rest)
  | none, text :: rest => some (g.withText s.field text, rest)
  | none, [] => none

/-- Reads a switch by a long spelling, with an attached text or without. -/
def readLong (s : Switch) (attached : Option String) (rest : List String) (g : Given) : Reading :=
  match s.sets with
  | none => giveText s attached rest g
  | some value => if attached.isSome then none else some (g.withFlag s.field value, rest)

/-- Reads switches of one letter that are run together. -/
def readLetters (switches : List Switch) (rest : List String) : List Char → Given → Reading
  | [], g => some (g, rest)
  | c :: more, g =>
    match Switch.find? switches (String.ofList ['-', c]) with
    | none => none
    | some s =>
      match s.sets with
      | some value => readLetters switches rest more (g.withFlag s.field value)
      | none => giveText s (if more.isEmpty then none else some (String.ofList more)) rest g

/-- A word up to its first equals sign, and what is attached after it. -/
def splitAttached (word : List Char) : String × Option String :=
  let name := word.takeWhile (· != '=')
  match word.drop name.length with
  | _ :: attached => (String.ofList name, some (String.ofList attached))
  | [] => (String.ofList name, none)

/-- Reads a word that names switches. -/
def readNames (switches : List Switch) (word : List Char) (rest : List String) (g : Given) :
    Reading :=
  match word with
  | '-' :: '-' :: _ =>
    let (name, attached) := splitAttached word
    (Switch.find? switches name).bind fun s => readLong s attached rest g
  | _ => readLetters switches rest word.tail g

/-- Reads words; every round takes up one or two. Where operands are not mixed with switches, the
first operand ends the reading, and all that follows are operands. -/
def readWords (switches : List Switch) (mixed : Bool) : (fuel : Nat) → List String → Given →
    Option Given
  | _, [], g => some g
  | 0, _ :: _, _ => none
  | fuel + 1, word :: rest, g =>
    match word.toList with
    | ['-', '-'] => some (g.withOperands rest)
    | '-' :: c :: more =>
      match readNames switches ('-' :: c :: more) rest g with
      | some (g, rest) => readWords switches mixed fuel rest g
      | none => none
    | _ =>
      if mixed then readWords switches mixed fuel rest (g.withOperands [word])
      else some (g.withOperands (word :: rest))

/-- The switches and operands among words. -/
def read (switches : List Switch) (mixed : Bool) (words : List String) : Option Given :=
  readWords switches mixed words.length words {}

@[simp] theorem readWords_nil (switches : List Switch) (mixed : Bool) (fuel : Nat) (g : Given) :
    readWords switches mixed fuel [] g = some g := by
  cases fuel <;> rfl

@[simp] theorem read_nil (switches : List Switch) (mixed : Bool) :
    read switches mixed [] = some {} := rfl

end Mixtape.CommandLine
