import Mixtape.Text.Blank
import Mixtape.Text.EmojiNames
import Mixtape.Text.Lowercase
import Mixtape.Text.Search

/-!
# Emoji by name

A name between two colons, without blanks, shows as the emoji of that name, whatever the case of
its letters. The ending `-text` or `-emoji` of a name asks for the plain or the colourful form.
Names that belong to no emoji stay as they are.

* `Emoji.named?` — the emoji with a name.
* `Emoji.replaced` — a text with its named emoji shown.
-/

namespace Mixtape.Text.Emoji

/-- The entries of a table: names and emoji. -/
def entriesOf (lines : List String) : List (String × String) :=
  lines.flatMap fun line =>
    (splitAt ' ' line.toList).filterMap fun entry =>
      match splitAt '=' entry with
      | [name, emoji] => some (String.ofList name, String.ofList emoji)
      | _ => none

/-- The emoji that come in five tones of skin. -/
def toned : List (String × String) := entriesOf tonedNames

/-- The flags of countries and regions. -/
def flags : List (String × String) := entriesOf flagNames

/-- The emoji that come in one form. -/
def plain : List (String × String) := entriesOf plainNames

/-- The endings that name a tone of skin, and the modifier that sets it. -/
def tones : List (String × Char) :=
  [("_light_skin_tone", Char.ofNat 0x1F3FB), ("_medium-light_skin_tone", Char.ofNat 0x1F3FC),
    ("_medium_skin_tone", Char.ofNat 0x1F3FD), ("_medium-dark_skin_tone", Char.ofNat 0x1F3FE),
    ("_dark_skin_tone", Char.ofNat 0x1F3FF)]

/-- The selector of the plain form. -/
def plainSelector : Char := '\uFE0E'

/-- The selector of the colourful form. -/
def colourSelector : Char := '\uFE0F'

/-- What stands before an ending. -/
def before? (ending name : List Char) : Option (List Char) :=
  let n := name.length - ending.length
  if name.drop n = ending then some (name.take n) else none

/-- An emoji with a modifier after its first character, in place of a selector there. -/
def modified (emoji : List Char) (modifier : Char) : List Char :=
  match emoji with
  | c :: rest => c :: modifier :: rest.dropWhile (· == colourSelector)
  | [] => []

/-- The emoji with a name that may end in a tone of skin. -/
def tonedNamed? (name : List Char) : Option String :=
  tones.findSome? fun (ending, modifier) => do
    let base ← before? ending.toList name
    let emoji ← toned.lookup (String.ofList base)
    return String.ofList (modified emoji.toList modifier)

/-- The flag with a name that may begin with the word for a flag. -/
def flagNamed? (name : String) : Option String :=
  let word := "flag_for_".toList
  if name.toList.take word.length = word then
    flags.lookup (String.ofList (name.toList.drop word.length))
  else flags.lookup name

/-- The emoji with a name in small letters. -/
def named? (name : String) : Option String :=
  (plain.lookup name).or <| (toned.lookup name).or <| (flagNamed? name).or (tonedNamed? name.toList)

/-- A name without its ending that asks for a form, and the selector of that form. -/
def splitForm (name : List Char) : List Char × List Char :=
  match before? "-text".toList name, before? "-emoji".toList name with
  | some base, _ => (base, [plainSelector])
  | none, some base => (base, [colourSelector])
  | none, none => (name, [])

/-- What a name between colons shows as. -/
def shown (name : List Char) : List Char :=
  let (base, selector) := splitForm name
  match named? (lower (String.ofList base)) with
  | some emoji => emoji.toList ++ selector
  | none => ':' :: name ++ [':']

/-- A text with its named emoji shown; every round takes up at least one character. -/
def replacedChars : (fuel : Nat) → List Char → List Char
  | 0, cs => cs
  | _ + 1, [] => []
  | fuel + 1, ':' :: rest =>
    let name := rest.takeWhile fun c => c != ':' && !isBlank c
    match rest.drop name.length with
    | ':' :: after => shown name ++ replacedChars fuel after
    | _ => ':' :: replacedChars fuel rest
  | fuel + 1, c :: rest => c :: replacedChars fuel rest

/-- A text with its named emoji shown. -/
def replaced (s : String) : String := String.ofList (replacedChars s.length s.toList)

end Mixtape.Text.Emoji
