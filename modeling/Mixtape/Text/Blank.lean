import Mixtape.Text.Shift

/-!
# Blank characters

The characters trimmed from both ends of a text: spaces of every width, line and paragraph
separators, and the control characters from tab to carriage return and from file to unit
separator. White space is the same without the separators among the control characters.
-/

namespace Mixtape.Text

/-- Where the blank characters begin and end, alternately. -/
def blankBounds : List Nat :=
  [9, 14, 28, 33, 133, 134, 160, 161, 5760, 5761, 8192, 8203, 8232, 8234, 8239, 8240, 8287,
    8288, 12288, 12289]

/-- Whether a character is blank. -/
def isBlank (c : Char) : Bool := withinBounds blankBounds c.toNat

/-- Whether a character is white space: blank, and none of the four separators among the control
characters. -/
def isWhiteSpace (c : Char) : Bool := isBlank c && !(decide (28 ≤ c.toNat) && decide (c.toNat ≤ 31))

/-- A list of characters without those of a kind at either end. -/
def trimBy (drop : Char → Bool) (cs : List Char) : List Char :=
  ((cs.dropWhile drop).reverse.dropWhile drop).reverse

/-- A list of characters without the blanks at either end. -/
def trimChars (cs : List Char) : List Char := trimBy isBlank cs

/-- A text without the blanks at either end. -/
def trim (s : String) : String := String.ofList (trimChars s.toList)

/-- The words of a text, the latest first, after those in `done`; `word` holds the characters of the
word at hand, the latest first. -/
def wordsFrom (done : List (List Char)) (word : List Char) : List Char → List (List Char)
  | [] => if word.isEmpty then done else word.reverse :: done
  | c :: rest =>
    if isBlank c then wordsFrom (if word.isEmpty then done else word.reverse :: done) [] rest
    else wordsFrom done (c :: word) rest

/-- The words of a text: what stands between blanks. -/
def words (s : String) : List String := (wordsFrom [] [] s.toList).reverse.map String.ofList

@[simp] theorem trim_empty : trim "" = "" := rfl

end Mixtape.Text
