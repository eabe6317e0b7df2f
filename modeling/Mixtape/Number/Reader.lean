import Mixtape.Number.Binary64
import Mixtape.Text.Digit
import Mixtape.Text.Lowercase

/-!
# Reading numerals

Numbers as an answer of a service writes them: blanks around the numeral do not count, digits may
be of any script, and an underscore may divide two digits.

* `Numeral.ofChars?` — a number with or without point and exponent, and the words for infinity and
  for no number.
* `Numeral.real?` — the same after blanks and underscores are left out.
* `Numeral.whole?` — a whole number, blanks and underscores left out.
-/

namespace Mixtape.Numeral

/-- The characters of a numeral without the underscores that divide two digits; a stray underscore
is refused. -/
def undivided? : (afterDigit : Bool) → List Char → Option (List Char)
  | _, [] => some []
  | afterDigit, '_' :: rest =>
    if afterDigit && rest.head?.any Text.isDecimal then undivided? false rest else none
  | _, c :: rest => (c :: ·) <$> undivided? (Text.isDecimal c) rest

/-- The sign, and what follows it. -/
def signed : List Char → Bool × List Char
  | '-' :: rest => (true, rest)
  | '+' :: rest => (false, rest)
  | cs => (false, cs)

/-- The numeral of a text: blanks and dividing underscores left out. -/
def body? (s : String) : Option (List Char) := undivided? false (Text.trimChars s.toList)

/-- The exponent at the end of a numeral: zero if nothing is left. -/
def exponent? : List Char → Option Int
  | [] => some 0
  | mark :: rest =>
    if mark = 'e' ∨ mark = 'E' then
      let (negative, digits) := signed rest
      if digits.isEmpty || !digits.all Text.isDecimal then none
      else
        let n : Int := Text.natOfDigits 0 digits
        some (if negative then -n else n)
    else none

/-- The digits after the point, if there is a point, and what follows them. -/
def places : List Char → List Char × List Char
  | '.' :: rest => (rest.takeWhile Text.isDecimal, rest.dropWhile Text.isDecimal)
  | cs => ([], cs)

/-- The words for infinity. -/
def infinityWords : List String := ["inf", "infinity"]

/-- The number that characters write: an optional sign, digits with an optional point among, before
or after them, an optional exponent; or a word. -/
def ofChars? (cs : List Char) : Option Binary64 := do
  let (negative, cs) := signed cs
  let word := Text.lowerAscii (String.ofList cs)
  if infinityWords.contains word then return .infinite negative
  if word = "nan" then return .nan
  let whole := cs.takeWhile Text.isDecimal
  let (fraction, rest) := places (cs.dropWhile Text.isDecimal)
  let digits := whole ++ fraction
  if digits.isEmpty then none
  else
    let exponent ← exponent? rest
    some (.ofDecimal negative (Text.natOfDigits 0 digits) (exponent - fraction.length))

/-- The number a text writes. -/
def real? (s : String) : Option Binary64 := (body? s).bind ofChars?

/-- The whole number a text writes. -/
def whole? (s : String) : Option Int := do
  let (negative, digits) := signed (← body? s)
  if digits.isEmpty || !digits.all Text.isDecimal then none
  else
    let n : Int := Text.natOfDigits 0 digits
    some (if negative then -n else n)

end Mixtape.Numeral
