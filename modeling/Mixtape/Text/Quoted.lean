import Mixtape.Text.Printable

/-!
# Quoted text

Messages show a text between quotation marks, with escapes for what cannot be shown. The mark is
`'`, unless the text holds a `'` and no `"`.

* `quoteMark` — the mark a text is put between.
* `escapeChar` — how one character is shown between such marks.
* `quoted` — the whole quoted text.
-/

namespace Mixtape.Text

/-- The lower-case hexadecimal digit of a value below sixteen. -/
def hexDigit (n : Nat) : Char :=
  if n < 10 then Char.ofNat (48 + n) else Char.ofNat (87 + n)

/-- The last `width` hexadecimal digits of a number. -/
def hexDigits : (width n : Nat) → List Char
  | 0, _ => []
  | width + 1, n => hexDigits width (n / 16) ++ [hexDigit (n % 16)]

/-- The mark a text is put between: the double one iff the text holds only the single one. -/
def quoteMark (cs : List Char) : Char :=
  if cs.contains '\'' && !cs.contains '"' then '"' else '\''

/-- The controls that are shown by a letter. -/
def controlLetters : List (Char × Char) := [('\n', 'n'), ('\r', 'r'), ('\t', 't')]

/-- A character shown by its code point, with as many digits as it takes: two, four or eight. -/
def escapeCode (c : Char) : List Char :=
  if c.toNat < 256 then '\\' :: 'x' :: hexDigits 2 c.toNat
  else if c.toNat < 65536 then '\\' :: 'u' :: hexDigits 4 c.toNat
  else '\\' :: 'U' :: hexDigits 8 c.toNat

/-- How a character is shown between the given marks. -/
def escapeChar (mark c : Char) : List Char :=
  if c = mark ∨ c = '\\' then ['\\', c]
  else
    match controlLetters.lookup c with
    | some letter => ['\\', letter]
    | none => if isPrintable c then [c] else escapeCode c

/-- A text between quotation marks, with escapes for what cannot be shown. -/
def quoted (s : String) : String :=
  let mark := quoteMark s.toList
  String.ofList (mark :: s.toList.flatMap (escapeChar mark) ++ [mark])

example : quoted "a'b" = "\"a'b\"" := by decide
example : quoted "a\n\\" = "'a\\n\\\\'" := by decide

end Mixtape.Text
