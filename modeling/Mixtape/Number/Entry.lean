import Mixtape.Number.Reader

/-!
# Numbers as entered

Numbers on a command line and in settings: white space around them does not count, all digits are
ASCII, and underscores may stand within. A whole number may have leading zeros, and zeros after a
point.

* `Entry.whole?` — a whole number.
* `Entry.number?` — a number with or without point and exponent, and the words for infinity and
  for no number.
-/

namespace Mixtape.Entry

/-- The white space at both ends left out. -/
def trim (s : String) : List Char := Text.trimBy Text.isWhiteSpace s.toList

/-- Whether two underscores stand side by side. -/
def hasPair : List Char → Bool
  | '_' :: '_' :: _ => true
  | _ :: rest => hasPair rest
  | [] => false

/-- The characters without underscores, which stand neither at an end nor side by side. -/
def undivided? (cs : List Char) : Option (List Char) :=
  if cs.head? = some '_' ∨ cs.getLast? = some '_' ∨ hasPair cs then none
  else some (cs.filter (· != '_'))

/-! ### Whole numbers -/

/-- Whether a character is an ASCII digit other than zero. -/
def isCounting (c : Char) : Bool := decide ('1' ≤ c ∧ c ≤ '9')

/-- Whether a character is an ASCII digit. -/
def isFigure (c : Char) : Bool := decide ('0' ≤ c ∧ c ≤ '9')

/-- What follows leading zeros, underscores among them skipped; the last one skipped is kept before
a point, and where nothing follows. -/
def afterZeros? (last : Char) : List Char → Option (List Char)
  | [] => some [last]
  | c :: rest =>
    if c = '0' ∨ c = '_' then afterZeros? c rest
    else if c = '.' then some (last :: c :: rest)
    else if isCounting c ∨ c = '-' then some (c :: rest)
    else none

/-- A numeral without its leading zeros; one that begins in another way is refused. -/
def withoutZeros? : List Char → Option (List Char)
  | '0' :: rest => afterZeros? '0' rest
  | c :: rest => if isCounting c ∨ c = '-' then some (c :: rest) else none
  | [] => none

/-- A numeral without a point that at least one zero, and nothing else, follows. -/
def withoutZeroPlaces (cs : List Char) : List Char :=
  match cs.dropWhile (· != '.') with
  | '.' :: places =>
    if !places.isEmpty && places.all (· == '0') then cs.takeWhile (· != '.') else cs
  | _ => cs

/-- A numeral without a plus sign, which no minus sign follows. -/
def withoutPlus? : List Char → Option (List Char)
  | '+' :: rest => if rest.head? = some '-' then none else some rest
  | cs => some cs

/-- The natural number of figures without a needless zero. -/
def natural? : List Char → Option Nat
  | ['0'] => some 0
  | cs =>
    if cs.head?.any isCounting && cs.all isFigure then some (Text.natOfDigits 0 cs) else none

/-- The whole number of figures after an optional minus sign. -/
def plain? (cs : List Char) : Option Int :=
  if Text.maxDigits < cs.length then none
  else
    match cs with
    | '-' :: rest => (natural? rest).map fun n => -(n : Int)
    | cs => (natural? cs).map Int.ofNat

/-- A whole number. -/
def whole? (s : String) : Option Int := do
  let cs ← withoutZeros? (← withoutPlus? (trim s))
  plain? (← undivided? (withoutZeroPlaces cs))

/-! ### Numbers -/

/-- A number of ASCII characters. -/
def ascii? (cs : List Char) : Option Binary64 :=
  if cs.all fun c => c.toNat < 128 then Numeral.ofChars? cs else none

/-- A number. Where underscores stand within, white space around the number is not left out. -/
def number? (s : String) : Option Binary64 :=
  (ascii? (trim s)).or ((undivided? s.toList).bind ascii?)

end Mixtape.Entry
