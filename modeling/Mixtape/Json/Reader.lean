import Mixtape.Json.Basic
import Mixtape.Text.Digit

/-!
# Reading documents

A reader of the usual notation, which also takes `NaN`, `Infinity` and `-Infinity` as numbers. A
refusal tells what was expected and where.

* `Fault`, `Fault.message` — why and where a text is refused.
* `readValue` — one value from the beginning of a list of characters.
* `read` — a whole text.

Every function takes the characters still to read and hands back the rest; a place in the text is
given by the characters that follow it.
-/

namespace Mixtape.Json

/-- Why a text is no document. -/
inductive FaultKind where
  /-- No value begins here. -/
  | value
  /-- A key has to begin here. -/
  | key
  /-- A colon has to stand here. -/
  | colon
  /-- A comma has to stand here. -/
  | comma
  /-- The text goes on after the value. -/
  | extra
  /-- The text that begins here does not end. -/
  | unterminated
  /-- A control character inside a text. -/
  | control
  /-- A backslash before a character that has no escape. -/
  | escape
  /-- A code-point escape without four hexadecimal digits. -/
  | unicodeEscape
  /-- The text begins with a byte-order mark. -/
  | byteOrderMark
  /-- A whole number with too many digits. -/
  | numeral (digits : Nat)
  deriving DecidableEq

/-- A refusal: why, and the characters from the refused place on. -/
structure Fault where
  /-- Why the text is refused. -/
  kind : FaultKind
  /-- What follows the refused place. -/
  rest : List Char

/-- The wording of a refusal, without its place. -/
def FaultKind.wording : FaultKind → String
  | value => "Expecting value"
  | key => "Expecting property name enclosed in double quotes"
  | colon => "Expecting ':' delimiter"
  | comma => "Expecting ',' delimiter"
  | extra => "Extra data"
  | unterminated => "Unterminated string starting at"
  | control => "Invalid control character at"
  | escape => "Invalid \\escape"
  | unicodeEscape => "Invalid \\uXXXX escape"
  | byteOrderMark => "Unexpected UTF-8 BOM (decode using utf-8-sig)"
  | numeral digits =>
    "Exceeds the limit (" ++ toString Text.maxDigits ++ " digits) for integer string conversion: value has "
      ++ toString digits ++ " digits; use sys.set_int_max_str_digits() to increase the limit"

/-- The wording of a refusal of `source`, with line, column and offset. -/
def Fault.message (source : String) (f : Fault) : String :=
  match f.kind with
  | .numeral _ => f.kind.wording
  | _ =>
    let offset := source.toList.length - f.rest.length
    let passed := source.toList.take offset
    let line := passed.count '\n' + 1
    let column := (passed.reverse.takeWhile (· != '\n')).length + 1
    f.kind.wording ++ ": line " ++ toString line ++ " column " ++ toString column
      ++ " (char " ++ toString offset ++ ")"

/-- What a reader hands back: a result and the rest, or a refusal. -/
abbrev Reading (α : Type) := Except Fault (α × List Char)

/-- Whether a character may stand between the parts of a document. -/
def isSpace (c : Char) : Bool := c == ' ' || c == '\t' || c == '\n' || c == '\r'

/-- The characters after leading spaces. -/
def skipSpaces (cs : List Char) : List Char := cs.dropWhile isSpace

/-! ### Texts -/

/-- The value of a hexadecimal digit. -/
def hexValue? (c : Char) : Option Nat :=
  if '0' ≤ c ∧ c ≤ '9' then some (c.toNat - 48)
  else if 'a' ≤ c ∧ c ≤ 'f' then some (c.toNat - 87)
  else if 'A' ≤ c ∧ c ≤ 'F' then some (c.toNat - 55)
  else none

/-- The code of four hexadecimal digits that are not the last characters. -/
def fourHex? : List Char → Option (Nat × List Char)
  | a :: b :: c :: d :: next :: rest => do
    let a ← hexValue? a
    let b ← hexValue? b
    let c ← hexValue? c
    let d ← hexValue? d
    some (((a * 16 + b) * 16 + c) * 16 + d, next :: rest)
  | _ => none

/-- The character an escape of one letter stands for. -/
def escaped? (c : Char) : Option Char :=
  match c with
  | '"' => some '"'
  | '\\' => some '\\'
  | '/' => some '/'
  | 'b' => some '\x08'
  | 'f' => some '\x0c'
  | 'n' => some '\n'
  | 'r' => some '\r'
  | 't' => some '\t'
  | _ => none

/-- Whether a code is the first or the second half of a surrogate pair. -/
def isSurrogate (high : Bool) (code : Nat) : Bool :=
  if high then decide (0xD800 ≤ code ∧ code < 0xDC00) else decide (0xDC00 ≤ code ∧ code < 0xE000)

/-- The character of a code; half a surrogate pair is shown by the replacement character. -/
def charOfCode (code : Nat) : Char :=
  if isSurrogate true code || isSurrogate false code then '\uFFFD' else Char.ofNat code

/-- The second half of a surrogate pair, if the characters begin with its escape. -/
def lowHalf? : List Char → Option (Nat × List Char)
  | '\\' :: 'u' :: rest =>
    match fourHex? rest with
    | some (code, rest) => if isSurrogate false code then some (code, rest) else none
    | none => none
  | _ => none

/-- The rest of a text whose opening mark has been read; `start` begins at that mark and `done`
holds the characters read, latest first. -/
def readText (start : List Char) : (fuel : Nat) → (done : List Char) → List Char → Reading String
  | 0, _, _ => .error ⟨.unterminated, start⟩
  | _ + 1, _, [] => .error ⟨.unterminated, start⟩
  | fuel + 1, done, c :: rest =>
    if c = '"' then .ok (String.ofList done.reverse, rest)
    else if c = '\\' then
      match rest with
      | [] => .error ⟨.unterminated, start⟩
      | 'u' :: digits =>
        match fourHex? digits with
        | none => .error ⟨.unicodeEscape, rest⟩
        | some (code, after) =>
          match if isSurrogate true code then lowHalf? after else none with
          | some (low, after) =>
            readText start fuel
              (Char.ofNat (0x10000 + (code - 0xD800) * 0x400 + (low - 0xDC00)) :: done) after
          | none => readText start fuel (charOfCode code :: done) after
      | letter :: after =>
        match escaped? letter with
        | some c => readText start fuel (c :: done) after
        | none => .error ⟨.escape, c :: rest⟩
    else if c.toNat < 32 then .error ⟨.control, c :: rest⟩
    else readText start fuel (c :: done) rest

/-! ### Numbers -/

/-- Whether a character is an ASCII digit. -/
def isNumeral (c : Char) : Bool := decide ('0' ≤ c ∧ c ≤ '9')

/-- The whole part of a number: a zero alone, or digits that do not begin with one. -/
def wholePart : List Char → List Char × List Char
  | '0' :: rest => (['0'], rest)
  | cs => (cs.takeWhile isNumeral, cs.dropWhile isNumeral)

/-- The digits after a point, if a point and a digit follow. -/
def fractionPart? : List Char → Option (List Char × List Char)
  | '.' :: rest =>
    if (rest.takeWhile isNumeral).isEmpty then none
    else some (rest.takeWhile isNumeral, rest.dropWhile isNumeral)
  | _ => none

/-- An exponent, if a mark, an optional sign and a digit follow. -/
def exponentPart? : List Char → Option (Int × List Char)
  | mark :: rest =>
    if mark = 'e' ∨ mark = 'E' then
      let (negative, digits) :=
        match rest with
        | '-' :: more => (true, more)
        | '+' :: more => (false, more)
        | more => (false, more)
      if (digits.takeWhile isNumeral).isEmpty then none
      else
        let n : Int := Text.natOfDigits 0 (digits.takeWhile isNumeral)
        some (if negative then -n else n, digits.dropWhile isNumeral)
    else none
  | [] => none

/-- A number, with or without sign; `start` is where it begins. -/
def readNumber (start : List Char) : Reading Json :=
  let (negative, cs) :=
    match start with
    | '-' :: rest => (true, rest)
    | cs => (false, cs)
  let (whole, rest) := wholePart cs
  if whole.isEmpty then .error ⟨.value, start⟩
  else
    let fraction := fractionPart? rest
    let afterFraction := (fraction.map Prod.snd).getD rest
    let exponent := exponentPart? afterFraction
    let afterExponent := (exponent.map Prod.snd).getD afterFraction
    if fraction.isNone && exponent.isNone then
      if Text.maxDigits < whole.length then .error ⟨.numeral whole.length, start⟩
      else
        let n : Int := Text.natOfDigits 0 whole
        .ok (int (if negative then -n else n), rest)
    else
      let places := (fraction.map Prod.fst).getD []
      .ok (real (Binary64.ofDecimal negative (Text.natOfDigits 0 (whole ++ places))
        ((exponent.map Prod.fst).getD 0 - places.length)), afterExponent)

/-! ### Values -/

/-- The values written as words. -/
def wordValues : List (List Char × Json) :=
  [("null".toList, null), ("true".toList, bool true), ("false".toList, bool false),
    ("NaN".toList, real .nan), ("Infinity".toList, real (.infinite false)),
    ("-Infinity".toList, real (.infinite true))]

/-- The first word the characters begin with, and what follows it. -/
def readWord? (words : List (List Char × Json)) (cs : List Char) : Option (Json × List Char) :=
  match words with
  | [] => none
  | (word, value) :: more =>
    if word.isPrefixOf cs then some (value, cs.drop word.length) else readWord? more cs

mutual

/-- One value; two units of fuel for each character to read are enough. -/
def readValue : (fuel : Nat) → List Char → Reading Json
  | 0, cs => .error ⟨.value, cs⟩
  | fuel + 1, cs =>
    match cs with
    | [] => .error ⟨.value, []⟩
    | '"' :: rest =>
      match readText cs (rest.length + 1) [] rest with
      | .ok (s, rest) => .ok (text s, rest)
      | .error f => .error f
    | '[' :: rest =>
      match skipSpaces rest with
      | ']' :: rest => .ok (list [], rest)
      | inner => readItems fuel [] inner
    | '\x7b' :: rest =>
      match skipSpaces rest with
      | '\x7d' :: rest => .ok (object [], rest)
      | inner => readFields fuel [] inner
    | cs =>
      match readWord? wordValues cs with
      | some found => .ok found
      | none => readNumber cs

/-- The items of a list up to its closing bracket; `done` holds those read, latest first. -/
def readItems : (fuel : Nat) → (done : List Json) → List Char → Reading Json
  | 0, _, cs => .error ⟨.value, cs⟩
  | fuel + 1, done, cs =>
    match readValue fuel cs with
    | .error f => .error f
    | .ok (j, rest) =>
      match skipSpaces rest with
      | ']' :: rest => .ok (list (j :: done).reverse, rest)
      | ',' :: rest => readItems fuel (j :: done) (skipSpaces rest)
      | rest => .error ⟨.comma, rest⟩

/-- The fields of an object up to its closing brace; `done` holds those read, in order. -/
def readFields : (fuel : Nat) → (done : List (String × Json)) → List Char → Reading Json
  | 0, _, cs => .error ⟨.value, cs⟩
  | fuel + 1, done, cs =>
    match cs with
    | '"' :: keyRest =>
      match readText cs (keyRest.length + 1) [] keyRest with
      | .error f => .error f
      | .ok (key, rest) =>
        match skipSpaces rest with
        | ':' :: rest =>
          match readValue fuel (skipSpaces rest) with
          | .error f => .error f
          | .ok (j, rest) =>
            match skipSpaces rest with
            | '\x7d' :: rest => .ok (object (putField key j done), rest)
            | ',' :: rest => readFields fuel (putField key j done) (skipSpaces rest)
            | rest => .error ⟨.comma, rest⟩
        | rest => .error ⟨.colon, rest⟩
    | cs => .error ⟨.key, cs⟩

end

/-- The document a text writes. -/
def read (source : String) : Except Fault Json :=
  let cs := source.toList
  match cs with
  | '\uFEFF' :: _ => .error ⟨.byteOrderMark, cs⟩
  | _ =>
    match readValue (2 * cs.length + 2) (skipSpaces cs) with
    | .error f => .error f
    | .ok (j, rest) =>
      match skipSpaces rest with
      | [] => .ok j
      | rest => .error ⟨.extra, rest⟩

end Mixtape.Json
