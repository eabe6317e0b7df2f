import Mixtape.Json.Basic

/-!
# Writing documents

The text of a value: the usual notation, with no spaces, numbers in their shortest decimal and
control characters escaped.
-/

namespace Mixtape.Json

/-- How a character is written inside a text. -/
def writeChar (c : Char) : List Char :=
  if c = '"' ∨ c = '\\' then ['\\', c]
  else if c = '\n' then ['\\', 'n']
  else if c.toNat < 32 then '\\' :: 'u' :: Text.hexDigits 4 c.toNat
  else [c]

/-- A text between quotation marks. -/
def writeText (s : String) : String :=
  String.ofList ('"' :: s.toList.flatMap writeChar ++ ['"'])

mutual

/-- The text of a value. -/
def write : Json → String
  | null => "null"
  | bool true => "true"
  | bool false => "false"
  | int n => toString n
  | real x => x.renderWith "Infinity" "NaN"
  | text s => writeText s
  | list items => "[" ++ writeItems items ++ "]"
  | object fields => "\x7b" ++ writeFields fields ++ "\x7d"

/-- The texts of the items of a list, separated by commas. -/
def writeItems : List Json → String
  | [] => ""
  | [j] => write j
  | j :: rest => write j ++ "," ++ writeItems rest

/-- The texts of the fields of an object, separated by commas. -/
def writeFields : List (String × Json) → String
  | [] => ""
  | [(k, v)] => writeText k ++ ":" ++ write v
  | (k, v) :: rest => writeText k ++ ":" ++ write v ++ "," ++ writeFields rest

end

end Mixtape.Json
