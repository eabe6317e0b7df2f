import Mixtape.CommandLine.Literal
import Mixtape.CommandLine.Style
import Mixtape.Text.Emoji

/-!
# Markup

Text for people is written with tags in brackets that style what stands between them. A tag begins
with a small letter, a hash, a slash or an at sign. A closing tag names the latest open tag of that
style, however the style is spelt, and a bare one closes the latest of all; a tag that closes
nothing is a fault. A tag with an at sign may hold a literal, which is looked at when it is closed.
A backslash before a tag takes away its meaning, and of two backslashes one is shown. A bracket
that begins no tag stands for itself. Between tags, emoji may be written by name.

* `Piece`, `pieces` — the texts and tags of a text.
* `Fault` — what may be wrong with markup.
* `plain` — a text without its tags.
-/

namespace Mixtape.Markup

/-! ### Pieces -/

/-- A part of a text with markup. -/
inductive Piece where
  /-- Text to be shown. -/
  | text (cs : List Char)
  /-- What stands between the brackets of a tag. -/
  | tag (cs : List Char)

/-- Whether a tag may begin with a character. -/
def beginsTag (c : Char) : Bool := decide ('a' ≤ c ∧ c ≤ 'z') || "#/@".toList.contains c

/-- The tag that begins after an opening bracket, and what follows it. -/
def tag? : List Char → Option (List Char × List Char)
  | [] => none
  | c :: rest =>
    if beginsTag c then
      let body := rest.takeWhile fun c => c != ']' && c != '['
      match rest.drop body.length with
      | ']' :: rest => some (c :: body, rest)
      | _ => none
    else none

/-- The pieces of a text after the characters in `held`, the latest of which comes first; every
round takes up at least one character. -/
def pieces : (fuel : Nat) → (held : List Char) → List Char → List Piece
  | 0, held, cs => [.text (held.reverse ++ cs)]
  | fuel + 1, held, cs =>
    let slashes := cs.takeWhile (· == '\\')
    match cs.drop slashes.length with
    | [] => [.text (held.reverse ++ slashes)]
    | '[' :: rest =>
      match tag? rest with
      | none => pieces fuel ('[' :: slashes ++ held) rest
      | some (tag, rest) =>
        .text held.reverse :: .text (List.replicate (slashes.length / 2) '\\')
          :: (if slashes.length % 2 = 1 then .text ('[' :: tag ++ [']']) else .tag tag)
          :: pieces fuel [] rest
    | c :: rest => pieces fuel (c :: slashes ++ held) rest

/-- A text without the backslashes directly before opening brackets. -/
def withoutSlashes : List Char → List Char
  | '\\' :: '[' :: rest => '[' :: withoutSlashes rest
  | c :: rest => c :: withoutSlashes rest
  | [] => []

/-- How a text between tags is shown. -/
def shownText (cs : List Char) : List Char :=
  let cs := withoutSlashes cs
  Text.Emoji.replacedChars cs.length cs

/-! ### Tags -/

/-- What may be wrong with markup. -/
inductive Fault where
  /-- A tag closes nothing. -/
  | unmatched
  /-- A tag holds what is no literal. -/
  | literal (message : String)
  deriving DecidableEq

/-- An open tag. -/
structure OpenTag where
  /-- The name of its style. -/
  name : String
  /-- What stands after an equals sign. -/
  parameters : Option String

/-- The open tag of a tag's characters. -/
def OpenTag.ofChars (tag : List Char) : OpenTag :=
  let name := tag.takeWhile (· != '=')
  ⟨styleName (String.ofList name),
    if name.length < tag.length then some (String.ofList (tag.drop (name.length + 1))) else none⟩

/-- The literal that parameters hold: after the name of a handler what stands in brackets, if
anything does; else all of them. -/
def literalOf? (parameters : String) : Option String :=
  let cs := (Text.trim parameters).toList
  let name := cs.takeWhile fun c => Literal.isWordChar c || c == '.'
  match cs.drop name.length with
  | [] => none
  | '(' :: rest =>
    if rest.getLast? = some ')' ∧ !rest.contains '\n' then some (String.ofList ('(' :: rest))
    else some (String.ofList cs)
  | _ => some (String.ofList cs)

/-- What is wrong with a tag that is closed. -/
def OpenTag.fault? (t : OpenTag) : Option Fault := do
  let parameters ← t.parameters
  if !Text.startsWith t.name "@" || parameters = "" then none
  else
    let literal ← literalOf? parameters
    let fault ← Literal.fault? literal
    return .literal ("error parsing " ++ Text.quoted literal ++ " in " ++ Text.quoted parameters
      ++ "; " ++ fault)

/-- Takes the latest open tag of a style away. -/
def takeNamed? (name : String) : List OpenTag → Option (OpenTag × List OpenTag)
  | [] => none
  | t :: rest =>
    if t.name = name then some (t, rest)
    else (takeNamed? name rest).map fun (found, rest) => (found, t :: rest)

/-- Takes away the open tag that a closing tag names. -/
def take? (closing : List Char) (opened : List OpenTag) : Option (OpenTag × List OpenTag) :=
  let name := String.ofList (closing.takeWhile (· != '='))
  if Text.trim name = "" then
    match opened with
    | [] => none
    | t :: rest => some (t, rest)
  else takeNamed? (styleName name) opened

/-- The open tags after a tag, the latest first. -/
def afterTag (opened : List OpenTag) : List Char → Except Fault (List OpenTag)
  | '/' :: closing =>
    match take? closing opened with
    | none => .error .unmatched
    | some (t, rest) => t.fault?.elim (.ok rest) .error
  | tag => .ok (OpenTag.ofChars tag :: opened)

/-- What pieces show under open tags. -/
def shownPieces (opened : List OpenTag) : List Piece → Except Fault (List Char)
  | [] => .ok []
  | .text cs :: rest => do return shownText cs ++ (← shownPieces opened rest)
  | .tag cs :: rest => do shownPieces (← afterTag opened cs) rest

/-- A text without its tags. -/
def plain (s : String) : Except Fault String :=
  (shownPieces [] (pieces (s.length + 1) [] s.toList)).map String.ofList

/-- A text within a tag. -/
def styled (style text : String) : String := "[" ++ style ++ "]" ++ text ++ "[/" ++ style ++ "]"

end Mixtape.Markup
