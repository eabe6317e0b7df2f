import Mixtape.Text.Digit
import Mixtape.Text.Quoted

/-!
# Literals in tags

A tag may hold a literal: numbers, texts, truth values, and lists, tuples and mappings of them. Only
whether it is well formed matters. A text is cut into tokens first, brackets being matched on the
way, and the tokens are then taken in one after the other.

* `Literal.Token`, `Literal.tokens` — the tokens of a text.
* `Literal.fault?` — what is wrong with a text that is no literal.
-/

namespace Mixtape.Markup.Literal

/-- What a literal consists of. -/
inductive Token where
  /-- A number. -/
  | number
  /-- A text. -/
  | text
  /-- A word. -/
  | word (s : String)
  /-- An opening bracket. -/
  | opening (c : Char)
  /-- A closing bracket. -/
  | closing
  /-- A sign. -/
  | sign (s : String)
  deriving DecidableEq

/-- The wording for what has no wording of its own. -/
def invalid : String := "invalid syntax"

/-! ### Tokens -/

/-- The bracket that closes another. -/
def closingOf (c : Char) : Char := if c = '(' then ')' else if c = '[' then ']' else '\x7d'

/-- Whether a character begins or continues a word. -/
def isWordChar (c : Char) : Bool := c.isAlphanum || c == '_' || decide (128 ≤ c.toNat)

/-- What follows a text that was begun with a quotation mark, three times if it is a long one. -/
def afterText? (mark : Char) (long : Bool) : List Char → Option (List Char)
  | [] => none
  | '\\' :: _ :: rest => afterText? mark long rest
  | c :: rest =>
    if c = mark ∧ !long then some rest
    else if c = mark ∧ rest.take 2 = [mark, mark] then some (rest.drop 2)
    else if c = '\n' ∧ !long then none
    else afterText? mark long rest

/-- Whether characters are a number: ASCII figures with a point among them or not, an exponent or
not, or figures after `0x`, `0o` or `0b`. -/
def isNumber (cs : List Char) : Bool :=
  let figures := cs.dropWhile Char.isDigit
  match cs, figures with
  | '0' :: 'x' :: rest, _ | '0' :: 'o' :: rest, _ | '0' :: 'b' :: rest, _ => !rest.isEmpty
  | _, [] => !cs.isEmpty
  | _, 'j' :: [] => true
  | _, 'e' :: rest => !rest.isEmpty && rest.all Char.isDigit
  | _, '.' :: rest =>
    match rest.dropWhile Char.isDigit with
    | [] => true
    | 'j' :: [] => true
    | 'e' :: rest => !rest.isEmpty && rest.all Char.isDigit
    | _ => false
  | _, _ => false

/-- The characters of a number, and what is wrong with them. -/
def numberFault? (cs : List Char) : Option String :=
  if !isNumber (cs.filter (· != '_')) then some "invalid decimal literal"
  else if cs.length ≥ 2 ∧ cs.head? = some '0' ∧ cs.all Char.isDigit ∧ !cs.all (· == '0') then
    some ("leading zeros in decimal integer literals are not permitted; "
      ++ "use an 0o prefix for octal integers")
  else none

/-- The signs of two characters. -/
def pairs : List String := ["==", "!=", "<=", ">=", "//", "**", "<<", ">>", "->", ":="]

/-- The tokens of a text within open brackets, the innermost first; every round takes up at least
one character. -/
def tokens : (fuel : Nat) → (opened : List Char) → List Char → Except String (List Token × List Char)
  | 0, opened, _ | _, opened, [] => .ok ([], opened)
  | fuel + 1, opened, c :: rest =>
    let next (t : Token) (opened : List Char) (rest : List Char) := do
      let (ts, opened) ← tokens fuel opened rest
      return (t :: ts, opened)
    if c = ' ' ∨ c = '\t' ∨ c = '\n' then tokens fuel opened rest
    else if c = '(' ∨ c = '[' ∨ c = '\x7b' then next (.opening c) (c :: opened) rest
    else if c = ')' ∨ c = ']' ∨ c = '\x7d' then
      match opened with
      | [] => throw ("unmatched " ++ Text.quoted (String.ofList [c]))
      | inner :: outer =>
        if closingOf inner = c then next .closing outer rest
        else throw ("closing parenthesis " ++ Text.quoted (String.ofList [c])
          ++ " does not match opening parenthesis " ++ Text.quoted (String.ofList [inner]))
    else if c = '\'' ∨ c = '"' then
      let long := rest.take 2 = [c, c]
      match afterText? c long (if long then rest.drop 2 else rest) with
      | some rest => next .text opened rest
      | none => throw ((if long then "unterminated triple-quoted string literal"
          else "unterminated string literal") ++ " (detected at line 1)")
    else if c.isDigit ∨ (c = '.' ∧ rest.head?.any Char.isDigit) then
      let more := rest.takeWhile fun d => isWordChar d || d == '.'
      match numberFault? (c :: more) with
      | some fault => throw fault
      | none => next .number opened (rest.drop more.length)
    else if isWordChar c then
      let more := rest.takeWhile isWordChar
      next (.word (String.ofList (c :: more))) opened (rest.drop more.length)
    else
      let pair := String.ofList (c :: rest.take 1)
      if pairs.contains pair then next (.sign pair) opened (rest.drop 1)
      else next (.sign (String.ofList [c])) opened rest

/-! ### Form -/

/-- What may come next. -/
inductive Expected where
  /-- An operand. -/
  | operand
  /-- An operand, or a closing bracket. -/
  | operandOrEnd
  /-- The name of an attribute. -/
  | attribute
  /-- Anything that may follow an operand; a text may follow a text. -/
  | follower (text : Bool)
  deriving DecidableEq

/-- The signs that go before an operand. -/
def leading : List String := ["+", "-", "~"]

/-- The signs that stand between two operands. -/
def between : List String :=
  ["+", "-", "*", "/", "%", "@", "&", "|", "^", "<", ">", "==", "!=", "<=", ">=", "//", "**", "<<",
    ">>"]

/-- What may come after a token, under so many open brackets; nothing if the token is refused. -/
def step? (depth : Nat) : Expected → Token → Option Expected
  | .attribute, .word _ => some (.follower false)
  | .attribute, _ => none
  | .follower true, .text => some (.follower true)
  | .follower _, .opening c => if c = '\x7b' then none else some .operandOrEnd
  | .follower _, .closing => some (.follower false)
  | .follower _, .sign s =>
    if s = "," then some .operandOrEnd
    else if s = "." then some .attribute
    else if s = ":" ∧ 0 < depth then some .operand
    else if between.contains s then some .operand
    else none
  | .follower _, .word w => if ["and", "or", "in", "is"].contains w then some .operand else none
  | .follower _, _ => none
  | .operandOrEnd, .closing => some (.follower false)
  | _, .number => some (.follower false)
  | _, .text => some (.follower true)
  | _, .word w => some (if w = "not" then .operand else .follower false)
  | _, .opening _ => some .operandOrEnd
  | _, .sign s => if leading.contains s then some .operand else none
  | _, .closing => none

/-- The number of open brackets after a token. -/
def depthAfter (depth : Nat) : Token → Nat
  | .opening _ => depth + 1
  | .closing => depth - 1
  | _ => depth

/-- Whether tokens are taken in one after the other, and what may come after them. -/
def takeIn? : (depth : Nat) → Expected → List Token → Option Expected
  | _, e, [] => some e
  | depth, e, t :: rest => (step? depth e t).bind fun e => takeIn? (depthAfter depth t) e rest

/-- What is wrong with a text that is no literal. -/
def fault? (s : String) : Option String :=
  match tokens s.length [] s.toList with
  | .error fault => some fault
  | .ok (ts, opened) =>
    match takeIn? 0 .operand ts, opened with
    | none, _ => some invalid
    | some _, c :: _ => some (Text.quoted (String.ofList [c]) ++ " was never closed")
    | some (.follower _), [] => none
    | some .operandOrEnd, [] => none
    | some _, [] => some invalid

example : fault? "(1, 'a')" = none := by decide +kernel
example : fault? "f(" = some "'(' was never closed" := by decide +kernel

end Mixtape.Markup.Literal
