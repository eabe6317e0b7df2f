import Mixtape.Criteria.Basic
import Mixtape.Json.Value
import Mixtape.Text.CaseFold

/-!
# Naming tags

Documents may name tags by name; stored criteria name them by number, so that renaming a tag
changes no playlist. Binding replaces the names.

* `TagNames` — the known names and their numbers.
* `bindTags` — a document with the names of its tag rules replaced.
* `authored` — the criteria a document with tag names writes.
-/

namespace Mixtape.Criteria

/-- The known tag names, each with its number, in order. -/
abbrev TagNames := List (String × Int)

/-- The number of the last name equal to `name` ignoring case; `name` is folded already. -/
def tagNumber? (names : TagNames) (name : String) : Option Int :=
  (names.reverse.find? fun entry => Text.foldCase entry.1 == name).map Prod.snd

/-- The name by which a rule's document names a tag: the text of a tag rule that is not a
number. -/
def tagNameOf (j : Json) : Option String :=
  match j.field? "field", j.field? "textValue" with
  | some (.text f), some (.text s) =>
    if f = RuleField.tag.name && !Text.isDigits (Text.trim s) then some s else none
  | _, _ => none

/-- A rule's document with its tag name replaced; `i` is its place. -/
def bindRule (names : TagNames) (i : Nat) (j : Json) : Except Failure Json :=
  match tagNameOf j with
  | none => .ok j
  | some s =>
    match tagNumber? names (Text.foldCase (Text.trim s)) with
    | some id =>
      if Text.canWrite id then .ok (j.put "textValue" (.text (toString id)))
      else .error (.outOfRange unwritableMessage)
    | none => .error (.invalid ("unknown tag " ++ Text.quoted s) (some (rulePath i)))

/-- Rule documents with their tag names replaced, the first of which stands at place `i`. -/
def bindRules (names : TagNames) (i : Nat) : List Json → Except Failure (List Json)
  | [] => .ok []
  | j :: rest => do
    let bound ← bindRule names i j
    let others ← bindRules names (i + 1) rest
    pure (bound :: others)

/-- The items of what stands in a document for a list of rules; what counts as not given has
none. -/
def ruleItems (j : Json) : Except Failure (List Json) :=
  if j.isTruthy then j.elements else .ok []

/-- A criteria document with the tag names of its rules replaced by numbers. Only an object is a
document, even if another value makes one up. -/
def bindTags (names : TagNames) (j : Json) : Except Failure Json := do
  let document ← j.asObject
  j.requireObject
  let items ← ruleItems (document.get "rules")
  let bound ← bindRules names 0 items
  pure (document.put "rules" (.list bound))

/-- The criteria a document with tag names writes. -/
def authored (names : TagNames) (j : Json) : Except Failure Criteria :=
  bindTags names j >>= ofDocument

end Mixtape.Criteria
