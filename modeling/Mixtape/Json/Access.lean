import Mixtape.Json.Basic

/-!
# Access to fields

Fields of documents with what stands for them when they are missing or of another kind.

* `Json.has`, `Json.getOr` — whether a field is there, and its value.
* `Json.textOr`, `Json.intOf`, `Json.flag` — fields that are texts, whole numbers, truth values.
* `Json.listOf`, `Json.textsOf`, `Json.intsOf`, `Json.nth` — lists and their items.
-/

namespace Mixtape.Json

/-- Whether an object has a field. -/
def has (j : Json) (key : String) : Bool := (j.field? key).isSome

/-- A field, or what stands for it when it is missing. -/
def getOr (j : Json) (key : String) (missing : Json) : Json := (j.field? key).getD missing

/-- A field that is a text. -/
def textOr (j : Json) (key missing : String) : String := ((j.get key).text?).getD missing

/-- A field that is a whole number. -/
def intOf (j : Json) (key : String) (missing : Int) : Int := (j.get key).intOr missing

/-- A whole number, if the value is one. -/
def int? : Json → Option Int
  | int n => some n
  | _ => none

/-- The items of a field that is a list. -/
def listOf (j : Json) (key : String) : List Json := (j.get key).items

/-- The texts among the items of a field. -/
def textsOf (j : Json) (key : String) : List String := (j.listOf key).filterMap text?

/-- The whole numbers among the items of a field. -/
def intsOf (j : Json) (key : String) : List Int := (j.listOf key).filterMap int?

/-- Whether a field counts as given. -/
def flag (j : Json) (key : String) (missing : Bool) : Bool :=
  match j.field? key with
  | some v => v.isTruthy
  | none => missing

/-- An item of a list, null if there is none at the place. -/
def nth (j : Json) (i : Nat) : Json := j.items.getD i null

/-- The fields of an object; other values have none. -/
def fieldsOf : Json → List (String × Json)
  | object fields => fields
  | _ => []

end Mixtape.Json
