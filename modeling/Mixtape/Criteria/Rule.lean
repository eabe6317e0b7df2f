import Mixtape.Criteria.Vocabulary
import Mixtape.Failure
import Mixtape.Json.Basic
import Mixtape.Text.Digit

/-!
# Rules

A rule tests one field of a track. Its value fits the field by construction, so a rule that exists
is a valid one.

* `Rule` — the six forms of a rule.
* `RuleFault` — why a document is no rule; `RuleFault.message` is the wording.
* `Rule.text?` and its siblings — the rule of one form for a field, an operator and a value.
* `Rule.ofDocument` — the rule a document writes.
* `Rule.toDocument` — the document a rule is written as.
-/

namespace Mixtape

/-- Whether a number may be compared with the values of a field: it is not negative, and for
ratings it is at most five and a whole number of halves. -/
def NumberField.Admits (f : NumberField) (value : Amount) : Prop :=
  0 ≤ value.units ∧
    (f = .rating → value.units ≤ 10 * Binary64.unitsPerHalf ∧
      value.units % Binary64.unitsPerHalf = 0)

instance (f : NumberField) (value : Amount) : Decidable (f.Admits value) := by
  unfold NumberField.Admits; infer_instance

/-- A test of one field of a track. -/
inductive Rule where
  /-- A comparison of texts, ignoring case. -/
  | text (field : TextField) (operator : TextOperator) (value : String)
  /-- A comparison of numbers. -/
  | number (field : NumberField) (operator : NumberOperator) (value : Amount)
      (admitted : field.Admits value)
  /-- A test of a date against the last days. -/
  | date (field : DateField) (operator : DateOperator) (days : Nat) (positive : 0 < days)
  /-- A test for one tag. -/
  | tag (operator : TagOperator) (id : Nat) (positive : 0 < id)
  /-- A test for tags at all. -/
  | presence (operator : PresenceOperator)
  /-- A test for a value at all. -/
  | existence (field : RuleField) (operator : ExistenceOperator)
  deriving DecidableEq

namespace Rule

/-- The field a rule tests. -/
def field : Rule → RuleField
  | text f _ _ => f.toField
  | number f _ _ _ => f.toField
  | date f _ _ _ => f.toField
  | tag _ _ _ | presence _ => .tag
  | existence f _ => f

/-- The operator of a rule. -/
def operator : Rule → RuleOperator
  | text _ o _ => o.toOperator
  | number _ o _ _ => o.toOperator
  | date _ o _ _ => o.toOperator
  | tag o _ _ => o.toOperator
  | presence o => o.toOperator
  | existence _ o => o.toOperator

/-- The key and value a rule carries besides field and operator. -/
def value? : Rule → Option (String × Json)
  | text _ _ value => some ("textValue", .text value)
  | number _ _ value _ => some ("numberValue", .ofAmount value)
  | date _ _ days _ => some ("daysValue", .nat days)
  | tag _ id _ => some ("textValue", .text (toString id))
  | presence _ | existence _ _ => none

/-- The document a rule is written as. -/
def toDocument (r : Rule) : Json :=
  .object ([("field", .text r.field.name), ("operator", .text r.operator.name)] ++ r.value?.toList)

end Rule

/-! ### Faults -/

/-- Why a value is no rule. -/
inductive RuleFault where
  /-- The value is no object. -/
  | notObject
  /-- No field has this spelling. -/
  | unknownField (value : Json)
  /-- No operator has this spelling. -/
  | unknownOperator (value : Json)
  /-- The field belongs to another category. -/
  | otherCategory (field : RuleField) (category : FieldCategory)
  /-- The field does not take the operator. -/
  | notAllowed (operator : RuleOperator) (field : RuleField)
  /-- The operator stands alone, and a value is given. -/
  | takesNoValue (operator : RuleOperator)
  /-- Another set of values is given than the one the field takes. -/
  | otherSlots (field : RuleField) (operator : RuleOperator)
  /-- The value is not text. -/
  | notText (field : RuleField)
  /-- The value is no finite number. -/
  | notFinite (field : RuleField)
  /-- The value is negative. -/
  | negative (field : RuleField)
  /-- The value is no rating. -/
  | offScale
  /-- The number of days is not whole. -/
  | notWhole (field : RuleField)
  /-- The number of days is not positive. -/
  | notPositive (field : RuleField)
  /-- The operator takes a positive tag number. -/
  | needsTag (operator : RuleOperator)
  /-- The value names no tag by its number. -/
  | tagByName (value : Json)
  /-- The operator does not test for a value at all. -/
  | notExistence (operator : RuleOperator)
  /-- The digits of a tag number cannot be read. -/
  | numeral (fault : Text.NumeralFault)
  /-- A whole number too large to compare. -/
  | tooLarge

/-- A word between single marks. -/
def marked (word : String) : String := "'" ++ word ++ "'"

/-- The wording of a numeral that cannot be read. -/
def numeralMessage : Text.NumeralFault → String
  | .notDecimal s =>
    "invalid literal for int() with base 10: "
      ++ String.ofList ((Text.quoted s).toList.take 200)
  | .tooLong digits =>
    "Exceeds the limit (" ++ toString Text.maxDigits
      ++ " digits) for integer string conversion: value has " ++ toString digits
      ++ " digits; use sys.set_int_max_str_digits() to increase the limit"

/-- The wording of a whole number that is too long to be written. -/
def unwritableMessage : String :=
  "Exceeds the limit (" ++ toString Text.maxDigits
    ++ " digits) for integer string conversion; use sys.set_int_max_str_digits() to increase the limit"

/-- A failure that shows a value; what cannot be shown fails for that. -/
def Failure.showing (value : Json) (failure : Failure) : Failure :=
  if value.isShowable then failure else .outOfRange unwritableMessage

/-- The wording of a fault. -/
def RuleFault.message : RuleFault → String
  | notObject => "rule must be an object"
  | unknownField value => "unknown field " ++ value.display
  | unknownOperator value => "unknown operator " ++ value.display
  | otherCategory f c => "field " ++ marked f.name ++ " is not a " ++ c.name ++ " field"
  | notAllowed o f => "operator " ++ marked o.name ++ " is not allowed for field " ++ marked f.name
  | takesNoValue o => "operator " ++ marked o.name ++ " takes no value"
  | otherSlots f o =>
    "field " ++ marked f.name ++ " with operator " ++ marked o.name ++ " requires exactly "
      ++ marked f.category.slot
  | notText f => "textValue for " ++ marked f.name ++ " must be a string"
  | notFinite f => "numberValue for " ++ marked f.name ++ " must be a finite number"
  | negative f => "numberValue for " ++ marked f.name ++ " must not be negative"
  | offScale => "rating values must be between 0 and 5 in 0.5 steps"
  | notWhole f => "daysValue for " ++ marked f.name ++ " must be an integer"
  | notPositive f => "daysValue for " ++ marked f.name ++ " must be positive"
  | needsTag o => "operator " ++ marked o.name ++ " requires a tag ID"
  | tagByName value => "tag rules reference tags by numeric ID, got " ++ value.display
  | notExistence o => "operator " ++ marked o.name ++ " is not an existence check"
  | numeral fault => numeralMessage fault
  | tooLarge => Binary64.tooLarge

/-- A fault as a failure at a place of a document: numerals that cannot be read or written and
numbers too large to compare are no faults of the document's form and carry no place. -/
def RuleFault.failure (path : Option String) (f : RuleFault) : Failure :=
  match f with
  | numeral _ => .outOfRange f.message
  | tooLarge => .overflow f.message
  | unknownField value | unknownOperator value | tagByName value =>
    .showing value (.invalid f.message path)
  | _ => .invalid f.message path

namespace Rule

/-! ### One rule of each form -/

/-- A comparison of texts. -/
def text? (f : RuleField) (o : RuleOperator) (value : Json) : Except RuleFault Rule :=
  match TextField.ofField? f, TextOperator.ofOperator? o, value with
  | none, _, _ => .error (.otherCategory f .text)
  | _, none, _ => .error (.notAllowed o f)
  | some field, some operator, .text s => .ok (text field operator s)
  | _, _, _ => .error (.notText f)

/-- A comparison of numbers. -/
def number? (f : RuleField) (o : RuleOperator) (value : Json) : Except RuleFault Rule :=
  match NumberField.ofField? f, NumberOperator.ofOperator? o with
  | none, _ => .error (.otherCategory f .numeric)
  | _, none => .error (.notAllowed o f)
  | some field, some operator =>
    match value.amount? with
    | none => .error (.notFinite f)
    | some a =>
      if a.overflows then .error .tooLarge
      else if a.units < 0 then .error (.negative f)
      else if h : field.Admits a then .ok (number field operator a h)
      else .error .offScale

/-- A test of a date against the last days. -/
def date? (f : RuleField) (o : RuleOperator) (value : Json) : Except RuleFault Rule :=
  match DateField.ofField? f, DateOperator.ofOperator? o, value with
  | none, _, _ => .error (.otherCategory f .relativeDate)
  | _, none, _ => .error (.notAllowed o f)
  | some field, some operator, .int n =>
    if h : 0 < n.toNat then .ok (date field operator n.toNat h) else .error (.notPositive f)
  | _, _, _ => .error (.notWhole f)

/-- A test for one tag by its number, or for tags at all without one. -/
def tag? (o : RuleOperator) (value : Json) : Except RuleFault Rule :=
  match TagOperator.ofOperator? o, PresenceOperator.ofOperator? o with
  | some operator, _ =>
    match value with
    | .int n =>
      if h : 0 < n.toNat then .ok (tag operator n.toNat h) else .error (.needsTag o)
    | _ => .error (.needsTag o)
  | none, some operator =>
    match value with
    | .null => .ok (presence operator)
    | _ => .error (.takesNoValue o)
  | none, none => .error (.notAllowed o .tag)

/-- A test for a value at all. -/
def existence? (f : RuleField) (o : RuleOperator) : Except RuleFault Rule :=
  match ExistenceOperator.ofOperator? o with
  | some operator => .ok (existence f operator)
  | none => .error (.notExistence o)

/-! ### Reading -/

/-- The field a value spells. -/
def fieldOf (j : Json) : Except RuleFault RuleField :=
  match j with
  | .text s => (RuleField.ofName? s).elim (.error (.unknownField j)) .ok
  | _ => .error (.unknownField j)

/-- The operator a value spells. -/
def operatorOf (j : Json) : Except RuleFault RuleOperator :=
  match j with
  | .text s => (RuleOperator.ofName? s).elim (.error (.unknownOperator j)) .ok
  | _ => .error (.unknownOperator j)

/-- The number of days a document writes: a whole number written with a point counts as whole. -/
def daysOf (j : Json) : Json :=
  match j with
  | .real x => if x.isWhole then .int x.truncate else j
  | _ => j

/-- The tag number a document writes: a whole number, or a text of digits between blanks. -/
def tagNumber (j : Json) : Except RuleFault Json :=
  match j with
  | .int n => .ok (.int n)
  | .text s =>
    if Text.isDigits (Text.trim s) then
      match Text.natOfDigits? (Text.trim s) with
      | .ok n => .ok (.nat n)
      | .error fault => .error (.numeral fault)
    else .error (.tagByName j)
  | _ => .error (.tagByName j)

/-- The keys under which a document gives a value. -/
def givenSlots (j : Json) : List String :=
  FieldCategory.slots.filter fun slot => !(j.get slot).isNull

/-- The rule of a field and an operator that takes the value under the category's key. -/
def ofSlot (f : RuleField) (o : RuleOperator) (value : Json) : Except RuleFault Rule :=
  match f.category with
  | .text => text? f o value
  | .numeric => number? f o value
  | .relativeDate => date? f o (daysOf value)
  | .tag => tagNumber value >>= tag? o

/-- The rule a document writes. The field is looked at first, then the operator, then whether the
two fit, then which values are given, then the value. -/
def ofDocument (j : Json) : Except RuleFault Rule := do
  if !j.isObject then throw .notObject
  let f ← fieldOf (j.get "field")
  let o ← operatorOf (j.get "operator")
  if (ExistenceOperator.ofOperator? o).isSome then
    if givenSlots j ≠ [] then throw (.takesNoValue o)
    existence? f o
  else
    if !f.category.allows o then throw (.notAllowed o f)
    if (PresenceOperator.ofOperator? o).isSome then
      if givenSlots j ≠ [] then throw (.takesNoValue o)
      tag? o .null
    else
      if givenSlots j ≠ [f.category.slot] then throw (.otherSlots f o)
      ofSlot f o (j.get f.category.slot)

/-- The rule a document writes at a place of a larger one. -/
def ofDocumentAt (path : Option String) (j : Json) : Except Failure Rule :=
  (ofDocument j).mapError (·.failure path)

/-- The name of a rule's form. -/
def formName : Rule → String
  | text _ _ _ => "TextRule"
  | number _ _ _ _ => "NumericRule"
  | date _ _ _ _ => "RelativeDateRule"
  | tag _ _ _ | presence _ => "TagRule"
  | existence _ _ => "ExistenceRule"

end Rule

end Mixtape
