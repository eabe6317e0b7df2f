import Mixtape.Criteria.Rule
import Mixtape.Proofs.Action

/-!
# How rules are refused

A document that is no rule is refused by a failure that tells what is malformed, and where. A few
documents are neither read nor refused. What a refusal shows may hold a whole number that is too
long to be written. A whole number may be too large to be compared. The digits of a tag's number may
be too many, or one of them may have no place value. The failure then tells nothing of the document.

## Main definitions

* `Failure.Escapes`, `RuleFault.Escapes` — a failure that does not tell what is malformed.
* `BreaksValue`, `BreaksRule` — the values, and the documents of rules, that are neither read nor
  refused.

## Main results

* `not_fails_escapes_iff` — what does not escape is a result or a refusal.
* `Rule.fails_ofSlot_iff` — the value of a rule is read or refused, unless it breaks the reading.
* `Rule.fails_ofDocument_iff` — **so is the document of a rule.**
-/

namespace Mixtape

/-! ### Failures that are no refusals -/

/-- A failure that does not tell what is malformed in a document. -/
def Failure.Escapes (f : Failure) : Prop := ∀ reason path, f ≠ .invalid reason path

theorem Failure.not_escapes_invalid {reason : String} {path : Option String} :
    ¬(Failure.invalid reason path).Escapes := fun h => h _ _ rfl

/-- A value that is refused by showing it cannot be refused if it cannot be shown. -/
theorem Failure.escapes_showing_iff {j : Json} {reason : String} {path : Option String} :
    (Failure.showing j (.invalid reason path)).Escapes ↔ ¬j.isShowable = true := by
  unfold showing
  split
  · rename_i h
    exact iff_of_false not_escapes_invalid fun hlong => hlong h
  · rename_i h
    exact iff_of_true (fun _ _ h => by cases h) h

/-- What does not escape is a result or a refusal. -/
theorem not_fails_escapes_iff {α : Type} {r : Except Failure α} : ¬Fails Failure.Escapes r ↔
    (∃ a, r = .ok a) ∨ ∃ reason path, r = .error (.invalid reason path) := by
  cases r with
  | ok a => exact iff_of_true not_fails_ok (.inl ⟨a, rfl⟩)
  | error f => simp [Failure.Escapes]

/-! ### Rules -/

/-- The faults that do not tell what is malformed: a value that cannot be shown, a numeral that
cannot be read, a number that cannot be compared. -/
def RuleFault.Escapes : RuleFault → Prop
  | unknownField value | unknownOperator value | tagByName value => ¬value.isShowable = true
  | numeral _ | tooLarge => True
  | _ => False

theorem RuleFault.escapes_failure_iff {fault : RuleFault} {path : Option String} :
    (fault.failure path).Escapes ↔ fault.Escapes := by
  cases fault with
  | unknownField value => exact Failure.escapes_showing_iff
  | unknownOperator value => exact Failure.escapes_showing_iff
  | tagByName value => exact Failure.escapes_showing_iff
  | numeral fault => exact iff_of_true (fun _ _ h => by cases h) trivial
  | tooLarge => exact iff_of_true (fun _ _ h => by cases h) trivial
  | _ => exact iff_of_false Failure.not_escapes_invalid id

/-- The values no rule can be read from, and that are not refused either. -/
inductive BreaksValue : FieldCategory → Json → Prop
  /-- A whole number that is too large to compare. -/
  | large {n : Int} (overflows : (Amount.whole n).overflows = true) : BreaksValue .numeric (.int n)
  /-- Digits that cannot be read as the number of a tag: too many, or one without place value. -/
  | numeral {s : String} (digits : Text.isDigits (Text.trim s) = true)
      (unread : ∃ fault, Text.natOfDigits? (Text.trim s) = .error fault) :
      BreaksValue .tag (.text s)
  /-- Something else than the number of a tag that cannot be shown. -/
  | long {value : Json} (other : ∀ n, value ≠ .int n) (long : ¬value.isShowable = true) :
      BreaksValue .tag value

theorem breaksValue_numeric_iff {value : Json} :
    BreaksValue .numeric value ↔ ∃ a, value.amount? = some a ∧ a.overflows = true := by
  constructor
  · rintro ⟨overflows⟩
    exact ⟨_, rfl, overflows⟩
  · rintro ⟨a, ha, overflows⟩
    cases value with
    | int n =>
      cases ha
      exact .large overflows
    | real x =>
      -- a binary number stands for itself
      cases x <;> cases ha
      cases overflows
    | _ => cases ha

theorem not_breaksValue_int {n : Int} : ¬BreaksValue .tag (.int n) := by
  intro h
  cases h with
  | long other _ => exact other n rfl

theorem breaksValue_text_iff {s : String} :
    BreaksValue .tag (.text s) ↔ Text.isDigits (Text.trim s) = true ∧
      ∃ fault, Text.natOfDigits? (Text.trim s) = .error fault := by
  constructor
  · intro h
    cases h with
    | numeral digits unread => exact ⟨digits, unread⟩
    | long _ long => exact absurd rfl long
  · exact fun ⟨digits, unread⟩ => .numeral digits unread

namespace Rule

variable {f : RuleField} {o : RuleOperator} {j value : Json}

/-! ### The values of a rule -/

theorem not_fails_text? : ¬Fails RuleFault.Escapes (text? f o value) := by
  unfold text?
  split <;> simp [RuleFault.Escapes]

theorem not_fails_date? : ¬Fails RuleFault.Escapes (date? f o value) := by
  unfold date?
  repeat' split
  all_goals simp [RuleFault.Escapes]

theorem not_fails_tag? : ¬Fails RuleFault.Escapes (tag? o value) := by
  unfold tag?
  repeat' split
  all_goals simp [RuleFault.Escapes]

theorem not_fails_existence? : ¬Fails RuleFault.Escapes (existence? f o) := by
  unfold existence?
  split <;> simp [RuleFault.Escapes]

theorem fails_number?_iff (numeric : f.category = .numeric) (allowed : f.category.allows o = true) :
    Fails RuleFault.Escapes (number? f o value) ↔ BreaksValue .numeric value := by
  obtain ⟨field, hfield⟩ : ∃ field, NumberField.ofField? f = some field := by
    cases f with
    | rating => exact ⟨.rating, rfl⟩
    | playCount => exact ⟨.playCount, rfl⟩
    | duration => exact ⟨.duration, rfl⟩
    | _ => cases numeric
  rw [numeric] at allowed
  obtain ⟨operator, hoperator⟩ := Option.isSome_iff_exists.1 allowed
  rw [breaksValue_numeric_iff, number?, hfield, hoperator]
  cases value.amount? with
  | none => simp [RuleFault.Escapes]
  | some a =>
    by_cases hlarge : a.overflows = true
    · simp [hlarge, RuleFault.Escapes]
    · refine iff_of_false ?_ (by simp [hlarge])
      dsimp only
      rw [if_neg hlarge]
      repeat' split
      all_goals simp [RuleFault.Escapes]

theorem fails_tagNumber_iff :
    Fails RuleFault.Escapes (tagNumber value) ↔ BreaksValue .tag value := by
  have hother : (∀ n, value ≠ .int n) → (∀ s, value ≠ .text s) →
      (¬value.isShowable = true ↔ BreaksValue .tag value) := by
    intro hint htext
    refine ⟨.long hint, fun h => ?_⟩
    cases h with
    | numeral => exact absurd rfl (htext _)
    | long _ long => exact long
  cases value with
  | int n => exact iff_of_false not_fails_ok not_breaksValue_int
  | text s =>
    rw [tagNumber, breaksValue_text_iff]
    by_cases hdigits : Text.isDigits (Text.trim s) = true
    · rw [if_pos hdigits]
      cases Text.natOfDigits? (Text.trim s) <;> simp [hdigits, RuleFault.Escapes]
    · rw [if_neg hdigits]
      simp [hdigits, RuleFault.Escapes, Json.isShowable]
  | _ => exact fails_error_iff.trans (hother (by simp) (by simp))

/-- **The value of a rule** is read, or refused, unless it is one that breaks the reading. -/
theorem fails_ofSlot_iff (allowed : f.category.allows o = true) :
    Fails RuleFault.Escapes (ofSlot f o value) ↔ BreaksValue f.category value := by
  unfold ofSlot
  cases hcategory : f.category with
  | text => exact iff_of_false not_fails_text? fun h => by cases h
  | numeric => exact fails_number?_iff hcategory allowed
  | relativeDate => exact iff_of_false not_fails_date? fun h => by cases h
  | tag =>
    simp only [fails_bind_iff, not_fails_tag?, and_false, exists_false, or_false]
    exact fails_tagNumber_iff

/-! ### The reading of a rule -/

theorem fails_fieldOf_iff : Fails RuleFault.Escapes (fieldOf value) ↔ ¬value.isShowable = true := by
  cases value with
  | text s =>
    rw [fieldOf, fails_elim_iff]
    exact iff_of_false (fun h => h.2 rfl) fun h => h rfl
  | _ => exact fails_error_iff

theorem fails_operatorOf_iff :
    Fails RuleFault.Escapes (operatorOf value) ↔ ¬value.isShowable = true := by
  cases value with
  | text s =>
    rw [operatorOf, fails_elim_iff]
    exact iff_of_false (fun h => h.2 rfl) fun h => h rfl
  | _ => exact fails_error_iff

end Rule

/-- A document gives the value of a rule with the field `f` and the operator `o`, under the key of
the field's category and under no other. -/
structure TakesValue (j : Json) (f : RuleField) (o : RuleOperator) : Prop where
  /-- The field takes the operator. -/
  allowed : f.category.allows o = true
  /-- The operator does not stand alone. -/
  valued : ExistenceOperator.ofOperator? o = none ∧ PresenceOperator.ofOperator? o = none
  /-- The value is the only one. -/
  given : Rule.givenSlots j = [f.category.slot]

/-- The documents no rule can be read from, and that are not refused either. -/
inductive BreaksRule (j : Json) : Prop
  /-- The field cannot be shown. -/
  | field (object : j.isObject = true) (long : ¬(j.get "field").isShowable = true)
  /-- The operator cannot be shown. -/
  | operator {f : RuleField} (object : j.isObject = true)
      (field : Rule.fieldOf (j.get "field") = .ok f)
      (long : ¬(j.get "operator").isShowable = true)
  /-- The value cannot be read. -/
  | value {f : RuleField} {o : RuleOperator} (object : j.isObject = true)
      (field : Rule.fieldOf (j.get "field") = .ok f)
      (operator : Rule.operatorOf (j.get "operator") = .ok o) (takes : TakesValue j f o)
      (breaks : BreaksValue f.category (j.get f.category.slot))

namespace Rule

variable {f : RuleField} {o : RuleOperator} {j : Json}

/-- **A rule is read from a document**, or the document is refused, unless it is one that breaks the
reading. -/
theorem fails_ofDocument_iff : Fails RuleFault.Escapes (ofDocument j) ↔ BreaksRule j := by
  unfold ofDocument
  by_cases hobject : j.isObject = true
  · -- what is refused on the way is told by its form
    simp only [hobject, Bool.not_true, Bool.false_eq_true, if_false, throw_bind_eq, fails_bind_iff,
      fails_ite_iff, fails_error_iff, fails_fieldOf_iff, fails_operatorOf_iff, not_fails_existence?,
      not_fails_tag?, RuleFault.Escapes, and_false, false_or, ne_eq, Decidable.not_not,
      Bool.not_eq_true']
    constructor
    · rintro (long | ⟨f, hf, long | ⟨o, ho, hexists, hallowed, hpresence, hgiven, h⟩⟩)
      · exact .field hobject long
      · exact .operator hobject hf long
      · have hallowed : f.category.allows o = true := by simpa using hallowed
        have takes : TakesValue j f o :=
          ⟨hallowed, ⟨by simpa using hexists, by simpa using hpresence⟩, hgiven⟩
        exact .value hobject hf ho takes ((fails_ofSlot_iff hallowed).1 h)
    · rintro (⟨-, long⟩ | ⟨-, hf, long⟩ | ⟨-, hf, ho, takes, breaks⟩)
      · exact .inl long
      · exact .inr ⟨_, hf, .inl long⟩
      · have hvalue := (fails_ofSlot_iff takes.allowed).2 breaks
        refine .inr ⟨_, hf, .inr ⟨_, ho, ?_, ?_, ?_, takes.given, hvalue⟩⟩
        · simp [takes.valued.1]
        · simp [takes.allowed]
        · simp [takes.valued.2]
  · refine iff_of_false ?_ fun h => ?_
    · simp [hobject, throw_bind_eq, RuleFault.Escapes]
    · cases h <;> exact hobject ‹_›

end Rule

end Mixtape
