import Mixtape.Proofs.Criteria.RoundTrip
import Mixtape.Proofs.Text.Decimal

/-!
# The grammar of rules

A rule is written as an object with a field, an operator, and at most one value under the key that
belongs to the field. It is read from more objects than this one: there may be other keys, keys for
values may hold null, whole days may be written with a point, and the number of a tag may be a number
or a text in the digits of any script. From nothing else is it read, and from all of these.

## Main definitions

* `Rule.Reads j f o r` — the ways in which an object with a field and an operator gives a rule.
* `Rule.Spells` — the values that stand for the one a rule is written with.
* `Rule.IsWrittenAs r j` — the document `j` writes the rule `r`.

## Main results

* `Rule.ofDocument_eq_ok_iff` — the reader, as its three ways.
* `Rule.ofSlot_eq_ok_iff` — a value is read as the rule that it spells.
* `Rule.isWrittenAs_toDocument` — the document a rule is written as writes it.
* `Rule.ofDocumentAt_eq_ok_iff_isWrittenAs` — **the grammar of rules.**
-/

namespace Mixtape

open Action

/-! ### Words -/

theorem name_of_findNamed {α : Type} {name : α → String} {all : List α} {s : String} {a : α}
    (h : findNamed name all s = some a) : name a = s := by
  have hfound := List.find?_some h
  exact eq_of_beq hfound

theorem elim_error_ok_eq_ok_iff {α ε : Type} {x : Option α} {e : ε} {a : α} :
    x.elim (.error e) .ok = (.ok a : Except ε α) ↔ x = some a := by
  cases x <;> simp

theorem TextField.eq_toField {f : RuleField} {g : TextField} (h : ofField? f = some g) :
    f = g.toField := by
  cases f <;> cases h <;> rfl

theorem NumberField.eq_toField {f : RuleField} {g : NumberField} (h : ofField? f = some g) :
    f = g.toField := by
  cases f <;> cases h <;> rfl

theorem DateField.eq_toField {f : RuleField} {g : DateField} (h : ofField? f = some g) :
    f = g.toField := by
  cases f <;> cases h <;> rfl

theorem TextOperator.eq_toOperator {o : RuleOperator} {p : TextOperator}
    (h : ofOperator? o = some p) : o = p.toOperator := by
  cases o <;> cases h <;> rfl

theorem NumberOperator.eq_toOperator {o : RuleOperator} {p : NumberOperator}
    (h : ofOperator? o = some p) : o = p.toOperator := by
  cases o <;> cases h <;> rfl

theorem DateOperator.eq_toOperator {o : RuleOperator} {p : DateOperator}
    (h : ofOperator? o = some p) : o = p.toOperator := by
  cases o <;> cases h <;> rfl

theorem TagOperator.eq_toOperator {o : RuleOperator} {p : TagOperator}
    (h : ofOperator? o = some p) : o = p.toOperator := by
  cases o <;> cases h <;> rfl

theorem PresenceOperator.eq_toOperator {o : RuleOperator} {p : PresenceOperator}
    (h : ofOperator? o = some p) : o = p.toOperator := by
  cases o <;> cases h <;> rfl

theorem ExistenceOperator.eq_toOperator {o : RuleOperator} {p : ExistenceOperator}
    (h : ofOperator? o = some p) : o = p.toOperator := by
  cases o <;> cases h <;> rfl

namespace Rule

variable {f : RuleField} {o : RuleOperator} {j value : Json} {r : Rule}

theorem fieldOf_eq_ok_iff : fieldOf value = .ok f ↔ value = .text f.name := by
  constructor
  · intro h
    cases value with
    | text s => rw [name_of_findNamed (elim_error_ok_eq_ok_iff.1 h)]
    | _ => cases h
  · rintro rfl
    exact fieldOf_name f

theorem operatorOf_eq_ok_iff : operatorOf value = .ok o ↔ value = .text o.name := by
  constructor
  · intro h
    cases value with
    | text s => rw [name_of_findNamed (elim_error_ok_eq_ok_iff.1 h)]
    | _ => cases h
  · rintro rfl
    exact operatorOf_name o

/-! ### The reader -/

/-- The ways in which an object with the field `f` and the operator `o` gives the rule `r`. -/
inductive Reads (j : Json) (f : RuleField) (o : RuleOperator) (r : Rule) : Prop
  /-- The operator stands alone, for any field. -/
  | existence (given : givenSlots j = []) (alone : (ExistenceOperator.ofOperator? o).isSome = true)
      (built : existence? f o = .ok r)
  /-- The operator stands alone, for tags. -/
  | presence (given : givenSlots j = []) (alone : (PresenceOperator.ofOperator? o).isSome = true)
      (allowed : f.category.allows o = true) (built : tag? o .null = .ok r)
  /-- A value is given under the key of the field. -/
  | value (takes : TakesValue j f o) (built : ofSlot f o (j.get f.category.slot) = .ok r)

/-- An operator that tests for tags at all is not one that tests for a value at all. -/
theorem existence_none_of_presence (h : (PresenceOperator.ofOperator? o).isSome = true) :
    (ExistenceOperator.ofOperator? o).isSome = false := by
  cases o <;> first | rfl | cases h

/-- What is read is an object that spells a field and an operator, and gives the rule in one of three
ways. -/
theorem reads_of_ofDocument (h : ofDocument j = .ok r) : j.isObject = true ∧ ∃ f o,
    fieldOf (j.get "field") = .ok f ∧ operatorOf (j.get "operator") = .ok o ∧ Reads j f o r := by
  unfold ofDocument at h
  by_cases hobject : j.isObject = true
  · simp only [hobject, Bool.not_true, Bool.false_eq_true, if_false, throw_bind_eq] at h
    obtain ⟨f, hf, h⟩ := exists_of_bind_eq_ok h
    obtain ⟨o, ho, h⟩ := exists_of_bind_eq_ok h
    refine ⟨hobject, f, o, hf, ho, ?_⟩
    -- the branches that fail are closed as they are met
    split at h
    · rename_i halone
      split at h
      · cases h
      · rename_i hgiven
        exact .existence (not_not.1 hgiven) halone h
    · rename_i hvalued
      split at h
      · cases h
      · rename_i hallowed
        rw [Bool.not_eq_true', Bool.not_eq_false] at hallowed
        split at h
        · rename_i halone
          split at h
          · cases h
          · rename_i hgiven
            exact .presence (not_not.1 hgiven) halone hallowed h
        · rename_i htags
          split at h
          · cases h
          · rename_i hgiven
            exact .value ⟨hallowed, ⟨by simpa using hvalued, by simpa using htags⟩,
              not_not.1 hgiven⟩ h
  · simp only [hobject, Bool.not_false, if_true, throw_bind_eq] at h
    cases h

/-- Each of the three ways is read. -/
theorem Reads.ofDocument (hreads : Reads j f o r) (hobject : j.isObject = true)
    (hf : fieldOf (j.get "field") = .ok f) (ho : operatorOf (j.get "operator") = .ok o) :
    ofDocument j = .ok r := by
  have hstart : ∀ k : RuleField → RuleOperator → Except RuleFault Rule,
      (fieldOf (j.get "field") >>= fun f => operatorOf (j.get "operator") >>= k f) = k f o := by
    intro k
    rw [hf, ho]
    rfl
  unfold Rule.ofDocument
  simp only [hobject, Bool.not_true, Bool.false_eq_true, if_false, throw_bind_eq]
  refine (hstart _).trans ?_
  cases hreads with
  | existence given alone built =>
    rw [if_pos alone, if_neg (not_not.2 given)]
    exact built
  | presence given alone allowed built =>
    rw [existence_none_of_presence alone, if_neg Bool.false_ne_true, allowed]
    simp only [Bool.not_true, Bool.false_eq_true, if_false, alone, if_true, given, ne_eq, not_true]
    exact built
  | value takes built =>
    simp only [takes.valued.1, takes.valued.2, takes.allowed, takes.given, Option.isSome_none,
      Bool.not_true, Bool.false_eq_true, if_false, ne_eq, not_true]
    exact built

/-- **A rule is read** from an object that spells a field and an operator, in one of three ways. -/
theorem ofDocument_eq_ok_iff : ofDocument j = .ok r ↔ j.isObject = true ∧ ∃ f o,
    j.get "field" = .text f.name ∧ j.get "operator" = .text o.name ∧ Reads j f o r := by
  simp only [← fieldOf_eq_ok_iff, ← operatorOf_eq_ok_iff]
  constructor
  · exact reads_of_ofDocument
  · rintro ⟨hobject, f, o, hf, ho, hreads⟩
    exact hreads.ofDocument hobject hf ho

/-! ### Values -/

/-- The value stands for the one that the rule is written with: it is that value, unless whole days
are written with a point, or the number of a tag as a number or in other digits. -/
inductive Spells (r : Rule) : Json → Prop
  /-- The value itself. -/
  | same {slot : String} {value : Json} (untagged : r.field.category ≠ .tag)
      (carried : r.value? = some (slot, value)) : Spells r value
  /-- The days, as a binary number. -/
  | pointed {slot : String} {days : Nat} (dated : r.field.category = .relativeDate)
      (carried : r.value? = some (slot, .nat days)) :
      Spells r (.real (.finite false (days * Binary64.unitsPerOne)))
  /-- The number of the tag, as a number. -/
  | id {slot : String} {id : Nat} (tagged : r.field.category = .tag)
      (carried : r.value? = some (slot, .text (toString id))) : Spells r (.nat id)
  /-- The number of the tag, in digits. -/
  | digits {slot : String} {id : Nat} {s : String} (tagged : r.field.category = .tag)
      (carried : r.value? = some (slot, .text (toString id))) (written : Text.WritesNumber id s) :
      Spells r (.text s)

@[simp] theorem category_textField (f : TextField) : f.toField.category = .text := by
  cases f <;> rfl

@[simp] theorem category_numberField (f : NumberField) : f.toField.category = .numeric := by
  cases f <;> rfl

@[simp] theorem category_dateField (f : DateField) : f.toField.category = .relativeDate := by
  cases f <;> rfl

theorem spells_text_iff {f : TextField} {o : TextOperator} {s : String} :
    (Rule.text f o s).Spells value ↔ value = .text s := by
  constructor
  · intro h
    cases h with
    | same untagged carried => cases carried; rfl
    | pointed dated carried => cases carried
    | id tagged carried => simp [field] at tagged
    | digits tagged carried => simp [field] at tagged
  · rintro rfl
    exact .same (by simp [field]) rfl

theorem spells_number_iff {f : NumberField} {o : NumberOperator} {a : Amount}
    {admitted : f.Admits a} :
    (Rule.number f o a admitted).Spells value ↔ value = .ofAmount a := by
  constructor
  · intro h
    cases h with
    | same untagged carried => cases carried; rfl
    | pointed dated carried => simp [field] at dated
    | id tagged carried => simp [field] at tagged
    | digits tagged carried => simp [field] at tagged
  · rintro rfl
    exact .same (by simp [field]) rfl

theorem spells_date_iff {f : DateField} {o : DateOperator} {days : Nat} {positive : 0 < days} :
    (Rule.date f o days positive).Spells value ↔
      value = .nat days ∨ value = .real (.finite false (days * Binary64.unitsPerOne)) := by
  constructor
  · intro h
    cases h with
    | same untagged carried => cases carried; exact .inl rfl
    | pointed dated carried => cases carried; exact .inr rfl
    | id tagged carried => simp [field] at tagged
    | digits tagged carried => simp [field] at tagged
  · rintro (rfl | rfl)
    · exact .same (by simp [field]) rfl
    · exact .pointed (by simp [field]) rfl

theorem spells_tag_iff {o : TagOperator} {id : Nat} {positive : 0 < id} :
    (Rule.tag o id positive).Spells value ↔
      value = .nat id ∨ ∃ s, value = .text s ∧ Text.WritesNumber id s := by
  have hcarried : ∀ {slot : String} {n : Nat},
      (Rule.tag o id positive).value? = some (slot, .text (toString n)) → n = id := by
    intro slot n h
    simp only [value?, Option.some.injEq, Prod.mk.injEq, Json.text.injEq] at h
    exact (Text.toString_inj h.2).symm
  constructor
  · intro h
    cases h with
    | same untagged carried => exact absurd rfl untagged
    | pointed dated carried => cases dated
    | id tagged carried => exact .inl (by rw [hcarried carried])
    | digits tagged carried written => exact .inr ⟨_, rfl, hcarried carried ▸ written⟩
  · rintro (rfl | ⟨s, rfl, written⟩)
    · exact .id rfl rfl
    · exact .digits rfl rfl written

theorem Spells.value?_ne_none (h : r.Spells value) : r.value? ≠ none := by
  cases h <;> simp_all

theorem text?_eq_ok (h : text? f o value = .ok r) :
    r.field = f ∧ r.operator = o ∧ r.Spells value := by
  unfold text? at h
  split at h <;> cases h
  rename_i hf ho
  exact ⟨(TextField.eq_toField hf).symm, (TextOperator.eq_toOperator ho).symm,
    spells_text_iff.2 rfl⟩

/-- A number is taken as it is given. -/
theorem ofAmount_of_amount? {a : Amount} (h : value.amount? = some a) : value = .ofAmount a := by
  cases value with
  | int n => cases h; rfl
  | real x => cases x <;> cases h; rfl
  | _ => cases h

theorem number?_eq_ok (h : number? f o value = .ok r) :
    r.field = f ∧ r.operator = o ∧ r.Spells value := by
  unfold number? at h
  split at h
  · cases h
  · cases h
  · rename_i hf ho
    split at h
    · cases h
    · rename_i a ha
      split at h
      · cases h
      · split at h
        · cases h
        · split at h <;> cases h
          rw [ofAmount_of_amount? ha]
          exact ⟨(NumberField.eq_toField hf).symm, (NumberOperator.eq_toOperator ho).symm,
            spells_number_iff.2 rfl⟩

theorem truncate_false (units : Nat) :
    (Binary64.finite false units).truncate = (units / Binary64.unitsPerOne : Nat) := rfl

theorem truncate_true (units : Nat) :
    (Binary64.finite true units).truncate = -(units / Binary64.unitsPerOne : Nat) := rfl

theorem unitsPerOne_pos : 0 < Binary64.unitsPerOne := by
  unfold Binary64.unitsPerOne Binary64.unitsPerHalf
  -- the exponent is too great to compute with
  generalize 1073 = n
  exact Nat.mul_pos (by decide) (Nat.two_pow_pos n)

/-- What is read as a positive whole number of days is one, or a binary number that is one. -/
theorem daysOf_eq_int {n : Int} (h : daysOf value = .int n) (hn : 0 < n.toNat) :
    value = .nat n.toNat ∨ value = .real (.finite false (n.toNat * Binary64.unitsPerOne)) := by
  unfold daysOf at h
  split at h
  · rename_i x
    split at h <;> cases h
    rename_i hwhole
    right
    cases x with
    | finite negative units =>
      have hunits : units / Binary64.unitsPerOne * Binary64.unitsPerOne = units :=
        Nat.div_mul_cancel (Nat.dvd_of_mod_eq_zero (eq_of_beq hwhole))
      cases negative with
      | true =>
        rw [truncate_true, Int.toNat_neg_natCast] at hn
        exact absurd hn (Nat.lt_irrefl 0)
      | false => rw [truncate_false, Int.toNat_natCast, hunits]
    | _ => cases hwhole
  · subst h
    left
    rw [Json.nat, Int.toNat_of_nonneg (by omega)]

/-- Days that are written with a point are whole days. -/
theorem daysOf_pointed (days : Nat) :
    daysOf (.real (.finite false (days * Binary64.unitsPerOne))) = .nat days := by
  have hwhole : (Binary64.finite false (days * Binary64.unitsPerOne)).isWhole = true :=
    beq_iff_eq.2 (Nat.mul_mod_left _ _)
  unfold daysOf
  dsimp only
  rw [if_pos hwhole, truncate_false, Nat.mul_div_cancel _ unitsPerOne_pos]
  rfl

theorem date?_eq_ok (h : date? f o (daysOf value) = .ok r) :
    r.field = f ∧ r.operator = o ∧ r.Spells value := by
  unfold date? at h
  split at h
  · cases h
  · cases h
  · rename_i hf ho hdays
    split at h <;> cases h
    rename_i hpos
    refine ⟨(DateField.eq_toField hf).symm, (DateOperator.eq_toOperator ho).symm, ?_⟩
    exact spells_date_iff.2 (daysOf_eq_int hdays hpos)
  · cases h

/-- A tag's number is read from a number, or from a text that writes it. -/
theorem tagNumber_eq_ok_iff {n : Json} : tagNumber value = .ok n ↔
    (∃ m, value = .int m ∧ n = .int m) ∨
      ∃ s m, value = .text s ∧ n = .nat m ∧ Text.WritesNumber m s := by
  cases value with
  | int m => simp [tagNumber, eq_comm]
  | text s =>
    unfold tagNumber
    dsimp only
    by_cases hdigits : Text.isDigits (Text.trim s) = true
    · rw [if_pos hdigits]
      cases hread : Text.natOfDigits? (Text.trim s) with
      | ok m =>
        have hwrites : ∀ k, Text.WritesNumber k s ↔ m = k := by
          intro k
          rw [Text.writesNumber_iff, hread]
          simp [hdigits]
        simp [hwrites, eq_comm]
      | error fault => simp [Text.writesNumber_iff, hread]
    · simp [hdigits, Text.writesNumber_iff]
  | _ => simp [tagNumber]

theorem tag?_eq_ok {n : Int} (h : tag? o (.int n) = .ok r) :
    ∃ p m positive, n = (m : Nat) ∧ o = TagOperator.toOperator p ∧ r = .tag p m positive := by
  unfold tag? at h
  split at h
  · rename_i ho
    dsimp only at h
    split at h <;> cases h
    rename_i hpos
    exact ⟨_, _, hpos, by omega, TagOperator.eq_toOperator ho, rfl⟩
  · cases h
  · cases h

/-- What is read from a value is a rule that it spells. -/
theorem spells_of_ofSlot (h : ofSlot f o value = .ok r) :
    r.field = f ∧ r.operator = o ∧ r.Spells value := by
  unfold ofSlot at h
  split at h
  · exact text?_eq_ok h
  · exact number?_eq_ok h
  · exact date?_eq_ok h
  · rename_i hcategory
    have hf : f = .tag := by cases f <;> first | rfl | cases hcategory
    subst hf
    obtain ⟨n, hn, h⟩ := exists_of_bind_eq_ok h
    obtain ⟨n, rfl, rfl⟩ | ⟨s, n, rfl, rfl, hwrites⟩ := tagNumber_eq_ok_iff.1 hn
    · obtain ⟨p, m, positive, rfl, rfl, rfl⟩ := tag?_eq_ok h
      exact ⟨rfl, rfl, spells_tag_iff.2 (.inl rfl)⟩
    · obtain ⟨p, m, positive, hm, rfl, rfl⟩ := tag?_eq_ok h
      obtain rfl : n = m := by exact_mod_cast hm
      exact ⟨rfl, rfl, spells_tag_iff.2 (.inr ⟨s, rfl, hwrites⟩)⟩

/-- A value that spells a rule is read as this rule. -/
theorem Spells.ofSlot (hspells : r.Spells value) (hcomparable : r.IsComparable) :
    ofSlot r.field r.operator value = .ok r := by
  unfold Rule.ofSlot
  cases r with
  | text f o s =>
    obtain rfl := spells_text_iff.1 hspells
    simp only [field, operator, category_textField]
    exact text?_toField f o s
  | number f o value admitted =>
    obtain rfl := spells_number_iff.1 hspells
    simp only [field, operator, category_numberField]
    exact number?_toField f o admitted hcomparable
  | date f o days positive =>
    have hdays : daysOf value = .nat days := by
      obtain rfl | rfl := spells_date_iff.1 hspells
      · rfl
      · exact daysOf_pointed days
    simp only [field, operator, category_dateField, hdays]
    exact date?_toField f o positive
  | tag o id positive =>
    have hread : tagNumber value = .ok (.nat id) := by
      obtain rfl | ⟨s, rfl, written⟩ := spells_tag_iff.1 hspells
      · rfl
      · exact tagNumber_eq_ok_iff.2 (.inr ⟨s, id, rfl, rfl, written⟩)
    change tagNumber value >>= tag? o.toOperator = _
    rw [hread]
    exact tag?_toOperator o positive
  | _ => exact absurd rfl hspells.value?_ne_none

/-- **A value is read as the rule that it spells**, unless that compares with too large a number. -/
theorem ofSlot_eq_ok_iff : ofSlot f o value = .ok r ↔
    r.field = f ∧ r.operator = o ∧ r.IsComparable ∧ r.Spells value := by
  constructor
  · intro h
    obtain ⟨hfield, hoperator, hspells⟩ := spells_of_ofSlot h
    exact ⟨hfield, hoperator, (constructed_ofSlot h).isComparable, hspells⟩
  · rintro ⟨rfl, rfl, hcomparable, hspells⟩
    exact hspells.ofSlot hcomparable

/-! ### The grammar -/

/-- The document writes the rule: an object that spells the rule's field and operator, that gives a
value under the keys under which the rule does, and in which this value spells the rule's. -/
structure IsWrittenAs (r : Rule) (j : Json) : Prop where
  /-- It is an object. -/
  object : j.isObject = true
  /-- The field is the rule's. -/
  field : j.get "field" = .text r.field.name
  /-- The operator is the rule's. -/
  operator : j.get "operator" = .text r.operator.name
  /-- Values are given under the keys of the rule's own document, and under no others. -/
  slots : givenSlots j = givenSlots r.toDocument
  /-- They stand for the rule's value. -/
  value : ∀ slot ∈ givenSlots j, r.Spells (j.get slot)

/-- A rule without a value gives none, and any other one gives it under the key of its field. -/
theorem givenSlots_toDocument (r : Rule) : givenSlots r.toDocument = [] ∧ r.value? = none ∨
    givenSlots r.toDocument = [r.field.category.slot] := by
  cases r with
  | text f o s =>
    exact .inr (category_textField f ▸ givenSlots_of_some rfl (slot_mem .text) rfl)
  | number f o value admitted =>
    have hnull : (Json.ofAmount value).isNull = false := by cases value <;> rfl
    exact .inr (category_numberField f ▸ givenSlots_of_some rfl (slot_mem .numeric) hnull)
  | date f o days positive =>
    exact .inr (category_dateField f ▸ givenSlots_of_some rfl (slot_mem .relativeDate) rfl)
  | tag o id positive => exact .inr (givenSlots_of_some rfl (slot_mem .tag) rfl)
  | presence o => exact .inl ⟨rfl, rfl⟩
  | existence f o => exact .inl ⟨rfl, rfl⟩

/-- A rule with a value has an operator that its field takes and that does not stand alone. -/
theorem valued_of_value? (h : r.value? ≠ none) : r.field.category.allows r.operator = true ∧
    ExistenceOperator.ofOperator? r.operator = none ∧
      PresenceOperator.ofOperator? r.operator = none := by
  cases r with
  | text f o s => cases f <;> cases o <;> exact ⟨rfl, rfl, rfl⟩
  | number f o value admitted => cases f <;> cases o <;> exact ⟨rfl, rfl, rfl⟩
  | date f o days positive => cases f <;> cases o <;> exact ⟨rfl, rfl, rfl⟩
  | tag o id positive => cases o <;> exact ⟨rfl, rfl, rfl⟩
  | _ => exact absurd rfl h

/-- What an operator that stands alone gives is written without a value. -/
theorem isWrittenAs_of_alone (object : j.isObject = true) (hf : j.get "field" = .text r.field.name)
    (ho : j.get "operator" = .text r.operator.name) (given : givenSlots j = [])
    (hvalue : r.value? = none) : r.IsWrittenAs j where
  object := object
  field := hf
  operator := ho
  slots := by
    obtain ⟨hslots, -⟩ | hslots := givenSlots_toDocument r
    · rw [given, hslots]
    · cases r <;> first | exact given | cases hvalue
  value slot hslot := by
    rw [given] at hslot
    cases hslot

theorem existence?_eq_ok (h : existence? f o = .ok r) :
    r.field = f ∧ r.operator = o ∧ r.value? = none := by
  unfold existence? at h
  split at h <;> cases h
  rename_i ho
  exact ⟨rfl, (ExistenceOperator.eq_toOperator ho).symm, rfl⟩

theorem eq_tag_of_presence {p : PresenceOperator} (h : f.category.allows p.toOperator = true) :
    f = .tag := by
  cases f <;> cases p <;> first | rfl | cases h

/-- Tags at all are tested for with an operator that only the field of tags takes. -/
theorem tag?_null_eq_ok (h : tag? o .null = .ok r) (allowed : f.category.allows o = true) :
    r.field = f ∧ r.operator = o ∧ r.value? = none := by
  unfold tag? at h
  split at h
  · cases h
  · rename_i ho
    cases h
    rw [PresenceOperator.eq_toOperator ho] at allowed
    exact ⟨(eq_tag_of_presence allowed).symm, (PresenceOperator.eq_toOperator ho).symm, rfl⟩
  · cases h

theorem ofDocument_eq_ok_iff_isWrittenAs :
    ofDocument j = .ok r ↔ r.Constructed ∧ r.IsWrittenAs j := by
  constructor
  · intro h
    refine ⟨constructed_ofDocument h, ?_⟩
    obtain ⟨object, f, o, hf, ho, hreads⟩ := ofDocument_eq_ok_iff.1 h
    cases hreads with
    | existence given alone built =>
      obtain ⟨rfl, rfl, hvalue⟩ := existence?_eq_ok built
      exact isWrittenAs_of_alone object hf ho given hvalue
    | presence given alone allowed built =>
      obtain ⟨rfl, rfl, hvalue⟩ := tag?_null_eq_ok built allowed
      exact isWrittenAs_of_alone object hf ho given hvalue
    | value takes built =>
      obtain ⟨rfl, rfl, -, hspells⟩ := ofSlot_eq_ok_iff.1 built
      refine ⟨object, hf, ho, ?_, ?_⟩
      · obtain ⟨-, hnone⟩ | hslots := givenSlots_toDocument r
        · exact absurd hnone hspells.value?_ne_none
        · rw [takes.given, hslots]
      · intro slot hslot
        rw [takes.given, List.mem_singleton] at hslot
        exact hslot ▸ hspells
  · rintro ⟨hconstructed, hwritten⟩
    refine ofDocument_eq_ok_iff.2
      ⟨hwritten.object, r.field, r.operator, hwritten.field, hwritten.operator, ?_⟩
    obtain ⟨hslots, hnone⟩ | hslots := givenSlots_toDocument r
    · have given : givenSlots j = [] := hwritten.slots.trans hslots
      cases r with
      | presence o => cases o <;> exact .presence given rfl rfl rfl
      | existence f o => cases o <;> exact .existence given rfl rfl
      | _ => cases hnone
    · have given : givenSlots j = [r.field.category.slot] := hwritten.slots.trans hslots
      have hspells := hwritten.value _ (given ▸ List.mem_singleton.2 rfl)
      obtain ⟨allowed, valued⟩ := valued_of_value? hspells.value?_ne_none
      exact .value ⟨allowed, valued, given⟩
        (ofSlot_eq_ok_iff.2 ⟨rfl, rfl, constructed_iff.1 hconstructed, hspells⟩)

/-- A rule is written by its own document, if the number of its tag can be written. -/
theorem isWrittenAs_toDocument (h : r.IsWritable) : r.IsWrittenAs r.toDocument where
  object := rfl
  field := rfl
  operator := rfl
  slots := rfl
  value slot hslot := by
    obtain ⟨hnone, -⟩ | hgiven := givenSlots_toDocument r
    · rw [hnone] at hslot
      cases hslot
    · rw [hgiven, List.mem_singleton] at hslot
      subst hslot
      cases r with
      | text f o s => cases f <;> exact spells_text_iff.2 rfl
      | number f o value admitted => cases f <;> exact spells_number_iff.2 rfl
      | date f o days positive => cases f <;> exact spells_date_iff.2 (.inl rfl)
      | tag o id positive => exact spells_tag_iff.2 (.inr ⟨_, rfl, Text.writesNumber_toString h⟩)
      | _ => cases hgiven

end Rule
end Mixtape
