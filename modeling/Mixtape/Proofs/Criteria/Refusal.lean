import Mixtape.Criteria.TagBinding
import Mixtape.Proofs.Action
import Mixtape.Proofs.Criteria.Faults
import Mathlib.Data.List.Forall2

/-!
# How documents are refused

Criteria are read from a document step by step: the names of tags are replaced, one rule after
another is read, and then the logic, the direction, the order field and the limit. The first step
that fails ends the reading, and most failures are refusals. What escapes is the failure of a step
that neither reads its part of the document nor refuses it: rules that are a number, a tag whose
number is too long to be written, a rule that breaks the reading, or a word that cannot be shown.

## Main definitions

* `IsPass step pass` — a pass over a list, step by step.
* `Criteria.Binds`, `Criteria.BreaksBinding` — a rule with its tag's name replaced, and one whose
  tag's number cannot be written.
* `Criteria.BreaksWord` — the documents whose words are neither read nor refused.
* `Criteria.BreaksDocument` — the documents that are neither read nor refused.

## Main results

* `IsPass.eq_ok_iff`, `IsPass.fails_iff` — a pass that succeeds, and one that fails.
* `Criteria.fails_ofDocument_iff` — a document whose tags go by number.
* `Criteria.authored_settles_iff` — **authoring gives criteria or a refusal exactly for the
  documents that do not break the reading.**
* `Criteria.not_authored_settles` — a document that does.
-/

namespace Mixtape

/-! ### Lists of rules -/

/-- A pass over a list takes a step for every item, and ends with the first that fails. -/
structure IsPass {α β : Type} (step : Nat → α → Except Failure β)
    (pass : Nat → List α → Except Failure (List β)) : Prop where
  /-- There is no step. -/
  nil : ∀ i, pass i [] = .ok []
  /-- One step, and then the others. -/
  cons : ∀ i a rest, pass i (a :: rest) =
    step i a >>= fun b => pass (i + 1) rest >>= fun bs => pure (b :: bs)

namespace IsPass

variable {α β : Type} {P : Failure → Prop} {step : Nat → α → Except Failure β}
  {pass : Nat → List α → Except Failure (List β)} (h : IsPass step pass)
include h

/-- A pass succeeds with the results of its steps. -/
theorem eq_ok_iff {R : α → β → Prop} (hstep : ∀ i a b, step i a = .ok b ↔ R a b) (i : Nat)
    {items : List α} {results : List β} :
    pass i items = .ok results ↔ List.Forall₂ R items results := by
  induction items generalizing i results with
  | nil =>
    rw [h.nil, List.forall₂_nil_left_iff]
    exact ⟨fun h => (Except.ok.inj h).symm, fun h => h ▸ rfl⟩
  | cons a rest ih =>
    rw [h.cons, List.forall₂_cons_left_iff]
    constructor
    · intro hok
      obtain ⟨b, hb, hok⟩ := Action.exists_of_bind_eq_ok hok
      obtain ⟨bs, hbs, hok⟩ := Action.exists_of_bind_eq_ok hok
      exact ⟨b, bs, (hstep i a b).1 hb, (ih (i + 1)).1 hbs, (Except.ok.inj hok).symm⟩
    · rintro ⟨b, bs, hb, hbs, rfl⟩
      rw [(hstep i a b).2 hb, show pass (i + 1) rest = .ok bs from (ih (i + 1)).2 hbs]
      rfl

/-- A pass fails in a way that has a property when the first step that fails does. -/
theorem fails_iff {Good Bad : α → Prop} (hgood : ∀ i a, (∃ b, step i a = .ok b) ↔ Good a)
    (hbad : ∀ i a, Fails P (step i a) ↔ Bad a) (i : Nat) {items : List α} :
    Fails P (pass i items) ↔
      ∃ before a after, items = before ++ a :: after ∧ (∀ b ∈ before, Good b) ∧ Bad a := by
  induction items generalizing i with
  | nil =>
    rw [h.nil]
    refine iff_of_false not_fails_ok ?_
    rintro ⟨before, a, after, hitems, -⟩
    simp at hitems
  | cons a rest ih =>
    rw [h.cons, fails_bind_iff, hbad]
    constructor
    · rintro (hbad | ⟨b, hb, hrest⟩)
      · exact ⟨[], a, rest, rfl, by simp, hbad⟩
      · obtain hrest | ⟨_, _, hnone⟩ := fails_bind_iff.1 hrest
        · obtain ⟨before, q, after, rfl, hbefore, hq⟩ := (ih (i + 1)).1 hrest
          exact ⟨a :: before, q, after, rfl,
            List.forall_mem_cons.2 ⟨(hgood i a).1 ⟨b, hb⟩, hbefore⟩, hq⟩
        · exact absurd hnone not_fails_ok
    · rintro ⟨before, q, after, hitems, hbefore, hq⟩
      cases before with
      | nil =>
        cases hitems
        exact .inl hq
      | cons _ before =>
        cases hitems
        obtain ⟨ha, hbefore⟩ := List.forall_mem_cons.1 hbefore
        obtain ⟨b, hb⟩ := (hgood i a).2 ha
        exact .inr ⟨b, hb, fails_bind_iff.2
          (.inl ((ih (i + 1)).2 ⟨before, q, after, rfl, hbefore, hq⟩))⟩

end IsPass

namespace Criteria

variable {names : TagNames} {j q b : Json} {i : Nat}

/-- `b` is the document `q` of a rule with the name of its tag, if it has one, replaced by the tag's
number. -/
inductive Binds (names : TagNames) (q : Json) : Json → Prop
  /-- There is no name. -/
  | same (unnamed : tagNameOf q = none) : Binds names q q
  /-- The name is known, and its number can be written. -/
  | named {s : String} {id : Int} (name : tagNameOf q = some s)
      (known : tagNumber? names (Text.foldCase (Text.trim s)) = some id)
      (short : Text.canWrite id = true) :
      Binds names q (q.put "textValue" (.text (toString id)))

/-- The tag of a rule's document goes by a name whose number cannot be written. -/
def BreaksBinding (names : TagNames) (q : Json) : Prop :=
  ∃ s id, tagNameOf q = some s ∧ tagNumber? names (Text.foldCase (Text.trim s)) = some id ∧
    ¬Text.canWrite id = true

theorem bindRule_eq_ok_iff : bindRule names i q = .ok b ↔ Binds names q b := by
  constructor
  · intro h
    unfold bindRule at h
    split at h
    · rename_i hunnamed
      cases h
      exact .same hunnamed
    · rename_i s hname
      split at h
      · rename_i id hknown
        split at h
        · rename_i hshort
          cases h
          exact .named hname hknown hshort
        · cases h
      · cases h
  · rintro (hunnamed | ⟨hname, hknown, hshort⟩)
    · rw [bindRule, hunnamed]
    · simp only [bindRule, hname, hknown, hshort, if_true]

theorem fails_bindRule_iff :
    Fails Failure.Escapes (bindRule names i q) ↔ BreaksBinding names q := by
  unfold bindRule BreaksBinding
  cases tagNameOf q with
  | none => simp
  | some s =>
    cases hid : tagNumber? names (Text.foldCase (Text.trim s)) with
    | none => simp [hid, Failure.not_escapes_invalid]
    | some id =>
      simp only [Option.some.injEq, hid]
      split
      · simp_all
      · simp_all [Failure.Escapes]

theorem isPass_bindRules : IsPass (bindRule names) (bindRules names) where
  nil _ := rfl
  cons _ _ _ := rfl

theorem isPass_rulesFrom : IsPass (fun i => Rule.ofDocumentAt (some (rulePath i))) rulesFrom where
  nil _ := rfl
  cons _ _ _ := rfl

theorem fails_ofDocumentAt_iff {path : Option String} :
    Fails Failure.Escapes (Rule.ofDocumentAt path j) ↔ BreaksRule j := by
  rw [Rule.ofDocumentAt, fails_mapError_iff]
  simp only [RuleFault.escapes_failure_iff]
  exact Rule.fails_ofDocument_iff

theorem ofDocumentAt_eq_ok_iff {path : Option String} {r : Rule} :
    Rule.ofDocumentAt path j = .ok r ↔ Rule.ofDocument j = .ok r := by
  rw [Rule.ofDocumentAt]
  cases Rule.ofDocument j <;> simp [Except.mapError]

/-! ### Whole documents -/

/-- What does not count as given can be shown. -/
theorem isShowable_of_not_isTruthy (h : ¬j.isTruthy = true) : j.isShowable = true := by
  cases j with
  | int n =>
    have hn : n = 0 := by simpa [Json.isTruthy] using h
    subst hn
    rw [Json.isShowable, Text.canWrite]
    generalize Text.maxDigits = digits
    exact decide_eq_true (Nat.pow_pos (by decide))
  | list items =>
    cases items with
    | nil => rfl
    | cons a rest => simp [Json.isTruthy] at h
  | object fields =>
    cases fields with
    | nil => rfl
    | cons a rest => simp [Json.isTruthy] at h
  | _ => rfl

/-- A word is left out, or a text spells it in some case. -/
def HasWord {α : Type} (ofName? : String → Option α) (j : Json) : Prop :=
  ¬j.isTruthy = true ∨ ∃ s a, j = .text s ∧ ofName? (Text.lower s) = some a

section Words

variable {α : Type} {ofName? : String → Option α} {missing : α} {key title : String}

theorem exists_wordOf_iff :
    (∃ a, wordOf ofName? missing key title j = .ok a) ↔ HasWord ofName? j := by
  unfold wordOf HasWord
  by_cases hgiven : j.isTruthy = true
  · simp only [hgiven, Bool.not_true, Bool.false_eq_true, if_false, not_true, false_or]
    cases j with
    | text s => cases hname : ofName? (Text.lower s) <;> simp [hname]
    | _ => simp
  · rw [if_pos (by simpa using hgiven)]
    exact iff_of_true ⟨missing, rfl⟩ (.inl hgiven)

theorem fails_wordOf_iff :
    Fails Failure.Escapes (wordOf ofName? missing key title j) ↔ ¬j.isShowable = true := by
  unfold wordOf
  by_cases hgiven : j.isTruthy = true
  · simp only [hgiven, Bool.not_true, Bool.false_eq_true, if_false]
    cases j with
    | text s =>
      dsimp only
      rw [fails_elim_iff]
      exact iff_of_false (fun h => Failure.not_escapes_invalid h.2) fun h => h rfl
    | _ => exact fails_error_iff.trans Failure.escapes_showing_iff
  · rw [if_pos (by simpa using hgiven)]
    exact iff_of_false not_fails_ok fun h => h (isShowable_of_not_isTruthy hgiven)

end Words

theorem fails_orderFieldOf_iff :
    Fails Failure.Escapes (orderFieldOf j) ↔ ¬j.isShowable = true := by
  cases j with
  | text s =>
    rw [orderFieldOf, fails_elim_iff]
    exact iff_of_false (fun h => Failure.not_escapes_invalid h.2) fun h => h rfl
  | _ => exact fails_error_iff.trans Failure.escapes_showing_iff

theorem not_fails_limitOf : ¬Fails Failure.Escapes (limitOf j) := by
  unfold limitOf
  repeat' split
  all_goals simp [Failure.not_escapes_invalid]

theorem rulesOf_list (items : List Json) : rulesOf (.list items) = rulesFrom 0 items := by
  cases items <;> rfl

/-- The documents whose words cannot be read, and that are not refused either: one cannot be shown,
and those before it are read. -/
inductive BreaksWord (j : Json) : Prop
  /-- The logic cannot be shown. -/
  | logic (long : ¬(j.get "logic").isShowable = true)
  /-- The direction cannot be shown. -/
  | direction (logic : HasWord Logic.ofName? (j.get "logic"))
      (long : ¬(j.get "orderDirection").isShowable = true)
  /-- The order field cannot be shown. -/
  | orderBy (logic : HasWord Logic.ofName? (j.get "logic"))
      (direction : HasWord Direction.ofName? (j.get "orderDirection"))
      (long : ¬(j.get "orderBy").isShowable = true)

theorem breaksWord_iff : BreaksWord j ↔
    ¬(j.get "logic").isShowable = true ∨ HasWord Logic.ofName? (j.get "logic") ∧
      (¬(j.get "orderDirection").isShowable = true ∨
        HasWord Direction.ofName? (j.get "orderDirection") ∧
          ¬(j.get "orderBy").isShowable = true) := by
  constructor
  · rintro (long | ⟨hlogic, long⟩ | ⟨hlogic, hdirection, long⟩)
    · exact .inl long
    · exact .inr ⟨hlogic, .inl long⟩
    · exact .inr ⟨hlogic, .inr ⟨hdirection, long⟩⟩
  · rintro (long | ⟨hlogic, long | ⟨hdirection, long⟩⟩)
    · exact .logic long
    · exact .direction hlogic long
    · exact .orderBy hlogic hdirection long

/-- **A document whose tags go by number** is read, or refused, unless a rule breaks the reading, or
a word does. -/
theorem fails_ofDocument_iff (object : j.isObject = true) :
    Fails Failure.Escapes (ofDocument j) ↔
      Fails Failure.Escapes (rulesOf (j.get "rules")) ∨
        (∃ rs, rulesOf (j.get "rules") = .ok rs) ∧ BreaksWord j := by
  unfold ofDocument
  simp only [object, Bool.not_true, Bool.false_eq_true, if_false]
  refine fails_then_iff fun rules => ?_
  rw [breaksWord_iff, ← fails_wordOf_iff, ← exists_wordOf_iff]
  refine fails_then_iff fun logic => ?_
  rw [← fails_wordOf_iff, ← exists_wordOf_iff]
  refine fails_then_iff fun direction => ?_
  -- a limit is read or refused
  have hlimit : ∀ orderBy, ¬Fails Failure.Escapes (limitOf (j.get "limit") >>= fun limit =>
      (pure { rules, logic, orderBy, direction, limit := limit.val, limit_pos := limit.property } :
        Except Failure Criteria)) := by
    intro orderBy h
    obtain h | ⟨_, _, h⟩ := fails_bind_iff.1 h
    · exact not_fails_limitOf h
    · exact not_fails_ok h
  split
  · rw [← fails_orderFieldOf_iff, fails_bind_iff]
    exact or_iff_left fun ⟨orderBy, _, h⟩ => hlimit orderBy h
  · rename_i hgiven
    exact iff_of_false (hlimit .dateAdded) fun h => h (isShowable_of_not_isTruthy hgiven)

theorem fails_ruleItems_iff : Fails Failure.Escapes (ruleItems j) ↔
    j.isTruthy = true ∧ j.number?.isSome = true := by
  have hone : ∀ r : Except Failure (List Json), j.elements = r →
      (Fails Failure.Escapes (ruleItems j) ↔ j.isTruthy = true ∧ Fails Failure.Escapes r) := by
    rintro _ rfl
    simp [ruleItems, fails_ite_iff]
  rw [hone _ rfl]
  cases j <;> simp [Json.elements, Json.number?, Failure.Escapes, Json.isTruthy]

theorem fails_rulesFrom_iff {bound : List Json} :
    Fails Failure.Escapes (rulesFrom i bound) ↔ ∃ before q after, bound = before ++ q :: after ∧
      (∀ b ∈ before, ∃ r, Rule.ofDocument b = .ok r) ∧ BreaksRule q :=
  isPass_rulesFrom.fails_iff (fun _ _ => exists_congr fun _ => ofDocumentAt_eq_ok_iff)
    (fun _ _ => fails_ofDocumentAt_iff) i

theorem rulesFrom_eq_ok_iff {bound : List Json} {rules : List Rule} :
    rulesFrom i bound = .ok rules ↔
      List.Forall₂ (fun b r => Rule.ofDocument b = .ok r) bound rules :=
  isPass_rulesFrom.eq_ok_iff (fun _ _ _ => ofDocumentAt_eq_ok_iff) i

theorem fails_bindRules_iff {items : List Json} :
    Fails Failure.Escapes (bindRules names i items) ↔ ∃ before q after,
      items = before ++ q :: after ∧ (∀ a ∈ before, ∃ b, Binds names a b) ∧ BreaksBinding names q :=
  isPass_bindRules.fails_iff (fun _ _ => exists_congr fun _ => bindRule_eq_ok_iff)
    (fun _ _ => fails_bindRule_iff) i

theorem bindRules_eq_ok_iff {items bound : List Json} :
    bindRules names i items = .ok bound ↔ List.Forall₂ (Binds names) items bound :=
  isPass_bindRules.eq_ok_iff (fun _ _ _ => bindRule_eq_ok_iff) i

/-- The rules of a document, `bound` with the names of their tags replaced, are all read. -/
def ReadsRules (names : TagNames) (j : Json) : Prop :=
  ∃ items bound rules, ruleItems (j.get "rules") = .ok items ∧
    List.Forall₂ (Binds names) items bound ∧
      List.Forall₂ (fun b r => Rule.ofDocument b = .ok r) bound rules

/-- The documents with tag names no criteria can be read from, and that are not refused either. -/
inductive BreaksDocument (names : TagNames) (j : Json) : Prop
  /-- A number, or a truth value, is given for the rules. -/
  | rules (given : (j.get "rules").isTruthy = true)
      (number : (j.get "rules").number?.isSome = true)
  /-- A name cannot be replaced, and those before it can. -/
  | binding {before : List Json} {q : Json} {after : List Json}
      (given : ruleItems (j.get "rules") = .ok (before ++ q :: after))
      (bound : ∀ a ∈ before, ∃ b, Binds names a b) (breaks : BreaksBinding names q)
  /-- A rule cannot be read, and those before it are. -/
  | rule {items before : List Json} {q : Json} {after : List Json}
      (given : ruleItems (j.get "rules") = .ok items)
      (bound : List.Forall₂ (Binds names) items (before ++ q :: after))
      (read : ∀ b ∈ before, ∃ r, Rule.ofDocument b = .ok r) (breaks : BreaksRule q)
  /-- The rules are read, and a word cannot be. -/
  | word (read : ReadsRules names j) (breaks : BreaksWord j)

theorem authored_object (names : TagNames) (fields : List (String × Json)) :
    authored names (.object fields) =
      ruleItems ((Json.object fields).get "rules") >>= fun items =>
        bindRules names 0 items >>= fun bound =>
          ofDocument ((Json.object fields).put "rules" (.list bound)) := by
  simp only [authored, bindTags, Json.asObject, Json.requireObject, bind_assoc, pure_bind]
  rfl

/-- A document whose rules are replaced by bound ones. -/
theorem fails_ofDocument_put_iff {fields : List (String × Json)} {bound : List Json} :
    Fails Failure.Escapes (ofDocument ((Json.object fields).put "rules" (.list bound))) ↔
      (∃ before q after, bound = before ++ q :: after ∧
        (∀ b ∈ before, ∃ r, Rule.ofDocument b = .ok r) ∧ BreaksRule q) ∨
      (∃ rules, List.Forall₂ (fun b r => Rule.ofDocument b = .ok r) bound rules) ∧
        BreaksWord (.object fields) := by
  have hget : ∀ key, key ≠ "rules" →
      ((Json.object fields).put "rules" (.list bound)).get key = (Json.object fields).get key := by
    intro key hkey
    simp [Json.put, Json.get, Json.field?, Json.lookupField_putField_of_ne hkey]
  have hrules : ((Json.object fields).put "rules" (.list bound)).get "rules" = .list bound := by
    simp [Json.put, Json.get, Json.field?]
  have hword : BreaksWord ((Json.object fields).put "rules" (.list bound)) ↔
      BreaksWord (.object fields) := by
    simp only [breaksWord_iff, hget "logic" (by decide), hget "orderDirection" (by decide),
      hget "orderBy" (by decide)]
  rw [fails_ofDocument_iff rfl, hrules, rulesOf_list, fails_rulesFrom_iff, hword]
  simp only [rulesFrom_eq_ok_iff]

/-- **A document with tag names** is read or refused, unless it is one that breaks the reading. -/
theorem fails_authored_iff (names : TagNames) (fields : List (String × Json)) :
    Fails Failure.Escapes (authored names (.object fields)) ↔
      BreaksDocument names (.object fields) := by
  rw [authored_object, fails_bind_iff, fails_ruleItems_iff]
  simp only [fails_bind_iff, fails_bindRules_iff, bindRules_eq_ok_iff, fails_ofDocument_put_iff]
  constructor
  · rintro (⟨given, number⟩ | ⟨items, hitems, hbind | ⟨bound, hbound, hread⟩⟩)
    · exact .rules given number
    · obtain ⟨before, q, after, rfl, hbefore, hq⟩ := hbind
      exact .binding hitems hbefore hq
    · obtain ⟨before, q, after, rfl, hbefore, hq⟩ | ⟨⟨rules, hrules⟩, hword⟩ := hread
      · exact .rule hitems hbound hbefore hq
      · exact .word ⟨items, bound, rules, hitems, hbound, hrules⟩ hword
  · rintro (⟨given, number⟩ | ⟨hitems, hbefore, hq⟩ | ⟨hitems, hbound, hbefore, hq⟩ |
      ⟨⟨items, bound, rules, hitems, hbound, hrules⟩, hword⟩)
    · exact .inl ⟨given, number⟩
    · exact .inr ⟨_, hitems, .inl ⟨_, _, _, rfl, hbefore, hq⟩⟩
    · exact .inr ⟨_, hitems, .inr ⟨_, hbound, .inl ⟨_, _, _, rfl, hbefore, hq⟩⟩⟩
    · exact .inr ⟨items, hitems, .inr ⟨bound, hbound, .inr ⟨⟨rules, hrules⟩, hword⟩⟩⟩

end Criteria

end Mixtape
