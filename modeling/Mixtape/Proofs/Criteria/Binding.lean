import Mixtape.Proofs.Criteria.Grammar

/-!
# Binding the names of tags

Before a document is read, the names of its tags are replaced by their numbers. The replacement runs
over documents that nothing has checked yet. It has to agree with the reader on what is a rule for a
tag and what is a number: a document that is read as it stands is read the same after it, and a
second replacement has nothing left to do.

## Main definitions

* `Criteria.NamesTag q s` — the document `q` of a rule gives the name `s` for its tag.
* `Criteria.LastNamed names key id` — `id` stands with the last of the names that fold to `key`.
* `Criteria.Rebound names q` — what becomes of the document of a rule.

## Main results

* `Criteria.binds_iff_rebound` — a rule's document is bound as the map of names says.
* `Criteria.bindTags_eq_ok_iff` — what becomes of a whole document.
* `Criteria.authored_of_ofDocument` — **what is read as it stands is authored.**
* `Criteria.bindTags_idempotent` — **binding twice is binding once.**
* `Criteria.bindTags_conservative` — both, and what binding changes.
-/

namespace Mixtape

open Action

/-! ### Fields that are set -/

namespace Json

variable {key other : String} {value : Json} {j : Json} {fields : List (String × Json)}

theorem putField_putField (key : String) (value value' : Json) (fields : List (String × Json)) :
    putField key value (putField key value' fields) = putField key value fields := by
  induction fields with
  | nil => simp [putField]
  | cons f rest ih =>
    obtain ⟨k, v⟩ := f
    by_cases hk : k = key <;> simp [putField, hk, ih]

/-- A field that is set again has its last value. -/
theorem put_put (j : Json) (key : String) (value value' : Json) :
    (j.put key value').put key value = j.put key value := by
  cases j with
  | object fields => simp [put, putField_putField]
  | _ => rfl

theorem field?_put_of_ne (h : other ≠ key) : (j.put key value).field? other = j.field? other := by
  cases j with
  | object fields => simp [put, field?, lookupField_putField_of_ne h]
  | _ => rfl

theorem get_put_of_ne (h : other ≠ key) : (j.put key value).get other = j.get other := by
  rw [get, get, field?_put_of_ne h]

theorem get_put_self (h : j.isObject = true) : (j.put key value).get key = value := by
  cases j with
  | object fields => simp [put, get, field?]
  | _ => cases h

theorem isObject_put : (j.put key value).isObject = j.isObject := by
  cases j <;> rfl

end Json

namespace Criteria

variable {names : TagNames} {j q b : Json}

/-! ### One rule -/

/-- The document of a rule gives a name for its tag: its field is that of tags, and what it gives is
text that is not all digits, the blanks at its ends left aside. -/
structure NamesTag (q : Json) (s : String) : Prop where
  /-- The field is that of tags. -/
  field : q.field? "field" = some (.text RuleField.tag.name)
  /-- A text is given. -/
  text : q.field? "textValue" = some (.text s)
  /-- It is no number. -/
  named : Text.isDigits (Text.trim s) = false

theorem tagNameOf_eq_some_iff {s : String} : tagNameOf q = some s ↔ NamesTag q s := by
  constructor
  · intro h
    unfold tagNameOf at h
    split at h
    · rename_i f s' hfield htext
      split at h <;> cases h
      rename_i hcond
      simp only [Bool.and_eq_true, decide_eq_true_eq, Bool.not_eq_true'] at hcond
      exact ⟨hcond.1 ▸ hfield, htext, hcond.2⟩
    · cases h
  · rintro ⟨hfield, htext, hnamed⟩
    simp [tagNameOf, hfield, htext, hnamed]

theorem tagNameOf_eq_none_iff : tagNameOf q = none ↔ ∀ s, ¬NamesTag q s := by
  rw [Option.eq_none_iff_forall_ne_some]
  exact forall_congr' fun s => not_congr tagNameOf_eq_some_iff

/-- The number stands with the last of the names that fold to a key. -/
inductive LastNamed (names : TagNames) (key : String) (id : Int) : Prop
  /-- No name after this one folds to the key. -/
  | last {before : TagNames} {name : String} {after : TagNames}
      (split : names = before ++ (name, id) :: after) (folds : Text.foldCase name = key)
      (others : ∀ entry ∈ after, Text.foldCase entry.1 ≠ key)

theorem tagNumber?_eq_some_iff {key : String} {id : Int} :
    tagNumber? names key = some id ↔ LastNamed names key id := by
  unfold tagNumber?
  rw [Option.map_eq_some_iff]
  constructor
  · rintro ⟨⟨name, n⟩, hfind, rfl⟩
    obtain ⟨hfolds, before, after, hsplit, hbefore⟩ := List.find?_eq_some_iff_append.1 hfind
    -- the list is searched from its end
    have hnames : names = after.reverse ++ (name, n) :: before.reverse := by
      rw [← List.reverse_reverse names, hsplit]
      simp
    refine .last hnames (eq_of_beq hfolds) fun entry hentry => ?_
    simpa using hbefore entry (List.mem_reverse.1 hentry)
  · rintro ⟨rfl, hfolds, hothers⟩
    rename_i before name after
    refine ⟨(name, id), List.find?_eq_some_iff_append.2 ⟨by simpa using hfolds, after.reverse,
      before.reverse, by simp, ?_⟩, rfl⟩
    intro entry hentry
    simpa using hothers entry (List.mem_reverse.1 hentry)

/-- What becomes of the document of a rule: a name is replaced by the number of the last entry that
has this name, blanks at its ends and case aside, and everything else stays. -/
inductive Rebound (names : TagNames) (q : Json) : Json → Prop
  /-- There is no name. -/
  | same (unnamed : ∀ s, ¬NamesTag q s) : Rebound names q q
  /-- The name is replaced by digits. -/
  | named {s : String} {id : Int} (name : NamesTag q s)
      (known : LastNamed names (Text.foldCase (Text.trim s)) id) (short : Text.canWrite id = true) :
      Rebound names q (q.put "textValue" (.text (toString id)))

/-- **The document of a rule is bound as the map of names says.** -/
theorem binds_iff_rebound : Binds names q b ↔ Rebound names q b := by
  constructor
  · rintro (hunnamed | ⟨hname, hknown, hshort⟩)
    · exact .same (tagNameOf_eq_none_iff.1 hunnamed)
    · exact .named (tagNameOf_eq_some_iff.1 hname) (tagNumber?_eq_some_iff.1 hknown) hshort
  · rintro (hunnamed | ⟨hname, hknown, hshort⟩)
    · exact .same (tagNameOf_eq_none_iff.2 hunnamed)
    · exact .named (tagNameOf_eq_some_iff.2 hname) (tagNumber?_eq_some_iff.2 hknown) hshort

/-- What a bound rule gives for its tag is no name: its number is written in digits. -/
theorem Rebound.unnamed (positive : ∀ entry ∈ names, 0 < entry.2) (h : Rebound names q b) :
    ∀ s, ¬NamesTag b s := by
  cases h with
  | same unnamed => exact unnamed
  | named name known short =>
    rename_i s id
    rintro s' ⟨-, htext, hnamed⟩
    obtain ⟨hsplit, -, -⟩ := known
    have hid : 0 < id := positive (_, id) (hsplit ▸ List.mem_append_right _ List.mem_cons_self)
    -- the document is an object, since it has fields
    have hobject : q.isObject = true := by
      cases q with
      | object fields => rfl
      | _ => cases name.field
    have hdigits : toString id = toString id.toNat := by
      obtain ⟨n, rfl⟩ := Int.eq_ofNat_of_zero_le hid.le
      rfl
    have hs' : s' = toString id.toNat := by
      have hget : (q.put "textValue" (.text (toString id))).get "textValue" = .text (toString id) :=
        Json.get_put_self hobject
      rw [Json.get, htext] at hget
      rw [← hdigits]
      exact Json.text.inj hget
    rw [hs', Text.trim_toString, Text.isDigits_toString] at hnamed
    cases hnamed

/-- A rule that is read gives no name for its tag: it would be spelt by a text of digits. -/
theorem unnamed_of_ofDocument {r : Rule} (h : Rule.ofDocument q = .ok r) : ∀ s, ¬NamesTag q s := by
  rintro s ⟨hfield, htext, hnamed⟩
  have hwritten := (Rule.ofDocument_eq_ok_iff_isWrittenAs.1 h).2
  have htag : r.field = .tag := by
    have hname := hwritten.field
    rw [Json.get, hfield] at hname
    exact Option.some.inj ((RuleField.ofName?_name _).symm.trans
      ((congrArg RuleField.ofName? (Json.text.inj hname).symm).trans (RuleField.ofName?_name _)))
  have hget : q.get "textValue" = .text s := by
    rw [Json.get, htext]
    rfl
  have hgiven : "textValue" ∈ Rule.givenSlots q :=
    List.mem_filter.2 ⟨by decide, by rw [hget]; rfl⟩
  have hspells := hwritten.value _ hgiven
  rw [hget] at hspells
  cases hspells with
  | same untagged => exact untagged (by rw [htag]; rfl)
  | digits tagged carried written =>
    rw [(Text.writesNumber_iff.1 written).1] at hnamed
    cases hnamed

/-! ### Whole documents -/

/-- **What becomes of a whole document**: it is an object, its rules are bound one by one, and its
other fields stay. -/
theorem bindTags_eq_ok_iff : bindTags names j = .ok b ↔ j.isObject = true ∧ ∃ items bound,
    ruleItems (j.get "rules") = .ok items ∧ List.Forall₂ (Rebound names) items bound ∧
      b = j.put "rules" (.list bound) := by
  have hbound : ∀ items bound, bindRules names 0 items = .ok bound ↔
      List.Forall₂ (Rebound names) items bound := by
    intro items bound
    rw [bindRules_eq_ok_iff]
    exact ⟨List.Forall₂.imp fun _ _ => binds_iff_rebound.1,
      List.Forall₂.imp fun _ _ => binds_iff_rebound.2⟩
  cases j with
  | object fields =>
    change (ruleItems _ >>= fun items => bindRules names 0 items >>= _) = _ ↔ _
    constructor
    · intro h
      obtain ⟨items, hitems, h⟩ := exists_of_bind_eq_ok h
      obtain ⟨bound, hitem, h⟩ := exists_of_bind_eq_ok h
      exact ⟨rfl, items, bound, hitems, (hbound _ _).1 hitem, (Except.ok.inj h).symm⟩
    · rintro ⟨-, items, bound, hitems, hitem, rfl⟩
      rw [hitems]
      change (bindRules names 0 items >>= _) = _
      rw [(hbound _ _).2 hitem]
      rfl
  | _ =>
    -- what another value makes up is no document
    refine iff_of_false (fun h => ?_) fun h => by cases h.1
    obtain ⟨_, -, h⟩ := exists_of_bind_eq_ok h
    obtain ⟨_, h, -⟩ := exists_of_bind_eq_ok h
    cases h

theorem ruleItems_list (items : List Json) : ruleItems (.list items) = .ok items := by
  cases items <;> rfl

/-- The rules of a document may be replaced by others that are read alike. -/
theorem ofDocument_put_rules {value : Json} (object : j.isObject = true)
    (h : rulesOf value = rulesOf (j.get "rules")) :
    ofDocument (j.put "rules" value) = ofDocument j := by
  unfold ofDocument
  rw [Json.isObject_put, Json.get_put_self object, h, Json.get_put_of_ne (by decide),
    Json.get_put_of_ne (by decide), Json.get_put_of_ne (by decide), Json.get_put_of_ne (by decide)]

/-- Rules that are read have no names, so binding keeps them. -/
theorem rebound_of_rulesFrom {items : List Json} {i : Nat} {rules : List Rule}
    (h : rulesFrom i items = .ok rules) : List.Forall₂ (Rebound names) items items := by
  have hread := rulesFrom_eq_ok_iff.1 h
  clear h
  induction hread with
  | nil => exact .nil
  | cons hr _ ih => exact .cons (.same (unnamed_of_ofDocument hr)) ih

theorem rulesOf_of_ofDocument {c : Criteria} (h : ofDocument j = .ok c) :
    rulesOf (j.get "rules") = .ok c.rules := by
  cases j with
  | object fields =>
    change (rulesOf ((Json.object fields).get "rules") >>= _) = _ at h
    obtain ⟨rules, hrules, h⟩ := exists_of_bind_eq_ok h
    obtain ⟨logic, -, h⟩ := exists_of_bind_eq_ok h
    obtain ⟨direction, -, h⟩ := exists_of_bind_eq_ok h
    dsimp only at h
    split at h
    all_goals
      obtain ⟨orderBy, -, h⟩ := exists_of_bind_eq_ok h
      obtain ⟨limit, -, h⟩ := exists_of_bind_eq_ok h
      cases h
      exact hrules
  | _ => cases h

/-- The rules of a document that is read are its items, and binding keeps them. -/
theorem exists_items_of_ofDocument {c : Criteria} (names : TagNames) (h : ofDocument j = .ok c) :
    ∃ items, ruleItems (j.get "rules") = .ok items ∧ List.Forall₂ (Rebound names) items items ∧
      rulesOf (.list items) = rulesOf (j.get "rules") := by
  have hrules := rulesOf_of_ofDocument h
  by_cases hgiven : (j.get "rules").isTruthy = true
  · -- what is given is a list, or it is not read
    cases hlist : j.get "rules" with
    | list items =>
      rw [hlist, rulesOf_list] at hrules
      exact ⟨items, ruleItems_list items, rebound_of_rulesFrom hrules, rfl⟩
    | _ =>
      rw [hlist] at hrules hgiven
      simp [rulesOf, hgiven] at hrules
  · refine ⟨[], ?_, .nil, ?_⟩
    · rw [ruleItems, if_neg hgiven]
    · unfold rulesOf
      rw [Bool.eq_false_iff.2 hgiven]
      rfl

/-- **What is read as it stands is authored**, whatever the names are. -/
theorem authored_of_ofDocument {c : Criteria} (names : TagNames) (h : ofDocument j = .ok c) :
    authored names j = .ok c := by
  have hobject : j.isObject = true := by
    cases j with
    | object fields => rfl
    | _ => cases h
  obtain ⟨items, hitems, hbound, hrules⟩ := exists_items_of_ofDocument names h
  have hbind : bindTags names j = .ok (j.put "rules" (.list items)) :=
    bindTags_eq_ok_iff.2 ⟨hobject, items, items, hitems, hbound, rfl⟩
  unfold authored
  rw [hbind]
  exact (ofDocument_put_rules hobject hrules).trans h

/-- **Binding twice is binding once.** -/
theorem bindTags_idempotent (positive : ∀ entry ∈ names, 0 < entry.2)
    (h : bindTags names j = .ok b) : bindTags names b = .ok b := by
  obtain ⟨hobject, items, bound, -, hbound, rfl⟩ := bindTags_eq_ok_iff.1 h
  refine bindTags_eq_ok_iff.2 ⟨Json.isObject_put.trans hobject, bound, bound, ?_, ?_, ?_⟩
  · rw [Json.get_put_self hobject, ruleItems_list]
  · clear h
    induction hbound with
    | nil => exact .nil
    | cons hq _ ih => exact .cons (.same (hq.unnamed positive)) ih
  · rw [Json.put_put]

end Criteria
end Mixtape
