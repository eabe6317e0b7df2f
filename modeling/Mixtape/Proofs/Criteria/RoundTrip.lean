import Mixtape.Criteria.Basic
import Mixtape.Proofs.Criteria.Refusal
import Mixtape.Proofs.Database.Playlists
import Mixtape.Proofs.Text.Numeral

/-!
# Criteria are read back

A rule is built by one of five constructors, which check that field, operator and value fit. The
reader of documents checks the same in another order, over other representations: a value is looked
up under the key of its category, the id of a tag is written as a text of digits. Both accept the same
rules, so criteria that are written as a document are read back from it.

## Main definitions

* `Rule.Constructed`, `Criteria.Constructed` — built by the constructors.
* `Rule.IsWritable`, `Criteria.IsWritable` — the ids of tags are short enough to be written.
* `PlaylistRun` — a history of the table of smart playlists.

## Main results

* `Rule.Constructed.ofDocument_toDocument` — **a rule is read back.**
* `Rule.constructed_ofDocument`, `Criteria.constructed_ofDocument` — what is read was built.
* `PlaylistRun.stored` — every stored playlist holds criteria that are read back.
* `criteria_read_back` — **criteria are read back, from their documents and from the database.**
-/

namespace Mixtape

open Action

/-! ### What the constructors build -/

/-- A rule that one of the constructors builds. -/
inductive Rule.Constructed (r : Rule) : Prop
  /-- A comparison of texts. -/
  | text (f : RuleField) (o : RuleOperator) (value : Json) (built : Rule.text? f o value = .ok r)
  /-- A comparison of numbers. -/
  | number (f : RuleField) (o : RuleOperator) (value : Json) (built : Rule.number? f o value = .ok r)
  /-- A test of a date. -/
  | date (f : RuleField) (o : RuleOperator) (days : Json) (built : Rule.date? f o days = .ok r)
  /-- A test for one tag, or for tags at all. -/
  | tag (o : RuleOperator) (id : Json) (built : Rule.tag? o id = .ok r)
  /-- A test for a value at all. -/
  | existence (f : RuleField) (o : RuleOperator) (built : Rule.existence? f o = .ok r)

/-- Criteria that are built from rules that are built. -/
def Criteria.Constructed (c : Criteria) : Prop :=
  ∃ (rules : List (Option Rule)) (logic orderBy direction limit : Json),
    (∀ r, some r ∈ rules → r.Constructed) ∧
      Criteria.ofParts rules logic orderBy direction limit = .ok c

/-- The id of the tag that a rule tests for, if it does, is short enough to be written. -/
def Rule.IsWritable : Rule → Prop
  | .tag _ id _ => Text.canWrite id = true
  | _ => True

/-- The ids of the tags that are tested for are short enough to be written. -/
def Criteria.IsWritable (c : Criteria) : Prop := ∀ r ∈ c.rules, r.IsWritable

namespace Rule

variable {r : Rule}

/-- A number that is compared can be compared: it is not too large. -/
def IsComparable : Rule → Prop
  | .number _ _ value _ => value.overflows = false
  | _ => True

/-- The constructors refuse what is too large. -/
theorem Constructed.isComparable (h : r.Constructed) : r.IsComparable := by
  -- the last branch of each constructor is the one that builds
  cases h with
  | text f o value built =>
    unfold Rule.text? at built
    split at built <;> cases built
    trivial
  | number f o value built =>
    unfold Rule.number? at built
    split at built
    · cases built
    · cases built
    · split at built
      · cases built
      · split at built
        · cases built
        · rename_i hsmall
          split at built
          · cases built
          · split at built <;> cases built
            exact Bool.eq_false_iff.2 hsmall
  | date f o days built =>
    unfold Rule.date? at built
    split at built
    · cases built
    · cases built
    · split at built <;> cases built
      trivial
    · cases built
  | tag o id built =>
    unfold Rule.tag? at built
    split at built
    · split at built
      · split at built <;> cases built
        trivial
      · cases built
    · split at built <;> cases built
      trivial
    · cases built
  | existence f o built =>
    unfold Rule.existence? at built
    split at built <;> cases built
    trivial

/-! ### One constructor for each form -/

theorem text?_toField (f : TextField) (o : TextOperator) (s : String) :
    text? f.toField o.toOperator (.text s) = .ok (.text f o s) := by
  unfold text?
  rw [TextField.ofField?_toField, TextOperator.ofOperator?_toOperator]

theorem number?_toField (f : NumberField) (o : NumberOperator) {value : Amount}
    (admitted : f.Admits value) (comparable : value.overflows = false) :
    number? f.toField o.toOperator (.ofAmount value) = .ok (.number f o value admitted) := by
  unfold number?
  rw [NumberField.ofField?_toField, NumberOperator.ofOperator?_toOperator]
  dsimp only
  rw [Json.amount?_ofAmount]
  dsimp only
  rw [comparable, if_neg Bool.false_ne_true, if_neg (Int.not_lt.2 admitted.1), dif_pos admitted]

theorem date?_toField (f : DateField) (o : DateOperator) {days : Nat} (positive : 0 < days) :
    date? f.toField o.toOperator (.nat days) = .ok (.date f o days positive) := by
  unfold date? Json.nat
  rw [DateField.ofField?_toField, DateOperator.ofOperator?_toOperator]
  dsimp only
  rw [dif_pos (by simpa using positive)]
  rfl

theorem tag?_toOperator (o : TagOperator) {id : Nat} (positive : 0 < id) :
    tag? o.toOperator (.nat id) = .ok (.tag o id positive) := by
  unfold tag? Json.nat
  rw [TagOperator.ofOperator?_toOperator]
  dsimp only
  rw [dif_pos (by simpa using positive)]
  rfl

/-- **The constructors build every rule** but those whose number is too large. -/
theorem constructed_iff : r.Constructed ↔ r.IsComparable := by
  refine ⟨Constructed.isComparable, fun h => ?_⟩
  cases r with
  | text f o s => exact .text _ _ _ (text?_toField f o s)
  | number f o value admitted => exact .number _ _ _ (number?_toField f o admitted h)
  | date f o days positive => exact .date _ _ _ (date?_toField f o positive)
  | tag o id positive => exact .tag _ _ (tag?_toOperator o positive)
  | presence o => exact .tag o.toOperator .null (by cases o <;> rfl)
  | existence f o => exact .existence f o.toOperator (by cases o <;> rfl)

/-! ### Documents of rules -/

theorem fieldOf_name (f : RuleField) : fieldOf (.text f.name) = .ok f := by
  unfold fieldOf
  dsimp only
  rw [RuleField.ofName?_name]
  rfl

theorem operatorOf_name (o : RuleOperator) : operatorOf (.text o.name) = .ok o := by
  unfold operatorOf
  dsimp only
  rw [RuleOperator.ofName?_name]
  rfl

theorem get_field (r : Rule) : r.toDocument.get "field" = .text r.field.name := rfl

theorem get_operator (r : Rule) : r.toDocument.get "operator" = .text r.operator.name := rfl

theorem slot_mem (c : FieldCategory) : c.slot ∈ FieldCategory.slots := by
  cases c <;> decide

/-- What a rule carries is given under its own key, and under no other. -/
theorem get_slot {slot : String} {value : Json} (h : r.value? = some (slot, value)) {key : String}
    (hkey : key ∈ FieldCategory.slots) :
    r.toDocument.get key = if slot = key then value else .null := by
  have hfield : "field" ≠ key := by rintro rfl; revert hkey; decide
  have hoperator : "operator" ≠ key := by rintro rfl; revert hkey; decide
  unfold toDocument Json.get Json.field?
  rw [h]
  change (Json.lookupField key [("field", _), ("operator", _), (slot, value)]).getD .null = _
  rw [Json.lookupField, if_neg hfield, Json.lookupField, if_neg hoperator, Json.lookupField]
  split <;> rfl

theorem givenSlots_of_some {slot : String} {value : Json} (h : r.value? = some (slot, value))
    (hslot : slot ∈ FieldCategory.slots) (hvalue : value.isNull = false) :
    givenSlots r.toDocument = [slot] := by
  have hgiven : givenSlots r.toDocument = FieldCategory.slots.filter (slot == ·) := by
    refine List.filter_congr fun key hkey => ?_
    rw [get_slot h hkey]
    by_cases hkeys : slot = key
    · simp [hkeys, hvalue]
    · simp [hkeys, Json.isNull]
  rw [hgiven]
  -- each key is listed once
  revert hslot
  unfold FieldCategory.slots
  intro hslot
  simp only [List.mem_cons, List.not_mem_nil, or_false] at hslot
  rcases hslot with rfl | rfl | rfl <;> decide

/-- A rule that carries a value under the key of its field is read as the value is. -/
theorem ofDocument_of_some {value : Json} (h : r.value? = some (r.field.category.slot, value))
    (hvalue : value.isNull = false) (hallowed : r.field.category.allows r.operator = true)
    (hvalued : ExistenceOperator.ofOperator? r.operator = none ∧
      PresenceOperator.ofOperator? r.operator = none) :
    ofDocument r.toDocument = ofSlot r.field r.operator value := by
  have takes : TakesValue r.toDocument r.field r.operator :=
    ⟨hallowed, hvalued, givenSlots_of_some h (slot_mem _) hvalue⟩
  have hget : r.toDocument.get r.field.category.slot = value := by
    rw [get_slot h (slot_mem _), if_pos rfl]
  unfold ofDocument
  rw [get_field, fieldOf_name, get_operator, operatorOf_name]
  change (if (ExistenceOperator.ofOperator? r.operator).isSome then _ else _) = _
  rw [takes.valued.1, takes.allowed, takes.valued.2, takes.given, hget]
  -- nothing stops the reader before it reads the value
  simp only [Option.isSome_none, Bool.not_true, Bool.false_eq_true, if_false, ne_eq, not_true]

/-- The id of a tag is read back from its digits. -/
theorem tagNumber_toString {id : Nat} (h : Text.canWrite id = true) :
    tagNumber (.text (toString id)) = .ok (.nat id) := by
  unfold tagNumber
  dsimp only
  rw [Text.trim_toString, if_pos (Text.isDigits_toString id), Text.natOfDigits?_toString h]

/-- **A rule that was built is read back from its document.** -/
theorem Constructed.ofDocument_toDocument (h : r.Constructed) (hr : r.IsWritable) :
    ofDocument r.toDocument = .ok r := by
  cases r with
  | text f o s =>
    have hcategory : f.toField.category = .text := by cases f <;> rfl
    have hvalue : (Rule.text f o s).value? = some (f.toField.category.slot, .text s) := by
      rw [hcategory]
      rfl
    have hallowed : f.toField.category.allows o.toOperator = true := by
      rw [hcategory]
      cases o <;> rfl
    have hreads : ofSlot f.toField o.toOperator (.text s) = .ok (Rule.text f o s) := by
      unfold ofSlot
      rw [hcategory]
      exact text?_toField f o s
    refine (ofDocument_of_some hvalue rfl hallowed ?_).trans hreads
    cases o <;> exact ⟨rfl, rfl⟩
  | number f o value admitted =>
    have hcategory : f.toField.category = .numeric := by cases f <;> rfl
    have hvalue : (Rule.number f o value admitted).value? =
        some (f.toField.category.slot, .ofAmount value) := by
      rw [hcategory]
      rfl
    have hallowed : f.toField.category.allows o.toOperator = true := by
      rw [hcategory]
      cases o <;> rfl
    have hnull : (Json.ofAmount value).isNull = false := by cases value <;> rfl
    have hreads : ofSlot f.toField o.toOperator (.ofAmount value) =
        .ok (Rule.number f o value admitted) := by
      unfold ofSlot
      rw [hcategory]
      exact number?_toField f o admitted h.isComparable
    refine (ofDocument_of_some hvalue hnull hallowed ?_).trans hreads
    cases o <;> exact ⟨rfl, rfl⟩
  | date f o days positive =>
    have hcategory : f.toField.category = .relativeDate := by cases f <;> rfl
    have hvalue : (Rule.date f o days positive).value? =
        some (f.toField.category.slot, .nat days) := by
      rw [hcategory]
      rfl
    have hallowed : f.toField.category.allows o.toOperator = true := by
      rw [hcategory]
      cases o <;> rfl
    have hreads : ofSlot f.toField o.toOperator (.nat days) = .ok (Rule.date f o days positive) := by
      unfold ofSlot
      rw [hcategory]
      exact date?_toField f o positive
    refine (ofDocument_of_some hvalue rfl hallowed ?_).trans hreads
    cases o <;> exact ⟨rfl, rfl⟩
  | tag o id positive =>
    have hvalue : (Rule.tag o id positive).value? =
        some (RuleField.tag.category.slot, .text (toString id)) := rfl
    have hallowed : RuleField.tag.category.allows o.toOperator = true := by cases o <;> rfl
    -- the id comes back from its digits
    have hreads : ofSlot .tag o.toOperator (.text (toString id)) = .ok (Rule.tag o id positive) := by
      change tagNumber (.text (toString id)) >>= tag? o.toOperator = _
      rw [tagNumber_toString hr]
      exact tag?_toOperator o positive
    refine (ofDocument_of_some hvalue rfl hallowed ?_).trans hreads
    cases o <;> exact ⟨rfl, rfl⟩
  | presence o => cases o <;> rfl
  | existence f o => cases f <;> cases o <;> rfl

/-! ### What is read -/

/-- The value of a rule is read by its constructor. -/
theorem constructed_ofSlot {f : RuleField} {o : RuleOperator} {value : Json}
    (h : ofSlot f o value = .ok r) : r.Constructed := by
  unfold ofSlot at h
  split at h
  · exact .text f o value h
  · exact .number f o value h
  · exact .date f o _ h
  · obtain ⟨id, -, h⟩ := exists_of_bind_eq_ok h
    exact .tag o id h

/-- **A rule that is read was built.** -/
theorem constructed_ofDocument {j : Json} (h : ofDocument j = .ok r) : r.Constructed := by
  unfold ofDocument at h
  by_cases hobject : j.isObject = true
  · simp only [hobject, Bool.not_true, Bool.false_eq_true, if_false, throw_bind_eq] at h
    obtain ⟨f, -, h⟩ := exists_of_bind_eq_ok h
    obtain ⟨o, -, h⟩ := exists_of_bind_eq_ok h
    -- one branch for each way in which a value is given, or none is
    split at h
    · split at h
      · cases h
      · exact .existence f o h
    · split at h
      · cases h
      · split at h
        · split at h
          · cases h
          · exact .tag o .null h
        · split at h
          · cases h
          · exact constructed_ofSlot h
  · simp only [hobject, Bool.not_false, if_true, throw_bind_eq] at h
    cases h

end Rule

/-! ### Criteria -/

namespace Criteria

variable {c : Criteria}

/-- The rules of criteria that were built were built. -/
theorem Constructed.rules (h : c.Constructed) : ∀ r ∈ c.rules, r.Constructed := by
  obtain ⟨rules, logic, orderBy, direction, limit, hrules, h⟩ := h
  unfold ofParts at h
  obtain ⟨logic', -, h⟩ := exists_of_bind_eq_ok h
  obtain ⟨orderBy', -, h⟩ := exists_of_bind_eq_ok h
  obtain ⟨direction', -, h⟩ := exists_of_bind_eq_ok h
  split at h
  · cases h
  · obtain ⟨limit', -, h⟩ := exists_of_bind_eq_ok h
    cases h
    intro r hr
    obtain ⟨_, hmem, rfl⟩ := List.mem_filterMap.1 hr
    exact hrules r hmem

theorem lower_logic (l : Logic) : Text.lower l.name = l.name := by cases l <;> decide +kernel

theorem lower_direction (d : Direction) : Text.lower d.name = d.name := by
  cases d <;> decide +kernel

/-- A word that is spelt as its name is read. -/
theorem wordOf_name {α : Type} {ofName? : String → Option α} {name : String} {a : α}
    (hname : name ≠ "") (hlower : Text.lower name = name) (hread : ofName? name = some a)
    (missing : α) (key title : String) : wordOf ofName? missing key title (.text name) = .ok a := by
  have hgiven : (Json.text name).isTruthy = true := by simpa [Json.isTruthy] using hname
  unfold wordOf
  dsimp only
  rw [hgiven, hlower, hread]
  rfl

theorem get_limit (c : Criteria) :
    c.toDocument.get "limit" = (c.limit.map Json.nat).getD .null := by
  unfold toDocument
  cases c.limit <;> rfl

theorem limitOf_limit (c : Criteria) :
    limitOf ((c.limit.map Json.nat).getD .null) = .ok ⟨c.limit, c.limit_pos⟩ := by
  obtain ⟨-, -, -, -, limit, hpos⟩ := c
  cases limit with
  | none => rfl
  | some n =>
    have hn : 0 < (n : Int).toNat := hpos n rfl
    change limitOf (.int n) = _
    unfold limitOf
    dsimp only
    rw [dif_pos hn]
    rfl

theorem orderFieldOf_name (f : OrderField) : orderFieldOf (.text f.name) = .ok f := by
  unfold orderFieldOf
  dsimp only
  rw [OrderField.ofName?_name]
  rfl

/-- **Criteria are built from rules that are built**, and any words and any limit that criteria can
have are parts that they can be built from. -/
theorem constructed_iff : c.Constructed ↔ ∀ r ∈ c.rules, r.Constructed := by
  refine ⟨Constructed.rules, fun hrules => ?_⟩
  refine ⟨c.rules.map some, .text c.logic.name, .text c.orderBy.name, .text c.direction.name,
    (c.limit.map Json.nat).getD .null, fun r hr => hrules r (by simpa using hr), ?_⟩
  have hlogic : logicOf (.text c.logic.name) = .ok c.logic := by
    unfold logicOf
    dsimp only
    rw [Logic.ofName?_name]
    rfl
  have hdirection : directionOf (.text c.direction.name) = .ok c.direction := by
    unfold directionOf
    dsimp only
    rw [Direction.ofName?_name]
    rfl
  have hnone : (c.rules.map some).findIdx? (·.isNone) = none := by simp
  have hall : (c.rules.map some).filterMap id = c.rules := by simp [List.filterMap_map]
  unfold ofParts
  rw [hlogic, orderFieldOf_name, hdirection, hnone, hall, limitOf_limit]
  rfl

theorem constructed_of_forall₂ {items : List Json} {rules : List Rule}
    (h : List.Forall₂ (fun j r => Rule.ofDocument j = .ok r) items rules) :
    ∀ r ∈ rules, r.Constructed := by
  induction h with
  | nil => exact fun r hr => absurd hr List.not_mem_nil
  | cons hr _ ih => exact List.forall_mem_cons.2 ⟨Rule.constructed_ofDocument hr, ih⟩

theorem constructed_rulesOf {j : Json} {rules : List Rule} (h : rulesOf j = .ok rules) :
    ∀ r ∈ rules, r.Constructed := by
  unfold rulesOf at h
  split at h
  · cases h
    exact fun r hr => absurd hr List.not_mem_nil
  · split at h
    · exact constructed_of_forall₂ (rulesFrom_eq_ok_iff.1 h)
    · cases h

/-- **What is read was built.** -/
theorem constructed_ofDocument {j : Json} (h : ofDocument j = .ok c) : c.Constructed := by
  refine constructed_iff.2 ?_
  unfold ofDocument at h
  by_cases hobject : j.isObject = true
  · simp only [hobject, Bool.not_true, Bool.false_eq_true, if_false] at h
    obtain ⟨rules, hrules, h⟩ := exists_of_bind_eq_ok h
    obtain ⟨logic, -, h⟩ := exists_of_bind_eq_ok h
    obtain ⟨direction, -, h⟩ := exists_of_bind_eq_ok h
    -- the order field is read if it is given, and the limit after it
    have hlast : c.rules = rules := by
      split at h
      all_goals
        obtain ⟨orderBy, -, h⟩ := exists_of_bind_eq_ok h
        obtain ⟨limit, -, h⟩ := exists_of_bind_eq_ok h
        cases h
        rfl
    rw [hlast]
    exact constructed_rulesOf hrules
  · simp only [hobject, Bool.not_false, if_true, throw_bind_eq] at h
    cases h

/-- The rules are read back, each from its place. -/
theorem rulesOf_toDocument (hbuilt : c.Constructed) (hc : c.IsWritable) :
    rulesOf (.list (c.rules.map Rule.toDocument)) = .ok c.rules := by
  rw [rulesOf_list, rulesFrom_eq_ok_iff, List.forall₂_map_left_iff, List.forall₂_same]
  exact fun r hr => (hbuilt.rules r hr).ofDocument_toDocument (hc r hr)

/-- **Criteria that were built are read back from their document.** -/
theorem ofDocument_toDocument (hbuilt : c.Constructed) (hc : c.IsWritable) :
    ofDocument c.toDocument = .ok c := by
  have hrules : rulesOf (c.toDocument.get "rules") = .ok c.rules := rulesOf_toDocument hbuilt hc
  have hlogic : wordOf Logic.ofName? .and "logic" "logic" (c.toDocument.get "logic") = .ok c.logic :=
    wordOf_name (by cases c.logic <;> decide) (lower_logic _) (Logic.ofName?_name _) _ _ _
  have hdirection : wordOf Direction.ofName? .descending "orderDirection" "direction"
      (c.toDocument.get "orderDirection") = .ok c.direction :=
    wordOf_name (by cases c.direction <;> decide) (lower_direction _) (Direction.ofName?_name _) _ _ _
  have horder : c.toDocument.get "orderBy" = .text c.orderBy.name := rfl
  have hgiven : (Json.text c.orderBy.name).isTruthy = true := by cases c.orderBy <;> decide
  unfold ofDocument
  change (rulesOf _ >>= _) = _
  rw [hrules, hlogic, hdirection, horder, hgiven, orderFieldOf_name, get_limit, limitOf_limit]
  rfl

end Criteria

/-! ### What is stored -/

theorem exists_mapM_eq_ok {α β : Type} {f : α → Except Failure β} {as : List α}
    (h : ∀ a ∈ as, ∃ b, f a = .ok b) : ∃ bs, as.mapM f = .ok bs := by
  induction as with
  | nil => exact ⟨[], rfl⟩
  | cons a rest ih =>
    obtain ⟨⟨b, hb⟩, hrest⟩ := List.forall_mem_cons.1 h
    obtain ⟨bs, hbs⟩ := ih hrest
    refine ⟨b :: bs, ?_⟩
    rw [List.mapM_cons, hb, hbs]
    rfl

/-- A row that can be loaded: it has a name, and its criteria are read back. -/
def PlaylistRow.IsLoadable (r : PlaylistRow) : Prop :=
  r.name ≠ "" ∧ ∃ c, Criteria.ofDocument r.criteria = .ok c ∧ c.toDocument = r.criteria

/-- A row that can be loaded is loaded, with the criteria that it stores. -/
theorem PlaylistRow.IsLoadable.playlist {r : PlaylistRow} (h : r.IsLoadable) :
    ∃ p, r.playlist = .ok p ∧ p.criteria.toDocument = r.criteria := by
  obtain ⟨hname, c, hread, hdocument⟩ := h
  cases hload : r.playlist with
  | error f =>
    rw [PlaylistRow.playlist, hread] at hload
    cases (if_neg hname).symm.trans hload
  | ok p =>
    obtain rfl : c = p.criteria := Except.ok.inj (hread.symm.trans (Database.playlist_ok hload).1)
    exact ⟨p, rfl, hdocument⟩

namespace Database

/-- All rows of smart playlists can be loaded. -/
def AreLoadable (d : Database) : Prop := ∀ r ∈ d.playlists, r.IsLoadable

/-- A change of a playlist that leaves its row loadable leaves all rows loadable, whether it succeeds
or not. -/
theorem keeps_changePlaylist {n : Int} {f : PlaylistRow → Except Failure PlaylistRow}
    (hf : ∀ r c, f r = .ok c → r.IsLoadable → c.IsLoadable) :
    Keeps AreLoadable (changePlaylist n f) := by
  refine meets_of_forall fun d hd => ?_
  unfold changePlaylist
  refine Meets.bind ((meets_playlistRow d n).imp (fun _ h => h) (fun _ _ h => h) ?_) fun r => ?_
  · rintro _ _ rfl
    exact hd
  refine Meets.bind (Q := fun c d' => f r = .ok c ∧ d' = d ∧ d.rowOf n = some r) ?_ fun c => ?_
  · refine meets_ofExcept (fun c hc d' hd' => ⟨hc, hd'⟩) ?_
    rintro _ _ d' ⟨rfl, -⟩
    exact hd
  refine Meets.bind (Q := fun _ => AreLoadable) (meets_modify ?_) fun _ => keeps_ofExcept _
  rintro _ ⟨hc, rfl, hr⟩ q hq
  -- the row that changes is the one that was found
  obtain ⟨q', hq', rfl⟩ := List.mem_map.1 hq
  dsimp only
  split
  · exact hf r c hc (hd r (List.mem_of_find?_eq_some hr))
  · exact hd q' hq'

/-- Giving a playlist criteria that are read back leaves all rows loadable. -/
theorem keeps_saveCriteria (n : Int) {c : Criteria} (hbuilt : c.Constructed) (hc : c.IsWritable) :
    Keeps AreLoadable (saveCriteria n c) := by
  refine keeps_changePlaylist fun r r' h hr => ?_
  cases h
  exact ⟨hr.1, c, Criteria.ofDocument_toDocument hbuilt hc, rfl⟩

/-- A change that leaves name and criteria leaves all rows loadable. -/
theorem keeps_changePlaylist_of_eq {n : Int} {f : PlaylistRow → Except Failure PlaylistRow}
    (hf : ∀ r c, f r = .ok c → c.name = r.name ∧ c.criteria = r.criteria) :
    Keeps AreLoadable (changePlaylist n f) := by
  refine keeps_changePlaylist fun r c h hr => ?_
  obtain ⟨hname, hcriteria⟩ := hf r c h
  unfold PlaylistRow.IsLoadable
  rw [hname, hcriteria]
  exact hr

/-- A row holds the name of its playlist, and the document of its criteria. -/
theorem row_ok {p : SmartPlaylist} {id : Int} {r : PlaylistRow} (h : p.row id = .ok r) :
    r.name = p.name ∧ r.criteria = p.criteria.toDocument := by
  unfold SmartPlaylist.row at h
  obtain ⟨description, -, h⟩ := exists_of_bind_eq_ok h
  obtain ⟨isActive, -, h⟩ := exists_of_bind_eq_ok h
  obtain ⟨remoteId, -, h⟩ := exists_of_bind_eq_ok h
  obtain ⟨trackCount, -, h⟩ := exists_of_bind_eq_ok h
  obtain ⟨fingerprint, -, h⟩ := exists_of_bind_eq_ok h
  obtain ⟨syncedFingerprint, -, h⟩ := exists_of_bind_eq_ok h
  cases h
  exact ⟨rfl, rfl⟩

/-- A new playlist leaves all rows loadable, its own among them. -/
theorem keeps_createPlaylist {p : SmartPlaylist} (hname : p.name ≠ "")
    (hbuilt : p.criteria.Constructed) (hc : p.criteria.IsWritable) :
    Keeps AreLoadable (createPlaylist p) := by
  unfold createPlaylist
  refine meets_get_bind fun d hd => ?_
  refine Meets.bind (Q := fun r d' => r.IsLoadable ∧ d' = d) ?_ fun r => ?_
  · refine meets_ofExcept (fun r hr d' hd' => ⟨?_, hd'⟩) ?_
    · obtain ⟨hrname, hrcriteria⟩ := row_ok hr
      refine ⟨hrname ▸ hname, p.criteria, ?_, hrcriteria.symm⟩
      rw [hrcriteria]
      exact Criteria.ofDocument_toDocument hbuilt hc
    · rintro _ _ _ rfl
      exact hd
  · refine meets_of_and fun hr => ?_
    have hall : ({ d with playlists := d.playlists ++ [r] } : Database).AreLoadable :=
      List.forall_mem_append.2 ⟨hd, List.forall_mem_singleton.2 hr⟩
    refine Meets.bind (Q := fun _ d' => d' = d) (meets_ofExcept (fun _ _ _ h => h) ?_) fun _ => ?_
    · rintro _ _ _ rfl
      exact hd
    · exact Meets.bind (Q := fun _ => AreLoadable) (meets_set fun _ _ => hall) fun _ =>
        keeps_ofExcept _

end Database

/-- A history of the table of smart playlists: it starts empty, and comes about by putting playlists
in, by changing them, and by anything that leaves the table. A step may fail. -/
inductive PlaylistRun : Database → Prop
  /-- There are no playlists yet. -/
  | start {d : Database} (empty : d.playlists = []) : PlaylistRun d
  /-- Something else changes. -/
  | elsewhere {d d' : Database} (run : PlaylistRun d) (same : d'.playlists = d.playlists) :
      PlaylistRun d'
  /-- A playlist is put in. -/
  | create {d : Database} (run : PlaylistRun d) (p : SmartPlaylist) (named : p.name ≠ "")
      (built : p.criteria.Constructed) (writable : p.criteria.IsWritable) :
      PlaylistRun ((Database.createPlaylist p).runOn d).2
  /-- A playlist is given other criteria. -/
  | recast {d : Database} (run : PlaylistRun d) (id : Int) (c : Criteria) (built : c.Constructed)
      (writable : c.IsWritable) : PlaylistRun ((Database.saveCriteria id c).runOn d).2
  /-- A playlist is made to take part in scheduled syncs, or not to. -/
  | active {d : Database} (run : PlaylistRun d) (id : Int) (isActive : Json) :
      PlaylistRun ((Database.setActive id isActive).runOn d).2
  /-- A membership is noted. -/
  | membership {d : Database} (run : PlaylistRun d) (id : Int) (count fingerprint : Json) :
      PlaylistRun ((Database.saveMembership id count fingerprint).runOn d).2
  /-- An outward copy is noted. -/
  | copy {d : Database} (run : PlaylistRun d) (id : Int) (remoteId : Json) :
      PlaylistRun ((Database.setRemoteId id remoteId).runOn d).2
  /-- A sync is noted. -/
  | synced {d : Database} (run : PlaylistRun d) (id : Int) (remoteId fingerprint : Json)
      (now : Timestamp) :
      PlaylistRun ((Database.markSynced id remoteId fingerprint now).runOn d).2

namespace PlaylistRun

/-- **All rows can be loaded**, along every history. -/
theorem areLoadable {d : Database} (run : PlaylistRun d) : d.AreLoadable := by
  -- a step that keeps the rows loadable keeps them so, whatever it returns
  have hstep : ∀ {α : Type} {x : Action Database α} {d : Database}, Keeps Database.AreLoadable x →
      d.AreLoadable → (x.runOn d).2.AreLoadable :=
    fun hx hd => keeps_iff.1 hx _ hd
  induction run with
  | start empty =>
    intro r hr
    rw [empty] at hr
    cases hr
  | elsewhere _ same ih =>
    intro r hr
    exact ih r (same ▸ hr)
  | create _ p named built writable ih =>
    exact hstep (Database.keeps_createPlaylist named built writable) ih
  | recast _ id c built writable ih => exact hstep (Database.keeps_saveCriteria id built writable) ih
  | active _ id isActive ih =>
    refine hstep (Database.keeps_changePlaylist_of_eq fun r c h => ?_) ih
    obtain ⟨_, -, h⟩ := exists_of_bind_eq_ok h
    cases h
    exact ⟨rfl, rfl⟩
  | membership _ id count fingerprint ih =>
    refine hstep (Database.keeps_changePlaylist_of_eq fun r c h => ?_) ih
    obtain ⟨_, -, h⟩ := exists_of_bind_eq_ok h
    obtain ⟨_, -, h⟩ := exists_of_bind_eq_ok h
    cases h
    exact ⟨rfl, rfl⟩
  | copy _ id remoteId ih =>
    refine hstep (Database.keeps_changePlaylist_of_eq fun r c h => ?_) ih
    obtain ⟨_, -, h⟩ := exists_of_bind_eq_ok h
    cases h
    exact ⟨rfl, rfl⟩
  | synced _ id remoteId fingerprint now ih =>
    refine hstep (Database.keeps_changePlaylist_of_eq fun r c h => ?_) ih
    obtain ⟨_, -, h⟩ := exists_of_bind_eq_ok h
    obtain ⟨_, -, h⟩ := exists_of_bind_eq_ok h
    cases h
    exact ⟨rfl, rfl⟩

/-- The playlists are listed, along every history. -/
theorem exists_listPlaylists {d : Database} (run : PlaylistRun d) (activeOnly : Bool) :
    ∃ ps, (Database.listPlaylists activeOnly).runOn d = (.ok ps, d) := by
  have hrows : ∀ r ∈ d.playlists.filter fun r => !activeOnly || r.isActive,
      ∃ p, r.playlist = .ok p := by
    intro r hr
    obtain ⟨p, hp, -⟩ := (run.areLoadable r (List.mem_filter.1 hr).1).playlist
    exact ⟨p, hp⟩
  obtain ⟨ps, hps⟩ := exists_mapM_eq_ok hrows
  refine ⟨ps, runOn_bind_eq_ok.2 ⟨d, d, rfl, ?_⟩⟩
  exact runOn_ofExcept_eq_ok.2 ⟨hps, rfl⟩

end PlaylistRun

/-! ### Criteria are read back -/

/-- **Criteria are read back.** Criteria that were built are read from the document they are written
as; so a document that is read and written again is the same from then on; and every playlist that is
stored is loaded with the criteria that its row holds, by its number and in the list of all. -/
theorem criteria_read_back :
    (∀ c : Criteria, c.Constructed → c.IsWritable → Criteria.ofDocument c.toDocument = .ok c) ∧
      (∀ (j : Json) (c : Criteria), Criteria.ofDocument j = .ok c → c.IsWritable →
        (Criteria.ofDocument c.toDocument).map Criteria.toDocument = .ok c.toDocument) ∧
      ∀ d : Database, PlaylistRun d →
        (∀ id r, Database.storable id = .ok () → d.rowOf id = some r →
          ∃ p, (Database.playlist id).runOn d = (.ok p, d) ∧ p.criteria.toDocument = r.criteria) ∧
        ∀ activeOnly, ∃ ps, (Database.listPlaylists activeOnly).runOn d = (.ok ps, d) := by
  refine ⟨fun c hbuilt hc => Criteria.ofDocument_toDocument hbuilt hc, fun j c hread hc => ?_,
    fun d run => ⟨fun id r hid hr => ?_, run.exists_listPlaylists⟩⟩
  · rw [Criteria.ofDocument_toDocument (Criteria.constructed_ofDocument hread) hc]
    rfl
  · obtain ⟨p, hp, hcriteria⟩ := (run.areLoadable r (List.mem_of_find?_eq_some hr)).playlist
    exact ⟨p, Database.runOn_playlist_eq_ok.2 ⟨⟨r, hid, hr, hp⟩, rfl⟩, hcriteria⟩

/-- Criteria with a rule of every form. -/
def Criteria.everyForm : Criteria where
  rules := [.text .title .startsWith "Drive", .number .rating .greaterThan (.whole 4)
    (by decide +kernel), .date .dateAdded .notInLast 30 (by decide), .tag .hasTag 12 (by decide),
    .presence .hasAnyTag, .existence .album .isNotNull]
  logic := .or
  limit := some 25

/-- A document with the id of a tag between blanks, a logic in capitals and a second spelling. -/
def Criteria.spelled : Json :=
  .object [("rules", .list [.object [("field", .text "tag"), ("operator", .text "hasTag"),
    ("textValue", .text " 012 ")]]), ("logic", .text "OR"), ("orderBy", .text "addedAt")]

/-- A database with a playlist that has a rule of every form. -/
def Database.withEveryForm : Database :=
  ((createPlaylist { name := "Every form", criteria := .everyForm }).runOn {}).2

theorem Criteria.constructed_everyForm : everyForm.Constructed := by
  have hfour : (Amount.whole 4).overflows = false := by decide +kernel
  refine constructed_iff.2 fun r hr => Rule.constructed_iff.2 ?_
  simp only [everyForm, List.mem_cons, List.not_mem_nil, or_false] at hr
  rcases hr with rfl | rfl | rfl | rfl | rfl | rfl
  · trivial
  · exact hfour
  all_goals trivial

theorem Criteria.isWritable_everyForm : everyForm.IsWritable := by
  have htwelve : Text.canWrite (12 : Nat) = true := by decide +kernel
  intro r hr
  simp only [everyForm, List.mem_cons, List.not_mem_nil, or_false] at hr
  rcases hr with rfl | rfl | rfl | rfl | rfl | rfl
  · trivial
  · trivial
  · trivial
  · exact htwelve
  all_goals trivial

theorem Criteria.ofDocument_spelled :
    ofDocument spelled = .ok { rules := [.tag .hasTag 12 (by decide)], logic := .or } := by
  rfl

/-- They are read back, alone and from the database; and the document is written in one way. -/
theorem criteria_read_back_everyForm :
    Criteria.ofDocument Criteria.everyForm.toDocument = .ok .everyForm ∧
      (∃ c, Criteria.ofDocument Criteria.spelled = .ok c ∧ c.toDocument ≠ Criteria.spelled ∧
        (Criteria.ofDocument c.toDocument).map Criteria.toDocument = .ok c.toDocument) ∧
      ∃ r, Database.withEveryForm.rowOf 1 = some r ∧
        ∃ p, (Database.playlist 1).runOn Database.withEveryForm = (.ok p, Database.withEveryForm) ∧
          p.criteria.toDocument = r.criteria := by
  have htwelve : Text.canWrite (12 : Nat) = true := by decide +kernel
  have hrun : PlaylistRun Database.withEveryForm :=
    .create (.start rfl) _ (by decide) Criteria.constructed_everyForm Criteria.isWritable_everyForm
  have hrow : ∃ r, Database.withEveryForm.rowOf 1 = some r :=
    Option.isSome_iff_exists.1 (by decide +kernel)
  obtain ⟨r, hr⟩ := hrow
  refine ⟨criteria_read_back.1 _ Criteria.constructed_everyForm Criteria.isWritable_everyForm,
    ⟨_, Criteria.ofDocument_spelled, ?_, ?_⟩, r, hr, ?_⟩
  · decide
  · refine criteria_read_back.2.1 _ _ Criteria.ofDocument_spelled fun r hr => ?_
    obtain rfl := List.mem_singleton.1 hr
    exact htwelve
  · exact (criteria_read_back.2.2 _ hrun).1 1 r rfl hr

end Mixtape
