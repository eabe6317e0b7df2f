import Mixtape.Proofs.Evaluation.Meaning

/-!
# How the operators go together

The operators of a field come in pairs of which one says what the other denies, and they do so on
every track: a negated comparison of texts and a negated test of a window accept a track without a
value, which the positive ones refuse. Numbers are the exception. A track without a rating passes no
comparison of ratings, not even the negated one, and with a rating exactly one of less, equal and
greater holds.

The rules are taken as they answer when they are asked, so that what cannot be answered is told
apart from what is denied. Only two things keep a rule from answering: a window of days beyond the
calendar, and an album that cannot be read as a text.

## Main definitions

* `Rule.Answers now t r b` — the rule, asked of the track at the moment, has the answer.
* `Rule.Applies now t r` — the rule has an answer.
* `ExactlyOne now t rules` — one of the rules has a positive answer and the others a negative one.
* `OperatorAlgebra now t` — how the operators go together on a track.

## Main results

* `Rule.answers_iff` — a rule answers whether it holds, as soon as it applies.
* `exactlyOne_pair` — one of two rules of which one denies the other is answered positively.
* `operatorAlgebra` — **the operators go together as their names say**, on every track and at every
  moment.
-/

namespace Mixtape

variable {now : Timestamp} {t : Track} {r p q : Rule} {b : Bool} {rules : List Rule}

/-! ### The answer of a rule -/

namespace Rule

/-- A rule, asked of a track at a moment, has an answer. -/
def Answers (now : Timestamp) (t : Track) (r : Rule) (b : Bool) : Prop := r.answers now [t] = .ok [b]

/-- Nothing keeps a rule from having an answer for a track: its window can be computed, and the
album is a text if it is read. -/
def Applies (now : Timestamp) (t : Track) (r : Rule) : Prop :=
  r.FitsCalendar now ∧ (r.readsAlbum = true → t.hasTextAlbum = true)

/-- What a rule with a predicate answers for one track. -/
theorem answers_singleton {p : TrackPredicate} (h : r.compile now = .ok p) (t : Track) :
    r.answers now [t] =
      if r.readsAlbum && !t.hasTextAlbum then .error t.albumRefusal else .ok [p t] := by
  unfold answers
  rw [h]
  cases hreads : r.readsAlbum && !t.hasTextAlbum with
  | true =>
    rw [if_pos rfl]
    simp only [bind, Except.bind, List.mapM_cons, hreads, if_true]
  | false =>
    rw [if_neg Bool.false_ne_true]
    simp only [bind, Except.bind, List.mapM_cons, hreads, Bool.false_eq_true, if_false]
    rfl

/-- **A rule answers whether it holds**, exactly when it applies. -/
theorem answers_iff : r.Answers now t b ↔ r.Applies now t ∧ (b = true ↔ r.Holds now t) := by
  unfold Answers Applies
  rw [← exists_compile_iff]
  cases hcompile : r.compile now with
  | error f =>
    refine iff_of_false ?_ ?_
    · intro h
      rw [answers, hcompile] at h
      cases h
    · rintro ⟨⟨⟨p, hp⟩, -⟩, -⟩
      cases hp
  | ok p =>
    have hholds : p t = b ↔ (b = true ↔ r.Holds now t) := by
      rw [← eq_true_iff_holds hcompile t]
      cases p t <;> cases b <;> simp
    rw [answers_singleton hcompile t, ← hholds]
    by_cases hreads : (r.readsAlbum && !t.hasTextAlbum) = true
    · -- an album that is no text is read: there is no answer
      rw [if_pos hreads]
      rw [Bool.and_eq_true, Bool.not_eq_true'] at hreads
      refine iff_of_false (fun h => by cases h) ?_
      rintro ⟨⟨-, htext⟩, -⟩
      rw [htext hreads.1] at hreads
      cases hreads.2
    · rw [if_neg hreads]
      have htext : r.readsAlbum = true → t.hasTextAlbum = true := by
        intro hread
        simpa [hread] using hreads
      constructor
      · intro h
        exact ⟨⟨⟨p, rfl⟩, htext⟩, by simpa using h⟩
      · rintro ⟨-, rfl⟩
        rfl

theorem Applies.answers_true_iff (h : r.Applies now t) : r.Answers now t true ↔ r.Holds now t := by
  rw [answers_iff]
  simp [h]

theorem Applies.answers_false_iff (h : r.Applies now t) :
    r.Answers now t false ↔ ¬r.Holds now t := by
  rw [answers_iff]
  simp [h]

/-- A rule that does not read the album applies when its window can be computed. -/
theorem applies_of_fitsCalendar (hfits : r.FitsCalendar now) (hread : r.readsAlbum = false) :
    r.Applies now t := by
  refine ⟨hfits, ?_⟩
  simp [hread]

/-- A comparison of texts applies unless it reads an album that is no text. -/
theorem applies_text_iff {f : TextField} {o : TextOperator} {value : String} :
    (text f o value).Applies now t ↔ (f = .album → t.hasTextAlbum = true) := by
  cases f <;> simp [Applies, FitsCalendar, readsAlbum]

/-- A rule that has an answer applies. -/
theorem Answers.applies (h : r.Answers now t b) : r.Applies now t := (answers_iff.1 h).1

theorem Answers.holds (h : r.Answers now t true) : r.Holds now t := (answers_iff.1 h).2.1 rfl

/-- **An album that is no text is refused** by every comparison alike, with the same words. -/
theorem answers_album_eq_error (h : t.hasTextAlbum = false) (o : TextOperator) (value : String) :
    (text .album o value).answers now [t] = .error t.albumRefusal := by
  rw [answers_singleton rfl t, if_pos (by simp [readsAlbum, h])]

end Rule

/-! ### One of several rules -/

/-- Exactly one of several rules holds of a track: its answer is positive, and those of the others
are negative. -/
def ExactlyOne (now : Timestamp) (t : Track) (rules : List Rule) : Prop :=
  ∃ before r after, rules = before ++ r :: after ∧ r.Answers now t true ∧
    ∀ q ∈ before ++ after, q.Answers now t false

/-- **Of two rules one is answered positively** if they apply and one says what the other denies. -/
theorem exactlyOne_pair (hp : p.Applies now t) (hq : q.Applies now t)
    (hdenies : q.Holds now t ↔ ¬p.Holds now t) : ExactlyOne now t [p, q] := by
  by_cases h : p.Holds now t
  · refine ⟨[], p, [q], rfl, hp.answers_true_iff.2 h, ?_⟩
    intro r hr
    rw [List.nil_append, List.mem_singleton] at hr
    subst hr
    exact hq.answers_false_iff.2 fun hr => hdenies.1 hr h
  · refine ⟨[p], q, [], rfl, hq.answers_true_iff.2 (hdenies.2 h), ?_⟩
    intro r hr
    rw [List.append_nil, List.mem_singleton] at hr
    subst hr
    exact hp.answers_false_iff.2 h

/-! ### What the operators deny -/

theorem DateOperator.says_notInLast {now : Timestamp} {days : Nat} {value : Option Timestamp} :
    notInLast.Says now days value ↔ ¬inLast.Says now days value := by
  constructor
  · rintro h ⟨t, ht, hin⟩
    have hbefore := h t ht
    omega
  · intro h t ht
    exact Int.not_le.1 fun hin => h ⟨t, ht, hin⟩

theorem TagOperator.says_notHasTag {tags : List Json} {id : Nat} :
    notHasTag.Says tags id ↔ ¬hasTag.Says tags id := by
  simp [Says]

theorem ExistenceOperator.says_isNotNull {present : Prop} :
    isNotNull.Says present ↔ ¬isNull.Says present := not_not.symm

/-- What begins with a text, ends with it or is it contains it. -/
theorem TextOperator.says_contains {o : TextOperator} {value text : String}
    (ho : o = .startsWith ∨ o = .endsWith ∨ o = .equals) (h : o.Says value text) :
    contains.Says value text := by
  obtain rfl | rfl | rfl := ho
  · exact List.IsPrefix.isInfix h
  · exact List.IsSuffix.isInfix h
  · subst h
    exact List.infix_refl _

/-! ### Numbers -/

theorem Track.hasValue_toField (t : Track) (f : NumberField) :
    t.hasValue f.toField = (t.numberValue f).isSome := by
  cases f with
  | rating => exact Option.isSome_map.symm
  | playCount => rfl
  | duration => rfl

namespace Rule

variable {f : NumberField} {value : Amount} {admitted : f.Admits value} {size : Magnitude}

theorem applies_number (o : NumberOperator) : (number f o value admitted).Applies now t :=
  applies_of_fitsCalendar trivial rfl

/-- What a comparison of numbers says of a track with a value. -/
theorem holds_number_iff (h : t.numberValue f = some size) (o : NumberOperator) :
    (number f o value admitted).Holds now t ↔ o.Says size (.finite value.units) := by
  simp [Holds, h]

/-- A track without a value passes no comparison of numbers. -/
theorem answers_number_false (h : t.numberValue f = none) (o : NumberOperator) :
    (number f o value admitted).Answers now t false := by
  refine (applies_number o).answers_false_iff.2 ?_
  rintro ⟨size, hsize, -⟩
  rw [h] at hsize
  cases hsize

/-- **Less, equal or greater**: a track with a value passes exactly one of the three. -/
theorem exactlyOne_number (h : t.numberValue f = some size) : ExactlyOne now t
    [number f .lessThan value admitted, number f .equals value admitted,
      number f .greaterThan value admitted] := by
  have hpass : ∀ o : NumberOperator, o.Says size (.finite value.units) →
      (number f o value admitted).Answers now t true :=
    fun o ho => (applies_number o).answers_true_iff.2 ((holds_number_iff h o).2 ho)
  have hfail : ∀ o : NumberOperator, ¬o.Says size (.finite value.units) →
      (number f o value admitted).Answers now t false :=
    fun o ho => (applies_number o).answers_false_iff.2 fun hholds =>
      ho ((holds_number_iff h o).1 hholds)
  by_cases hle : size.isLe (.finite value.units) = true
  · by_cases hge : Magnitude.isLe (.finite value.units) size = true
    · have heq : size = .finite value.units := Magnitude.isLe_antisymm hle hge
      refine ⟨[_], _, [_], rfl, hpass .equals heq, ?_⟩
      intro q hq
      obtain rfl | rfl : q = _ ∨ q = _ := by simpa using hq
      · exact hfail .lessThan fun hlt => hlt hge
      · exact hfail .greaterThan fun hgt => hgt hle
    · refine ⟨[], _, [_, _], rfl, hpass .lessThan hge, ?_⟩
      intro q hq
      obtain rfl | rfl : q = _ ∨ q = _ := by simpa using hq
      · exact hfail .equals fun heq => hge (heq ▸ Magnitude.isLe_refl _)
      · exact hfail .greaterThan fun hgt => hgt hle
  · have hge : Magnitude.isLe (.finite value.units) size = true :=
      (Magnitude.isLe_total _ _).resolve_left hle
    refine ⟨[_, _], _, [], rfl, hpass .greaterThan hle, ?_⟩
    intro q hq
    obtain rfl | rfl : q = _ ∨ q = _ := by simpa using hq
    · exact hfail .lessThan fun hlt => hlt hge
    · exact hfail .equals fun heq => hle (heq ▸ Magnitude.isLe_refl _)

end Rule

/-! ### Windows -/

/-- A date in the last days is in the last days of any wider window. -/
theorem DateOperator.says_inLast_mono {days more : Nat} {value : Option Timestamp}
    (hle : days ≤ more) (h : inLast.Says now days value) : inLast.Says now more value := by
  obtain ⟨t, ht, hlow⟩ := h
  refine ⟨t, ht, Int.le_trans ?_ hlow⟩
  have : (days : Int) * Timestamp.perDay ≤ more * Timestamp.perDay :=
    Int.mul_le_mul_of_nonneg_right (Int.ofNat_le.2 hle) (by decide)
  omega

/-! ### The operators of a track -/

/-- How the operators go together on a track at a moment. -/
structure OperatorAlgebra (now : Timestamp) (t : Track) : Prop where
  /-- A text contains another or does not, and is another or is not. An album has to be one that
  can be read as a text. -/
  text : ∀ f value, (f = .album → t.hasTextAlbum = true) →
    ExactlyOne now t [.text f .contains value, .text f .notContains value] ∧
    ExactlyOne now t [.text f .equals value, .text f .notEquals value]
  /-- A text that begins with another, ends with it or is it contains it. -/
  part : ∀ f value, ∀ o ∈ [TextOperator.startsWith, .endsWith, .equals],
    (Rule.text f o value).Answers now t true → (Rule.text f .contains value).Answers now t true
  /-- An album that cannot be read as a text is refused by every comparison alike. -/
  refused : t.hasTextAlbum = false → ∀ o value,
    (Rule.text .album o value).answers now [t] = .error t.albumRefusal
  /-- A number that is there is less, equal or greater, and equal or not. -/
  number : ∀ f value (admitted : f.Admits value), t.hasValue f.toField = true →
    ExactlyOne now t [.number f .lessThan value admitted, .number f .equals value admitted,
      .number f .greaterThan value admitted] ∧
    ExactlyOne now t [.number f .equals value admitted, .number f .notEquals value admitted]
  /-- A number that is missing passes no comparison. -/
  missing : ∀ f value (admitted : f.Admits value), t.hasValue f.toField = false →
    ∀ o, (Rule.number f o value admitted).Answers now t false
  /-- A date, missing or not, is in the last days or not. -/
  window : ∀ f days (positive : 0 < days), now.Reaches days →
    ExactlyOne now t [.date f .inLast days positive, .date f .notInLast days positive]
  /-- What is in the last days is in the last days of a wider window. -/
  wider : ∀ f days more (positive : 0 < days) (positive' : 0 < more), days ≤ more →
    now.Reaches more → (Rule.date f .inLast days positive).Answers now t true →
    (Rule.date f .inLast more positive').Answers now t true
  /-- A tag is assigned or not. -/
  tag : ∀ id (positive : 0 < id),
    ExactlyOne now t [.tag .hasTag id positive, .tag .notHasTag id positive]
  /-- There are tags or there are none. -/
  presence : ExactlyOne now t [.presence .hasAnyTag, .presence .hasNoTags]
  /-- A value is missing or not. -/
  existence : ∀ f, ExactlyOne now t [.existence f .isNull, .existence f .isNotNull]

/-- **The operators go together as their names say**, on every track and at every moment. -/
theorem operatorAlgebra (now : Timestamp) (t : Track) : OperatorAlgebra now t where
  text f value htext := by
    have happlies : ∀ o, (Rule.text f o value).Applies now t :=
      fun o => Rule.applies_text_iff.2 htext
    constructor
    · exact exactlyOne_pair (happlies _) (happlies _) Iff.rfl
    · exact exactlyOne_pair (happlies _) (happlies _) Iff.rfl
  part f value o ho h := by
    have happlies : (Rule.text f .contains value).Applies now t :=
      Rule.applies_text_iff.2 (Rule.applies_text_iff.1 h.applies)
    refine happlies.answers_true_iff.2 (TextOperator.says_contains ?_ h.holds)
    simpa using ho
  refused hother o value := Rule.answers_album_eq_error hother o value
  number f value admitted hvalue := by
    rw [Track.hasValue_toField, Option.isSome_iff_exists] at hvalue
    obtain ⟨size, hsize⟩ := hvalue
    refine ⟨Rule.exactlyOne_number hsize, ?_⟩
    refine exactlyOne_pair (Rule.applies_number _) (Rule.applies_number _) ?_
    rw [Rule.holds_number_iff hsize, Rule.holds_number_iff hsize]
    rfl
  missing f value admitted hvalue o := by
    rw [Track.hasValue_toField, Option.isSome_eq_false_iff, Option.isNone_iff_eq_none] at hvalue
    exact Rule.answers_number_false hvalue o
  window f days positive hreaches := by
    have happlies : ∀ o, (Rule.date f o days positive).Applies now t :=
      fun o => Rule.applies_of_fitsCalendar hreaches rfl
    exact exactlyOne_pair (happlies _) (happlies _) DateOperator.says_notInLast
  wider f days more positive positive' hle hreaches h := by
    have happlies : (Rule.date f .inLast more positive').Applies now t :=
      Rule.applies_of_fitsCalendar hreaches rfl
    exact happlies.answers_true_iff.2 (DateOperator.says_inLast_mono hle h.holds)
  tag id positive := by
    have happlies : ∀ o, (Rule.tag o id positive).Applies now t :=
      fun o => Rule.applies_of_fitsCalendar trivial rfl
    exact exactlyOne_pair (happlies _) (happlies _) TagOperator.says_notHasTag
  presence := by
    have happlies : ∀ o, (Rule.presence o).Applies now t :=
      fun o => Rule.applies_of_fitsCalendar trivial rfl
    exact exactlyOne_pair (happlies _) (happlies _) not_not.symm
  existence f := by
    have happlies : ∀ o, (Rule.existence f o).Applies now t :=
      fun o => Rule.applies_of_fitsCalendar trivial rfl
    exact exactlyOne_pair (happlies _) (happlies _) ExistenceOperator.says_isNotNull

end Mixtape
