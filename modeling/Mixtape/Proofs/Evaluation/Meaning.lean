import Mixtape.Evaluation.Basic
import Mixtape.Proofs.Action
import Mathlib.Data.List.Forall2

/-!
# What criteria say of a track

Each form of a rule says something of a track at a moment: that a folded text has a part, that a
number is below another, that a date lies in the last days, that a tag is among the tags. Criteria
accept a track when all of their rules hold of it, or when one of them does, as their logic has it;
without rules they accept every track.

A rule compiles to a predicate that decides what the rule says. Only a window of days may have no
predicate: when it begins before the calendar does, or spans more days than a span of time holds.

## Main definitions

* `Rule.Holds now r t` — what a rule says of a track, form by form.
* `Criteria.Accepts now c t` — what criteria say of a track.
* `Rule.FitsCalendar`, `Criteria.FitsCalendar` — the windows of days can be computed.

## Main results

* `Rule.eq_true_iff_holds` — **the predicate of a rule decides what the rule says.**
* `exists_compile_iff`, `exists_compileRules_iff` — a rule has a predicate exactly when its window
  fits the calendar.
* `Decide.join_iff` — **the joined predicates decide what the criteria say.**
-/

namespace Mixtape

open Action

/-! ### What a comparison says -/

/-- What a comparison says of a folded value and a folded text. -/
def TextOperator.Says (o : TextOperator) (value text : String) : Prop :=
  match o with
  | contains => text.toList <:+: value.toList
  | notContains => ¬text.toList <:+: value.toList
  | equals => value = text
  | notEquals => value ≠ text
  | startsWith => text.toList <+: value.toList
  | endsWith => text.toList <:+ value.toList

/-- What a comparison says of the size of a value and a size. -/
def NumberOperator.Says (o : NumberOperator) (value size : Magnitude) : Prop :=
  match o with
  | equals => value = size
  | notEquals => value ≠ size
  | greaterThan => ¬value.isLe size = true
  | lessThan => ¬size.isLe value = true

/-- What a test of a window says of a date, if there is one. The window begins the given number of
days before `now` and has no end. -/
def DateOperator.Says (o : DateOperator) (now : Timestamp) (days : Nat) (value : Option Timestamp) :
    Prop :=
  match o with
  | inLast => ∃ t, value = some t ∧ now.instant - days * Timestamp.perDay ≤ t.instant
  | notInLast => ∀ t, value = some t → t.instant < now.instant - days * Timestamp.perDay

/-- What a test for a tag says of tags. -/
def TagOperator.Says (o : TagOperator) (tags : List Json) (id : Nat) : Prop :=
  match o with
  | hasTag => ∃ tag ∈ tags, tag.isSame (.nat id) = true
  | notHasTag => ∀ tag ∈ tags, ¬tag.isSame (.nat id) = true

/-- What a test for tags at all says of tags. -/
def PresenceOperator.Says (o : PresenceOperator) (tags : List Json) : Prop :=
  match o with
  | hasAnyTag => tags ≠ []
  | hasNoTags => tags = []

/-- What a test for a value says when there is one, and when there is none. -/
def ExistenceOperator.Says (o : ExistenceOperator) (present : Prop) : Prop :=
  match o with
  | isNull => ¬present
  | isNotNull => present

theorem TextOperator.holds_iff (o : TextOperator) (value text : String) :
    o.holds value text = true ↔ o.Says value text := by
  cases o with
  | contains => exact Text.occursIn_iff
  | notContains =>
    rw [holds, Bool.not_eq_true', ← Bool.not_eq_true]
    exact not_congr Text.occursIn_iff
  | equals => exact beq_iff_eq
  | notEquals => exact bne_iff_ne
  | startsWith => exact List.isPrefixOf_iff_prefix
  | endsWith => exact List.isSuffixOf_iff_suffix

theorem NumberOperator.holds_iff (o : NumberOperator) (value size : Magnitude) :
    o.holds value size = true ↔ o.Says value size := by
  cases o <;> simp [holds, Says, Magnitude.isLt]

theorem TagOperator.holds_iff (o : TagOperator) (tags : List Json) (id : Nat) :
    o.holds tags id = true ↔ o.Says tags id := by
  cases o <;> simp [holds, Says]

theorem PresenceOperator.holds_iff (o : PresenceOperator) (tags : List Json) :
    o.holds tags = true ↔ o.Says tags := by
  cases o <;> simp [holds, Says]

theorem ExistenceOperator.holds_iff (o : ExistenceOperator) (present : Bool) :
    o.holds present = true ↔ o.Says (present = true) := by
  cases o <;> simp [holds, Says]

/-! ### The beginning of a window -/

namespace Timestamp

variable {now start : Timestamp} {days : Nat}

/-- The calendar reaches back so many days from a moment, and a span of time holds them. -/
def Reaches (now : Timestamp) (days : Nat) : Prop :=
  days ≤ maxSpanDays ∧ (days : Int) * perDay ≤ now.wall

theorem exists_minusDays?_iff : (∃ start, now.minusDays? days = some start) ↔ now.Reaches days := by
  unfold minusDays? Reaches
  split
  · simp
    omega
  · split
    · simp
      omega
    · simp
      omega

theorem instant_of_minusDays? (h : now.minusDays? days = some start) :
    start.instant = now.instant - days * perDay := by
  unfold minusDays? at h
  split at h
  · cases h
  · split at h
    · cases h
    · cases h
      simp only [instant]
      omega

end Timestamp

theorem DateOperator.holds_iff {now start : Timestamp} {days : Nat}
    (h : now.minusDays? days = some start) (o : DateOperator) (value : Option Timestamp) :
    o.holds value start = true ↔ o.Says now days value := by
  have hstart := Timestamp.instant_of_minusDays? h
  cases o <;> cases value <;>
    simp [holds, Says, Timestamp.isLe, Timestamp.isLt, hstart]

/-! ### Rules -/

namespace Rule

/-- What a rule says of a track at a moment. Texts are compared ignoring case, a missing one as the
empty one; a missing number passes no comparison. -/
def Holds (now : Timestamp) : Rule → Track → Prop
  | text f o value, t => o.Says (Text.foldCase ((t.textValue f).getD "")) (Text.foldCase value)
  | number f o value _, t => ∃ v, t.numberValue f = some v ∧ o.Says v (.finite value.units)
  | date f o days _, t => o.Says now days (t.dateValue f)
  | tag o id _, t => o.Says t.tagIds id
  | presence o, t => o.Says t.tagIds
  | existence f o, t => o.Says (t.hasValue f = true)

/-- The window of days of a rule, if it has one, can be computed. -/
def FitsCalendar (now : Timestamp) : Rule → Prop
  | date _ _ days _ => now.Reaches days
  | _ => True

variable {now : Timestamp} {r : Rule} {p : TrackPredicate}

/-- A rule has a predicate exactly when its window can be computed. -/
theorem exists_compile_iff : (∃ p, r.compile now = .ok p) ↔ r.FitsCalendar now := by
  cases r with
  | date f o days positive =>
    rw [FitsCalendar, ← Timestamp.exists_minusDays?_iff, compile]
    cases now.minusDays? days <;> simp
  | _ => exact iff_of_true ⟨_, rfl⟩ trivial

/-- **The predicate of a rule decides what the rule says.** -/
theorem eq_true_iff_holds (h : r.compile now = .ok p) (t : Track) : p t = true ↔ r.Holds now t := by
  cases r with
  | text f o value =>
    cases h
    exact o.holds_iff _ _
  | number f o value admitted =>
    cases h
    simp only [Option.any_eq_true, NumberOperator.holds_iff]
    rfl
  | date f o days positive =>
    rw [compile] at h
    split at h
    · cases h
      exact o.holds_iff ‹_› _
    · cases h
  | tag o id positive =>
    cases h
    exact o.holds_iff _ _
  | presence o =>
    cases h
    exact o.holds_iff _
  | existence f o =>
    cases h
    exact o.holds_iff _

end Rule

/-! ### Criteria -/

/-- What rules joined by a logic say of a track: all of them hold, or one of them does. Without
rules every track is accepted. -/
def Logic.Accepts (l : Logic) (now : Timestamp) (rules : List Rule) (t : Track) : Prop :=
  match l with
  | and => ∀ r ∈ rules, r.Holds now t
  | or => rules = [] ∨ ∃ r ∈ rules, r.Holds now t

namespace Criteria

/-- What criteria say of a track at a moment. -/
def Accepts (now : Timestamp) (c : Criteria) (t : Track) : Prop := c.logic.Accepts now c.rules t

/-- The windows of days of all rules can be computed. -/
def FitsCalendar (now : Timestamp) (c : Criteria) : Prop := ∀ r ∈ c.rules, r.FitsCalendar now

end Criteria

variable {now : Timestamp} {rules : List Rule} {ps : List TrackPredicate}

/-- Each of several predicates decides what the rule at its place says. -/
def Decide (now : Timestamp) (rules : List Rule) (ps : List TrackPredicate) : Prop :=
  List.Forall₂ (fun r p => ∀ t, p t = true ↔ r.Holds now t) rules ps

theorem decide_of_compileRules (h : compileRules now rules = .ok ps) : Decide now rules ps := by
  induction rules generalizing ps with
  | nil =>
    cases h
    exact .nil
  | cons r rest ih =>
    obtain ⟨p, hp, h⟩ := exists_of_bind_eq_ok h
    obtain ⟨ps, hps, h⟩ := exists_of_bind_eq_ok h
    cases h
    exact .cons (Rule.eq_true_iff_holds hp) (ih hps)

theorem exists_compileRules_iff :
    (∃ ps, compileRules now rules = .ok ps) ↔ ∀ r ∈ rules, r.FitsCalendar now := by
  induction rules with
  | nil => exact iff_of_true ⟨[], rfl⟩ (by simp)
  | cons r rest ih =>
    rw [List.forall_mem_cons, ← ih, ← Rule.exists_compile_iff]
    constructor
    · rintro ⟨ps, h⟩
      obtain ⟨p, hp, h⟩ := exists_of_bind_eq_ok h
      obtain ⟨ps, hps, -⟩ := exists_of_bind_eq_ok h
      exact ⟨⟨p, hp⟩, ps, hps⟩
    · rintro ⟨⟨p, hp⟩, ps, hps⟩
      exact ⟨p :: ps, by rw [compileRules, hp, hps]; rfl⟩

namespace Decide

variable (h : Decide now rules ps) (t : Track)
include h

theorem all_iff : ps.all (· t) = true ↔ ∀ r ∈ rules, r.Holds now t := by
  induction h with
  | nil => simp
  | cons hp _ ih => rw [List.all_cons, Bool.and_eq_true, hp t, ih, List.forall_mem_cons]

theorem any_iff : ps.any (· t) = true ↔ ∃ r ∈ rules, r.Holds now t := by
  induction h with
  | nil => simp
  | cons hp _ ih =>
    simp only [List.any_cons, Bool.or_eq_true, hp t, ih, List.mem_cons, exists_eq_or_imp]

/-- **The joined predicates decide what the rules say.** -/
theorem join_iff (l : Logic) : l.join ps t = true ↔ l.Accepts now rules t := by
  cases l with
  | and => exact h.all_iff t
  | or =>
    have hempty : ps.isEmpty = true ↔ rules = [] := by
      cases h <;> simp
    rw [Logic.join, Bool.or_eq_true, hempty, h.any_iff t]
    rfl

end Decide

end Mixtape
