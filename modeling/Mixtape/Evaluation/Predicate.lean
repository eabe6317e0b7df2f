import Mixtape.Criteria.Basic
import Mixtape.Text.CaseFold
import Mixtape.Text.Search
import Mixtape.Track

/-!
# Rules as predicates

A rule compiles to a predicate on tracks, relative to a moment.

* `Track.fieldValue` — the value of a field of a track.
* `TextOperator.holds` and its siblings — the comparisons.
* `Rule.compile` — the predicate of a rule; only a window of days beyond the calendar has none.
* `Logic.isAnswered` — whether rules have an answer for a track whose album is no text.
* `Logic.join` — the predicates of whole criteria joined into one.
-/

namespace Mixtape

/-! ### Field values -/

/-- The text of a text field; an album may be missing. -/
def Track.textValue (t : Track) : TextField → Option String
  | .title => some t.title
  | .artist => some t.artist
  | .album => t.album.text?

/-- The size of a number field; a rating may be missing. -/
def Track.numberValue (t : Track) : NumberField → Option Magnitude
  | .rating => t.rating.map fun r => .finite (r.halves * Binary64.unitsPerHalf)
  | .playCount => some t.playCount.size
  | .duration => some t.duration.size

/-- The date of a date field, which may be missing. -/
def Track.dateValue (t : Track) : DateField → Option Timestamp
  | .lastPlayed => t.lastPlayedAt
  | .dateAdded => t.addedAt

/-- The value of a field as a document shows it; no tags count as no value. -/
def Track.fieldValue (t : Track) : RuleField → Json
  | .title => .text t.title
  | .artist => .text t.artist
  | .album => t.album
  | .rating => (t.rating.map Rating.given).getD .null
  | .playCount => t.playCount.given
  | .duration => t.duration.given
  | .lastPlayed => .ofText? (t.lastPlayedAt.map Timestamp.text)
  | .dateAdded => .ofText? (t.addedAt.map Timestamp.text)
  | .tag => if t.tagIds.isEmpty then .null else .list t.tagIds

/-- Whether a field of a track has a value. -/
def Track.hasValue (t : Track) : RuleField → Bool
  | .title | .artist | .playCount | .duration => true
  | .album => !t.album.isNull
  | .rating => t.rating.isSome
  | .lastPlayed => t.lastPlayedAt.isSome
  | .dateAdded => t.addedAt.isSome
  | .tag => !t.tagIds.isEmpty

/-! ### Comparisons -/

/-- Whether a folded value compares so with a folded text. -/
def TextOperator.holds (o : TextOperator) (value text : String) : Bool :=
  match o with
  | contains => Text.contains value text
  | notContains => !Text.contains value text
  | equals => value == text
  | notEquals => value != text
  | startsWith => Text.startsWith value text
  | endsWith => Text.endsWith value text

/-- Whether a value compares so with a number. -/
def NumberOperator.holds (o : NumberOperator) (value number : Magnitude) : Bool :=
  match o with
  | equals => decide (value = number)
  | notEquals => decide (value ≠ number)
  | greaterThan => number.isLt value
  | lessThan => value.isLt number

/-- Whether a date, which may be missing, lies so to the beginning of the window. -/
def DateOperator.holds (o : DateOperator) (value : Option Timestamp) (start : Timestamp) : Bool :=
  match o, value with
  | inLast, some t => start.isLe t
  | inLast, none => false
  | notInLast, some t => t.isLt start
  | notInLast, none => true

/-- Whether a tag is or is not among the tags. -/
def TagOperator.holds (o : TagOperator) (tags : List Json) (id : Nat) : Bool :=
  match o with
  | hasTag => tags.any (·.isSame (.nat id))
  | notHasTag => !tags.any (·.isSame (.nat id))

/-- Whether there are or are not tags. -/
def PresenceOperator.holds (o : PresenceOperator) (tags : List Json) : Bool :=
  match o with
  | hasAnyTag => !tags.isEmpty
  | hasNoTags => tags.isEmpty

/-- Whether a value is or is not there. -/
def ExistenceOperator.holds (o : ExistenceOperator) (present : Bool) : Bool :=
  match o with
  | isNull => !present
  | isNotNull => present

/-! ### Predicates -/

/-- A test of tracks. -/
abbrev TrackPredicate := Track → Bool

/-- The predicate of a rule at a moment. A missing text counts as empty, and a missing number
passes no comparison. -/
def Rule.compile (now : Timestamp) : Rule → Except Failure TrackPredicate
  | text f o value =>
    let folded := Text.foldCase value
    .ok fun t => o.holds (Text.foldCase ((t.textValue f).getD "")) folded
  | number f o value _ => .ok fun t => (t.numberValue f).any (o.holds · (.finite value.units))
  | date f o days _ =>
    match now.minusDays? days with
    | some start => .ok fun t => o.holds (t.dateValue f) start
    | none => .error (.overflow (Timestamp.beyondReach days))
  | tag o id _ => .ok fun t => o.holds t.tagIds id
  | presence o => .ok fun t => o.holds t.tagIds
  | existence f o => .ok fun t => o.holds (t.hasValue f)

/-- The predicates of rules in order; the first rule without one is refused. -/
def compileRules (now : Timestamp) : List Rule → Except Failure (List TrackPredicate)
  | [] => .ok []
  | r :: rest => do
    let p ← r.compile now
    let ps ← compileRules now rest
    pure (p :: ps)

/-! ### Albums -/

/-- Whether the album can be read as a text: a value that counts as not given reads as empty. -/
def Track.hasTextAlbum (t : Track) : Bool := t.album.text?.isSome || !t.album.isTruthy

/-- Whether a rule reads the album as a text. -/
def Rule.readsAlbum : Rule → Bool
  | text .album _ _ => true
  | _ => false

/-- Whether the answer of a logic for a track is known before a rule reads an album that is no
text. The rules are taken in order, up to the first that decides. -/
def Logic.isAnswered (l : Logic) (t : Track) : List (Rule × TrackPredicate) → Bool
  | [] => true
  | (r, p) :: rest =>
    if r.readsAlbum && !t.hasTextAlbum then false
    else p t == (l == .or) || l.isAnswered t rest

/-- Whether a rule holds of each of several tracks at a moment. -/
def Rule.answers (r : Rule) (now : Timestamp) (ts : List Track) : Except Failure (List Bool) := do
  let p ← r.compile now
  ts.mapM fun t => if r.readsAlbum && !t.hasTextAlbum then .error t.albumRefusal else .ok (p t)

/-! ### Whole criteria -/

/-- Predicates joined by a logic; without predicates every track passes. -/
def Logic.join (l : Logic) (ps : List TrackPredicate) : TrackPredicate := fun t =>
  match l with
  | and => ps.all (· t)
  | or => ps.isEmpty || ps.any (· t)

end Mixtape
