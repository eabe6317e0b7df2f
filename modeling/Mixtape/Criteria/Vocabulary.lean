/-!
# The vocabulary of criteria

The words a criteria document is written in: fields, operators, the logic that joins rules, and
the orders a playlist may have. Every word has one spelling; `ofName?` reads it back.

* `RuleField`, `FieldCategory` — what a rule tests, and the four kinds of tested values.
* `RuleOperator` — all comparisons; `TextOperator` and its siblings are those of one category.
* `Logic`, `OrderField`, `Direction` — how rules are joined and tracks are ordered.
-/

namespace Mixtape

/-- The first item with the given name. -/
def findNamed {α : Type} (name : α → String) (all : List α) (s : String) : Option α :=
  all.find? fun a => name a == s

/-! ### Fields -/

/-- The track attribute a rule tests. -/
inductive RuleField where
  /-- The title. -/
  | title
  /-- The artist. -/
  | artist
  /-- The album. -/
  | album
  /-- The rating in stars. -/
  | rating
  /-- How often the track was played. -/
  | playCount
  /-- The duration in milliseconds. -/
  | duration
  /-- When the track was last played. -/
  | lastPlayed
  /-- When the track was added. -/
  | dateAdded
  /-- The tags. -/
  | tag
  deriving DecidableEq

/-- The kind of value a field holds. -/
inductive FieldCategory where
  /-- Text. -/
  | text
  /-- Numbers. -/
  | numeric
  /-- Dates, tested relative to now. -/
  | relativeDate
  /-- Tags. -/
  | tag
  deriving DecidableEq

namespace RuleField

/-- All fields. -/
def all : List RuleField :=
  [title, artist, album, rating, playCount, duration, lastPlayed, dateAdded, tag]

/-- The spelling of a field. -/
def name : RuleField → String
  | title => "title"
  | artist => "artist"
  | album => "album"
  | rating => "rating"
  | playCount => "playCount"
  | duration => "duration"
  | lastPlayed => "lastPlayed"
  | dateAdded => "dateAdded"
  | tag => "tag"

/-- The field with a spelling. -/
def ofName? : String → Option RuleField := findNamed name all

@[simp] theorem ofName?_name (f : RuleField) : ofName? f.name = some f := by cases f <;> decide

/-- The kind of value a field holds. -/
def category : RuleField → FieldCategory
  | title | artist | album => .text
  | rating | playCount | duration => .numeric
  | lastPlayed | dateAdded => .relativeDate
  | tag => .tag

end RuleField

namespace FieldCategory

/-- The spelling of a category. -/
def name : FieldCategory → String
  | text => "text"
  | numeric => "numeric"
  | relativeDate => "relative_date"
  | tag => "tag"

/-- The document key that carries the value of a rule on a field of this category. -/
def slot : FieldCategory → String
  | text => "textValue"
  | numeric => "numberValue"
  | relativeDate => "daysValue"
  | tag => "textValue"

/-- The document keys that may carry a value. -/
def slots : List String := ["textValue", "numberValue", "daysValue"]

end FieldCategory

/-- A field that holds text. -/
inductive TextField where
  /-- The title. -/
  | title
  /-- The artist. -/
  | artist
  /-- The album. -/
  | album
  deriving DecidableEq

/-- A field that holds a number. -/
inductive NumberField where
  /-- The rating in stars. -/
  | rating
  /-- How often the track was played. -/
  | playCount
  /-- The duration in milliseconds. -/
  | duration
  deriving DecidableEq

/-- A field that holds a date. -/
inductive DateField where
  /-- When the track was last played. -/
  | lastPlayed
  /-- When the track was added. -/
  | dateAdded
  deriving DecidableEq

/-- The field, among all fields. -/
def TextField.toField : TextField → RuleField
  | title => .title
  | artist => .artist
  | album => .album

/-- The text field, if the field is one. -/
def TextField.ofField? : RuleField → Option TextField
  | .title => some title
  | .artist => some artist
  | .album => some album
  | _ => none

/-- The field, among all fields. -/
def NumberField.toField : NumberField → RuleField
  | rating => .rating
  | playCount => .playCount
  | duration => .duration

/-- The number field, if the field is one. -/
def NumberField.ofField? : RuleField → Option NumberField
  | .rating => some rating
  | .playCount => some playCount
  | .duration => some duration
  | _ => none

/-- The field, among all fields. -/
def DateField.toField : DateField → RuleField
  | lastPlayed => .lastPlayed
  | dateAdded => .dateAdded

/-- The date field, if the field is one. -/
def DateField.ofField? : RuleField → Option DateField
  | .lastPlayed => some lastPlayed
  | .dateAdded => some dateAdded
  | _ => none

@[simp] theorem TextField.ofField?_toField (f : TextField) : ofField? f.toField = some f := by
  cases f <;> rfl

@[simp] theorem NumberField.ofField?_toField (f : NumberField) : ofField? f.toField = some f := by
  cases f <;> rfl

@[simp] theorem DateField.ofField?_toField (f : DateField) : ofField? f.toField = some f := by
  cases f <;> rfl

/-! ### Operators -/

/-- The comparison a rule applies. -/
inductive RuleOperator where
  /-- The text occurs in the value. -/
  | contains
  /-- The text does not occur in the value. -/
  | notContains
  /-- The value is the given one. -/
  | equals
  /-- The value is another than the given one. -/
  | notEquals
  /-- The value begins with the text. -/
  | startsWith
  /-- The value ends with the text. -/
  | endsWith
  /-- The value is greater. -/
  | greaterThan
  /-- The value is less. -/
  | lessThan
  /-- The date lies within the last days. -/
  | inLast
  /-- The date does not lie within the last days. -/
  | notInLast
  /-- The tag is assigned. -/
  | hasTag
  /-- The tag is not assigned. -/
  | notHasTag
  /-- Some tag is assigned. -/
  | hasAnyTag
  /-- No tag is assigned. -/
  | hasNoTags
  /-- There is no value. -/
  | isNull
  /-- There is a value. -/
  | isNotNull
  deriving DecidableEq

namespace RuleOperator

/-- All operators. -/
def all : List RuleOperator :=
  [contains, notContains, equals, notEquals, startsWith, endsWith, greaterThan, lessThan, inLast,
    notInLast, hasTag, notHasTag, hasAnyTag, hasNoTags, isNull, isNotNull]

/-- The spelling of an operator. -/
def name : RuleOperator → String
  | contains => "contains"
  | notContains => "notContains"
  | equals => "equals"
  | notEquals => "notEquals"
  | startsWith => "startsWith"
  | endsWith => "endsWith"
  | greaterThan => "greaterThan"
  | lessThan => "lessThan"
  | inLast => "inLast"
  | notInLast => "notInLast"
  | hasTag => "hasTag"
  | notHasTag => "notHasTag"
  | hasAnyTag => "hasAnyTag"
  | hasNoTags => "hasNoTags"
  | isNull => "isNull"
  | isNotNull => "isNotNull"

/-- The operator with a spelling. -/
def ofName? : String → Option RuleOperator := findNamed name all

@[simp] theorem ofName?_name (o : RuleOperator) : ofName? o.name = some o := by
  cases o <;> decide

end RuleOperator

/-- A comparison of texts. -/
inductive TextOperator where
  /-- The text occurs in the value. -/
  | contains
  /-- The text does not occur in the value. -/
  | notContains
  /-- The value is the text. -/
  | equals
  /-- The value is another text. -/
  | notEquals
  /-- The value begins with the text. -/
  | startsWith
  /-- The value ends with the text. -/
  | endsWith
  deriving DecidableEq

/-- A comparison of numbers. -/
inductive NumberOperator where
  /-- The value is the number. -/
  | equals
  /-- The value is another number. -/
  | notEquals
  /-- The value is greater. -/
  | greaterThan
  /-- The value is less. -/
  | lessThan
  deriving DecidableEq

/-- A test of a date against a window of days up to now. -/
inductive DateOperator where
  /-- The date lies in the window or after it. -/
  | inLast
  /-- The date lies before the window, or there is none. -/
  | notInLast
  deriving DecidableEq

/-- A test for one tag. -/
inductive TagOperator where
  /-- The tag is assigned. -/
  | hasTag
  /-- The tag is not assigned. -/
  | notHasTag
  deriving DecidableEq

/-- A test for tags at all. -/
inductive PresenceOperator where
  /-- Some tag is assigned. -/
  | hasAnyTag
  /-- No tag is assigned. -/
  | hasNoTags
  deriving DecidableEq

/-- A test for a value at all. -/
inductive ExistenceOperator where
  /-- There is no value. -/
  | isNull
  /-- There is a value. -/
  | isNotNull
  deriving DecidableEq

/-- The operator, among all operators. -/
def TextOperator.toOperator : TextOperator → RuleOperator
  | contains => .contains
  | notContains => .notContains
  | equals => .equals
  | notEquals => .notEquals
  | startsWith => .startsWith
  | endsWith => .endsWith

/-- The comparison of texts, if the operator is one. -/
def TextOperator.ofOperator? : RuleOperator → Option TextOperator
  | .contains => some contains
  | .notContains => some notContains
  | .equals => some equals
  | .notEquals => some notEquals
  | .startsWith => some startsWith
  | .endsWith => some endsWith
  | _ => none

/-- The operator, among all operators. -/
def NumberOperator.toOperator : NumberOperator → RuleOperator
  | equals => .equals
  | notEquals => .notEquals
  | greaterThan => .greaterThan
  | lessThan => .lessThan

/-- The comparison of numbers, if the operator is one. -/
def NumberOperator.ofOperator? : RuleOperator → Option NumberOperator
  | .equals => some equals
  | .notEquals => some notEquals
  | .greaterThan => some greaterThan
  | .lessThan => some lessThan
  | _ => none

/-- The operator, among all operators. -/
def DateOperator.toOperator : DateOperator → RuleOperator
  | inLast => .inLast
  | notInLast => .notInLast

/-- The test of dates, if the operator is one. -/
def DateOperator.ofOperator? : RuleOperator → Option DateOperator
  | .inLast => some inLast
  | .notInLast => some notInLast
  | _ => none

/-- The operator, among all operators. -/
def TagOperator.toOperator : TagOperator → RuleOperator
  | hasTag => .hasTag
  | notHasTag => .notHasTag

/-- The test for one tag, if the operator is one. -/
def TagOperator.ofOperator? : RuleOperator → Option TagOperator
  | .hasTag => some hasTag
  | .notHasTag => some notHasTag
  | _ => none

/-- The operator, among all operators. -/
def PresenceOperator.toOperator : PresenceOperator → RuleOperator
  | hasAnyTag => .hasAnyTag
  | hasNoTags => .hasNoTags

/-- The test for tags at all, if the operator is one. -/
def PresenceOperator.ofOperator? : RuleOperator → Option PresenceOperator
  | .hasAnyTag => some hasAnyTag
  | .hasNoTags => some hasNoTags
  | _ => none

/-- The operator, among all operators. -/
def ExistenceOperator.toOperator : ExistenceOperator → RuleOperator
  | isNull => .isNull
  | isNotNull => .isNotNull

/-- The test for a value at all, if the operator is one. -/
def ExistenceOperator.ofOperator? : RuleOperator → Option ExistenceOperator
  | .isNull => some isNull
  | .isNotNull => some isNotNull
  | _ => none

@[simp] theorem TextOperator.ofOperator?_toOperator (o : TextOperator) :
    ofOperator? o.toOperator = some o := by cases o <;> rfl

@[simp] theorem NumberOperator.ofOperator?_toOperator (o : NumberOperator) :
    ofOperator? o.toOperator = some o := by cases o <;> rfl

@[simp] theorem DateOperator.ofOperator?_toOperator (o : DateOperator) :
    ofOperator? o.toOperator = some o := by cases o <;> rfl

@[simp] theorem TagOperator.ofOperator?_toOperator (o : TagOperator) :
    ofOperator? o.toOperator = some o := by cases o <;> rfl

@[simp] theorem PresenceOperator.ofOperator?_toOperator (o : PresenceOperator) :
    ofOperator? o.toOperator = some o := by cases o <;> rfl

@[simp] theorem ExistenceOperator.ofOperator?_toOperator (o : ExistenceOperator) :
    ofOperator? o.toOperator = some o := by cases o <;> rfl

/-- Whether a field of the category takes the operator. -/
def FieldCategory.allows (c : FieldCategory) (o : RuleOperator) : Bool :=
  match c with
  | .text => (TextOperator.ofOperator? o).isSome
  | .numeric => (NumberOperator.ofOperator? o).isSome
  | .relativeDate => (DateOperator.ofOperator? o).isSome
  | .tag => (TagOperator.ofOperator? o).isSome || (PresenceOperator.ofOperator? o).isSome

/-! ### Joining and ordering -/

/-- How the rules of a playlist are joined. -/
inductive Logic where
  /-- All rules hold. -/
  | and
  /-- Some rule holds. -/
  | or
  deriving DecidableEq

/-- The direction of an order. -/
inductive Direction where
  /-- Least value first. -/
  | ascending
  /-- Greatest value first. -/
  | descending
  deriving DecidableEq

/-- The attribute a playlist is ordered by. -/
inductive OrderField where
  /-- The title. -/
  | title
  /-- The artist. -/
  | artist
  /-- The album. -/
  | album
  /-- The rating in stars. -/
  | rating
  /-- When the track was rated. -/
  | ratedAt
  /-- How often the track was played. -/
  | playCount
  /-- The duration in milliseconds. -/
  | duration
  /-- When the track was last played. -/
  | lastPlayed
  /-- When the track was added. -/
  | dateAdded
  deriving DecidableEq

namespace Logic

/-- The spelling of a logic. -/
def name : Logic → String
  | and => "and"
  | or => "or"

/-- The logic with a spelling. -/
def ofName? : String → Option Logic := findNamed name [and, or]

@[simp] theorem ofName?_name (l : Logic) : ofName? l.name = some l := by cases l <;> decide

end Logic

namespace Direction

/-- The spelling of a direction. -/
def name : Direction → String
  | ascending => "asc"
  | descending => "desc"

/-- The direction with a spelling. -/
def ofName? : String → Option Direction := findNamed name [ascending, descending]

@[simp] theorem ofName?_name (d : Direction) : ofName? d.name = some d := by cases d <;> decide

end Direction

namespace OrderField

/-- All order fields. -/
def all : List OrderField :=
  [title, artist, album, rating, ratedAt, playCount, duration, lastPlayed, dateAdded]

/-- The spelling of an order field. -/
def name : OrderField → String
  | title => "title"
  | artist => "artist"
  | album => "album"
  | rating => "rating"
  | ratedAt => "ratedAt"
  | playCount => "playCount"
  | duration => "duration"
  | lastPlayed => "lastPlayed"
  | dateAdded => "dateAdded"

/-- The order field with a spelling; three fields have a second one. -/
def ofName? (s : String) : Option OrderField :=
  if s = "addedAt" then some dateAdded
  else if s = "lastPlayedAt" then some lastPlayed
  else if s = "totalPlayCount" then some playCount
  else findNamed name all s

@[simp] theorem ofName?_name (f : OrderField) : ofName? f.name = some f := by cases f <;> decide

end OrderField

end Mixtape
