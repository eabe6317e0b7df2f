import Mixtape.Number.Amount
import Mixtape.Text.Digit
import Mixtape.Text.Quoted

/-!
# Documents

The values criteria documents, tracks and platform pages are written in.

* `Json` — the values; objects keep their keys in order of first appearance.
* `Json.field?`, `Json.put` — reading and writing a field of an object.
* `Json.isTruthy` — whether a value counts as given.
* `Json.display` — a value as messages show it; `Json.isShowable` tells whether it can be shown.
-/

namespace Mixtape

/-- A document value. -/
inductive Json where
  /-- The absent value. -/
  | null
  /-- A truth value. -/
  | bool (b : Bool)
  /-- A number written without point or exponent. -/
  | int (n : Int)
  /-- A number written with point or exponent. -/
  | real (x : Binary64)
  /-- A text. -/
  | text (s : String)
  /-- A list. -/
  | list (items : List Json)
  /-- An object: its fields in order. -/
  | object (fields : List (String × Json))

namespace Json

instance : Inhabited Json := ⟨null⟩

mutual

/-- Equality of values is decidable. -/
def decideEq : (a b : Json) → Decidable (a = b)
  | null, null => isTrue rfl
  | bool a, bool b => if h : a = b then isTrue (by rw [h]) else isFalse (by simpa using h)
  | int a, int b => if h : a = b then isTrue (by rw [h]) else isFalse (by simpa using h)
  | real a, real b => if h : a = b then isTrue (by rw [h]) else isFalse (by simpa using h)
  | text a, text b => if h : a = b then isTrue (by rw [h]) else isFalse (by simpa using h)
  | list a, list b =>
    match decideEqList a b with
    | isTrue h => isTrue (by rw [h])
    | isFalse h => isFalse (by simpa using h)
  | object a, object b =>
    match decideEqFields a b with
    | isTrue h => isTrue (by rw [h])
    | isFalse h => isFalse (by simpa using h)
  | null, bool _ | null, int _ | null, real _ | null, text _ | null, list _ | null, object _
  | bool _, null | bool _, int _ | bool _, real _ | bool _, text _ | bool _, list _
  | bool _, object _ | int _, null | int _, bool _ | int _, real _ | int _, text _
  | int _, list _ | int _, object _ | real _, null | real _, bool _ | real _, int _
  | real _, text _ | real _, list _ | real _, object _ | text _, null | text _, bool _
  | text _, int _ | text _, real _ | text _, list _ | text _, object _ | list _, null
  | list _, bool _ | list _, int _ | list _, real _ | list _, text _ | list _, object _
  | object _, null | object _, bool _ | object _, int _ | object _, real _ | object _, text _
  | object _, list _ => isFalse (by simp)

/-- Equality of lists of values is decidable. -/
def decideEqList : (a b : List Json) → Decidable (a = b)
  | [], [] => isTrue rfl
  | [], _ :: _ | _ :: _, [] => isFalse (by simp)
  | a :: as, b :: bs =>
    match decideEq a b, decideEqList as bs with
    | isTrue h, isTrue h' => isTrue (by rw [h, h'])
    | isFalse h, _ => isFalse (by simp [h])
    | _, isFalse h => isFalse (by simp [h])

/-- Equality of lists of fields is decidable. -/
def decideEqFields : (a b : List (String × Json)) → Decidable (a = b)
  | [], [] => isTrue rfl
  | [], _ :: _ | _ :: _, [] => isFalse (by simp)
  | (k, a) :: as, (l, b) :: bs =>
    match decEq k l, decideEq a b, decideEqFields as bs with
    | isTrue g, isTrue h, isTrue h' => isTrue (by rw [g, h, h'])
    | isFalse h, _, _ => isFalse (by simp [h])
    | _, isFalse h, _ => isFalse (by simp [h])
    | _, _, isFalse h => isFalse (by simp [h])

end

instance : DecidableEq Json := decideEq

/-! ### Fields -/

/-- The value of the first field with the given key. -/
def lookupField (key : String) : List (String × Json) → Option Json
  | [] => none
  | (k, v) :: rest => if k = key then some v else lookupField key rest

/-- Sets a field: in place if the key is there, at the end otherwise. -/
def putField (key : String) (value : Json) : List (String × Json) → List (String × Json)
  | [] => [(key, value)]
  | (k, v) :: rest =>
    if k = key then (k, value) :: rest else (k, v) :: putField key value rest

/-- The value of a field of an object; other values have no fields. -/
def field? (key : String) : Json → Option Json
  | object fields => lookupField key fields
  | _ => none

/-- The value of a field, or null when it is missing. -/
def get (j : Json) (key : String) : Json := (j.field? key).getD null

/-- An object with one field set; other values stay as they are. -/
def put (j : Json) (key : String) (value : Json) : Json :=
  match j with
  | object fields => object (putField key value fields)
  | j => j

/-- Whether a value is an object. -/
def isObject : Json → Bool
  | object _ => true
  | _ => false

/-- Whether a value is null. -/
def isNull : Json → Bool
  | null => true
  | _ => false

/-- Whether a value counts as given: null, false, zero and whatever is empty do not. -/
def isTruthy : Json → Bool
  | null => false
  | bool b => b
  | int n => n != 0
  | real x => !x.isZero
  | text s => s != ""
  | list items => !items.isEmpty
  | object fields => !fields.isEmpty

@[simp] theorem lookupField_nil (key : String) : lookupField key [] = none := rfl

@[simp] theorem lookupField_putField_self (key : String) (value : Json)
    (fields : List (String × Json)) :
    lookupField key (putField key value fields) = some value := by
  induction fields with
  | nil => simp [putField, lookupField]
  | cons f rest ih =>
    obtain ⟨k, v⟩ := f
    by_cases h : k = key <;> simp [putField, lookupField, h, ih]

theorem lookupField_putField_of_ne {key other : String} (h : other ≠ key) (value : Json)
    (fields : List (String × Json)) :
    lookupField other (putField key value fields) = lookupField other fields := by
  induction fields with
  | nil => simp [putField, lookupField, Ne.symm h]
  | cons f rest ih =>
    obtain ⟨k, v⟩ := f
    by_cases hk : k = key
    · subst hk; simp [putField, lookupField, Ne.symm h]
    · simp [putField, lookupField, hk, ih]

/-- A value that is found for a key stands with it among the fields. -/
theorem mem_of_lookupField {key : String} {value : Json} : ∀ {fields : List (String × Json)},
    lookupField key fields = some value → (key, value) ∈ fields := by
  intro fields h
  induction fields with
  | nil => cases h
  | cons f rest ih =>
    obtain ⟨k, v⟩ := f
    unfold lookupField at h
    split at h
    · obtain rfl := Option.some.inj h
      subst k
      exact List.mem_cons_self
    · exact List.mem_cons_of_mem _ (ih h)

/-! ### Contents -/

/-- The whole number a value is; `missing` stands for all other values. -/
def intOr (j : Json) (missing : Int) : Int :=
  match j with
  | int n => n
  | _ => missing

/-- The text a value is. -/
def text? : Json → Option String
  | text s => some s
  | _ => none

/-- The items of a list; other values have none. -/
def items : Json → List Json
  | list items => items
  | _ => []

/-! ### Display -/

mutual

/-- A value as messages show it. -/
def display : Json → String
  | null => "None"
  | bool true => "True"
  | bool false => "False"
  | int n => toString n
  | real x => x.render
  | text s => Text.quoted s
  | list items => "[" ++ displayItems items ++ "]"
  | object fields => "\x7b" ++ displayFields fields ++ "\x7d"

/-- The items of a list as messages show them. -/
def displayItems : List Json → String
  | [] => ""
  | [j] => display j
  | j :: rest => display j ++ ", " ++ displayItems rest

/-- The fields of an object as messages show them. -/
def displayFields : List (String × Json) → String
  | [] => ""
  | [(k, v)] => Text.quoted k ++ ": " ++ display v
  | (k, v) :: rest => Text.quoted k ++ ": " ++ display v ++ ", " ++ displayFields rest

end

mutual

/-- Whether a value can be shown: no whole number in it is too long to be written. -/
def isShowable : Json → Bool
  | int n => Text.canWrite n
  | list items => areShowable items
  | object fields => haveShowable fields
  | _ => true

/-- Whether all of several values can be shown. -/
def areShowable : List Json → Bool
  | [] => true
  | j :: rest => isShowable j && areShowable rest

/-- Whether the values of all fields can be shown. -/
def haveShowable : List (String × Json) → Bool
  | [] => true
  | (_, v) :: rest => isShowable v && haveShowable rest

end

/-- A value inserted into a text: texts stand as they are. -/
def plain : Json → String
  | text s => s
  | j => display j

/-! ### Building -/

/-- An optional text, absent as null. -/
def ofText? : Option String → Json
  | none => null
  | some s => text s

/-- An optional whole number, absent as null. -/
def ofInt? : Option Int → Json
  | none => null
  | some n => int n

/-- A natural number. -/
def nat (n : Nat) : Json := int n

/-- A list of texts. -/
def texts (ss : List String) : Json := list (ss.map text)

/-- A number as it was written. -/
def ofAmount : Amount → Json
  | .whole n => int n
  | .real negative count => real (.finite negative count)

/-- The number a value holds, if it is a finite one. -/
def amount? : Json → Option Amount
  | int n => some (.whole n)
  | real x => Amount.ofBinary64? x
  | _ => none

@[simp] theorem amount?_ofAmount (a : Amount) : (ofAmount a).amount? = some a := by
  cases a <;> rfl

end Json

end Mixtape
