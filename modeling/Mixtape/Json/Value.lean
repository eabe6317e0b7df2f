import Mixtape.Failure
import Mixtape.Number.Magnitude

/-!
# Values in use

What can be done with a value of any kind: numbers are compared and added, lists, texts and objects
are gone through, and pairs make up an object. A value of the wrong kind is refused.

* `Json.kind` — the name of a value's kind, as refusals give it.
* `Json.magnitude?`, `Json.isSame` — the size of a number, and equality in value.
* `Json.plus` — the sum of two numbers.
* `Json.elements` — what a value consists of.
* `Json.asObject` — the object a value makes up.
-/

namespace Mixtape.Json

/-- The name of a value's kind. -/
def kind : Json → String
  | null => "NoneType"
  | bool _ => "bool"
  | int _ => "int"
  | real _ => "float"
  | text _ => "str"
  | list _ => "list"
  | object _ => "dict"

/-! ### Numbers -/

/-- A number as an operand: a truth value counts as one or zero. -/
def number? : Json → Option Json
  | bool b => some (int (if b then 1 else 0))
  | int n => some (int n)
  | real x => some (real x)
  | _ => none

/-- The size of a number; a truth value counts as one or zero. -/
def magnitude? (j : Json) : Option Magnitude :=
  match j.number? with
  | some (int n) => some (.ofInt n)
  | some (real x) => Magnitude.ofBinary64? x
  | _ => none

/-- The binary number nearest to a number. -/
def toBinary64 (j : Json) : Except Failure Binary64 :=
  match j.number? with
  | some (int n) => (Binary64.ofInt? n).elim (.error (.overflow Binary64.tooLarge)) .ok
  | some (real x) => .ok x
  | _ => .error (.wrongType ("must be real number, not " ++ j.kind))

/-- The refusal of an operation between two values. -/
def unsuited (operation : String) (a b : Json) : Failure :=
  .wrongType ("unsupported operand type(s) for " ++ operation ++ ": '" ++ a.kind ++ "' and '"
    ++ b.kind ++ "'")

/-- The refusal of a comparison of two values. -/
def incomparable (operation : String) (a b : Json) : Failure :=
  .wrongType ("'" ++ operation ++ "' not supported between instances of '" ++ a.kind ++ "' and '"
    ++ b.kind ++ "'")

/-- The sum of two numbers: exact if both are whole, else the nearest binary number. -/
def plus (a b : Json) : Except Failure Json :=
  match a.number?, b.number? with
  | some (int m), some (int n) => .ok (int (m + n))
  | some m, some n => do
    let x ← toBinary64 m
    let y ← toBinary64 n
    pure (real (x.add y))
  | _, _ => .error (unsuited "+" a b)

/-! ### Equality in value -/

mutual

/-- Whether two values are equal: numbers in size, lists item by item, objects field by field in
any order. -/
def isSame : (a b : Json) → Bool
  | list as, list bs => isSameItems as bs
  | object as, object bs => as.length == bs.length && isWithin as bs
  | a, b => if a.number?.isSome && b.number?.isSome then
      a.magnitude?.isSome && a.magnitude? == b.magnitude?
    else a == b

/-- Whether two lists are equal in value. -/
def isSameItems : (as bs : List Json) → Bool
  | [], [] => true
  | a :: as, b :: bs => isSame a b && isSameItems as bs
  | _, _ => false

/-- Whether every field is among others with an equal value. -/
def isWithin : (as bs : List (String × Json)) → Bool
  | [], _ => true
  | (k, a) :: as, bs =>
    (match lookupField k bs with
      | some b => isSame a b
      | none => false)
      && isWithin as bs

end

@[simp] theorem isSame_text {s t : String} : isSame (text s) (text t) = true ↔ s = t := by
  rw [isSame]
  · simp [number?]
  · intros
    contradiction
  · intros
    contradiction

/-- Whole numbers are equal in value if they are equal. -/
@[simp] theorem isSame_int {m n : Int} : (int m).isSame (int n) = true ↔ m = n := by
  have hsame : (int m).isSame (int n) = (Magnitude.ofInt m == Magnitude.ofInt n) := by
    rw [isSame]
    · simp [number?, magnitude?]
    · intros
      contradiction
    · intros
      contradiction
  rw [hsame, beq_iff_eq, Magnitude.ofInt_inj]

/-! ### Contents -/

/-- What a value consists of: the items of a list, the keys of an object, the characters of a
text. -/
def elements : Json → Except Failure (List Json)
  | list items => .ok items
  | object fields => .ok (fields.map fun f => text f.1)
  | text s => .ok (s.toList.map fun c => text (String.ofList [c]))
  | j => .error (.wrongType ("'" ++ j.kind ++ "' object is not iterable"))

/-- The pair that stands at place `i` among pairs. -/
def pairAt (i : Nat) (j : Json) : Except Failure (String × Json) :=
  match j.elements with
  | .error _ =>
    .error (.wrongType ("cannot convert dictionary update sequence element #" ++ toString i
      ++ " to a sequence"))
  | .ok [key, value] => .ok (key.plain, value)
  | .ok other =>
    .error (.outOfRange ("dictionary update sequence element #" ++ toString i ++ " has length "
      ++ toString other.length ++ "; 2 is required"))

/-- The fields that pairs make up, the first of which stands at place `i`. -/
def fieldsFrom (i : Nat) : List Json → Except Failure (List (String × Json))
  | [] => .ok []
  | j :: rest => do
    let field ← pairAt i j
    let others ← fieldsFrom (i + 1) rest
    pure (field :: others)

/-- The object a value makes up: itself, or the fields of pairs, of several with one key the
last. -/
def asObject (j : Json) : Except Failure Json :=
  match j with
  | object _ => .ok j
  | _ => do
    let pairs ← fieldsFrom 0 (← j.elements)
    pure (object (pairs.foldl (fun fields f => putField f.1 f.2 fields) []))

/-- What stands in place of an object: something without fields is refused. -/
def requireObject (j : Json) : Except Failure Unit :=
  match j with
  | object _ => .ok ()
  | _ => .error (.unsupported ("'" ++ j.kind ++ "' object has no attribute 'get'"))

end Mixtape.Json
