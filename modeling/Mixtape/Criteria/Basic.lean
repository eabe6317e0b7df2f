import Mixtape.Criteria.Rule
import Mixtape.Text.Lowercase

/-!
# Criteria

What a smart playlist holds: rules joined by one logic, an order, and at most so many tracks.

* `Criteria` — the criteria.
* `Criteria.ofParts` — criteria from their parts, every part checked.
* `Criteria.ofDocument` — the criteria a document writes.
* `Criteria.toDocument` — the document criteria are written as.
-/

namespace Mixtape

/-- What a smart playlist holds. -/
structure Criteria where
  /-- The rules, in order. -/
  rules : List Rule := []
  /-- How the rules are joined. -/
  logic : Logic := .and
  /-- What tracks are ordered by. -/
  orderBy : OrderField := .dateAdded
  /-- The direction of the order. -/
  direction : Direction := .descending
  /-- The most tracks held. -/
  limit : Option Nat := none
  /-- A limit is positive. -/
  limit_pos : ∀ n ∈ limit, 0 < n := by simp
  deriving DecidableEq

namespace Criteria

/-- The place of the `i`-th rule in a document. -/
def rulePath (i : Nat) : String := "rules[" ++ toString i ++ "]"

/-- The order field a value spells. -/
def orderFieldOf (j : Json) : Except Failure OrderField :=
  let failure : Failure :=
    .showing j (.invalid ("cannot order by " ++ j.display) (some "orderBy"))
  match j with
  | .text s => (OrderField.ofName? s).elim (.error failure) .ok
  | _ => .error failure

/-- The limit a value writes: none, or a positive whole number. -/
def limitOf (j : Json) : Except Failure { limit : Option Nat // ∀ n ∈ limit, 0 < n } :=
  let failure : Failure := .invalid "limit must be a positive integer" (some "limit")
  match j with
  | .null => .ok ⟨none, by simp⟩
  | .int n => if h : 0 < n.toNat then .ok ⟨some n.toNat, by simpa using h⟩ else .error failure
  | _ => .error failure

/-! ### From parts -/

/-- The refusal of a value that spells no member of an enumeration. -/
def noMember (j : Json) (enumeration : String) : Failure :=
  .showing j (.outOfRange (j.display ++ " is not a valid " ++ enumeration))

/-- The logic a value spells exactly. -/
def logicOf (j : Json) : Except Failure Logic :=
  match j with
  | .text s => (Logic.ofName? s).elim (.error (noMember j "RuleLogic")) .ok
  | _ => .error (noMember j "RuleLogic")

/-- The direction a value spells exactly. -/
def directionOf (j : Json) : Except Failure Direction :=
  match j with
  | .text s => (Direction.ofName? s).elim (.error (noMember j "OrderDirection")) .ok
  | _ => .error (noMember j "OrderDirection")

/-- Criteria from their parts as given: logic, order and direction are read first, the rules are
checked next, the limit last. A rule that is none is refused at its place. -/
def ofParts (rules : List (Option Rule)) (logic orderBy direction limit : Json) :
    Except Failure Criteria := do
  let logic ← logicOf logic
  let orderBy ← orderFieldOf orderBy
  let direction ← directionOf direction
  match rules.findIdx? (·.isNone) with
  | some i => throw (.invalid "not a playlist rule" (some (rulePath i)))
  | none =>
    let limit ← limitOf limit
    pure
      { rules := rules.filterMap id, logic, orderBy, direction, limit := limit.val,
        limit_pos := limit.property }

/-! ### Documents -/

/-- The rules a list of documents writes, the first of which stands at place `i`. -/
def rulesFrom (i : Nat) : List Json → Except Failure (List Rule)
  | [] => .ok []
  | j :: rest => do
    let r ← Rule.ofDocumentAt (some (rulePath i)) j
    let rs ← rulesFrom (i + 1) rest
    pure (r :: rs)

/-- The rules under a document's `rules`: none when nothing is given. -/
def rulesOf (j : Json) : Except Failure (List Rule) :=
  if !j.isTruthy then .ok []
  else
    match j with
    | .list items => rulesFrom 0 items
    | _ => .error (.invalid "rules must be a list" (some "rules"))

/-- A word that may be spelt in any case and left out; only a text can spell it. -/
def wordOf {α : Type} (ofName? : String → Option α) (missing : α) (key title : String) (j : Json) :
    Except Failure α :=
  let failure : Failure :=
    .showing j (.invalid ("unknown " ++ title ++ " " ++ j.display) (some key))
  if !j.isTruthy then .ok missing
  else
    match j with
    | .text s => (ofName? (Text.lower s)).elim (.error failure) .ok
    | _ => .error failure

/-- The criteria a document writes. Rules are read first, then the logic, the direction, the order
field and the limit. -/
def ofDocument (j : Json) : Except Failure Criteria := do
  if !j.isObject then throw (.invalid "criteria must be an object" none)
  let rules ← rulesOf (j.get "rules")
  let logic ← wordOf Logic.ofName? .and "logic" "logic" (j.get "logic")
  let direction ←
    wordOf Direction.ofName? .descending "orderDirection" "direction" (j.get "orderDirection")
  let orderBy ←
    if (j.get "orderBy").isTruthy then orderFieldOf (j.get "orderBy") else pure .dateAdded
  let limit ← limitOf (j.get "limit")
  pure { rules, logic, orderBy, direction, limit := limit.val, limit_pos := limit.property }

/-- The document criteria are written as. -/
def toDocument (c : Criteria) : Json :=
  .object ([("rules", .list (c.rules.map Rule.toDocument)), ("logic", .text c.logic.name),
    ("orderBy", .text c.orderBy.name), ("orderDirection", .text c.direction.name)]
    ++ (c.limit.map fun n => ("limit", Json.nat n)).toList)

end Criteria

end Mixtape
