import Mixtape.Criteria.TagBinding
import Mixtape.Outward.Basic

/-!
# Authoring playlists

Smart playlists are created from criteria documents, changed, and, for a new library, seeded with a
few to begin with. Each is one unit of work: what fails leaves nothing behind.

* `createSmartPlaylist`, `updateSmartPlaylist` — creating and changing.
* `seedPlaylists` — the first playlists.
-/

namespace Mixtape

variable {σ : Type}

/-- Puts in a playlist and notes its membership in a library. -/
def addPlaylist (o : Outside σ) (l : Library) (p : SmartPlaylist) :
    Action (World σ) (SmartPlaylist × Membership) := do
  let p ← Action.ofExcept p.named
  let stored ← World.query (Database.createPlaylist p)
  let m ← noteMembership o stored l
  return (stored.withMembership (.nat m.trackIds.length) (.text m.fingerprint), m)

/-- Creates a smart playlist from a criteria document, in which tags may go by name. -/
def createSmartPlaylist (o : Outside σ) (name : String) (criteria : Json)
    (description : Json) : Action (World σ) (SmartPlaylist × Membership) :=
  World.unit do
    if (← World.query (Database.playlistNamed? name)).isSome then
      throw (.invalid ("smart playlist '" ++ name ++ "' already exists") (some "name"))
    let l ← World.query (Database.library false)
    let criteria ← Action.ofExcept (Criteria.authored l.tagNames criteria)
    addPlaylist o l { name, criteria, description }

/-- Gives a stored playlist the criteria of a document, and notes its new membership. -/
def reauthor (o : Outside σ) (id : Int) (criteria : Json) : Action (World σ) SmartPlaylist := do
  let l ← World.query (Database.library false)
  let criteria ← Action.ofExcept (Criteria.authored l.tagNames criteria)
  let p ← World.query (Database.saveCriteria id criteria)
  let m ← noteMembership o p l
  return p.withMembership (.nat m.trackIds.length) (.text m.fingerprint)

/-- Gives a smart playlist other criteria, or lets it take part in scheduled syncs or not. -/
def updateSmartPlaylist (o : Outside σ) (id : Int) (criteria : Option Json)
    (isActive : Json) : Action (World σ) SmartPlaylist :=
  World.unit do
    let p ← World.query (Database.playlist id)
    let p ← match criteria with
      | some document => reauthor o id document
      | none => pure p
    if isActive.isNull || isActive.isSame p.isActive then return p
    World.query (Database.setActive id isActive)

/-! ### The first playlists -/

/-- A rule as a document. -/
def seedRule (field operator slot : String) (value : Json) : Json :=
  .object [("field", .text field), ("operator", .text operator), (slot, value)]

/-- Criteria of one rule, in descending order, as a document. -/
def seedCriteria (rule : Json) (orderBy : String) : Json :=
  .object
    [("rules", .list [rule]), ("logic", .text "and"), ("orderBy", .text orderBy),
      ("orderDirection", .text "desc")]

/-- The first playlists: name, description and criteria. -/
def seeds : List (String × String × Json) :=
  [("My Favorites", "Your 5-star tracks",
      seedCriteria (seedRule "rating" "equals" "numberValue" (.int 5)) "ratedAt"),
    ("Highly Rated", "Tracks rated above 3.5 stars",
      seedCriteria
        (seedRule "rating" "greaterThan" "numberValue" (.real (.ofDecimal false 35 (-1))))
        "rating"),
    ("Recently Added", "Tracks added in the last 14 days",
      seedCriteria (seedRule "dateAdded" "inLast" "daysValue" (.int 14)) "dateAdded")]

/-- Creates those playlists whose name is not taken. -/
def seedEach (o : Outside σ) (l : Library) :
    List (String × String × Json) → Action (World σ) (List SmartPlaylist)
  | [] => pure []
  | (name, description, document) :: rest => do
    if (← World.query (Database.playlistNamed? name)).isSome then seedEach o l rest
    else
      let criteria ← Action.ofExcept (Criteria.ofDocument document)
      let (p, _) ← addPlaylist o l { name, criteria, description := .text description }
      return p :: (← seedEach o l rest)

/-- Creates the first playlists, apart from those whose name is taken. -/
def seedPlaylists (o : Outside σ) : Action (World σ) (List SmartPlaylist) :=
  World.unit do
    let l ← World.query (Database.library false)
    seedEach o l seeds

end Mixtape
