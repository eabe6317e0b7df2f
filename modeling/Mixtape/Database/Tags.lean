import Mixtape.Database.Refusal
import Mixtape.Database.Tracks
import Mixtape.Text.Blank
import Mixtape.Text.Lowercase

/-!
# Stored tags

* `Database.createTag`, `Database.renameTag` — naming tags.
* `Database.linkTag` — tagging a track.
* `resolveTag` — the tag a user means.
-/

namespace Mixtape

/-- The tag a text means: the first by name that has the text as its number, or as its name
without regard to case. -/
def resolveTag (tags : List Tag) (text : String) : Except Failure Tag :=
  let wanted := Text.trim text
  match tags.find? fun t => toString t.id == wanted || Text.lower t.name == Text.lower wanted with
  | some t => .ok t
  | none => .error (.notFound "Tag" text)

namespace Database

/-- The columns of a new tag. -/
def tagColumns (t : Tag) : List (String × Json) :=
  [("name", .text t.name), ("color", .text t.color)]

/-- The statement that renames a tag. -/
def tagUpdate (id : Int) (name : String) (now : Timestamp) : Statement :=
  ⟨"UPDATE tags SET name=?, updated_at=? WHERE tags.id = ?",
    [.text name, writtenAt now, .int id]⟩

/-- Creates a tag. A name is refused if it is that of a tag, the case of ASCII letters of the
tag's name left out of account. -/
def createTag (now : Timestamp) (name : String) (color : Option String) : Action Database Tag := do
  let name := Text.trim name
  if name = "" then throw (.invalid "tag name must not be empty" (some "name"))
  let d ← get
  if d.tags.any fun t => Text.lowerAscii t.name == Text.lower name then
    throw (.invalid ("tag '" ++ name ++ "' already exists") (some "name"))
  let plain : Tag := { id := nextId (d.tags.map (·.id)), name }
  let tag :=
    match color.filter (· ≠ "") with
    | some color => { plain with color }
    | none => plain
  Action.ofExcept (requireFree (!d.tags.any (·.name == name)) ["tags.name"]
    (.insertion "tags" (tagColumns tag) false now))
  set { d with tags := d.tags ++ [tag] }
  return tag

/-- Renames a tag. -/
def renameTag (now : Timestamp) (id : Int) (name : String) : Action Database Tag := do
  Action.ofExcept (storable id)
  let d ← get
  match d.tags.find? (·.id == id) with
  | none => throw (.notFound "Tag" (toString id))
  | some tag =>
    let name := Text.trim name
    Action.ofExcept (requireFree (!d.tags.any fun t => t.id != id && t.name == name)
      ["tags.name"] (tagUpdate id name now))
    set { d with tags := changeWhere (·.id == id) (fun t => { t with name }) d.tags }
    return { tag with name }

/-- Tags a track; a track that has the tag keeps it. -/
def linkTag (track tag : Int) : Action Database Unit := do
  Action.ofExcept (storable track)
  Action.ofExcept (storable tag)
  let d ← get
  if !d.tagLinks.contains (track, tag) then
    Action.ofExcept (require (d.tracks.any (·.id == track)))
    addTagLinks track [.int tag]

end Database

end Mixtape
