import Mixtape.Failure
import Mixtape.Registry
import Mixtape.Text.Path

/-!
# Files

The files that a session knows of. They are named by paths in plain form, so that each has one
name.

* `Files` — texts and folders.
* `Files.has` — whether a path names something.
* `Files.read` — the text at a path.
-/

namespace Mixtape.CommandLine

/-- What is known of the file system. -/
structure Files where
  /-- The texts that can be read, by path. The null device is read as an empty text. -/
  texts : Registry String := [("/dev/null", "")]
  /-- The folders, apart from those a text lies in. -/
  folders : List String := [".", "..", "/"]

namespace Files

/-- Whether a path in plain form names a folder. -/
def isFolder (f : Files) (path : String) : Bool :=
  f.folders.contains path || f.texts.keys.any (Text.isBelow path)

/-- Whether a path names something. -/
def has (f : Files) (path : String) : Bool :=
  let path := Text.plainPath path
  (f.texts.find? path).isSome || f.isFolder path

/-- The text at a path. -/
def read (f : Files) (path : String) : Except Failure String :=
  let path := Text.plainPath path
  match f.texts.find? path with
  | some text => .ok text
  | none =>
    if f.isFolder path then .error (.misuse ("[Errno 21] Is a directory: " ++ Text.quoted path))
    else .error (.misuse ("[Errno 2] No such file or directory: " ++ Text.quoted path))

/-- The files with further ones. -/
def add (f : Files) (texts : Registry String) (folders : List String) : Files where
  texts := f.texts.putAll (texts.map fun t => (Text.plainPath t.1, t.2))
  folders := f.folders ++ folders.map Text.plainPath

/-- What can be read is there. -/
theorem has_of_read {f : Files} {path text : String} (h : f.read path = .ok text) :
    f.has path = true := by
  unfold read at h
  unfold has
  cases hf : f.texts.find? (Text.plainPath path) with
  | some t => simp [hf]
  | none => simp only [hf] at h; split at h <;> cases h

end Files

end Mixtape.CommandLine
