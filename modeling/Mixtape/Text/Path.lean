import Mixtape.Text.Search

/-!
# Paths

Two paths that differ in steps without effect name one place. The plain form of a path has no such
steps.

* `plainPath` — the plain form.
* `isBelow` — whether a place lies in a folder, at any depth.
-/

namespace Mixtape.Text

/-- The beginning of a path that is not relative; two marks, and no more, are kept as two. -/
def rootOf (s : String) : String :=
  if startsWith s "///" then "/" else if startsWith s "//" then "//"
  else if startsWith s "/" then "/" else ""

/-- A path in its plain form: no empty steps and no steps that stay in place. -/
def plainPath (s : String) : String :=
  let steps := ((splitAt '/' s.toList).map String.ofList).filter fun p => p ≠ "" && p ≠ "."
  let whole := rootOf s ++ "/".intercalate steps
  if whole = "" then "." else whole

/-- Whether a place lies in a folder, at any depth; both in plain form. -/
def isBelow (folder place : String) : Bool := startsWith place (folder ++ "/")

example : plainPath "a/./b//c/" = "a/b/c" := by decide +kernel
example : plainPath "" = "." := by decide +kernel

end Mixtape.Text
