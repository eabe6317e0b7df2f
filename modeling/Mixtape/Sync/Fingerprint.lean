import Mixtape.Sorting
import Mixtape.Text.Order
import Mixtape.Text.Sha256

/-!
# Fingerprints

The fingerprint of a collection depends on its members alone: it is the digest of the sorted ids,
each once, with a bar between them.

* `canonicalText` — the text that is digested.
* `fingerprint` — its digest.
-/

namespace Mixtape

/-- Texts with a bar between them. -/
def joinBars : List String → String
  | [] => ""
  | [s] => s
  | s :: rest => s ++ "|" ++ joinBars rest

/-- The sorted ids, each once, with a bar between them. -/
def canonicalText (ids : List String) : String := joinBars (sortBy Text.leText (dedup ids))

/-- The fingerprint of a collection of ids. -/
def fingerprint (ids : List String) : String := Text.sha256 (canonicalText ids)

end Mixtape
