/-!
# Searching in text

Containment, beginning and end of texts, over lists of characters.

* `occursIn` — whether one text is a contiguous part of another.
* `occursIn_iff` — it is so iff the other is the one between two further texts.
-/

namespace Mixtape.Text

/-- Whether `needle` is a contiguous part of the other list. -/
def occursIn (needle : List Char) : List Char → Bool
  | [] => needle.isEmpty
  | c :: rest => needle.isPrefixOf (c :: rest) || occursIn needle rest

/-- Occurrence means that the list is the needle between two further lists. -/
theorem occursIn_iff {needle hay : List Char} :
    occursIn needle hay = true ↔ needle <:+: hay := by
  induction hay with
  | nil => simp [occursIn]
  | cons c rest ih => simp [occursIn, ih, List.infix_cons_iff]

/-- The texts between the occurrences of a mark, the mark left out. -/
def splitAt (mark : Char) : List Char → List (List Char)
  | [] => [[]]
  | c :: rest =>
    if c = mark then [] :: splitAt mark rest
    else
      match splitAt mark rest with
      | [] => [[c]]
      | part :: parts => (c :: part) :: parts

/-- Whether `s` begins with `start`. -/
def startsWith (s start : String) : Bool := start.toList.isPrefixOf s.toList

/-- Whether `s` ends with `stop`. -/
def endsWith (s stop : String) : Bool := stop.toList.isSuffixOf s.toList

/-- Whether `part` occurs in `s`. -/
def contains (s part : String) : Bool := occursIn part.toList s.toList

end Mixtape.Text
