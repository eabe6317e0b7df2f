import Mixtape.Text.Blank
import Mixtape.Text.Digit
import Mixtape.Text.Lowercase
import Mixtape.Text.Search

/-!
# Styles

A style is written in words: attributes of the text, some with a short spelling, a colour, a colour
of the ground after `on`, and a target after `link`; `not` takes an attribute away. Written anew,
a style lists its attributes in a fixed order.

* `isColour` — the words for colours.
* `Style`, `Style.ofWords?` — a style and how it is read.
* `Style.text` — a style written anew.
* `styleName` — the name that two spellings of one style share.
-/

namespace Mixtape.Markup

/-! ### Colours -/

/-- The names of the colours; the greys are also spelt with an `a`. -/
def colourLines : List String :=
  ["default black red green yellow blue magenta cyan white bright_black bright_red bright_green",
    "bright_yellow bright_blue bright_magenta bright_cyan bright_white grey0 navy_blue",
    "dark_blue blue3 blue1 dark_green deep_sky_blue4 dodger_blue3 dodger_blue2 green4",
    "spring_green4 turquoise4 deep_sky_blue3 dodger_blue1 green3 spring_green3 dark_cyan",
    "light_sea_green deep_sky_blue2 deep_sky_blue1 spring_green2 cyan3 dark_turquoise",
    "turquoise2 green1 spring_green1 medium_spring_green cyan2 cyan1 dark_red deep_pink4",
    "purple4 purple3 blue_violet orange4 grey37 medium_purple4 slate_blue3 royal_blue1",
    "chartreuse4 dark_sea_green4 pale_turquoise4 steel_blue steel_blue3 cornflower_blue",
    "chartreuse3 cadet_blue sky_blue3 steel_blue1 pale_green3 sea_green3 aquamarine3",
    "medium_turquoise chartreuse2 sea_green2 sea_green1 aquamarine1 dark_slate_gray2",
    "dark_magenta dark_violet purple light_pink4 plum4 medium_purple3 slate_blue1 yellow4",
    "wheat4 grey53 light_slate_grey light_slate_gray medium_purple light_slate_blue",
    "dark_olive_green3 dark_sea_green light_sky_blue3 sky_blue2 dark_sea_green3",
    "dark_slate_gray3 sky_blue1 chartreuse1 light_green pale_green1 dark_slate_gray1 red3",
    "medium_violet_red magenta3 dark_orange3 indian_red hot_pink3 medium_orchid3",
    "medium_orchid medium_purple2 dark_goldenrod light_salmon3 rosy_brown grey63",
    "medium_purple1 gold3 dark_khaki navajo_white3 grey69 light_steel_blue3 light_steel_blue",
    "yellow3 dark_sea_green2 light_cyan3 light_sky_blue1 green_yellow dark_olive_green2",
    "dark_sea_green1 pale_turquoise1 deep_pink3 magenta2 hot_pink2 orchid medium_orchid1",
    "orange3 light_pink3 pink3 plum3 violet light_goldenrod3 tan misty_rose3 thistle3 plum2",
    "khaki3 light_goldenrod2 light_yellow3 grey84 light_steel_blue1 yellow2 dark_olive_green1",
    "honeydew2 light_cyan1 red1 deep_pink2 deep_pink1 magenta1 orange_red1 indian_red1",
    "hot_pink dark_orange salmon1 light_coral pale_violet_red1 orchid2 orchid1 orange1",
    "sandy_brown light_salmon1 light_pink1 pink1 plum1 gold1 navajo_white1 misty_rose1",
    "thistle1 yellow1 light_goldenrod1 khaki1 wheat1 cornsilk1 grey100 grey3 grey7 grey11",
    "grey15 grey19 grey23 grey27 grey30 grey35 grey39 grey42 grey46 grey50 grey54 grey58",
    "grey62 grey66 grey70 grey74 grey78 grey82 grey85 grey89 grey93"]

/-- The names of the colours. -/
def colours : List String :=
  colourLines.flatMap fun line => (Text.splitAt ' ' line.toList).map String.ofList

/-- The other spelling of a grey. -/
def greySpelt (s : String) : String :=
  match s.toList with
  | 'g' :: 'r' :: 'a' :: 'y' :: rest => String.ofList ('g' :: 'r' :: 'e' :: 'y' :: rest)
  | _ => s

/-- Whether a character is a hexadecimal digit in small letters. -/
def isHexDigit (c : Char) : Bool := c.isDigit || decide ('a' ≤ c ∧ c ≤ 'f')

/-- What stands in brackets after a word, at the end of a text. -/
def bracketed? (word : String) (s : List Char) : Option (List Char) :=
  let start := word.toList ++ ['(']
  if s.take start.length = start ∧ s.getLast? = some ')' then some (s.drop start.length).dropLast
  else none

/-- Whether a text of digits writes a number of one byte. -/
def isByte (digits : List Char) : Bool :=
  !digits.isEmpty && digits.all Text.isDecimal && decide (Text.natOfDigits 0 digits ≤ 255)

/-- Whether a word in small letters is a colour: a name, three bytes after a hash or in brackets, or
a number. -/
def isColour (s : String) : Bool :=
  colours.contains s || colours.contains (greySpelt s) ||
    match s.toList with
    | '#' :: digits => digits.length == 6 && digits.all isHexDigit
    | cs =>
      match bracketed? "color" cs, bracketed? "rgb" cs with
      | some n, _ => decide (n.length ≤ 3) && n.all Char.isDigit && isByte n
      | none, some parts => (Text.splitAt ',' parts).length == 3 && (Text.splitAt ',' parts).all isByte
      | none, none => false

/-! ### Reading -/

/-- A style. -/
structure Style where
  /-- Attributes that are set or taken away, the latest first. -/
  attributes : List (String × Bool) := []
  /-- The colour of the text. -/
  colour : Option String := none
  /-- The colour of the ground. -/
  ground : Option String := none
  /-- The target. -/
  link : Option String := none

/-- The attributes in the order in which a style lists them, each with its spellings. -/
def attributeSpellings : List (String × List String) :=
  [("bold", ["bold", "b"]), ("dim", ["dim", "d"]), ("italic", ["italic", "i"]),
    ("underline", ["underline", "u"]), ("blink", ["blink"]), ("blink2", ["blink2"]),
    ("reverse", ["reverse", "r"]), ("conceal", ["conceal", "c"]), ("strike", ["strike", "s"]),
    ("underline2", ["underline2", "uu"]), ("frame", ["frame"]), ("encircle", ["encircle"]),
    ("overline", ["overline", "o"])]

/-- The attribute with a spelling. -/
def attribute? (word : String) : Option String :=
  (attributeSpellings.find? (·.2.contains word)).map (·.1)

/-- A style with what a word sets that stands on its own. -/
def Style.withWord? (s : Style) (word : String) : Option Style :=
  match attribute? word with
  | some a => some { s with attributes := (a, true) :: s.attributes }
  | none => if isColour word then some { s with colour := some word } else none

/-- The style that words write, on top of another. -/
def Style.ofWords? (s : Style) : List String → Option Style
  | [] => some s
  | word :: rest =>
    match Text.lower word, rest with
    | "on", ground :: rest =>
      let ground := Text.lower ground
      if isColour ground then Style.ofWords? { s with ground := some ground } rest else none
    | "not", spelling :: rest =>
      match attribute? spelling with
      | some a => Style.ofWords? { s with attributes := (a, false) :: s.attributes } rest
      | none => none
    | "link", target :: rest => Style.ofWords? { s with link := some target } rest
    | word, rest =>
      match s.withWord? word with
      | some s => Style.ofWords? s rest
      | none => none

/-! ### Writing -/

/-- The words of a style. -/
def Style.words (s : Style) : List String :=
  (attributeSpellings.filterMap fun (a, _) =>
      (s.attributes.lookup a).map fun set => if set then a else "not " ++ a)
    ++ s.colour.toList ++ (s.ground.toList.map ("on " ++ ·)) ++ (s.link.toList.map ("link " ++ ·))

/-- A style written anew; one that sets nothing is called none. -/
def Style.text (s : Style) : String := if s.words.isEmpty then "none" else " ".intercalate s.words

/-- The name that all spellings of a style share; what is no style keeps its name, in small letters
and without the blanks at either end. -/
def styleName (written : String) : String :=
  let bare := Text.trim written
  if bare = "" ∨ bare = "none" then "none"
  else
    match Style.ofWords? {} (Text.words written) with
    | some s => s.text
    | none => Text.lower bare

example : (Style.ofWords? {} ["u", "not", "b"]).map Style.words
    = some ["not bold", "underline"] := by decide +kernel

end Mixtape.Markup
