import Mixtape.CommandLine.Arguments
import Mixtape.Intake.Basic
import Mixtape.Number.Entry

/-!
# Commands

What can be asked for on the command line. Every command has a form: the words that name it, its
switches, and how it is made of what was given.

* `Command` — the commands.
* `Command.title` — what a command is called when it fails.
* `Command.forms` — the forms.
* `Command.ofWords?` — the command that words ask for.
-/

namespace Mixtape.CommandLine

/-- Where a criteria document comes from: the words themselves or a file, which goes before. -/
structure CriteriaSource where
  /-- The document as it was given. -/
  document : Option String := none
  /-- The name of a file. -/
  file : Option String := none
  deriving DecidableEq

/-- What can be asked for. -/
inductive Command where
  /-- Makes the database ready. -/
  | prepare
  /-- Shows all smart playlists, or those that take part in scheduled syncs. -/
  | listPlaylists (activeOnly : Bool)
  /-- Creates a smart playlist. -/
  | createPlaylist (name : String) (criteria : CriteriaSource) (description : Option String)
  /-- Gives a smart playlist other criteria, or lets it take part in scheduled syncs or not. -/
  | updatePlaylist (id : Int) (criteria : CriteriaSource) (active : Option Bool)
  /-- Shows the first tracks of a smart playlist. -/
  | previewPlaylist (id : Int) (rows : Int)
  /-- Brings a smart playlist outward. -/
  | syncPlaylist (id : Int) (force : Bool)
  /-- Brings outward all smart playlists with an outward copy. -/
  | syncAll (force : Bool)
  /-- Takes in the library. -/
  | takeIn (options : IntakeOptions)
  /-- Shows the tags. -/
  | listTags
  /-- Creates a tag. -/
  | createTag (name : String) (color : Option String)
  /-- Renames a tag. -/
  | renameTag (id : Int) (name : String)
  /-- Shows the tracks of the library. -/
  | listTracks
  /-- Rates a track, or takes its rating away. -/
  | rateTrack (id : Int) (rating : Option Binary64) (clear : Bool)
  /-- Tags a track. -/
  | tagTrack (id : Int) (tag : String)
  /-- Imports plays. -/
  | importPlays
  /-- Creates the first playlists. -/
  | seed
  /-- Takes in the library and creates the first playlists, once for an account. -/
  | onboard (account : String)
  deriving DecidableEq

namespace Command

/-- What a command is called when it fails. -/
def title : Command → String
  | prepare => "initialize database"
  | listPlaylists _ => "list playlists"
  | createPlaylist _ _ _ => "create playlist"
  | updatePlaylist _ _ _ => "update playlist"
  | previewPlaylist _ _ => "preview playlist"
  | syncPlaylist _ _ => "sync playlist"
  | syncAll _ => "sync all playlists"
  | takeIn _ => "mirror library"
  | listTags => "list tags"
  | createTag _ _ => "create tag"
  | renameTag _ _ => "rename tag"
  | listTracks => "list tracks"
  | rateTrack _ _ _ => "rate track"
  | tagTrack _ _ => "assign tag"
  | importPlays => "import plays"
  | seed => "seed playlists"
  | onboard _ => "onboard"

/-- The file that a command reads. -/
def file? : Command → Option String
  | createPlaylist _ criteria _ | updatePlaylist _ criteria _ => criteria.file
  | _ => none

/-! ### Switches -/

/-- A switch that takes a text. -/
def takesText (field : String) (spellings : List String) : Switch := { spellings, field }

/-- A switch that is set when it is given. -/
def setsTrue (field : String) (spellings : List String) : Switch :=
  { spellings, field, sets := some true }

/-- Two switches that set and unset. -/
def setsEither (field yes no : String) : List Switch :=
  [⟨[yes], field, some true⟩, ⟨[no], field, some false⟩]

/-- The switches before the words that name a command. -/
def generalSwitches : List Switch := [setsTrue "verbose" ["--verbose", "-v"]]

/-- The switches of a criteria document. -/
def criteriaSwitches : List Switch :=
  [takesText "criteria" ["--criteria", "-c"], takesText "file" ["--criteria-file", "-f"]]

/-- The criteria document that was given. -/
def criteriaOf (g : Given) : CriteriaSource := ⟨g.text? "criteria", g.text? "file"⟩

/-- The switch that leaves no work out. -/
def forceSwitch : Switch := setsTrue "force" ["--force"]

/-- What is to be taken in. -/
def intakeOf (g : Given) : IntakeOptions where
  forceRefresh := g.flag "refresh" false
  albums := g.flag "albums" true
  likedTracks := g.flag "liked" true
  playlists := g.flag "playlists" true
  features := g.flag "features" true

/-! ### Forms -/

/-- How a command is asked for. -/
structure Form where
  /-- The words that name it. -/
  path : List String
  /-- Its switches. -/
  switches : List Switch := []
  /-- The command, made of what was given. -/
  build : Given → Option Command

/-- The words that name a command as one text. -/
def Form.words (f : Form) : String := " ".intercalate f.path

/-- A command without operands. -/
def alone (command : Given → Command) (g : Given) : Option Command :=
  if g.operands.isEmpty then some (command g) else none

/-- A command whose operand is a whole number. -/
def numbered (command : Given → Int → Option Command) (g : Given) : Option Command :=
  match g.operands with
  | [n] => (Entry.whole? n).bind (command g)
  | _ => none

/-- A command whose operands are a whole number and a text. -/
def numberedText (command : Int → String → Command) (g : Given) : Option Command :=
  match g.operands with
  | [n, text] => (Entry.whole? n).map fun n => command n text
  | _ => none

/-- A command whose operand is a text. -/
def named (command : Given → String → Command) (g : Given) : Option Command :=
  match g.operands with
  | [name] => some (command g name)
  | _ => none

/-- The number a switch gives, or the one that holds when none is given; nothing if the text is no
whole number. -/
def wholeOr (g : Given) (field : String) (missing : Int) : Option Int :=
  match g.text? field with
  | some text => Entry.whole? text
  | none => some missing

/-- How many tracks a preview shows when no number is given. -/
def previewRows : Int := 25

/-- The command that rates: a number, and a rating unless none is to be left. -/
def rating (g : Given) : Option Command :=
  match g.operands with
  | [n] => (Entry.whole? n).map fun n => rateTrack n none (g.flag "clear" false)
  | [n, r] => do return rateTrack (← Entry.whole? n) (← Entry.number? r) (g.flag "clear" false)
  | _ => none

/-- The forms of the commands about playlists. -/
def playlistForms : List Form :=
  [⟨["playlist", "list"], [setsTrue "active" ["--active-only", "-a"]],
      alone fun g => listPlaylists (g.flag "active" false)⟩,
    ⟨["playlist", "create"],
      criteriaSwitches ++ [takesText "description" ["--description", "-d"]],
      named fun g name => createPlaylist name (criteriaOf g) (g.text? "description")⟩,
    ⟨["playlist", "update"], criteriaSwitches ++ setsEither "active" "--enable" "--disable",
      numbered fun g id => some (updatePlaylist id (criteriaOf g) (g.flag? "active"))⟩,
    ⟨["playlist", "preview"], [takesText "limit" ["--limit", "-l"]],
      numbered fun g id => (wholeOr g "limit" previewRows).map (previewPlaylist id)⟩,
    ⟨["playlist", "sync"], [forceSwitch],
      numbered fun g id => some (syncPlaylist id (g.flag "force" false))⟩,
    ⟨["playlist", "sync-all"], [forceSwitch], alone fun g => syncAll (g.flag "force" false)⟩]

/-- The forms of the commands about the library. -/
def libraryForms : List Form :=
  [⟨["library", "mirror"],
      setsTrue "refresh" ["--force-refresh"] :: setsEither "liked" "--liked" "--no-liked"
        ++ setsEither "albums" "--albums" "--no-albums"
        ++ setsEither "playlists" "--playlists" "--no-playlists"
        ++ setsEither "features" "--audio-features" "--no-audio-features",
      alone fun g => takeIn (intakeOf g)⟩,
    ⟨["library", "tags"], [], alone fun _ => listTags⟩,
    ⟨["library", "tag-create"], [takesText "color" ["--color"]],
      named fun g name => createTag name (g.text? "color")⟩,
    ⟨["library", "tag-rename"], [], numberedText renameTag⟩,
    ⟨["library", "tracks"], [], alone fun _ => listTracks⟩,
    ⟨["library", "rate"], [setsTrue "clear" ["--clear"]], rating⟩,
    ⟨["library", "tag-assign"], [], numberedText tagTrack⟩,
    ⟨["library", "plays"], [], alone fun _ => importPlays⟩]

/-- The forms of the commands that set things up. -/
def setupForms : List Form :=
  [⟨["init-db"], [], alone fun _ => prepare⟩,
    ⟨["setup", "seed"], [], alone fun _ => seed⟩,
    ⟨["setup", "onboard"], [takesText "account" ["--account", "-a"]],
      alone fun g => onboard ((g.text? "account").getD "default")⟩]

/-- All forms. -/
def forms : List Form := playlistForms ++ libraryForms ++ setupForms

/-- The form with a path. -/
def form? (path : List String) : Option Form := forms.find? (·.path == path)

/-- The command of a form. -/
def ofForm? (f : Form) (words : List String) : Option Command :=
  (read f.switches true words).bind f.build

/-- The command that words ask for, switches before them included. -/
def ofWords? (words : List String) : Option Command := do
  let head :: rest := (← read generalSwitches false words).operands | none
  match form? [head] with
  | some f => ofForm? f rest
  | none =>
    let next :: rest := (← read [] false rest).operands | none
    ofForm? (← form? [head, next]) rest

/-! ### Laws -/

/-- No words ask for nothing. -/
@[simp] theorem ofWords?_nil : ofWords? [] = none := rfl

end Command

end Mixtape.CommandLine
