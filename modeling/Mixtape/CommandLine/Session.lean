import Mixtape.Authoring
import Mixtape.CommandLine.Command
import Mixtape.CommandLine.Files
import Mixtape.CommandLine.Report
import Mixtape.Edits
import Mixtape.Json.Reader
import Mixtape.Schedule

/-!
# Sessions

Commands are carried out one after the other over one studio and one set of files. Every command
has a job runner of its own; jobs are recorded in the database, and a command that starts jobs ends
when they have ended.

* `Session` — the studio and the files.
* `Session.perform` — carries out a command.
* `Session.run` — carries out the command that words ask for.
-/

namespace Mixtape.CommandLine

/-- A studio at the command line. -/
structure Session where
  /-- The studio with its jobs. -/
  system : JobSystem Studio
  /-- The files. -/
  files : Files := {}
  /-- The settings. -/
  settings : Settings := {}

namespace Session

/-! ### Criteria documents -/

/-- A text with line feeds at the ends of its lines. -/
def lineFeeds : List Char → List Char
  | '\r' :: '\n' :: rest => '\n' :: lineFeeds rest
  | '\r' :: rest => '\n' :: lineFeeds rest
  | c :: rest => c :: lineFeeds rest
  | [] => []

/-- Why a text is no criteria document; a numeral that is too long is told of alone. -/
def unreadable (text : String) (f : Json.Fault) : Failure :=
  match f.kind with
  | .numeral _ => .misuse (f.message text)
  | _ => .misuse ("Criteria is not valid JSON: " ++ f.message text)

/-- The criteria document of a text. -/
def readCriteria (text : String) : Except Failure Json :=
  match Json.read text with
  | .error f => .error (unreadable text f)
  | .ok (.object fields) => .ok (.object fields)
  | .ok _ => .error (.misuse "Criteria must be a JSON object")

/-- The criteria document of a source; a file goes before what was given as words. -/
def criteriaFrom (files : Files) (c : CriteriaSource) : Except Failure Json :=
  match c.file, c.document with
  | some path, _ => do readCriteria (String.ofList (lineFeeds (← files.read path).toList))
  | none, some text => readCriteria text
  | none, none => .error (.misuse "Provide --criteria or --criteria-file")

/-- The criteria document of a source, if one is given; an empty text counts as none. -/
def criteriaFrom? (files : Files) (c : CriteriaSource) : Except Failure (Option Json) :=
  if c.file.isNone && (c.document.filter (· ≠ "")).isNone then .ok none
  else (criteriaFrom files c).map some

/-! ### Work on the library -/

/-- The reading of the database as one unit. -/
def look {α : Type} (x : Action Database α) : Action Studio α := World.unit (World.query x)

/-- The first tracks of a playlist, as they are now. -/
def preview (id rows : Int) : Action Studio Response := do
  let (p, m) ← World.unit (materialize Surroundings.outside id false)
  let library ← look (Database.library false)
  return { shown := [trackTable (counted p.name m.trackIds.length)
    ((upTo rows m.trackIds).filterMap library.track?)] }

/-- Rates a track, or takes its rating away. -/
def rate (id : Int) (rating : Option Binary64) (clear : Bool) : Action Studio Response := do
  if rating.isNone && !clear then throw (.misuse "Give a rating or pass --clear")
  let wanted := if clear then Json.null else (rating.map Json.real).getD .null
  let t ← Mixtape.rateTrack Surroundings.outside id wanted
  let stars := (t.rating.map Rating.brief).getD "no rating"
  return { shown := [done ("'" ++ t.title ++ "' now has " ++ stars) ""] }

/-- The first playlists that were created. -/
def seeded (ps : List SmartPlaylist) : Response :=
  if ps.isEmpty then { shown := [hint "Default playlists already exist."] }
  else { shown := ps.map fun p => done p.name (p.trackCount.plain ++ " tracks") }

/-- What a command does to the studio, if it starts no jobs. -/
def work (files : Files) : Command → Action Studio Response
  | .listPlaylists activeOnly => do
    return { shown := [playlistTable (← look (Database.listPlaylists activeOnly))] }
  | .createPlaylist name criteria description => do
    let document ← Action.ofExcept (criteriaFrom files criteria)
    let (p, m) ← createSmartPlaylist Surroundings.outside name document (.ofText? description)
    return { shown := [done ("Created '" ++ p.name ++ "'")
      ("id " ++ shownId p.id ++ ", " ++ toString m.trackIds.length ++ " tracks")] }
  | .updatePlaylist id criteria active => do
    let document ← Action.ofExcept (criteriaFrom? files criteria)
    let p ← updateSmartPlaylist Surroundings.outside id document ((active.map Json.bool).getD .null)
    return { shown := [done ("Updated '" ++ p.name ++ "'") (p.trackCount.plain ++ " tracks")] }
  | .previewPlaylist id rows => preview id rows
  | .listTags => do return { shown := [tagTable (← look do return (← get).tagsByName)] }
  | .createTag name color => do
    let t ← look (Database.createTag (← World.now Surroundings.outside) name color)
    return { shown := [done ("Created tag '" ++ t.name ++ "'") ("id " ++ toString t.id)] }
  | .renameTag id name => do
    let t ← look (Database.renameTag (← World.now Surroundings.outside) id name)
    return { shown := [done ("Renamed tag " ++ toString t.id ++ " to '" ++ t.name ++ "'") ""] }
  | .listTracks => do
    let l ← look (Database.library false)
    return { shown := [trackTable (counted "Library" l.tracks.length) l.tracks] }
  | .rateTrack id rating clear => rate id rating clear
  | .tagTrack id tag => do
    let t ← Mixtape.tagTrack id tag
    return { shown := [done ("Tagged '" ++ t.title ++ "'") ""] }
  | .seed => do return seeded (← seedPlaylists Surroundings.outside)
  | _ => return { shown := [done "Database initialized" ""] }

/-! ### Jobs -/

/-- The job that a command starts. -/
def order? (s : Settings) : Command → Option (JobSystem.Order Studio)
  | .syncPlaylist id force => some (Studio.outwardOrder s (.int id) force)
  | .takeIn options => some (Studio.intakeOrder s options)
  | .importPlays => some Studio.playImportOrder
  | .onboard account => some (Studio.onboardingOrder s account)
  | _ => none

/-- How jobs ended. -/
def jobReports (system : JobSystem Studio) (ids : List String) : Except Failure Response := do
  return inTurn (← ids.mapM fun id => return jobReport (← system.get Studio.databaseJobs id))

/-- Starts a job, lets it end, and tells how it ended. -/
def runOrder (s : Settings) (order : JobSystem.Order Studio) (system : JobSystem Studio) :
    Except Failure Response × JobSystem Studio :=
  let (id, system) := system.enqueue Studio.databaseJobs s.policy order
  let system := system.settle Studio.databaseJobs
  (id.bind fun id => jobReports system [id], system)

/-- Brings outward all playlists with an outward copy, and tells how each job ended. -/
def runAll (s : Settings) (force : Bool) (system : JobSystem Studio) :
    Except Failure Response × JobSystem Studio :=
  let (ids, system) := Studio.syncAll Studio.databaseJobs s.policy s s.playlistDelay force system
  let system := system.settle Studio.databaseJobs
  (ids.bind fun ids =>
    if ids.isEmpty then .ok { shown := [hint "No playlists to sync."] } else jobReports system ids,
    system)

/-! ### Commands -/

/-- Carries out a command with a runner of its own. -/
def attempt (s : Session) (c : Command) : Except Failure Response × JobSystem Studio :=
  let system := s.system.restart
  match c, order? s.settings c with
  | .syncAll force, _ => runAll s.settings force system
  | _, some order => runOrder s.settings order system
  | c, none => Studio.onWorld (work s.files c) system

/-- Carries out a command; a failure is told. -/
def perform (s : Session) (c : Command) : Printed × Session :=
  let (result, system) := s.attempt c
  (match result with
    | .ok response => response.printed c.title
    | .error f => printedRefusal c.title f.message,
    { s with system })

/-- Whether the file that a command reads, if any, is there. -/
def hasFile (s : Session) (c : Command) : Bool := c.file?.all s.files.has

/-- Carries out the command that words ask for; nothing if they ask for none, or for a file that is
not there. -/
def run (s : Session) (words : List String) : Option Printed × Session :=
  match (Command.ofWords? words).filter s.hasFile with
  | none => (none, s)
  | some c => let (printed, s) := s.perform c; (some printed, s)

end Session

end Mixtape.CommandLine
