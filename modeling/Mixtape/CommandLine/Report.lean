import Mixtape.CommandLine.Display
import Mixtape.Jobs.Job
import Mixtape.Playlist

/-!
# Reports

How playlists, tracks, tags and jobs are shown.

* `playlistTable`, `trackTable`, `tagTable` — tables.
* `jobReport` — how a job ended.
* `refusal` — why a command failed.
* `Printed`, `Response.printed` — what is printed of a response.
-/

namespace Mixtape

/-- A rating in as few characters as possible. -/
def Rating.brief (r : Rating) : String :=
  toString (r.halves / 2) ++ (if r.halves % 2 = 0 then "" else ".5")

/-- Day, hour and minute of a wall clock; the year is not padded. -/
def Timestamp.brief (t : Timestamp) : String :=
  let d := dateOf t.wall
  toString d.year ++ "-" ++ padded 2 d.month ++ "-" ++ padded 2 d.day ++ " " ++ clockText t.wall

namespace CommandLine

open Markup (styled)

/-- A number that may be missing. -/
def shownId (id : Option Int) : String := (id.map toString).getD ""

/-! ### Tables -/

/-- Smart playlists. -/
def playlistTable (playlists : List SmartPlaylist) : Shown :=
  if playlists.isEmpty then .text (styled "yellow" "No smart playlists yet.")
  else
    .table <| .mk "Smart Playlists" ["ID", "Name", "Tracks", "Active", "Spotify", "Last Synced"]
      (playlists.map fun p =>
        [shownId p.id, p.name, p.trackCount.plain,
          if p.isActive.isTruthy then styled "green" "✓" else styled "red" "✗",
          if p.remoteId.isTruthy then p.remoteId.plain else "-",
          (p.lastSyncedAt.map Timestamp.brief).getD "never"])

/-- Tracks, numbered from one. -/
def trackTable (title : String) (tracks : List Track) : Shown :=
  .table <| .mk title ["#", "ID", "Title", "Artist", "Album", "Rating", "Plays"]
    (tracks.zipIdx.map fun (t, i) =>
      [toString (i + 1), shownId t.id, t.title, t.artist, t.album.plain,
        (t.rating.map Rating.brief).getD "-", t.playCount.given.plain])

/-- Tags. -/
def tagTable (tags : List Tag) : Shown :=
  .table <| .mk "Tags" ["ID", "Name", "Color"]
    (tags.map fun t => [toString t.id, t.name, "[" ++ t.color ++ "]■[/] " ++ t.color])

/-- A title with a number of tracks. -/
def counted (title : String) (n : Nat) : String := title ++ " (" ++ toString n ++ " tracks)"

/-! ### Sentences -/

/-- Something done, and a detail. -/
def done (what detail : String) : Shown :=
  .text (styled "bold green" ("✓ " ++ what)
    ++ (if detail = "" then "" else " " ++ styled "dim" ("(" ++ detail ++ ")")))

/-- Something that could not be done, and why. -/
def failedLine (what reason : String) : Shown :=
  .text (styled "bold red" ("✗ " ++ what ++ ":") ++ " " ++ reason)

/-- A hint. -/
def hint (text : String) : Shown := .text (styled "yellow" text)

/-! ### Jobs -/

/-- The result of a sync: its counts, then its errors. -/
def resultReport (r : ResultRecord) : List Shown :=
  [.text ("Total tracks " ++ r.total.plain), .text ("New tracks " ++ r.added.plain),
    .text ("Updated tracks " ++ r.changed.plain),
    .text ("Errors " ++ toString r.errors.length)]
    ++ r.errors.map fun e => .text (styled "red" "•" ++ " " ++ e.plain)

/-- How a job stands. -/
def statusLine (j : Job) : Shown :=
  match j.status with
  | .completed => done (j.kind.name ++ " sync completed") j.id
  | .failed => failedLine (j.kind.name ++ " sync failed") j.error.plain
  | _ => hint ("Job " ++ j.id ++ " is still " ++ j.status.name)

/-- How a job ended. -/
def jobReport : Option Job → Response
  | none => { shown := [.text (styled "red" "Job not found")], endsWell := false }
  | some j =>
    { shown := statusLine j :: (j.result.map resultReport).getD []
      endsWell := j.status ≠ .failed }

/-- Responses one after the other. -/
def inTurn (rs : List Response) : Response :=
  { shown := rs.flatMap (·.shown), endsWell := rs.all (·.endsWell) }

/-- Why a command failed. -/
def refusal (title reason : String) : Shown := failedLine ("Error during " ++ title) reason

/-! ### What is printed -/

/-- What a command prints and the exit code it ends with. -/
structure Printed where
  /-- The lines. -/
  lines : List Line
  /-- The exit code. -/
  exit : Nat

/-- What is printed of why a command failed: nothing if it cannot be shown. -/
def printedRefusal (title reason : String) : Printed :=
  ⟨(linesOf [refusal title reason]).1, 1⟩

/-- What is printed of a response. Where its markup is at fault the command fails, for a reason that
can be shown only if no tag is left over in it. -/
def Response.printed (title : String) (r : Response) : Printed :=
  match linesOf r.shown with
  | (lines, none) => ⟨lines, if r.endsWell then 0 else 1⟩
  | (lines, some .unmatched) => ⟨lines, 1⟩
  | (lines, some (.literal reason)) => ⟨lines ++ (printedRefusal title reason).lines, 1⟩

end CommandLine

end Mixtape
