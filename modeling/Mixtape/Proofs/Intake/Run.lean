import Mixtape.Platform.Account
import Mixtape.Proofs.Intake.Pass

/-!
# Histories of passes inward

A history starts from a database without tracks. Passes follow one another, whether they succeed or
fail, and in between everything may change that is not brought in line with the platform. Along a
history it is counted, for every album and every artist, how many tracks have come and gone since its
totals were last brought up to date.

## Main definitions

* `OwnerKind` — albums and artists, of which totals are kept.
* `Database.countOf d k id` — the tracks of the library that belong to an album or artist.
* `touchedBy` — what the stages of a pass have touched.
* `IntakeRun w missed` — a history that leads to the world `w`; `missed` is what came and went.

## Main results

* `IntakeRun.committed` — between passes everything is committed.
* `IntakeRun.stands` — **what the changes of a pass keep holds after every history.**
-/

namespace Mixtape

open Action

/-- What totals are kept of. -/
inductive OwnerKind where
  /-- Albums. -/
  | album
  /-- Artists. -/
  | artist
  deriving DecidableEq

namespace OwnerKind

/-- The album or the artist of a track. -/
def idOf : OwnerKind → TrackRow → Option String
  | album => (·.albumId)
  | artist => (·.artistId)

/-- The album or the artist of the two. -/
def of : OwnerKind → Option String → Option String → Option String
  | album, a, _ => a
  | artist, _, b => b

/-- The album or the artist that is told of a track. -/
def toldOf (k : OwnerKind) (t : RemoteTrack) : Option String :=
  k.of (Intake.ownerId t.albumId) (Intake.ownerId t.artistId)

/-- The totals of albums or of artists. -/
def totals : OwnerKind → Database → List Totals
  | album => (·.albums)
  | artist => (·.artists)

/-- The albums or the artists that were touched. -/
def touched : OwnerKind → Touched → List String
  | album => (·.albums)
  | artist => (·.artists)

end OwnerKind

/-- How many tracks of the library belong to an album or artist: they have a source, and its id. -/
def Database.countOf (d : Database) (k : OwnerKind) (id : String) : Nat :=
  (d.tracks.filter fun r => k.idOf r == some id && d.isHeld r.id).length

/-- How many tracks have come to albums and artists since their totals were last brought up to date;
tracks that have gone count as negative. -/
abbrev Missed := OwnerKind → String → Int

variable {σ : Type}

/-- What the stages of a pass touch. -/
def touchedBy (s : Settings) (o : Outside σ) (m : Monitor σ) (pace : IntakePace)
    (options : IntakeOptions) (w : World σ) : Touched :=
  ((Intake.stages s o m pace options).runOn { world := w }).2.touched

/-- What was missed after a pass from `d` to `d'`: nothing of an album or artist with totals that was
touched, if the pass came to its end. -/
def missedAfter (missed : Missed) (ended : Bool) (touched : Touched) (d d' : Database) : Missed :=
  fun k id =>
    if ended ∧ id ∈ k.touched touched ∧ ∃ t ∈ k.totals d', t.id = id then 0
    else missed k id + ((d'.countOf k id : Int) - d.countOf k id)

/-- A history of passes. It starts without tracks; passes come in any order with changes of what lies
outside, and with changes of the database that leave tracks, sources, albums and artists. -/
inductive IntakeRun : World σ → Missed → Prop
  /-- There are no tracks yet. -/
  | start {w : World σ} (committed : w.database = w.saved) (tracks : w.saved.tracks = [])
      (sources : w.saved.sources = []) (albums : w.saved.albums = [])
      (artists : w.saved.artists = []) : IntakeRun w fun _ _ => 0
  /-- What lies outside changes. -/
  | outside {w : World σ} {missed : Missed} (run : IntakeRun w missed) (outside : σ) :
      IntakeRun { w with outside } missed
  /-- Smart playlists, tags or jobs change. -/
  | edit {w : World σ} {missed : Missed} (run : IntakeRun w missed) (d : Database)
      (tracks : d.tracks = w.saved.tracks) (sources : d.sources = w.saved.sources)
      (albums : d.albums = w.saved.albums) (artists : d.artists = w.saved.artists) :
      IntakeRun { w with database := d, saved := d } missed
  /-- A pass. -/
  | pass {w : World σ} {missed : Missed} (run : IntakeRun w missed) (s : Settings) (o : Outside σ)
      (m : Monitor σ) (pace : IntakePace) (options : IntakeOptions)
      {r : Except Failure SyncResult} {w' : World σ}
      (ends : (takeInLibrary s o m pace options).runOn w = (r, w')) :
      IntakeRun w'
        (missedAfter missed r.isOk (touchedBy s o m pace options w) w.saved w'.saved)

namespace IntakeRun

variable {w : World σ} {missed : Missed}

/-- A pass leaves everything committed. -/
theorem committed_takeInLibrary {s : Settings} {o : Outside σ} {m : Monitor σ} {pace : IntakePace}
    {options : IntakeOptions} {r : Except Failure SyncResult} {w' : World σ}
    (ends : (takeInLibrary s o m pace options).runOn w = (r, w')) : w'.database = w'.saved := by
  rw [runOn_takeInLibrary] at ends
  rcases hrun : (Intake.stages s o m pace options).runOn { world := w } with ⟨f | result, p⟩
  · rw [hrun] at ends
    cases ends
    rfl
  · rw [hrun] at ends
    cases ends
    rfl

/-- Between passes everything is committed. -/
theorem committed (run : IntakeRun w missed) : w.database = w.saved := by
  induction run with
  | start committed => exact committed
  | outside run outside ih => exact ih
  | edit => rfl
  | pass run s o m pace options ends => exact committed_takeInLibrary ends

/-- **What the changes of a pass keep holds after every history**, if it holds without tracks, depends
on tracks and sources alone, and is not about what was touched. -/
theorem stands {Q : Database → Prop} (hQ : Intake.Stable (fun _ => True) fun d _ => Q d)
    (hempty : ∀ d : Database, d.tracks = [] → d.sources = [] → Q d)
    (hsame : ∀ d d' : Database, d'.tracks = d.tracks → d'.sources = d.sources → Q d → Q d')
    (run : IntakeRun w missed) : Q w.saved := by
  induction run with
  | start committed tracks sources => exact hempty _ tracks sources
  | outside run outside ih => exact ih
  | edit run d tracks sources albums artists ih => exact hsame _ d tracks sources ih
  | @pass w missed run s o m pace options r w' ends ih =>
    have hstages := keeps_iff.1 (hQ.keeps_stages o m pace o.platform.tellsOnly_true s options)
      { world := w } ⟨run.committed ▸ ih, {}, ih⟩
    rw [runOn_takeInLibrary] at ends
    rcases hrun : (Intake.stages s o m pace options).runOn { world := w } with ⟨f | result, p⟩
    · rw [hrun] at ends hstages
      cases ends
      obtain ⟨-, t, hsaved⟩ := hstages
      exact hsaved
    · rw [hrun] at ends hstages
      cases ends
      exact hsame p.world.database _ rfl rfl hstages.1

end IntakeRun

/-! ### Passes over the account in memory -/

namespace Surroundings

/-- A pass over the account that takes in its collections alone. -/
def takenIn (force : Bool) (w : World Surroundings) :
    Except Failure SyncResult × World Surroundings :=
  (takeInLibrary {} outside monitor ({} : Settings).intakePace
    { forceRefresh := force, features := false }).runOn w

/-- A database without tracks, beside an account. -/
def beside (account : Account) : World Surroundings :=
  { outside := { clock := ⟨0, 0⟩, account } }

/-- The next call of a name fails for good. -/
def revoked (method : String) (w : World Surroundings) : World Surroundings :=
  { w with outside := { w.outside with failing := [(method, .fatal { message := "revoked" })] } }

/-- The account becomes another one. -/
def showing (account : Account) (w : World Surroundings) : World Surroundings :=
  { w with outside := { w.outside with account } }

theorem run_beside (account : Account) : ∃ missed, IntakeRun (beside account) missed :=
  ⟨_, .start rfl rfl rfl rfl rfl⟩

variable {w : World Surroundings}

theorem run_revoked (h : ∃ missed, IntakeRun w missed) (method : String) :
    ∃ missed, IntakeRun (revoked method w) missed := by
  obtain ⟨missed, run⟩ := h
  exact ⟨missed, .outside run _⟩

theorem run_showing (h : ∃ missed, IntakeRun w missed) (account : Account) :
    ∃ missed, IntakeRun (showing account w) missed := by
  obtain ⟨missed, run⟩ := h
  exact ⟨missed, .outside run _⟩

theorem run_takenIn (h : ∃ missed, IntakeRun w missed) (force : Bool) :
    ∃ missed, IntakeRun (takenIn force w).2 missed := by
  obtain ⟨missed, run⟩ := h
  exact ⟨_, .pass run {} outside monitor ({} : Settings).intakePace
    { forceRefresh := force, features := false } rfl⟩

end Surroundings

end Mixtape
