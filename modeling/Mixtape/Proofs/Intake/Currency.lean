import Mixtape.Proofs.Intake.Refresh

/-!
# Whether what is stored of a track is current

After a pass, what is stored of a track need not be what the platform tells, although all collections
agree on it. A track that carried all collections it is listed in before the pass is not brought up to
date, so a new title or another album is not seen before the track leaves a collection and comes back. And
of a release date the wall clock is stored, read back as universal time.

## Main definitions

* `Metadata.Renders μ t`, `Database.IsCurrent d t` — what is stored of a track is what the platform tells.
* `RemoteTrack.Agrees t u` — two entries for a track tell the same.

## Main results

* `IntakeRun.isCurrent_iff` — **when what is stored is what the platform tells.**
* `IntakeRun.not_isCurrent_retitled` — a liked track that is given another title.
-/

namespace Mixtape

/-- What is stored of a track is what the platform tells; the release dates denote the same instant. -/
structure Metadata.Renders (μ : Metadata) (t : RemoteTrack) : Prop where
  /-- The title. -/
  title : t.title = .text μ.title
  /-- The artist. -/
  artist : t.artist = .text μ.artist
  /-- The album. -/
  album : t.album = .text μ.album
  /-- The id of the artist. -/
  artistId : t.artistId = .ofText? μ.artistId
  /-- The id of the album. -/
  albumId : t.albumId = .ofText? μ.albumId
  /-- The duration. -/
  duration : t.duration = μ.duration
  /-- The release date. -/
  releaseDate : μ.releaseDate.map Timestamp.instant = t.releaseDate.map Timestamp.instant

/-- Two entries for a track tell the same; their release dates denote the same instant. -/
structure RemoteTrack.Agrees (t u : RemoteTrack) : Prop where
  /-- The title. -/
  title : u.title = t.title
  /-- The artist. -/
  artist : u.artist = t.artist
  /-- The album. -/
  album : u.album = t.album
  /-- The id of the artist. -/
  artistId : u.artistId = t.artistId
  /-- The id of the album. -/
  albumId : u.albumId = t.albumId
  /-- The duration. -/
  duration : u.duration = t.duration
  /-- The release date. -/
  releaseDate : u.releaseDate.map Timestamp.instant = t.releaseDate.map Timestamp.instant

/-- A release date is given in universal time, if there is one. -/
def RemoteTrack.IsUniversal (t : RemoteTrack) : Prop :=
  ∀ date, t.releaseDate = some date → date.offset = 0

namespace Database

/-- What is stored of a track is what the platform tells. -/
def IsCurrent (d : Database) (t : RemoteTrack) : Prop :=
  ∃ μ, d.metadataOf t.externalId = some μ ∧ μ.Renders t

/-- What was told with an entry renders another one that agrees with it, if its date is universal. -/
theorem renders_stored_iff {t u : RemoteTrack} {μ : Metadata} (hu : u.Tells μ) (h : t.Agrees u) :
    μ.stored.Renders t ↔ u.IsUniversal := by
  have hdate : (Timestamp.stored? u.releaseDate).map Timestamp.instant =
      t.releaseDate.map Timestamp.instant ↔ u.IsUniversal := by
    rw [← h.releaseDate]
    exact Timestamp.instant_stored?_iff u.releaseDate
  rw [← hdate]
  constructor
  · intro hrenders
    rw [hu.releaseDate]
    exact hrenders.releaseDate
  · intro hinstant
    refine ⟨h.title.symm.trans hu.title, h.artist.symm.trans hu.artist, h.album.symm.trans hu.album,
      h.artistId.symm.trans hu.artistId, h.albumId.symm.trans hu.albumId,
      h.duration.symm.trans hu.duration.1, ?_⟩
    rw [← hinstant, hu.releaseDate]
    rfl

end Database

namespace IntakeRun

variable {σ : Type} {w w' : World σ} {missed : Missed} {s : Settings} {o : Outside σ} {m : Monitor σ}
  {pace : IntakePace} {options : IntakeOptions} {result : SyncResult} {t : RemoteTrack} {μ : Metadata}

/-- **When what is stored is what the platform tells**, after a pass that comes to its end, of a track on
which all that was told agrees: if an entry for it was taken up, exactly if the last one has no date or a
universal one; and otherwise exactly if it was so before the pass. -/
theorem isCurrent_iff (run : IntakeRun w missed)
    (ends : (takeInLibrary s o m pace options).runOn w = (.ok result, w')) (tells : t.Tells μ)
    (agree : ∀ r ∈ readings s o m pace options w, ∀ u ∈ r.tracks, u.externalId = t.externalId →
      t.Agrees u) :
    w'.database.IsCurrent t ↔
      (lastTaken w.database.holders (readings s o m pace options w) t.externalId).elim
        (w.database.IsCurrent t) RemoteTrack.IsUniversal := by
  have hretold := (follows_takeInLibrary run.collected.toSound ends).retold t.externalId
  cases htaken : lastTaken w.database.holders (readings s o m pace options w) t.externalId with
  | none =>
    rw [htaken] at hretold
    have hsame : w'.database.metadataOf t.externalId = w.database.metadataOf t.externalId := hretold
    unfold Database.IsCurrent
    rw [hsame]
    rfl
  | some u =>
    rw [htaken] at hretold
    obtain ⟨⟨r, hr, hmem⟩, hid⟩ := mem_of_lastTaken htaken
    have hagrees := agree r hr u hmem hid
    have hu : u.Tells { μ with releaseDate := u.releaseDate } :=
      ⟨hagrees.title.trans tells.title, hagrees.artist.trans tells.artist,
        hagrees.album.trans tells.album, hagrees.artistId.trans tells.artistId,
        hagrees.albumId.trans tells.albumId, ⟨hagrees.duration.trans tells.duration.1,
          tells.duration.2⟩, rfl⟩
    unfold Database.IsCurrent
    rw [hretold _ hu]
    change _ ↔ u.IsUniversal
    rw [← Database.renders_stored_iff hu hagrees]
    constructor
    · rintro ⟨_, ⟨⟩, hrenders⟩
      exact hrenders
    · exact fun hrenders => ⟨_, rfl, hrenders⟩

/-! ### A liked track that is given another title -/

/-- A track with a title. -/
def release (title : String) : RemoteTrack where
  externalId := "t"
  title := .text title
  artist := .text "Artist"
  releaseDate := some (.utc 63839232000000000)

/-- What the platform tells with it. -/
def releaseMetadata (title : String) : Metadata where
  title := title
  artist := "Artist"
  album := ""
  artistId := none
  albumId := none
  duration := .int 0
  releaseDate := some (.utc 63839232000000000)

theorem tells_release (title : String) : (release title).Tells (releaseMetadata title) :=
  ⟨rfl, rfl, rfl, rfl, rfl, ⟨rfl, 0, rfl⟩, rfl⟩

/-- An account that likes the track. -/
def likingRelease (title : String) : Account := { liked := [release title] }

/-- The track is liked. -/
def released : World Surroundings := Surroundings.beside (likingRelease "First")

/-- The track was taken in and then given another title. -/
def retitled : World Surroundings :=
  Surroundings.showing (likingRelease "Second") (Surroundings.takenIn false released).2

/-- What a pass over the account in memory is told. -/
def toldOf (w : World Surroundings) : List Reading :=
  readings {} Surroundings.outside Surroundings.monitor ({} : Settings).intakePace
    { forceRefresh := false, features := false } w

/-- What is told of the account. -/
def releaseTold (title : String) : List Reading := [⟨(.likedSongs, ""), [release title]⟩]

/-- All that is told of the track agrees. -/
theorem agrees_releaseTold {title : String} : ∀ r ∈ releaseTold title, ∀ u ∈ r.tracks,
    u.externalId = (release title).externalId → (release title).Agrees u := by
  intro r hr u hu _
  obtain rfl := List.mem_singleton.1 hr
  obtain rfl := List.mem_singleton.1 hu
  exact ⟨rfl, rfl, rfl, rfl, rfl, rfl, rfl⟩

/-- What is seen of a pass: its errors, and the title that is stored of the track. -/
def seenTitle : Except Failure SyncResult × World Surroundings → Option (List String × Option String)
  | (.ok result, w) => some (result.errors, (w.database.metadataOf "t").map Metadata.title)
  | (.error _, _) => none

/-- After the first pass the track is current. -/
theorem isCurrent_liked_release : ∃ missed result w', IntakeRun released missed ∧
    Surroundings.takenIn false released = (.ok result, w') ∧
    (release "First").Tells (releaseMetadata "First") ∧
    (∀ r ∈ toldOf released, ∀ u ∈ r.tracks, u.externalId = (release "First").externalId →
      (release "First").Agrees u) ∧
    w'.database.IsCurrent (release "First") := by
  obtain ⟨missed, run⟩ := Surroundings.run_beside (likingRelease "First")
  have hseen : seenTitle (Surroundings.takenIn false released) = some ([], some "First") := by
    decide +kernel
  have htold : toldOf released = releaseTold "First" := by decide +kernel
  have hagree : ∀ r ∈ toldOf released, ∀ u ∈ r.tracks,
      u.externalId = (release "First").externalId → (release "First").Agrees u :=
    htold ▸ agrees_releaseTold
  rcases hpass : Surroundings.takenIn false released with ⟨f | result, w'⟩
  · rw [hpass] at hseen
    cases hseen
  · refine ⟨missed, result, w', run, rfl, tells_release _, hagree, ?_⟩
    refine (run.isCurrent_iff hpass (tells_release _) hagree).2 ?_
    -- the entry is taken up, as no track carries the liked songs before
    change (lastTaken _ (toldOf released) _).elim _ _
    rw [htold]
    rintro date ⟨⟩
    rfl

/-- After the second pass, which reports no error, the first title is still stored, though all that was
told of the track agrees. -/
theorem not_isCurrent_retitled : ∃ missed result w', IntakeRun retitled missed ∧
    Surroundings.takenIn false retitled = (.ok result, w') ∧ result.errors = [] ∧
    (release "Second").Tells (releaseMetadata "Second") ∧
    (∃ r ∈ toldOf retitled, release "Second" ∈ r.tracks) ∧
    (∀ r ∈ toldOf retitled, ∀ u ∈ r.tracks, u.externalId = (release "Second").externalId →
      (release "Second").Agrees u) ∧
    ¬w'.database.IsCurrent (release "Second") := by
  obtain ⟨missed, run⟩ := Surroundings.run_showing
    (Surroundings.run_takenIn (Surroundings.run_beside (likingRelease "First")) false)
    (likingRelease "Second")
  have hseen : seenTitle (Surroundings.takenIn false retitled) = some ([], some "First") := by
    decide +kernel
  have htold : toldOf retitled = releaseTold "Second" := by decide +kernel
  rw [htold]
  rcases hpass : Surroundings.takenIn false retitled with ⟨f | result, w'⟩
  · rw [hpass] at hseen
    cases hseen
  · rw [hpass] at hseen
    obtain ⟨herrors, htitle⟩ := Prod.mk.inj (Option.some.inj hseen)
    refine ⟨missed, result, w', run, rfl, herrors, tells_release _,
      ⟨_, List.mem_singleton_self _, List.mem_singleton_self _⟩, agrees_releaseTold, ?_⟩
    rintro ⟨μ, hμ, hrenders⟩
    have hstored : w'.database.metadataOf "t" = some μ := hμ
    rw [hstored] at htitle
    have hsecond := hrenders.title
    rw [show μ.title = "First" from Option.some.inj htitle] at hsecond
    exact absurd hsecond (by decide)

end IntakeRun

end Mixtape
