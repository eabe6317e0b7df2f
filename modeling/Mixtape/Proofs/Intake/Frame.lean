import Mixtape.Proofs.Intake.Run

/-!
# What a pass leaves to the user

The platform tells what a track is called, whose it is and where it belongs. When it was added, how it
is rated, how often it was played and which tags it has belongs to the user, and a pass leaves it,
however it ends. Audio features are looked up once: those that a track has stay.

Rows are told apart by their ids when tracks come in, so what is left to the user is left as long as
no two stored tracks share their id. A pass keeps that as well.

## Main definitions

* `TrackRow.Spares r r'` — what belongs to the user stands in `r'` as it stands in `r`.
* `Database.Spares d d'` — every row of `d` is spared in `d'`, and so are all tables that a pass has no
  part in.

## Main results

* `Database.spares_takeIn` — tracks that come in spare those that there are.
* `Database.collecting_spares` — the changes of a pass spare.
* `spares_takeInLibrary` — **a pass spares, however it ends.**
-/

namespace Mixtape

open Action

/-- What belongs to the user stands in a row as it stood, and audio features are not replaced. -/
structure TrackRow.Spares (r r' : TrackRow) : Prop where
  /-- The number is the same. -/
  id : r'.id = r.id
  /-- The id at the platform is the same. -/
  externalId : r'.externalId = r.externalId
  /-- It was added when it was added. -/
  addedAt : r'.addedAt = r.addedAt
  /-- The rating is the same. -/
  rating : r'.rating = r.rating
  /-- It was rated when it was rated. -/
  ratedAt : r'.ratedAt = r.ratedAt
  /-- It was played as often. -/
  playCount : r'.playCount = r.playCount
  /-- It was last played when it was last played. -/
  lastPlayedAt : r'.lastPlayedAt = r.lastPlayedAt
  /-- Audio features stay; those that are missing may come. -/
  features : r.features = none ∨ r'.features = r.features

namespace TrackRow

variable {r r' r'' : TrackRow}

theorem Spares.refl (r : TrackRow) : r.Spares r := ⟨rfl, rfl, rfl, rfl, rfl, rfl, rfl, .inr rfl⟩

theorem Spares.trans (h : r.Spares r') (h' : r'.Spares r'') : r.Spares r'' where
  id := h'.id.trans h.id
  externalId := h'.externalId.trans h.externalId
  addedAt := h'.addedAt.trans h.addedAt
  rating := h'.rating.trans h.rating
  ratedAt := h'.ratedAt.trans h.ratedAt
  playCount := h'.playCount.trans h.playCount
  lastPlayedAt := h'.lastPlayedAt.trans h.lastPlayedAt
  features := by
    rcases h.features with hnone | hsame
    · exact .inl hnone
    · rcases h'.features with hnone | hsame'
      · -- what was there stayed in the first step, so nothing was there
        left
        rw [← hsame]
        exact hnone
      · right
        rw [hsame', hsame]

/-- What the platform tells of a track is not the user's. -/
theorem spares_refreshed {t : RemoteTrack} (h : r.refreshed t = .ok r') : r.Spares r' := by
  unfold refreshed at h
  obtain ⟨title, -, h⟩ := exists_of_bind_eq_ok h
  obtain ⟨artist, -, h⟩ := exists_of_bind_eq_ok h
  obtain ⟨album, -, h⟩ := exists_of_bind_eq_ok h
  obtain ⟨artistId, -, h⟩ := exists_of_bind_eq_ok h
  obtain ⟨albumId, -, h⟩ := exists_of_bind_eq_ok h
  obtain ⟨duration, -, h⟩ := exists_of_bind_eq_ok h
  cases h
  exact ⟨rfl, rfl, rfl, rfl, rfl, rfl, rfl, .inr rfl⟩

end TrackRow

namespace Database

/-- Every stored track is stored still, with what belongs to the user, and the tables that a pass has
no part in are the same. -/
structure Spares (d d' : Database) : Prop where
  /-- The tracks. -/
  tracks : ∀ r ∈ d.tracks, ∃ r' ∈ d'.tracks, r.Spares r'
  /-- The tags. -/
  tags : d'.tags = d.tags
  /-- Which track has which tag. -/
  tagLinks : d'.tagLinks = d.tagLinks
  /-- The plays. -/
  plays : d'.plays = d.plays
  /-- The smart playlists. -/
  playlists : d'.playlists = d.playlists
  /-- The jobs. -/
  jobs : d'.jobs = d.jobs

variable {d₀ d d' : Database}

theorem Spares.refl (d : Database) : d.Spares d :=
  ⟨fun r hr => ⟨r, hr, .refl r⟩, rfl, rfl, rfl, rfl, rfl⟩

theorem Spares.trans (h : d₀.Spares d) (h' : d.Spares d') : d₀.Spares d' where
  tracks r hr := by
    obtain ⟨q, hq, hrq⟩ := h.tracks r hr
    obtain ⟨p, hp, hqp⟩ := h'.tracks q hq
    exact ⟨p, hp, hrq.trans hqp⟩
  tags := h'.tags.trans h.tags
  tagLinks := h'.tagLinks.trans h.tagLinks
  plays := h'.plays.trans h.plays
  playlists := h'.playlists.trans h.playlists
  jobs := h'.jobs.trans h.jobs

/-- Sources, snapshots and totals are not the user's. -/
theorem Spares.set (h : d₀.Spares d) (sources : List SourceLink) (snapshots : List SnapshotRow)
    (albums artists : List Totals) : d₀.Spares { d with sources, snapshots, albums, artists } :=
  ⟨h.tracks, h.tags, h.tagLinks, h.plays, h.playlists, h.jobs⟩

/-- The tags of every track are those it had. -/
theorem Spares.tagIdsOf (h : d.Spares d') (n : Int) : d'.tagIdsOf n = d.tagIdsOf n := by
  unfold Database.tagIdsOf
  rw [h.tagLinks]

/-! ### Tracks that come in -/

/-- A row in place of all those with its id spares them, when there is but one. -/
theorem spares_changeWhere {x : String} {r row : TrackRow} (hids : (d.names.map Prod.snd).Nodup)
    (hr : d.trackNamed? x = some r) (hrow : r.Spares row) :
    d.Spares { d with tracks := changeWhere (·.externalId == x) (fun _ => row) d.tracks } := by
  refine ⟨fun q hq => ?_, rfl, rfl, rfl, rfl, rfl⟩
  have hchanged : (if q.externalId == x then row else q) ∈
      changeWhere (·.externalId == x) (fun _ => row) d.tracks := List.mem_map.2 ⟨q, hq, rfl⟩
  refine ⟨_, hchanged, ?_⟩
  by_cases hqx : q.externalId = x
  · have hrows : (d.tracks.map (·.externalId)).Nodup := by
      simpa [names, Function.comp_def] using hids
    have hrx : r.externalId = x := by simpa using List.find?_some hr
    have hqr : q = r :=
      List.inj_on_of_nodup_map hrows hq (List.mem_of_find?_eq_some hr) (hqx.trans hrx.symm)
    rw [if_pos (by simpa using hqx), hqr]
    exact hrow
  · rw [if_neg (by simpa using hqx)]
    exact .refl q

theorem spares_takeInOne {now : Timestamp} {t : RemoteTrack} (hd : d.Distinct)
    (h : takeInOne now d t = .ok d') : d.Spares d' := by
  unfold takeInOne at h
  cases hr : d.trackNamed? t.externalId with
  | some r =>
    rw [hr] at h
    obtain ⟨row, hrow, h⟩ := exists_of_bind_eq_ok h
    cases h
    exact spares_changeWhere hd.ids hr (TrackRow.spares_refreshed hrow)
  | none =>
    rw [hr] at h
    obtain ⟨row, -, h⟩ := exists_of_bind_eq_ok h
    cases h
    refine ⟨fun q hq => ?_, rfl, rfl, rfl, rfl, rfl⟩
    exact ⟨q, List.mem_append_left _ hq, .refl q⟩

theorem spares_foldlM {now : Timestamp} : ∀ {ts : List RemoteTrack} {d d' : Database},
    d.Distinct → ts.foldlM (takeInOne now) d = .ok d' → d.Spares d' := by
  intro ts
  induction ts with
  | nil =>
    intro d d' _ h
    cases h
    exact .refl d
  | cons t ts ih =>
    intro d d' hd h
    rw [List.foldlM_cons] at h
    obtain ⟨d₁, h₁, h⟩ := exists_of_bind_eq_ok h
    -- ids are still told once when the next track comes in
    have hd₁ : d₁.Distinct := (takenIn_takeInOne hd h₁).distinct
    exact (spares_takeInOne hd h₁).trans (ih hd₁ h)

/-- **Tracks that come in spare those that there are.** -/
theorem spares_takeIn {now : Timestamp} {ts : List RemoteTrack} {r : List String × List String}
    (hd : d.Distinct) (h : (takeIn now ts).runOn d = (.ok r, d')) : d.Spares d' := by
  obtain ⟨taken, albums, artists, htaken, -, -, rfl⟩ := (meets_takeIn d now ts).of_ok rfl h
  have hspares : d.Spares taken := spares_foldlM hd htaken
  exact hspares.set _ _ _ _

/-- Audio features of tracks that have none spare the rest. -/
theorem spares_withFeatures {f : TrackRow → Option Json} (hf : d.FillsIn f) :
    d.Spares (d.withFeatures f) := by
  refine ⟨fun r hr => ?_, rfl, rfl, rfl, rfl, rfl⟩
  have hmem : { r with features := f r } ∈ (d.withFeatures f).tracks :=
    List.mem_map_of_mem (f := fun r => { r with features := f r }) hr
  exact ⟨_, hmem, rfl, rfl, rfl, rfl, rfl, rfl, rfl, hf r hr⟩

theorem Distinct.congr (hd : d.Distinct) (hnames : d'.names = d.names) : d'.Distinct where
  numbers := hnames ▸ hd.numbers
  ids := hnames ▸ hd.ids

/-- **The changes of a pass spare** what a database held, of which no two tracks share their id. -/
theorem collecting_spares (d₀ : Database) :
    Intake.Collecting (fun _ => True) (fun _ => True) fun d _ => d.Distinct ∧ d₀.Spares d where
  add := by
    intro d d' _ now ts r s _ _ h htake
    obtain ⟨hd, hspares⟩ := h
    have hin := takenIn_takeIn hd htake
    have hspares' : d₀.Spares d' := hspares.trans (spares_takeIn hd htake)
    exact ⟨hin.distinct.congr rfl, hspares'.set _ _ _ _⟩
  remove := by
    intro d _ ids s _ h
    exact ⟨h.1.congr rfl, h.2.set _ _ _ _⟩

end Database

variable {σ : Type} {s : Settings} {o : Outside σ} {m : Monitor σ} {pace : IntakePace}
  {options : IntakeOptions} {w w' : World σ}

/-- The stages of a pass spare what a database held, in every state that they reach or commit. -/
theorem Intake.keeps_stages_spares (s : Settings) (o : Outside σ) (m : Monitor σ) (pace : IntakePace)
    (options : IntakeOptions) (d₀ : Database) :
    Keeps (Stands fun d _ => d.Distinct ∧ d₀.Spares d) (stages s o m pace options) := by
  refine (Database.collecting_spares d₀).keeps_stages o m pace (fun _ _ => trivial) ?_ ?_
    o.platform.tellsOnly_true s options
  · intro d t rows h
    exact ⟨h.1.congr rfl, h.2.set _ _ _ _⟩
  · intro d t f hfills h
    obtain ⟨hd, hspares⟩ := h
    exact ⟨hd.congr (Database.names_withFeatures d f),
      hspares.trans (Database.spares_withFeatures (hfills hd))⟩

/-- **A pass spares what belongs to the user, however it ends**: with a result, with a failure of any
call or cancelled at any point. What it leaves is committed. -/
theorem spares_takeInLibrary (committed : w.database = w.saved) (hd : w.saved.Distinct)
    {r : Except Failure SyncResult}
    (ends : (takeInLibrary s o m pace options).runOn w = (r, w')) :
    w'.database = w'.saved ∧ w'.saved.Distinct ∧ w.saved.Spares w'.saved := by
  refine ⟨IntakeRun.committed_takeInLibrary ends, ?_⟩
  have hstart : Intake.Stands (fun d _ => d.Distinct ∧ w.saved.Spares d) { world := w } := by
    refine ⟨⟨?_, ?_⟩, {}, hd, .refl _⟩
    · exact committed ▸ hd
    · exact committed ▸ .refl _
  have hstages := keeps_iff.1 (Intake.keeps_stages_spares s o m pace options w.saved) _ hstart
  rw [runOn_takeInLibrary] at ends
  rcases hrun : (Intake.stages s o m pace options).runOn { world := w } with ⟨f | result, p⟩
  · -- a pass that fails goes back to what its stages last committed
    rw [hrun] at ends hstages
    cases ends
    obtain ⟨-, t, hsaved⟩ := hstages
    exact hsaved
  · rw [hrun] at ends hstages
    cases ends
    obtain ⟨⟨hdistinct, hspares⟩, -⟩ := hstages
    exact ⟨hdistinct.congr rfl, hspares.set _ _ _ _⟩

namespace Surroundings

/-- A rated and tagged track with audio features, which the platform tells under another title. The
albums cannot be fetched. -/
def retitled : World Surroundings :=
  let d : Database :=
    { tracks := [{ id := 1, externalId := "t", title := "Drive", artist := "Artist",
                   addedAt := ⟨0, 0⟩, rating := some ⟨9, .real (.ofHalves 9), by decide, by decide⟩
                   playCount := .int 3, features := some (.object [("energy", .int 1)]) }]
      tags := [{ id := 1, name := "calm" }]
      tagLinks := [(1, 1)] }
  { outside :=
      { clock := ⟨0, 0⟩
        failing := [("get_saved_albums", .fatal { message := "revoked" })]
        account :=
          { liked :=
              [{ externalId := "t", title := .text "Drive (live)", artist := .text "Artist" }] } }
    database := d
    saved := d }

/-- The pass commits the other title before it fails, and spares the rest. -/
theorem spares_retitled : ∃ f w',
    (takeInLibrary {} outside monitor ({} : Settings).intakePace {}).runOn retitled = (.error f, w') ∧
      w'.saved.tracks.map (·.title) = ["Drive (live)"] ∧
      w'.database = w'.saved ∧ w'.saved.Distinct ∧ retitled.saved.Spares w'.saved := by
  rcases hpass : (takeInLibrary {} outside monitor ({} : Settings).intakePace {}).runOn retitled with
    ⟨f | result, w'⟩
  · have htitle : ((takeInLibrary {} outside monitor ({} : Settings).intakePace {}).runOn
        retitled).2.saved.tracks.map (·.title) = ["Drive (live)"] := by decide +kernel
    rw [hpass] at htitle
    exact ⟨f, w', rfl, htitle, spares_takeInLibrary rfl ⟨by decide, by decide⟩ hpass⟩
  · have hfails : ((takeInLibrary {} outside monitor ({} : Settings).intakePace {}).runOn
        retitled).1.isOk = false := by decide +kernel
    rw [hpass] at hfails
    cases hfails

end Surroundings

end Mixtape
