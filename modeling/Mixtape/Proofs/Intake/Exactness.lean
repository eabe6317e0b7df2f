import Mixtape.Proofs.Intake.Collections
import Mixtape.Proofs.Intake.Run

/-!
# A library that is the same as the platform

A pass that takes in everything and reports no error sets the sources of tracks to the collections
of the platform, with two exceptions. A playlist that is not read keeps its tracks: nobody takes out
those of a playlist that is listed no longer, or that has become the copy of a smart playlist. And of
albums that are listed twice with one id the tracks of the last listing remain, and of those that are
listed with an empty id none.

## Main definitions

* `View.Lists v copies k x` — the collection with key `k` is on the platform and holds track `x`.
* `Database.Mirrors v copies d` — tracks carry exactly the sources that the platform lists them in.
* `Database.LoadsExactly d P` — the library that is loaded has the tracks with `P`.
* `Database.OnlyRead v d`, `View.WellListed v` — what keeps a pass clear of the exceptions.

## Main results

* `IntakeRun.collected` — tracks carry liked songs, albums and playlists, and nothing else.
* `IntakeRun.mirrors_iff` — **when a pass makes the library the same as the platform.**
* `IntakeRun.not_mirrors_unlisted` — a playlist that is listed no longer.
-/

namespace Mixtape

open Action

/-- The collection with a key is on the platform, is no copy of a smart playlist, and holds a
track. -/
def View.Lists (v : View) (copies : List String) : SourceKey → String → Prop
  | (.likedSongs, id), x => id = "" ∧ x ∈ idsOf v.liked
  | (.album, id), x => ∃ a ∈ v.albums, a.externalId = id ∧ x ∈ idsOf a.tracks
  | (.playlist, id), x =>
    ((∃ p ∈ v.playlists, p.externalId = id) ∧ id ∉ copies) ∧ x ∈ idsOf (v.tracksOf id)
  | (.artistTopTracks, _), _ => False

/-- Albums that hold a track have an id, and hold it where they are listed last. -/
def View.WellListed (v : View) : Prop :=
  ∀ a ∈ v.albums, ∀ x ∈ idsOf a.tracks, a.externalId ≠ "" ∧
    ∃ b, Intake.lastListed v.albums a.externalId = some b ∧ x ∈ idsOf b.tracks

theorem Intake.IsCollection.key_cases {s : TrackSource} (h : Intake.IsCollection s) :
    s.key = (.likedSongs, "") ∨ s.key.1 = .album ∨ s.key.1 = .playlist := by
  rcases h with ⟨htype, hid⟩ | h
  · left
    rw [TrackSource.key, htype, hid]
    rfl
  · exact .inr h

namespace Database

variable {d d' : Database} {v : View} {x : String}

/-- Tracks carry exactly the sources that the platform lists them in. -/
def Mirrors (v : View) (copies : List String) (d : Database) : Prop :=
  ∀ k x, d.Carries k x ↔ v.Lists copies k x

/-- Every playlist that a track carries is listed, and is no copy of a smart playlist. -/
def OnlyRead (v : View) (d : Database) : Prop :=
  ∀ id x, d.Carries (.playlist, id) x →
    (∃ p ∈ v.playlists, p.externalId = id) ∧ id ∉ d.remoteIds

/-- The library that is loaded has the tracks with a property, each once. It cannot be loaded only
if the counts that are stored of such a track cannot be read. -/
def LoadsExactly (d : Database) (P : String → Prop) : Prop :=
  match ((library false).runOn d).1 with
  | .ok l => (l.tracks.map (·.externalId)).Nodup ∧ ∀ x, x ∈ l.tracks.map (·.externalId) ↔ P x
  | .error f => ∃ r ∈ d.tracks, P r.externalId ∧ d.readTrack r = .error f

/-! ### The library -/

/-- The rows of tracks that have a source. -/
def held (d : Database) : List TrackRow := d.tracks.filter fun r => d.isHeld r.id

theorem mem_held : x ∈ d.held.map (·.externalId) ↔ ∃ k, d.Carries k x := by
  unfold held isHeld
  simp only [List.mem_map, List.mem_filter, List.any_eq_true, beq_iff_eq]
  constructor
  · rintro ⟨r, ⟨hr, l, hl, hlr⟩, rfl⟩
    exact ⟨l.key, r.id, mem_names.2 ⟨r, hr, rfl, rfl⟩, l, hl, hlr, rfl⟩
  · rintro ⟨k, n, hn, l, hl, rfl, -⟩
    obtain ⟨r, hr, hid, rfl⟩ := mem_names.1 hn
    exact ⟨r, ⟨hr, l, hl, hid.symm⟩, rfl⟩

theorem externalId_of_readTrack {r : TrackRow} {t : Track} (h : d.readTrack r = .ok t) :
    t.externalId = r.externalId := by
  obtain ⟨duration, -, h⟩ := exists_of_bind_eq_ok h
  obtain ⟨playCount, -, h⟩ := exists_of_bind_eq_ok h
  cases h
  rfl

/-- Rows are read in their order, or one of them cannot be read. -/
theorem mapM_readTrack (d : Database) : ∀ rows : List TrackRow,
    match rows.mapM d.readTrack with
    | .ok ts => ts.map (·.externalId) = rows.map (·.externalId)
    | .error f => ∃ r ∈ rows, d.readTrack r = .error f := by
  intro rows
  induction rows with
  | nil => rfl
  | cons r rows ih =>
    rw [List.mapM_cons]
    cases hr : d.readTrack r with
    | error f => exact ⟨r, List.mem_cons_self, hr⟩
    | ok t =>
      cases hrows : rows.mapM d.readTrack with
      | error f =>
        rw [hrows] at ih
        obtain ⟨q, hq, hf⟩ := ih
        exact ⟨q, List.mem_cons_of_mem _ hq, hf⟩
      | ok ts =>
        rw [hrows] at ih
        exact congrArg₂ List.cons (externalId_of_readTrack hr) ih

/-- **The library that is loaded has the tracks that carry a source.** -/
theorem loadsExactly (hd : d.Distinct) : d.LoadsExactly fun x => ∃ k, d.Carries k x := by
  have hids : (d.tracks.map (·.externalId)).Nodup := by
    simpa [names, Function.comp_def] using hd.ids
  have hread := mapM_readTrack d d.held
  unfold LoadsExactly
  have hrun : ((library false).runOn d).1 =
      d.held.mapM d.readTrack >>= fun ts => pure ⟨ts, d.tagsByName⟩ := by
    change ((ofExcept (d.held.mapM d.readTrack) >>= fun ts => pure (⟨ts, d.tagsByName⟩ : Library)).runOn
      d).1 = _
    rw [runOn_bind]
    rcases d.held.mapM d.readTrack with f | ts
    · rfl
    · rfl
  rw [hrun]
  rcases hmap : d.held.mapM d.readTrack with f | ts
  · rw [hmap] at hread
    obtain ⟨r, hr, hf⟩ := hread
    exact ⟨r, (List.mem_filter.1 hr).1, mem_held.1 (List.mem_map_of_mem hr), hf⟩
  · rw [hmap] at hread
    change ts.map (·.externalId) = d.held.map (·.externalId) at hread
    change (ts.map (·.externalId)).Nodup ∧ ∀ x, x ∈ ts.map (·.externalId) ↔ _
    rw [hread]
    exact ⟨hids.sublist (List.filter_sublist.map _), fun x => mem_held⟩

theorem LoadsExactly.congr {P Q : String → Prop} (h : d.LoadsExactly P) (hPQ : ∀ x, P x ↔ Q x) :
    d.LoadsExactly Q := by
  obtain rfl : P = Q := funext fun x => propext (hPQ x)
  exact h

/-! ### The sources there are -/

/-- Tracks can be told apart, and they carry liked songs, albums and playlists alone. -/
structure Collected (d : Database) : Prop extends d.Sound where
  /-- Links go to what a pass takes in. -/
  collections : ∀ l ∈ d.sources,
    l.key = (.likedSongs, "") ∨ l.key.1 = .album ∨ l.key.1 = .playlist

theorem Collected.of_carries (h : d.Collected) {k : SourceKey} (hx : d.Carries k x) :
    k = (.likedSongs, "") ∨ k.1 = .album ∨ k.1 = .playlist := by
  obtain ⟨-, -, l, hl, -, rfl⟩ := hx
  exact h.collections l hl

theorem Collected.congr (h : d.Collected) (hnames : d'.names = d.names)
    (hsources : d'.sources = d.sources) : d'.Collected where
  toSound := h.toSound.congr hnames hsources
  collections l hl := h.collections l (hsources ▸ hl)

/-- The changes of a pass give no other sources to tracks. -/
theorem stable_collected : Intake.Stable (fun _ => True) fun d _ => d.Collected where
  add s hs _ h htake := by
    have hin := takenIn_takeIn h.toDistinct htake
    refine ⟨(h.toSound.of_grows hin.grows hin.distinct hin.sources).attached, fun l hl => ?_⟩
    rcases mem_sources_attached.1 hl with hl | ⟨n, -, -, rfl⟩
    · exact h.collections l (hin.sources ▸ hl)
    · rw [TrackSource.key_link]
      exact hs.key_cases
  remove ids s h := ⟨h.toSound.detached, fun l hl => h.collections l (mem_sources_detached.1 hl).1⟩
  snapshot rows h := h.congr rfl rfl
  features f h := h.congr (names_withFeatures _ f) rfl

/-! ### The same as the platform -/

/-- **When the library is the same as the platform**, after a pass that takes in everything. -/
theorem mirrors_iff_of_takesAll (h : Intake.TakesAll v d d') (hd : d.Collected) :
    d'.Mirrors v d.remoteIds ↔ d.OnlyRead v ∧ v.WellListed := by
  constructor
  · intro hmirrors
    constructor
    · intro id x hx
      refine Classical.byContradiction fun hnot => hnot ?_
      have hx' := (h.playlists id x).2 (by rwa [if_neg hnot])
      exact ((hmirrors _ _).1 hx').1
    · intro a ha x hx
      have hx' := (hmirrors (.album, a.externalId) x).2 ⟨a, ha, rfl, hx⟩
      exact (h.albums _ _).1 hx'
  · rintro ⟨honly, hlisted⟩ ⟨type, id⟩ x
    cases type with
    | likedSongs =>
      by_cases hid : id = ""
      · subst hid
        exact (h.liked x).trans (and_iff_right rfl).symm
      · have hkey : ((SourceType.likedSongs, id) : SourceKey) ≠ (.likedSongs, "") :=
          fun hk => hid (Prod.mk.inj hk).2
        rw [h.others _ x hkey (by simp) (by simp)]
        refine ⟨fun hx => absurd (hd.of_carries hx) (by simp [hid]), fun hx => absurd hx.1 hid⟩
    | album =>
      rw [h.albums]
      constructor
      · rintro ⟨-, a, hlast, hx⟩
        have hmem : a ∈ v.albums := List.mem_reverse.1 (List.mem_of_find?_eq_some hlast)
        exact ⟨a, hmem, by simpa using List.find?_some hlast, hx⟩
      · rintro ⟨a, ha, rfl, hx⟩
        exact hlisted a ha x hx
    | playlist =>
      rw [h.playlists]
      constructor
      · intro hx
        split at hx
        · exact ⟨‹_›, hx⟩
        · exact absurd (honly id x hx) ‹_›
      · rintro ⟨hread, hx⟩
        rwa [if_pos hread]
    | artistTopTracks =>
      rw [h.others _ x (by simp) (by simp) (by simp)]
      exact ⟨fun hx => absurd (hd.of_carries hx) (by simp), False.elim⟩

end Database

namespace IntakeRun

variable {σ : Type} {w : World σ} {missed : Missed}

/-- **After every history tracks carry liked songs, albums and playlists alone.** -/
theorem collected (run : IntakeRun w missed) : w.database.Collected := by
  rw [run.committed]
  refine run.stands Database.stable_collected ?_ ?_
  · intro d htracks hsources
    have hnames : d.names = [] := by
      unfold Database.names
      rw [htracks]
      rfl
    refine ⟨⟨⟨?_, ?_⟩, ?_⟩, ?_⟩
    · simp [hnames]
    · simp [hnames]
    · simp [hsources]
    · simp [hsources]
  · intro d d' htracks hsources h
    refine h.congr ?_ hsources
    unfold Database.names
    rw [htracks]

/-- **A pass that takes in everything and reports no error makes the library the same as the
platform** exactly when no track carries a playlist that is not read, and albums are listed well.
What is loaded are then the tracks of the collections. -/
theorem mirrors_iff (run : IntakeRun w missed) {I : σ → Prop} {s : Settings} {o : Outside σ}
    {m : Monitor σ} {pace : IntakePace} {options : IntakeOptions} {v : View}
    (hv : o.platform.Shows v I) (hm : m.Leaves I) (hI : I w.outside)
    (hliked : options.likedTracks = true) (halbums : options.albums = true)
    (hplaylists : options.playlists = true) (hforce : options.forceRefresh = true)
    {result : SyncResult} {w' : World σ}
    (ends : (takeInLibrary s o m pace options).runOn w = (.ok result, w'))
    (herrors : result.errors = []) :
    (w'.database.Mirrors v w.database.remoteIds ∧
        w'.database.LoadsExactly fun x => ∃ k, v.Lists w.database.remoteIds k x) ↔
      w.database.OnlyRead v ∧ v.WellListed := by
  have hd := run.collected
  have hstages := Intake.takesAll_stages hv hm s pace hliked halbums hplaylists hforce
    { world := w } hd.toSound hI
  rw [runOn_takeInLibrary] at ends
  rcases hrun : (Intake.stages s o m pace options).runOn { world := w } with ⟨f | r, p⟩
  · rw [hrun] at ends
    cases ends
  · rw [hrun] at ends
    cases ends
    obtain ⟨hsound, htakes⟩ := hstages.of_ok rfl hrun
    -- the totals that are brought up to date are no sources
    have hcarries : (p.world.database.recomputed p.touched.albums p.touched.artists).Carries =
        p.world.database.Carries := Database.Carries.congr rfl rfl
    rw [← Database.mirrors_iff_of_takesAll (htakes herrors) hd]
    unfold Database.Mirrors
    rw [hcarries]
    refine and_iff_left_of_imp fun hmirrors => ?_
    have hloads := Database.loadsExactly (d := p.world.database.recomputed p.touched.albums
      p.touched.artists) ⟨hsound.numbers, hsound.ids⟩
    refine hloads.congr fun x => ?_
    rw [hcarries]
    exact exists_congr fun k => hmirrors k x

/-! ### A playlist that is listed no longer -/

/-- A track of a playlist. -/
def drive : RemoteTrack := { externalId := "t", title := .text "Drive", artist := .text "Artist" }

/-- An account with one playlist. -/
def listing : World Surroundings :=
  Surroundings.beside
    { userPlaylists := [{ externalId := "p", name := "Road" }]
      playlistTracks := [("p", [drive])] }

/-- The playlist was taken in and then deleted on the platform. -/
def unlisted : World Surroundings :=
  Surroundings.showing {} (Surroundings.takenIn true listing).2

/-- What is seen of a pass that takes in everything: its errors, the tracks that carry the playlist,
and the tracks that are loaded. -/
def seenTracks : Except Failure SyncResult × World Surroundings →
    Option (List String × List String × Option (List String))
  | (.ok result, w) => some
      (result.errors, w.database.heldBy ⟨.playlist, some "p", none⟩,
        ((Database.library false).runOn w.database).1.toOption.map (·.tracks.map (·.externalId)))
  | (.error _, _) => none

/-- The library is the same as the platform after the playlist was taken in. -/
theorem mirrors_listing : ∃ missed result w', IntakeRun listing missed ∧
    Surroundings.takenIn true listing = (.ok result, w') ∧ result.errors = [] ∧
    ((w'.database.Mirrors (Surroundings.viewOf listing.outside.account) listing.database.remoteIds ∧
        w'.database.LoadsExactly fun x =>
          ∃ k, (Surroundings.viewOf listing.outside.account).Lists listing.database.remoteIds k x) ↔
      listing.database.OnlyRead (Surroundings.viewOf listing.outside.account) ∧
        (Surroundings.viewOf listing.outside.account).WellListed) := by
  obtain ⟨missed, run⟩ := Surroundings.run_beside listing.outside.account
  have hseen : seenTracks (Surroundings.takenIn true listing) =
      some ([], ["t"], some ["t"]) := by decide +kernel
  rcases hpass : Surroundings.takenIn true listing with ⟨f | result, w'⟩
  · rw [hpass] at hseen
    cases hseen
  · rw [hpass] at hseen
    have herrors : result.errors = [] := (Prod.mk.inj (Option.some.inj hseen)).1
    exact ⟨missed, result, w', run, rfl, herrors,
      run.mirrors_iff (Surroundings.shows_platform listing.outside.account)
        (Surroundings.leaves_monitor fun a => a = listing.outside.account) rfl rfl rfl rfl rfl hpass
        herrors⟩

/-- After a pass that takes in everything and reports no error, a track still carries a playlist
that is listed no longer, and it is loaded though no collection holds it. -/
theorem not_mirrors_unlisted : ∃ missed result w', IntakeRun unlisted missed ∧
    Surroundings.takenIn true unlisted = (.ok result, w') ∧ result.errors = [] ∧
    ¬w'.database.Mirrors (Surroundings.viewOf unlisted.outside.account)
      unlisted.database.remoteIds ∧
    ¬w'.database.LoadsExactly fun x =>
      ∃ k, (Surroundings.viewOf unlisted.outside.account).Lists unlisted.database.remoteIds k x := by
  obtain ⟨missed, run⟩ := Surroundings.run_showing
    (Surroundings.run_takenIn (Surroundings.run_beside listing.outside.account) true) {}
  have hseen : seenTracks (Surroundings.takenIn true unlisted) =
      some ([], ["t"], some ["t"]) := by decide +kernel
  rcases hpass : Surroundings.takenIn true unlisted with ⟨f | result, w'⟩
  · rw [hpass] at hseen
    cases hseen
  · rw [hpass] at hseen
    obtain ⟨herrors, hrest⟩ := Prod.mk.inj (Option.some.inj hseen)
    obtain ⟨hheld, hloaded⟩ := Prod.mk.inj hrest
    have hnext := IntakeRun.pass run {} Surroundings.outside Surroundings.monitor
      ({} : Settings).intakePace { forceRefresh := true, features := false } hpass
    have hlists : ∀ k x, ¬(Surroundings.viewOf unlisted.outside.account).Lists
        unlisted.database.remoteIds k x := by
      rintro ⟨_ | _ | _ | _, id⟩ x h
      · cases h.2
      · obtain ⟨a, ha, -⟩ := h
        cases ha
      · obtain ⟨⟨⟨p, hp, -⟩, -⟩, -⟩ := h
        cases hp
      · exact h
    refine ⟨missed, result, w', run, rfl, herrors, fun hmirrors => ?_, fun hloads => ?_⟩
    · have hcarries : w'.database.Carries (.playlist, "p") "t" := by
        refine (Database.mem_heldBy (s := ⟨.playlist, some "p", none⟩)
          hnext.collected.toDistinct).1 ?_
        rw [hheld]
        exact List.mem_singleton_self _
      exact hlists _ _ ((hmirrors _ _).1 hcarries)
    · unfold Database.LoadsExactly at hloads
      rcases hlibrary : ((Database.library false).runOn w'.database).1 with f | l
      · rw [hlibrary] at hloaded
        cases hloaded
      · rw [hlibrary] at hloads hloaded
        have hids : l.tracks.map (·.externalId) = ["t"] := Option.some.inj hloaded
        obtain ⟨-, hexactly⟩ := hloads
        obtain ⟨k, hk⟩ := (hexactly "t").1 (hids ▸ List.mem_singleton_self _)
        exact hlists k "t" hk

end IntakeRun

end Mixtape
