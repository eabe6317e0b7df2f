import Mixtape.Proofs.Intake.Exactness
import Mixtape.Proofs.Intake.Totals

/-!
# What a pass changes of an album or artist that it does not touch

A pass touches the albums and artists of the tracks that it gives a source or takes one away from, as
they are told or stored at that moment. One that it does not touch gets no track, and the sources of
its tracks stay as they are. But it may lose tracks: a track that is told with another album moves
there, and only the new album is touched.

## Main definitions

* `RemoteTrack.Typed` — the ids of the album and the artist are texts, or not given.
* `Database.LeftAlone k id d₀ d` — an album or artist has in `d` no more than it had in `d₀`.
* `Database.moved k id d₀ d` — the tracks of the library that have moved away from it.
* `UncutRun w` — a history in which all passes end.

## Main results

* `IntakeRun.countOf_add_moved` — **what a pass does not touch, it changes by moves alone.**
* `IntakeRun.count_eq_iff_moved` — when totals are right, told by moves.
* `UncutRun.countOf_le` — **when all passes end, no total is too small.**
-/

namespace Mixtape

open Action

/-- The ids that are told of the album and the artist of a track are texts, or not given. -/
structure RemoteTrack.Typed (t : RemoteTrack) : Prop where
  /-- The id of the album. -/
  album : ∃ s, t.albumId = .ofText? s
  /-- The id of the artist. -/
  artist : ∃ s, t.artistId = .ofText? s

/-! ### What is noted as touched -/

namespace OwnerKind

theorem idOf_eq (k : OwnerKind) (r : TrackRow) : k.idOf r = k.of r.albumId r.artistId := by
  cases k <;> rfl

variable {k : OwnerKind} {id : String} {t : Touched}

/-- An id is noted unless it is empty. -/
theorem mem_noted {a : Option String} {ids : List String} :
    id ∈ (a.filter (· ≠ "")).elim ids (Touched.note · ids) ↔ id ∈ ids ∨ (id ≠ "" ∧ a = some id) := by
  rcases a with _ | a
  · simp
  · rw [Option.filter_some]
    by_cases ha : a = ""
    · rw [if_neg (by simpa using ha)]
      refine ⟨.inl, ?_⟩
      rintro (h | ⟨hid, hsome⟩)
      · exact h
      · exact absurd ((Option.some.inj hsome).symm.trans ha) hid
    · rw [if_pos (by simpa using ha)]
      change id ∈ Touched.note a ids ↔ _
      rw [Touched.mem_note, or_comm, Option.some.injEq]
      refine or_congr_right ⟨?_, fun h => h.2.symm⟩
      rintro rfl
      exact ⟨ha, rfl⟩

theorem mem_touched_addOwned {track : String} {a b : Option String} :
    id ∈ k.touched (t.addOwned track a b) ↔ id ∈ k.touched t ∨ (id ≠ "" ∧ k.of a b = some id) := by
  have halbums : (t.addOwned track a b).albums =
      (a.filter (· ≠ "")).elim t.albums (Touched.note · t.albums) := by
    unfold Touched.addOwned
    cases a.filter (· ≠ "") <;> cases b.filter (· ≠ "") <;> rfl
  have hartists : (t.addOwned track a b).artists =
      (b.filter (· ≠ "")).elim t.artists (Touched.note · t.artists) := by
    unfold Touched.addOwned
    cases a.filter (· ≠ "") <;> cases b.filter (· ≠ "") <;> rfl
  cases k with
  | album =>
    change id ∈ (t.addOwned track a b).albums ↔ id ∈ t.albums ∨ (id ≠ "" ∧ a = some id)
    rw [halbums, mem_noted]
  | artist =>
    change id ∈ (t.addOwned track a b).artists ↔ id ∈ t.artists ∨ (id ≠ "" ∧ b = some id)
    rw [hartists, mem_noted]

theorem mem_touched_withOwners {owners : List (String × Option String × Option String)} :
    id ∈ k.touched (t.withOwners owners) ↔
      id ∈ k.touched t ∨ (id ≠ "" ∧ ∃ o ∈ owners, k.of o.2.1 o.2.2 = some id) := by
  unfold Touched.withOwners
  induction owners generalizing t with
  | nil => simp
  | cons o owners ih =>
    rw [List.foldl_cons, ih, mem_touched_addOwned, or_assoc, ← and_or_left, List.exists_mem_cons_iff]

theorem mem_touched_withTold {ts : List RemoteTrack} :
    id ∈ k.touched (t.withTold ts) ↔
      id ∈ k.touched t ∨ (id ≠ "" ∧ ∃ u ∈ ts, k.toldOf u = some id) := by
  have hmap : t.withTold ts = t.withOwners (ts.map fun u =>
      (u.externalId, Intake.ownerId u.albumId, Intake.ownerId u.artistId)) := by
    unfold Touched.withTold Touched.withOwners
    rw [List.foldl_map]
  rw [hmap, mem_touched_withOwners]
  simp [toldOf]

theorem ownerId_ofText? {s : Option String} (hs : s = some id) (hid : id ≠ "") :
    Intake.ownerId (.ofText? s) = some id := by
  subst hs
  simp [Intake.ownerId, Json.ofText?, Json.isTruthy, Json.plain, hid]

/-- What is stored as the album or artist of a track was told of it. -/
theorem toldOf_of_tells {u : RemoteTrack} {r : TrackRow} (hu : u.Typed) (h : Database.Tells u r)
    (hid : id ≠ "") (hr : k.idOf r = some id) : k.toldOf u = some id := by
  obtain ⟨⟨a, ha⟩, ⟨b, hb⟩⟩ := hu
  obtain ⟨-, halbum, hartist⟩ := h
  have htext : ∀ s : Option String, Column.text? (.ofText? s) = .ok s := by
    rintro (_ | s) <;> rfl
  rw [ha, htext, Except.ok.injEq] at halbum
  rw [hb, htext, Except.ok.injEq] at hartist
  cases k with
  | album =>
    change Intake.ownerId u.albumId = some id
    rw [ha]
    exact ownerId_ofText? (halbum.trans hr) hid
  | artist =>
    change Intake.ownerId u.artistId = some id
    rw [hb]
    exact ownerId_ofText? (hartist.trans hr) hid

end OwnerKind

/-! ### Tracks and their sources -/

namespace Database

variable {d₀ d d' : Database} {k : OwnerKind} {id x : String} {n : Int} {ids : List String}
  {s : TrackSource}

theorem isHeld_iff : d.isHeld n = true ↔ ∃ l ∈ d.sources, l.track = n := by
  simp [isHeld]

/-- Tracks that are not given a source are held as they were. -/
theorem isHeld_attached (h : n ∉ d.numbersOf ids) : (d.attached ids s).isHeld n = d.isHeld n := by
  rw [Bool.eq_iff_iff, isHeld_iff, isHeld_iff]
  constructor
  · rintro ⟨l, hl, rfl⟩
    rcases mem_sources_attached.1 hl with hl | ⟨m, hm, -, rfl⟩
    · exact ⟨l, hl, rfl⟩
    · exact absurd hm h
  · rintro ⟨l, hl, hn⟩
    exact ⟨l, mem_sources_attached.2 (.inl hl), hn⟩

/-- Tracks that a source is not taken away from are held as they were. -/
theorem isHeld_detached (h : n ∉ d.numbersOf ids) : (d.detached ids s).isHeld n = d.isHeld n := by
  rw [Bool.eq_iff_iff, isHeld_iff, isHeld_iff]
  constructor
  · rintro ⟨l, hl, hn⟩
    exact ⟨l, (mem_sources_detached.1 hl).1, hn⟩
  · rintro ⟨l, hl, rfl⟩
    exact ⟨l, mem_sources_detached.2 ⟨hl, fun hgone => h hgone.1⟩, rfl⟩

theorem externalId_mem_of_mem_numbersOf (hd : d.Distinct) {r : TrackRow} (hr : r ∈ d.tracks)
    (h : r.id ∈ d.numbersOf ids) : r.externalId ∈ ids := by
  obtain ⟨x, hx, hname⟩ := (mem_numbersOf hd).1 h
  rwa [hd.id_eq (mem_names.2 ⟨r, hr, rfl, rfl⟩) hname]

/-- The tracks that an album or artist has were its tracks before, and each is held as it was. -/
structure LeftAlone (k : OwnerKind) (id : String) (d₀ d : Database) : Prop where
  /-- No track has come to it. -/
  owned : ∀ r ∈ d.tracks, k.idOf r = some id → ∃ q ∈ d₀.tracks, q.id = r.id ∧ k.idOf q = some id
  /-- Its tracks are held as they were. -/
  held : ∀ r ∈ d.tracks, k.idOf r = some id → d.isHeld r.id = d₀.isHeld r.id

theorem LeftAlone.refl (k : OwnerKind) (id : String) (d : Database) : LeftAlone k id d d where
  owned r hr hid := ⟨r, hr, rfl, hid⟩
  held _ _ _ := rfl

/-- Nothing comes to an album or artist whose tracks are among those it had, and are held as they
were. -/
theorem LeftAlone.step (h : LeftAlone k id d₀ d)
    (hrows : ∀ r ∈ d'.tracks, k.idOf r = some id → ∃ q ∈ d.tracks, q.id = r.id ∧ k.idOf q = some id)
    (hheld : ∀ r ∈ d'.tracks, k.idOf r = some id → d'.isHeld r.id = d.isHeld r.id) :
    LeftAlone k id d₀ d' where
  owned r hr hid := by
    obtain ⟨q, hq, hqr, hqid⟩ := hrows r hr hid
    obtain ⟨p, hp, hpq, hpid⟩ := h.owned q hq hqid
    exact ⟨p, hp, hpq.trans hqr, hpid⟩
  held r hr hid := by
    obtain ⟨q, hq, hqr, hqid⟩ := hrows r hr hid
    rw [hheld r hr hid, ← hqr]
    exact h.held q hq hqid

/-- **An album or artist that is not touched is left alone** by the changes of a pass. -/
theorem stable_leftAlone (k : OwnerKind) (hid : id ≠ "") (d₀ : Database) :
    Intake.Stable RemoteTrack.Typed fun d t =>
      d.Sound ∧ (id ∉ k.touched t → LeftAlone k id d₀ d) where
  add {d d' t now ts r} s _ htyped h htake := by
    obtain ⟨hsound, halone⟩ := h
    have hin := takenIn_takeIn hsound.toDistinct htake
    refine ⟨(hsound.of_grows hin.grows hin.distinct hin.sources).attached, fun hnot => ?_⟩
    rw [OwnerKind.mem_touched_withTold, not_or] at hnot
    -- a track of the album that was told of would have touched it
    have hrow : ∀ r ∈ d'.tracks, k.idOf r = some id →
        r ∈ d.tracks ∧ ∀ u ∈ ts, u.externalId ≠ r.externalId := by
      intro r hr hrid
      rcases hin.rows r hr with hkept | ⟨u, hu, htells⟩
      · exact hkept
      · exact absurd ⟨hid, u, hu, OwnerKind.toldOf_of_tells (htyped u hu) htells hid hrid⟩ hnot.2
    refine (halone hnot.1).step (fun r hr hrid => ⟨r, (hrow r hr hrid).1, rfl, hrid⟩) ?_
    intro r hr hrid
    have hunnamed : r.id ∉ d'.numbersOf (ts.map (·.externalId)) := by
      intro hmem
      obtain ⟨u, hu, hux⟩ := List.mem_map.1 (externalId_mem_of_mem_numbersOf hin.distinct hr hmem)
      exact (hrow r hr hrid).2 u hu hux
    rw [isHeld_attached hunnamed]
    unfold isHeld
    rw [hin.sources]
  remove {d t} ids s h := by
    obtain ⟨hsound, halone⟩ := h
    refine ⟨hsound.detached, fun hnot => ?_⟩
    rw [OwnerKind.mem_touched_withOwners, not_or] at hnot
    refine (halone hnot.1).step (fun r hr hrid => ⟨r, hr, rfl, hrid⟩) fun r hr hrid => ?_
    refine isHeld_detached fun hmem => hnot.2 ⟨hid, (r.externalId, r.albumId, r.artistId), ?_, ?_⟩
    · refine List.mem_map_of_mem (List.mem_filter.2 ⟨hr, ?_⟩)
      rw [List.contains_iff_mem]
      exact externalId_mem_of_mem_numbersOf hsound.toDistinct hr hmem
    · rw [← OwnerKind.idOf_eq]
      exact hrid
  snapshot rows h := ⟨h.1.congr rfl rfl, fun hnot => ⟨(h.2 hnot).owned, (h.2 hnot).held⟩⟩
  features {d t} f h := by
    refine ⟨h.1.congr (names_withFeatures _ f) rfl, fun hnot => ?_⟩
    have hrow : ∀ r ∈ (d.withFeatures f).tracks, k.idOf r = some id →
        ∃ q ∈ d.tracks, q.id = r.id ∧ k.idOf q = some id := by
      intro r hr hrid
      obtain ⟨q, hq, rfl⟩ := List.mem_map.1 hr
      refine ⟨q, hq, rfl, ?_⟩
      rw [OwnerKind.idOf_eq] at hrid ⊢
      exact hrid
    exact (h.2 hnot).step hrow fun _ _ _ => rfl

/-- Totals that are new are those of an album or artist that was touched. -/
def NewTouched (k : OwnerKind) (d₀ d : Database) (t : Touched) : Prop :=
  ∀ u ∈ k.totals d, u.id ≠ "" → u ∈ k.totals d₀ ∨ u.id ∈ k.touched t

theorem NewTouched.congr {t t' : Touched} (h : NewTouched k d₀ d t) (halbums : d'.albums = d.albums)
    (hartists : d'.artists = d.artists) (ht : ∀ id, id ∈ k.touched t → id ∈ k.touched t') :
    NewTouched k d₀ d' t' := by
  intro u hu hid
  rw [totals_congr halbums hartists] at hu
  exact (h u hu hid).imp_right (ht u.id)

/-- The changes of a pass touch what they add totals of. -/
theorem stable_newTouched (k : OwnerKind) (d₀ : Database) :
    Intake.Stable (fun _ => True) (NewTouched k d₀) where
  add {d d' t now ts r} s _ _ h htake := by
    obtain ⟨named, hnamed, htold⟩ := exists_addTotals htake k
    have hnew : NewTouched k d₀ d' (t.withTold ts) := by
      intro u hu hid
      rw [OwnerKind.mem_touched_withTold]
      rw [hnamed] at hu
      rcases List.mem_append.1 hu with hu | hu
      · exact (h u hu hid).imp_right .inl
      · obtain ⟨e, he, rfl⟩ := List.mem_map.1 hu
        exact .inr (.inr ⟨hid, htold e (List.mem_filter.1 he).1⟩)
    exact hnew.congr rfl rfl fun _ hmem => hmem
  remove ids s h := h.congr rfl rfl fun _ hmem => OwnerKind.mem_touched_withOwners.2 (.inl hmem)
  snapshot _ h := h.congr rfl rfl fun _ hmem => hmem
  features _ h := h.congr rfl rfl fun _ hmem => hmem

/-! ### Counting -/

/-- How many tracks of the library an album or artist had before, and has no longer. -/
def moved (k : OwnerKind) (id : String) (d₀ d : Database) : Nat :=
  (d₀.tracks.filter fun r => (k.idOf r == some id && d₀.isHeld r.id) &&
    !d.tracks.any fun q => q.id == r.id && k.idOf q == some id).length

theorem nodup_numbers (hd : d.Distinct) (p : TrackRow → Bool) :
    ((d.tracks.filter p).map (·.id)).Nodup := by
  have hnumbers : (d.tracks.map (·.id)).Nodup := by
    simpa [names, Function.comp_def] using hd.numbers
  exact hnumbers.sublist (List.filter_sublist.map _)

/-- An album or artist that is left alone has lost the tracks that have moved away. -/
theorem LeftAlone.countOf_add_moved (h : LeftAlone k id d₀ d) (hd₀ : d₀.Distinct) (hd : d.Distinct) :
    d.countOf k id + moved k id d₀ d = d₀.countOf k id := by
  let had (r : TrackRow) : Bool := k.idOf r == some id && d₀.isHeld r.id
  let stays (r : TrackRow) : Bool := d.tracks.any fun q => q.id == r.id && k.idOf q == some id
  have hstay : d.countOf k id = (d₀.tracks.filter fun r => had r && stays r).length := by
    refine (List.length_map (·.id)).symm.trans (Eq.trans ?_ (List.length_map (·.id)))
    -- the two lists of numbers have the same members, each once
    refine ((List.perm_ext_iff_of_nodup (nodup_numbers hd _) (nodup_numbers hd₀ _)).2 ?_).length_eq
    intro n
    simp only [List.mem_map, List.mem_filter, Bool.and_eq_true, beq_iff_eq, List.any_eq_true, had,
      stays]
    constructor
    · rintro ⟨r, ⟨hr, hrid, hheld⟩, rfl⟩
      obtain ⟨q, hq, hqr, hqid⟩ := h.owned r hr hrid
      refine ⟨q, ⟨hq, ⟨hqid, ?_⟩, r, hr, hqr.symm, hrid⟩, hqr⟩
      rw [hqr, ← h.held r hr hrid]
      exact hheld
    · rintro ⟨q, ⟨hq, ⟨-, hheld⟩, r, hr, hrq, hrid⟩, rfl⟩
      refine ⟨r, ⟨hr, hrid, ?_⟩, hrq⟩
      rw [h.held r hr hrid, hrq]
      exact hheld
  rw [hstay]
  unfold moved countOf
  rw [← List.countP_eq_length_filter, ← List.countP_eq_length_filter,
    ← List.countP_eq_length_filter, List.countP_eq_countP_filter_add d₀.tracks had stays,
    List.countP_filter, List.countP_filter]

end Database

/-! ### Passes -/

namespace IntakeRun

variable {σ : Type} {w w' : World σ} {missed : Missed} {k : OwnerKind} {id : String}
  {s : Settings} {o : Outside σ} {m : Monitor σ} {pace : IntakePace} {options : IntakeOptions}
  {result : SyncResult}

/-- **What a pass does not touch, it changes by moves alone**: an album or artist has lost the tracks
that have moved away, and nothing else has changed of it. -/
theorem countOf_add_moved (run : IntakeRun w missed)
    (hT : o.platform.TellsOnly RemoteTrack.Typed)
    (ends : (takeInLibrary s o m pace options).runOn w = (.ok result, w')) (hid : id ≠ "")
    (hnot : id ∉ k.touched (touchedBy s o m pace options w)) :
    w'.database.countOf k id + Database.moved k id w.database w'.database =
      w.database.countOf k id := by
  have hsound := run.collected.toSound
  have hstages := keeps_iff.1 ((Database.stable_leftAlone k hid w.database).keeps_stages o m pace hT
    s options) { world := w } ⟨⟨hsound, fun _ => .refl _ _ _⟩, {}, ?_⟩
  · unfold touchedBy at hnot
    rw [runOn_takeInLibrary] at ends
    rcases hrun : (Intake.stages s o m pace options).runOn { world := w } with ⟨f | r, p⟩
    · rw [hrun] at ends
      cases ends
    · rw [hrun] at ends hstages hnot
      cases ends
      obtain ⟨⟨hsound', halone⟩, -⟩ := hstages
      -- the totals that are brought up to date are no tracks
      exact (halone hnot).countOf_add_moved hsound.toDistinct hsound'.toDistinct
  · rw [← run.committed]
    exact ⟨hsound, fun _ => .refl _ _ _⟩

/-- After a pass that ends, the total of an album or artist is right exactly when the pass has touched
it, or has moved away from it as many tracks as were missed before. -/
theorem count_eq_iff_moved (run : IntakeRun w missed)
    (hT : o.platform.TellsOnly RemoteTrack.Typed)
    (ends : (takeInLibrary s o m pace options).runOn w = (.ok result, w')) {t : Totals}
    (ht : t ∈ k.totals w'.database) (hid : t.id ≠ "") :
    t.trackCount = w'.database.countOf k t.id ↔
      t.id ∈ k.touched (touchedBy s o m pace options w) ∨
        missed k t.id = Database.moved k t.id w.database w'.database := by
  have hnext := IntakeRun.pass run s o m pace options ends
  have hmoved := run.countOf_add_moved (k := k) hT ends hid
  rw [hnext.committed] at ht hmoved ⊢
  rw [run.committed] at hmoved ⊢
  rw [hnext.off.total_eq_iff ht]
  refine or_congr_right' fun hnot => ?_
  have := hmoved hnot
  omega

/-- Totals that a pass does not touch are not new. -/
theorem exists_totals (run : IntakeRun w missed)
    (ends : (takeInLibrary s o m pace options).runOn w = (.ok result, w')) {t : Totals}
    (ht : t ∈ k.totals w'.saved) (hid : t.id ≠ "")
    (hnot : t.id ∉ k.touched (touchedBy s o m pace options w)) :
    ∃ u ∈ k.totals w.saved, u.id = t.id := by
  have hstages := keeps_iff.1 ((Database.stable_newTouched k w.saved).keeps_stages o m pace
    o.platform.tellsOnly_true s options) { world := w } ⟨?_, {}, fun _ h _ => .inl h⟩
  · unfold touchedBy at hnot
    rw [runOn_takeInLibrary] at ends
    rcases hrun : (Intake.stages s o m pace options).runOn { world := w } with ⟨f | r, p⟩
    · rw [hrun] at ends
      cases ends
    · rw [hrun] at ends hstages hnot
      cases ends
      change t ∈ k.totals (p.world.database.recomputed _ _) at ht
      rw [Database.totals_recomputed] at ht
      obtain ⟨u, hu, rfl⟩ := List.mem_map.1 ht
      by_cases htouched : u.id ∈ k.touched p.touched
      · rw [if_pos (by simpa using htouched)] at hnot
        exact absurd htouched hnot
      · rw [if_neg (by simpa using htouched)] at hid ⊢
        exact ⟨u, (hstages.1 u hu hid).resolve_right htouched, rfl⟩
  · rw [← run.committed]
    exact fun _ h _ => .inl h

end IntakeRun

/-! ### Histories in which all passes end -/

/-- A history in which all passes end, and tell ids of albums and artists as texts. -/
inductive UncutRun {σ : Type} : World σ → Prop
  /-- There are no tracks yet. -/
  | start {w : World σ} (committed : w.database = w.saved) (tracks : w.saved.tracks = [])
      (sources : w.saved.sources = []) (albums : w.saved.albums = [])
      (artists : w.saved.artists = []) : UncutRun w
  /-- What lies outside changes. -/
  | outside {w : World σ} (run : UncutRun w) (outside : σ) : UncutRun { w with outside }
  /-- Smart playlists, tags or jobs change. -/
  | edit {w : World σ} (run : UncutRun w) (d : Database) (tracks : d.tracks = w.saved.tracks)
      (sources : d.sources = w.saved.sources) (albums : d.albums = w.saved.albums)
      (artists : d.artists = w.saved.artists) : UncutRun { w with database := d, saved := d }
  /-- A pass that ends. -/
  | pass {w : World σ} (run : UncutRun w) (s : Settings) {o : Outside σ}
      (typed : o.platform.TellsOnly RemoteTrack.Typed) (m : Monitor σ) (pace : IntakePace)
      (options : IntakeOptions) {result : SyncResult} {w' : World σ}
      (ends : (takeInLibrary s o m pace options).runOn w = (.ok result, w')) : UncutRun w'

namespace UncutRun

variable {σ : Type} {w : World σ}

/-- When all passes end, nothing that came to an album or artist is missed. -/
theorem exists_run (run : UncutRun w) :
    ∃ missed, IntakeRun w missed ∧
      ∀ k : OwnerKind, ∀ t ∈ k.totals w.saved, t.id ≠ "" → missed k t.id ≤ 0 := by
  induction run with
  | start committed tracks sources albums artists =>
    exact ⟨_, .start committed tracks sources albums artists, fun _ _ _ _ => Int.le_refl _⟩
  | outside run outside ih =>
    obtain ⟨missed, hrun, hmissed⟩ := ih
    exact ⟨missed, .outside hrun outside, hmissed⟩
  | edit run d tracks sources albums artists ih =>
    obtain ⟨missed, hrun, hmissed⟩ := ih
    refine ⟨missed, .edit hrun d tracks sources albums artists, fun k t ht => hmissed k t ?_⟩
    rwa [← Database.totals_congr albums artists]
  | @pass w run s o typed m pace options result w' ends ih =>
    obtain ⟨missed, hrun, hmissed⟩ := ih
    have hnext := IntakeRun.pass hrun s o m pace options ends
    refine ⟨_, hnext, fun k t ht hid => ?_⟩
    by_cases htouched : t.id ∈ k.touched (touchedBy s o m pace options w)
    · exact Int.le_of_eq (if_pos ⟨rfl, htouched, t, ht, rfl⟩)
    · obtain ⟨u, hu, huid⟩ := hrun.exists_totals ends ht hid htouched
      have hmoved := hrun.countOf_add_moved typed ends hid htouched
      have hbefore := hmissed k u hu (huid ▸ hid)
      rw [missedAfter, if_neg fun h => htouched h.2.1]
      rw [hnext.committed, hrun.committed] at hmoved
      rw [huid] at hbefore
      omega

/-- **When all passes end, no total is too small.** -/
theorem countOf_le (run : UncutRun w) (k : OwnerKind) {t : Totals} (ht : t ∈ k.totals w.database)
    (hid : t.id ≠ "") : w.database.countOf k t.id ≤ t.trackCount := by
  obtain ⟨missed, hrun, hmissed⟩ := run.exists_run
  rw [hrun.committed] at ht ⊢
  have hoff := hrun.off.known k t ht
  have := hmissed k t ht hid
  omega

end UncutRun

end Mixtape
