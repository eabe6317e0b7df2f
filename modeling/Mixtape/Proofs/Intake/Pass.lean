import Mixtape.Intake.Basic
import Mixtape.Proofs.Database.Sources
import Mixtape.Proofs.Platform
import Mixtape.Proofs.Sync.Chunks

/-!
# What a pass inward may do

A pass changes the stored tracks and their sources in two ways: tracks are taken in and given a
source, and a source is taken away from tracks. Everything else it does to the database concerns
snapshots and audio features. What these changes keep is therefore kept by all stages of a pass,
whether they succeed or fail, and it holds of every state that a pass has committed.

## Main definitions

* `Touched.withTold`, `Touched.withOwners` — what is noted as touched.
* `Database.FillsIn d f` — audio features that leave those there are in `d`.
* `Intake.Collecting S T Q` — giving sources with `S` to tracks with `T`, and taking them away, keeps `Q`
  of the database and of what was touched.
* `Intake.Stable T Q` — all changes of a pass over tracks with `T` keep `Q`.
* `Intake.Stands Q`, `Intake.Holds Q A` — `Q` holds of the database, and it or `A` of the one that was
  last committed.

## Main results

* `meets_addTracks`, `meets_removeTracks` — what the two changes do.
* `Intake.keeps_featureStage_missing` — audio features are stored of tracks that have none.
* `Intake.Collecting.keeps_stages`, `Intake.Stable.keeps_stages` — **what the changes keep, the stages
  keep.**
* `runOn_takeInLibrary` — how a pass ends.
-/

namespace Mixtape

open Action

/-- Tracks are noted with the albums and artists that are told of them. -/
def Touched.withTold (t : Touched) (ts : List RemoteTrack) : Touched :=
  ts.foldl (fun t r =>
    t.addOwned r.externalId (Intake.ownerId r.albumId) (Intake.ownerId r.artistId)) t

/-- Tracks are noted with the albums and artists that are stored of them. -/
def Touched.withOwners (t : Touched) (owners : List (String × Option String × Option String)) :
    Touched :=
  owners.foldl (fun t (id, album, artist) => t.addOwned id album artist) t

/-- The tracks that are known by ids. -/
def knownAmong (known : Registry RemoteTrack) (ids : List String) : List RemoteTrack :=
  ids.filterMap fun id => known.find? id

theorem mem_of_mem_knownAmong {remote : List RemoteTrack} {ids : List String} {t : RemoteTrack}
    (h : t ∈ knownAmong (Database.latestById remote) ids) : t ∈ remote := by
  obtain ⟨x, -, hx⟩ := List.mem_filterMap.1 h
  exact (Database.mem_latestById (Registry.mem_of_find? hx)).1

/-! ### Changes of the database -/

namespace Database

/-- The database with other audio features. -/
def withFeatures (d : Database) (f : TrackRow → Option Json) : Database :=
  { d with tracks := d.tracks.map fun r => { r with features := f r } }

theorem names_withFeatures (d : Database) (f : TrackRow → Option Json) :
    (d.withFeatures f).names = d.names := by
  unfold names withFeatures
  rw [List.map_map]
  rfl

/-- The audio features that a table gives to a row, or those it has. -/
def featuresFrom (found : FeatureTable) (r : TrackRow) : Option Json :=
  let given := Json.lookupField r.externalId (found.filter (·.2.isTruthy))
  if given.isSome then given else r.features

theorem meets_saveFeatures (d : Database) (found : FeatureTable) :
    Meets (· = d) (saveFeatures found) (fun _ d' => d' = d.withFeatures (featuresFrom found))
      fun _ _ => False := by
  unfold saveFeatures
  refine meets_get_bind fun s hs => ?_
  subst hs
  refine Meets.bind (Q := fun _ d' => d' = s.withFeatures (featuresFrom found))
    (meets_set fun _ _ => ?_) fun _ => meets_pure fun _ h => h
  unfold withFeatures changeWhere featuresFrom
  congr 1
  refine List.map_congr_left fun r _ => ?_
  by_cases h : (Json.lookupField r.externalId (found.filter (·.2.isTruthy))).isSome = true
  · simp [h]
  · simp [h]

/-- Audio features that leave those that tracks have. -/
def FillsIn (d : Database) (f : TrackRow → Option Json) : Prop :=
  ∀ r ∈ d.tracks, r.features = none ∨ f r = r.features

/-- A table of tracks without audio features leaves those that tracks have, since ids are told
once. -/
theorem fillsIn_featuresFrom {d : Database} (hids : (d.names.map Prod.snd).Nodup)
    {found : FeatureTable} (hfound : ∀ e ∈ found, e.1 ∈ d.missingFeatures) :
    d.FillsIn (featuresFrom found) := by
  intro r hr
  unfold featuresFrom
  cases hgiven : Json.lookupField r.externalId (found.filter (·.2.isTruthy)) with
  | none => exact .inr rfl
  | some j =>
    have hmem := (List.mem_filter.1 (Json.mem_of_lookupField hgiven)).1
    obtain ⟨q, hq, hqr⟩ := List.mem_map.1 (hfound _ hmem)
    obtain ⟨hq, hmissing⟩ := List.mem_filter.1 hq
    have hrows : (d.tracks.map (·.externalId)).Nodup := by
      simpa [names, Function.comp_def] using hids
    obtain rfl := List.inj_on_of_nodup_map hrows hq hr hqr
    exact .inl (Option.isNone_iff_eq_none.1 (Bool.and_eq_true_iff.1 hmissing).1)

/-- The database after the totals of albums and artists were brought up to date. -/
def recomputed (d : Database) (albumIds artistIds : List String) : Database :=
  { d with
    albums := changeWhere (fun t => albumIds.contains t.id)
      (fun t => d.totalsOver (·.albumId == some t.id) t) d.albums
    artists := changeWhere (fun t => artistIds.contains t.id)
      (fun t => d.totalsOver (·.artistId == some t.id) t) d.artists }

theorem meets_saveSnapshot (d : Database) (externalId name : String) (snapshotId : Option String)
    (readAt : Option Timestamp) :
    Meets (· = d) (saveSnapshot externalId name snapshotId readAt)
      (fun _ d' => ∃ rows, d' = { d with snapshots := rows }) fun _ _ => False := by
  unfold saveSnapshot
  refine meets_get_bind fun s hs => ?_
  subst hs
  cases s.snapshots.find? (·.externalId == externalId) with
  | none =>
    exact Meets.bind (Q := fun _ d' => ∃ rows, d' = { s with snapshots := rows })
      (meets_set fun _ _ => ⟨_, rfl⟩) fun _ => meets_pure fun _ h => h
  | some r =>
    exact Meets.bind (Q := fun _ d' => ∃ rows, d' = { s with snapshots := rows })
      (meets_set fun _ _ => ⟨_, rfl⟩) fun _ => meets_pure fun _ h => h

end Database

namespace Intake

variable {σ α : Type} {o : Outside σ} {m : Monitor σ} {pace : IntakePace}

/-! ### Work on one part of the state -/

/-- The state with another database. -/
def withDatabase (p : Intake σ) (d : Database) : Intake σ :=
  { p with world := { p.world with database := d } }

theorem meets_query {x : Action Database α} {p : Intake σ} {Q : α → Database → Prop}
    {E : Failure → Database → Prop} (h : Meets (· = p.world.database) x Q E) :
    Meets (· = p) (query x) (fun a p' => ∃ d, Q a d ∧ p' = p.withDatabase d)
      fun f p' => ∃ d, E f d ∧ p' = p.withDatabase d := by
  unfold query inWorld
  refine meets_within ?_
  rintro _ rfl
  unfold World.query
  refine meets_within ?_
  rintro _ rfl
  exact h.imp (fun _ h => h) (fun _ d h => ⟨d, h, rfl⟩) fun _ d h => ⟨d, h, rfl⟩

theorem meets_ask_at {x : Action σ α} {p : Intake σ} {Q : α → σ → Prop} {E : Failure → σ → Prop}
    (h : Meets (· = p.world.outside) x Q E) :
    Meets (· = p) (ask x)
      (fun a q => ∃ u, Q a u ∧ q = { p with world := { p.world with outside := u } })
      fun f q => ∃ u, E f u ∧ q = { p with world := { p.world with outside := u } } := by
  unfold ask inWorld
  refine meets_within ?_
  rintro _ rfl
  unfold World.ask
  refine meets_within ?_
  rintro _ rfl
  exact h.imp (fun _ h => h) (fun _ u h => ⟨u, h, rfl⟩) fun _ u h => ⟨u, h, rfl⟩

/-- A property of the state that does not look outside. -/
def Inner (I : Intake σ → Prop) : Prop :=
  ∀ p t, I p → I { p with world := { p.world with outside := t } }

theorem keeps_ask {I : Intake σ → Prop} (hI : Inner I) (x : Action σ α) : Keeps I (ask x) := by
  refine keeps_iff.2 fun p hp => ?_
  exact hI p _ hp

/-- What is told from outside, with a property of the state that does not look there. -/
theorem meets_ask {I : Intake σ → Prop} {x : Action σ α} {R : α → Prop} (hI : Inner I)
    (hx : Yields (fun _ => True) x fun a _ => R a) :
    Meets I (ask x) (fun a p => R a ∧ I p) fun _ => I := by
  refine meets_of_forall fun p hp => ?_
  refine (meets_ask_at (hx.at_state trivial)).imp (fun _ h => h) ?_ ?_
  · rintro a _ ⟨u, ha, rfl⟩
    exact ⟨ha, hI p u hp⟩
  · rintro f _ ⟨u, -, rfl⟩
    exact hI p u hp

theorem keeps_now {I : Intake σ → Prop} (o : Outside σ) : Keeps I (inWorld (World.now o)) := by
  refine keeps_iff.2 fun p hp => ?_
  exact hp

/-! ### The two changes of a pass -/

/-- Tracks are taken in, given a source and noted, the new ones and the others apart; if that fails,
nothing has happened. -/
theorem meets_addTracks_noting (p : Intake σ) (s : TrackSource) (known : Registry RemoteTrack)
    (ids : List String) :
    Meets (· = p) (addTracks o s known ids)
      (fun _ p' => ∃ now r d, (Database.takeIn now (knownAmong known ids)).runOn p.world.database =
          (.ok r, d) ∧
        p' = { p with
          world := { p.world with
            database := d.attached ((knownAmong known ids).map (·.externalId)) s }
          added := noteAll r.1 p.added, changed := noteAll r.2 p.changed
          touched := p.touched.withTold (knownAmong known ids) })
      fun _ p' => p' = p := by
  unfold addTracks
  refine Meets.bind (Q := fun _ p' => p' = p) (keeps_now o) fun now => ?_
  have htake : Meets (· = p.world.database) (Database.takeIn now (knownAmong known ids))
      (fun r d => (Database.takeIn now (knownAmong known ids)).runOn p.world.database = (.ok r, d))
      fun _ d => d = p.world.database :=
    ((meets_runOn _).and (Database.meets_takeIn _ _ _)).imp (fun _ h => h) (fun _ _ h => h.1)
      fun _ _ h => h.2
  refine Meets.bind ((meets_query htake).imp_error ?_) ?_
  · rintro _ _ ⟨d, rfl, rfl⟩
    rfl
  rintro ⟨new, old⟩
  refine meets_of_exists fun d => meets_of_and fun hd => ?_
  rintro _ rfl
  exact ⟨now, (new, old), d, hd, rfl⟩

/-- Tracks are taken in, given a source and noted; if that fails, nothing has happened. -/
theorem meets_addTracks (p : Intake σ) (s : TrackSource) (known : Registry RemoteTrack)
    (ids : List String) :
    Meets (· = p) (addTracks o s known ids)
      (fun _ p' => ∃ now r d, (Database.takeIn now (knownAmong known ids)).runOn p.world.database =
          (.ok r, d) ∧
        p'.world = { p.world with
          database := d.attached ((knownAmong known ids).map (·.externalId)) s } ∧
        p'.touched = p.touched.withTold (knownAmong known ids))
      fun _ p' => p' = p := by
  refine (meets_addTracks_noting p s known ids).imp (fun _ h => h) ?_ fun _ _ h => h
  rintro _ _ ⟨now, r, d, htake, rfl⟩
  exact ⟨now, r, d, htake, rfl, rfl⟩

/-- A source is taken away from tracks, which are noted. -/
theorem meets_removeTracks (p : Intake σ) (s : TrackSource) (ids : List String) :
    Meets (· = p) (removeTracks s ids)
      (fun _ p' => p'.world = { p.world with database := p.world.database.detached ids s } ∧
        p'.touched = p.touched.withOwners (p.world.database.ownersOf ids))
      fun _ _ => False := by
  rintro _ rfl
  exact ⟨rfl, rfl⟩

/-! ### What the changes of a pass keep -/

/-- A source that a pass gives to tracks: the liked songs, an album or a playlist. -/
def IsCollection (s : TrackSource) : Prop :=
  (s.type = .likedSongs ∧ s.id = none) ∨ s.type = .album ∨ s.type = .playlist

/-- Giving sources with `S` to tracks with `T`, and taking them away, keeps a property of the database
and of what was touched. -/
structure Collecting (S : TrackSource → Prop) (T : RemoteTrack → Prop)
    (Q : Database → Touched → Prop) : Prop where
  /-- Tracks are taken in, given a source and noted. -/
  add : ∀ {d d' : Database} {t : Touched} {now : Timestamp} {ts : List RemoteTrack}
    {r : List String × List String} (s : TrackSource), S s → (∀ u ∈ ts, T u) → Q d t →
    (Database.takeIn now ts).runOn d = (.ok r, d') →
    Q (d'.attached (ts.map (·.externalId)) s) (t.withTold ts)
  /-- A source is taken away from tracks, which are noted. -/
  remove : ∀ {d : Database} {t : Touched} (ids : List String) (s : TrackSource), S s → Q d t →
    Q (d.detached ids s) (t.withOwners (d.ownersOf ids))

/-- The changes of a pass over tracks with `T` keep a property of the database and of what was
touched. -/
structure Stable (T : RemoteTrack → Prop) (Q : Database → Touched → Prop) : Prop where
  /-- Tracks are taken in, given a source and noted. -/
  add : ∀ {d d' : Database} {t : Touched} {now : Timestamp} {ts : List RemoteTrack}
    {r : List String × List String} (s : TrackSource), IsCollection s → (∀ u ∈ ts, T u) → Q d t →
    (Database.takeIn now ts).runOn d = (.ok r, d') →
    Q (d'.attached (ts.map (·.externalId)) s) (t.withTold ts)
  /-- A source is taken away from tracks, which are noted. -/
  remove : ∀ {d : Database} {t : Touched} (ids : List String) (s : TrackSource), Q d t →
    Q (d.detached ids s) (t.withOwners (d.ownersOf ids))
  /-- It is noted what was read of a playlist. -/
  snapshot : ∀ {d : Database} {t : Touched} (rows : List SnapshotRow), Q d t →
    Q { d with snapshots := rows } t
  /-- Audio features are stored. -/
  features : ∀ {d : Database} {t : Touched} (f : TrackRow → Option Json), Q d t →
    Q (d.withFeatures f) t

/-- A property holds of the database with what was touched, and it held of the database that was
last committed. -/
def Stands (Q : Database → Touched → Prop) (p : Intake σ) : Prop :=
  Q p.world.database p.touched ∧ ∃ t, Q p.world.saved t

/-- A property holds of the database with what was touched, and another of the database that was last
committed. -/
def Holds (Q : Database → Touched → Prop) (A : Database → Prop) (p : Intake σ) : Prop :=
  Q p.world.database p.touched ∧ A p.world.saved

theorem inner_holds (Q : Database → Touched → Prop) (A : Database → Prop) :
    Inner (Holds (σ := σ) Q A) :=
  fun _ _ h => h

theorem inner_stands (Q : Database → Touched → Prop) : Inner (Stands (σ := σ) Q) :=
  fun _ _ h => h

variable {S : TrackSource → Prop} {T : RemoteTrack → Prop} {Q : Database → Touched → Prop}
  {A : Database → Prop}

theorem Stable.collecting (hQ : Stable T Q) : Collecting IsCollection T Q where
  add := hQ.add
  remove ids s _ := hQ.remove ids s

theorem keeps_query (x : Action Database α)
    (hx : ∀ d t, Q d t → Meets (· = d) x (fun _ d' => Q d' t) fun _ _ => False) :
    Keeps (Stands (σ := σ) Q) (query x) := by
  refine meets_of_forall ?_
  rintro p ⟨hd, hs⟩
  refine (meets_query (hx _ _ hd)).imp (fun _ h => h) ?_ ?_
  · rintro _ _ ⟨d, hd', rfl⟩
    exact ⟨hd', hs⟩
  · rintro _ _ ⟨d, hd', -⟩
    exact hd'.elim

theorem meets_commit {E : Failure → Intake σ → Prop} : Meets (Holds Q A) (inWorld World.commit)
    (fun _ p => Q p.world.database p.touched ∧ p.world.saved = p.world.database) E :=
  fun _ hp => ⟨hp.1, rfl⟩

theorem stands_of_committed {p : Intake σ}
    (h : Q p.world.database p.touched ∧ p.world.saved = p.world.database) : Stands Q p :=
  ⟨h.1, p.touched, h.2 ▸ h.1⟩

theorem keeps_commit : Keeps (Stands (σ := σ) Q) (inWorld World.commit) :=
  keeps_iff.2 fun p hp => ⟨hp.1, p.touched, hp.1⟩

theorem keeps_watch (I : Intake σ → Prop) (hI : Inner I) :
    (∀ p, Keeps I ((watch m).report p)) ∧ Keeps I (watch m).check ∧
      ∀ x, Keeps I ((watch m).pause x) :=
  ⟨fun p => keeps_ask hI (m.report p), keeps_ask hI m.check, fun x => keeps_ask hI (m.pause x)⟩

/-! ### Audio features -/

theorem keys_mergeOutcomes {table table' : FeatureTable} : ∀ {os : List (Outcome String Json)},
    mergeOutcomes table os = .ok table' → table'.map Prod.fst = table.map Prod.fst := by
  intro os
  induction os generalizing table with
  | nil =>
    intro h
    cases h
    rfl
  | cons u rest ih =>
    intro h
    unfold mergeOutcomes at h
    split at h
    · exact ih h
    · obtain ⟨fields, -, h⟩ := exists_of_bind_eq_ok h
      -- an answer is put in place of what is known of the same tracks
      rw [ih h, mergeFeatures, List.map_map]
      rfl

/-- Looking up audio features does no more than what its calls and its pauses do, and it tells of no
other tracks than those it was asked for. -/
theorem meets_fetchFeatures {I : Intake σ → Prop} (s : Settings) (ids : List String)
    (hpause : ∀ x, Keeps I ((watch m).pause x))
    (hask : ∀ ids, Keeps I (ask (o.platform.audioFeatures ids))) :
    Meets I (fetchFeatures (watch m) (fun ids => ask (o.platform.audioFeatures ids))
      s.featureDelay s.featureBatch ids) (fun table p => (∀ e ∈ table, e.1 ∈ ids) ∧ I p)
      fun _ => I := by
  unfold fetchFeatures
  refine meets_ite (fun _ => meets_pure fun _ h => ⟨by simp, h⟩) fun _ => ?_
  refine Meets.bind (Q := fun _ => I) ?_ fun outcomes =>
    meets_ofExcept (fun table htable p hp => ⟨fun e he => ?_, hp⟩) fun _ _ _ h => h
  · refine (meets_processChunks (P := fun _ => I) (E := fun _ => I) (fun _ _ _ => keeps_pure _)
      (fun _ => hpause) (fun _ ids => ?_) (dedup ids) fun _ _ _ h => h).imp
        (fun _ h => h) (fun _ _ h => h.1) fun _ _ h => h
    simp only [ite_self]
    exact meets_bounded (hask ids) fun _ h => h
  · have hkey : e.1 ∈ table.map Prod.fst := List.mem_map_of_mem he
    rw [keys_mergeOutcomes htable, List.map_map] at hkey
    obtain ⟨id, hid, hide⟩ := List.mem_map.1 hkey
    exact hide ▸ mem_dedup.1 hid

/-- **Storing audio features of tracks that have none is all that their stage does** to the
database, where ids are told once. -/
theorem keeps_featureStage_missing {I : Intake σ → Prop} (s : Settings) (hI : Inner I)
    (hfeatures : ∀ p f, (p.world.database.Distinct → p.world.database.FillsIn f) → I p →
      I (p.withDatabase (p.world.database.withFeatures f))) : Keeps I (featureStage s o m) := by
  unfold featureStage
  refine meets_get_bind fun p hp => ?_
  -- until features are stored, the database is the one whose tracks were looked at
  let J (q : Intake σ) : Prop := I q ∧ q.world.database = p.world.database
  have hJ : Inner J := fun q t hq => ⟨hI q t hq.1, hq.2⟩
  have hkept : ∀ {q : Intake σ}, J q → I q := And.left
  obtain ⟨hreport, -, hpause⟩ := keeps_watch (m := m) J hJ
  have hsave : ∀ found : FeatureTable, (∀ e ∈ found, e.1 ∈ p.world.database.missingFeatures) →
      Meets J (query (Database.saveFeatures found)) (fun _ => I) fun _ => I := by
    refine fun found hfound => meets_of_forall fun q hq => ?_
    refine (meets_query (Database.meets_saveFeatures q.world.database found)).imp
      (fun _ h => h) ?_ ?_
    · rintro _ _ ⟨_, rfl, rfl⟩
      refine hfeatures q _ (fun hd => Database.fillsIn_featuresFrom hd.ids ?_) hq.1
      rw [hq.2]
      exact hfound
    · rintro _ _ ⟨_, h, -⟩
      exact h.elim
  refine meets_ite (fun _ => meets_pure ?_) fun _ => ?_
  · rintro _ rfl
    exact hp
  refine Meets.bind (Q := fun _ => J)
    ((keeps_tell hreport _ _ _ _).meets.imp ?_ (fun _ _ h => h) fun _ _ => hkept) fun _ => ?_
  · rintro _ rfl
    exact ⟨hp, rfl⟩
  refine Meets.bind (Q := fun r q => (∀ found, r = .ok found → ∀ e ∈ found,
    e.1 ∈ p.world.database.missingFeatures) ∧ J q) (meets_attempt ?_) fun found => ?_
  · refine (meets_fetchFeatures s _ hpause fun ids => keeps_ask hJ _).imp (fun _ h => h) ?_ ?_
    · rintro table q ⟨hkeys, hq⟩
      refine ⟨?_, hq⟩
      rintro _ ⟨⟩
      exact hkeys
    · exact fun _ _ hq => ⟨fun _ => nofun, hq⟩
  refine meets_of_and fun hfound => ?_
  rcases found with f | table
  · cases f <;> first | exact meets_pure fun _ => hkept | exact meets_throw fun _ => hkept
  · obtain ⟨hreport, -, -⟩ := keeps_watch (m := m) I hI
    exact Meets.bind (hsave table (hfound table rfl)) fun _ =>
      Keeps.bind (keeps_tell hreport _ _ _ _) fun _ => keeps_pure _

/-- What the calls of a monitor and the lookup keep outside, the stage of the audio features keeps. -/
theorem keeps_featureStage_outside {I : σ → Prop} (s : Settings) (hm : m.Leaves I)
    (hlookup : ∀ ids, Keeps I (o.platform.audioFeatures ids)) :
    Keeps (fun p : Intake σ => I p.world.outside) (featureStage s o m) := by
  have hask : ∀ {β : Type} {y : Action σ β}, Keeps I y →
      Keeps (fun p : Intake σ => I p.world.outside) (ask y) :=
    fun hy => keeps_iff.2 fun p hp => keeps_iff.1 hy _ hp
  have hreport : ∀ p, Keeps (fun p : Intake σ => I p.world.outside) ((watch m).report p) :=
    fun p => hask (hm.report p)
  unfold featureStage
  refine Keeps.bind keeps_get fun p => keeps_ite (keeps_pure _) ?_
  refine Keeps.bind (keeps_tell hreport _ _ _ _) fun _ => Keeps.bind (Keeps.attempt ?_) fun found => ?_
  · exact (meets_fetchFeatures s _ (fun x => hask (hm.pause x)) fun ids => hask (hlookup ids)).imp
      (fun _ h => h) (fun _ _ h => h.2) fun _ _ h => h
  · rcases found with f | table
    · cases f <;> first | exact keeps_pure _ | exact keeps_throw _
    · refine Keeps.bind (keeps_iff.2 fun p hp => hp) fun saved => ?_
      exact Keeps.bind (keeps_tell hreport _ _ _ _) fun _ => keeps_pure _

/-! ### The stages -/

namespace Collecting

theorem keeps_addTracks (hQ : Collecting S T Q) {s : TrackSource} (hs : S s)
    {remote : List RemoteTrack} (hremote : ∀ u ∈ remote, T u) (ids : List String) :
    Keeps (Holds Q A) (addTracks o s (Database.latestById remote) ids) := by
  refine meets_of_forall ?_
  rintro p ⟨hd, hsaved⟩
  refine (meets_addTracks p s _ ids).imp (fun _ h => h) ?_ ?_
  · rintro _ p' ⟨now, r, d, htake, hworld, htouched⟩
    unfold Holds
    rw [hworld, htouched]
    exact ⟨hQ.add s hs (fun u hu => hremote u (mem_of_mem_knownAmong hu)) hd htake, hsaved⟩
  · rintro _ _ rfl
    exact ⟨hd, hsaved⟩

theorem keeps_removeTracks (hQ : Collecting S T Q) {s : TrackSource} (hs : S s) (ids : List String) :
    Keeps (Holds (σ := σ) Q A) (removeTracks s ids) := by
  refine meets_of_forall ?_
  rintro p ⟨hd, hsaved⟩
  refine (meets_removeTracks p s ids).imp (fun _ h => h) ?_ fun _ _ => False.elim
  rintro _ p' ⟨hworld, htouched⟩
  unfold Holds
  rw [hworld, htouched]
  exact ⟨hQ.remove ids s hs hd, hsaved⟩

variable (o m pace)

/-- Bringing one source in line commits nothing. -/
theorem keeps_bringInLine_holds (hQ : Collecting S T Q) {s : TrackSource} (hs : S s)
    {remote : List RemoteTrack} (hremote : ∀ u ∈ remote, T u) :
    Keeps (Holds Q A) (bringInLine o m pace s remote) := by
  obtain ⟨hreport, hcheck, hpause⟩ := keeps_watch (m := m) (Holds Q A) (inner_holds Q A)
  unfold bringInLine
  refine Keeps.bind (keeps_modify fun _ h => h) fun _ => Keeps.bind keeps_get fun p => ?_
  refine Meets.bind (Q := fun _ => Holds Q A) ?_ fun applied =>
    Keeps.bind keeps_get fun p => keeps_pure _
  refine (meets_apply (w := writer o s (Database.latestById remote)) (P := fun _ _ => Holds Q A)
    (fun _ _ => hreport) (fun _ _ => hcheck)
    (fun _ _ => hpause) (fun _ ids => hQ.keeps_removeTracks hs ids)
    (fun _ _ ids => hQ.keeps_addTracks hs hremote ids) _).imp (fun _ h => h) (fun _ _ h => h.1) ?_
  rintro _ _ ⟨_, _, h⟩
  exact h

theorem keeps_bringInLine (hQ : Collecting S T Q) {s : TrackSource} (hs : S s)
    {remote : List RemoteTrack} (hremote : ∀ u ∈ remote, T u) :
    Keeps (Stands Q) (bringInLine o m pace s remote) :=
  hQ.keeps_bringInLine_holds (A := fun d => ∃ t, Q d t) o m pace hs hremote

/-- The liked songs are brought in line, and at the end that is committed. -/
theorem meets_likedStage (hQ : Collecting S T Q) (hS : S ⟨.likedSongs, none, none⟩)
    (hT : o.platform.TellsOnly T) :
    Meets (Holds Q A) (likedStage o m pace)
      (fun _ p => Q p.world.database p.touched ∧ p.world.saved = p.world.database)
      fun _ => Holds Q A := by
  obtain ⟨hreport, -, -⟩ := keeps_watch (m := m) (Holds Q A) (inner_holds Q A)
  unfold likedStage
  refine Meets.bind (keeps_tell hreport _ _ _ _) fun _ => ?_
  refine Meets.bind (meets_ask (inner_holds Q A) hT.liked) fun _ => meets_of_and fun hliked => ?_
  refine Meets.bind (hQ.keeps_bringInLine_holds o m pace hS hliked) fun _ => ?_
  refine Meets.bind (keeps_tell hreport _ _ _ _) fun _ => ?_
  exact Meets.bind meets_commit fun _ => meets_pure fun _ h => h

theorem keeps_likedStage (hQ : Collecting S T Q) (hS : S ⟨.likedSongs, none, none⟩)
    (hT : o.platform.TellsOnly T) :
    Keeps (Stands Q) (likedStage o m pace) :=
  (hQ.meets_likedStage (A := fun d => ∃ t, Q d t) o m pace hS hT).imp (fun _ h => h)
    (fun _ _ => stands_of_committed) fun _ _ h => h

theorem keeps_eachAlbum (hQ : Collecting S T Q) (hS : ∀ s : TrackSource, s.type = .album → S s)
    (total : Nat) : ∀ (albums : List RemoteAlbum) (index : Nat),
    (∀ a ∈ albums, ∀ t ∈ a.tracks, T t) →
      Keeps (Holds Q A) (eachAlbum o m pace total index albums) := by
  obtain ⟨hreport, hcheck, -⟩ := keeps_watch (m := m) (Holds Q A) (inner_holds Q A)
  intro albums
  induction albums with
  | nil => exact fun _ _ => keeps_pure _
  | cons a rest ih =>
    intro index halbums
    obtain ⟨ha, hrest⟩ := List.forall_mem_cons.1 halbums
    exact Keeps.bind hcheck fun _ => Keeps.bind (keeps_tell hreport _ _ _ _) fun _ =>
      Keeps.bind (hQ.keeps_bringInLine_holds o m pace (hS _ rfl) ha) fun _ =>
      Keeps.bind (ih (index + 1) hrest) fun _ => keeps_pure _

theorem keeps_emptySources (hQ : Collecting S T Q) : ∀ sources : List TrackSource,
    (∀ s ∈ sources, S s) → Keeps (Holds Q A) (emptySources o m pace sources) := by
  intro sources
  induction sources with
  | nil => exact fun _ => keeps_pure _
  | cons s rest ih =>
    intro h
    exact Keeps.bind
        (hQ.keeps_bringInLine_holds o m pace (h s List.mem_cons_self) (List.forall_mem_nil T)) fun _ =>
      Keeps.bind (ih fun s hs => h s (List.mem_cons_of_mem _ hs)) fun _ => keeps_pure _

/-- The albums are brought in line one after another, and at the end that is committed. -/
theorem meets_albumStage (hQ : Collecting S T Q) (hS : ∀ s : TrackSource, s.type = .album → S s)
    (hT : o.platform.TellsOnly T) :
    Meets (Holds Q A) (albumStage o m pace)
      (fun _ p => Q p.world.database p.touched ∧ p.world.saved = p.world.database)
      fun _ => Holds Q A := by
  obtain ⟨hreport, -, -⟩ := keeps_watch (m := m) (Holds Q A) (inner_holds Q A)
  unfold albumStage
  refine Meets.bind (keeps_tell hreport _ _ _ _) fun _ => ?_
  refine Meets.bind (meets_ask (inner_holds Q A) hT.albums) fun albums => meets_of_and fun halbums => ?_
  refine Meets.bind (hQ.keeps_eachAlbum o m pace hS _ albums 0 halbums) fun _ => ?_
  refine Meets.bind keeps_get fun _ => ?_
  refine Meets.bind (hQ.keeps_emptySources o m pace _ fun s hs =>
    hS s (Database.type_of_mem_sourcesOfType (List.mem_filter.1 hs).1)) fun _ => ?_
  refine Meets.bind (keeps_tell hreport _ _ _ _) fun _ => ?_
  exact Meets.bind meets_commit fun _ => meets_pure fun _ h => h

theorem keeps_albumStage (hQ : Collecting S T Q) (hS : ∀ s : TrackSource, s.type = .album → S s)
    (hT : o.platform.TellsOnly T) :
    Keeps (Stands Q) (albumStage o m pace) :=
  (hQ.meets_albumStage (A := fun d => ∃ t, Q d t) o m pace hS hT).imp (fun _ h => h)
    (fun _ _ => stands_of_committed) fun _ _ h => h

theorem keeps_readPlaylist (hQ : Collecting S T Q)
    (hsnapshot : ∀ {d : Database} {t : Touched} (rows : List SnapshotRow), Q d t →
      Q { d with snapshots := rows } t)
    (hT : o.platform.TellsOnly T) (p : RemotePlaylist)
    (hS : S ⟨.playlist, some p.externalId, some p.name⟩) :
    Keeps (Stands Q) (readPlaylist o m pace p) := by
  have hnote : ∀ now, Keeps (Stands (σ := σ) Q)
      (query (Database.saveSnapshot p.externalId p.name p.snapshotId (some now))) := by
    refine fun now => keeps_query _ fun d t hd => ?_
    refine (Database.meets_saveSnapshot d _ _ _ _).imp (fun _ h => h) ?_ fun _ _ => False.elim
    rintro _ _ ⟨rows, rfl⟩
    exact hsnapshot rows hd
  unfold readPlaylist
  refine Meets.bind (meets_ask (inner_stands Q) (hT.tracks _)) fun _ => meets_of_and fun htracks => ?_
  refine Keeps.bind (hQ.keeps_bringInLine o m pace hS htracks) fun result => ?_
  have hend : Keeps (Stands (σ := σ) Q) (inWorld World.commit >>= fun _ => pure result) :=
    Keeps.bind keeps_commit fun _ => keeps_pure _
  refine keeps_ite ?_ hend
  exact Keeps.bind (Intake.keeps_now o) fun now => Keeps.bind (hnote now) fun _ => hend

theorem keeps_eachPlaylist (hQ : Collecting S T Q)
    (hsnapshot : ∀ {d : Database} {t : Touched} (rows : List SnapshotRow), Q d t →
      Q { d with snapshots := rows } t)
    (hT : o.platform.TellsOnly T) (force : Bool)
    (snapshotOf : String → Option String) (total : Nat) :
    ∀ (playlists : List RemotePlaylist) (index : Nat),
    (∀ p ∈ playlists, S ⟨.playlist, some p.externalId, some p.name⟩) →
    Keeps (Stands Q) (eachPlaylist o m pace force snapshotOf total index playlists) := by
  obtain ⟨hreport, hcheck, hpause⟩ := keeps_watch (m := m) (Stands Q) (inner_stands Q)
  intro playlists
  induction playlists with
  | nil => exact fun _ _ => keeps_pure _
  | cons p rest ih =>
    intro index hS
    obtain ⟨hp, hrest⟩ := List.forall_mem_cons.1 hS
    unfold eachPlaylist
    refine Keeps.bind hcheck fun _ => Keeps.bind (keeps_tell hreport _ _ _ _) fun _ => ?_
    have hread : Keeps (Stands Q) (readPlaylist o m pace p >>= fun result =>
        eachPlaylist o m pace force snapshotOf total (index + 1) rest >>= fun others =>
          pure (result.merge others.1, others.2)) :=
      Keeps.bind (hQ.keeps_readPlaylist o m pace hsnapshot hT p hp) fun _ =>
        Keeps.bind (ih (index + 1) hrest) fun _ => keeps_pure _
    refine keeps_ite (Keeps.bind (ih (index + 1) hrest) fun _ => keeps_pure _) ?_
    exact keeps_ite (Keeps.bind (keeps_pauseFor hpause _) fun _ => hread) hread

theorem keeps_playlistStage (hQ : Collecting S T Q)
    (hS : ∀ s : TrackSource, s.type = .playlist → S s)
    (hsnapshot : ∀ {d : Database} {t : Touched} (rows : List SnapshotRow), Q d t →
      Q { d with snapshots := rows } t)
    (hT : o.platform.TellsOnly T) (force : Bool) :
    Keeps (Stands Q) (playlistStage o m pace force) := by
  obtain ⟨hreport, -, -⟩ := keeps_watch (m := m) (Stands Q) (inner_stands Q)
  exact Keeps.bind keeps_get fun _ =>
    Keeps.bind (keeps_tell hreport _ _ _ _) fun _ =>
    Keeps.bind (keeps_ask (inner_stands Q) _) fun _ =>
    Keeps.bind (hQ.keeps_eachPlaylist o m pace hsnapshot hT force _ _ _ 0 fun _ _ => hS _ rfl)
      fun _ =>
    Keeps.bind (keeps_tell hreport _ _ _ _) fun _ => keeps_pure _

/-- **What the changes of a pass keep, its stages keep**, whether they succeed or fail. -/
theorem keeps_stages (hQ : Collecting S T Q) (hS : ∀ s, IsCollection s → S s)
    (hsnapshot : ∀ {d : Database} {t : Touched} (rows : List SnapshotRow), Q d t →
      Q { d with snapshots := rows } t)
    (hfeatures : ∀ {d : Database} {t : Touched} (f : TrackRow → Option Json),
      (d.Distinct → d.FillsIn f) → Q d t → Q (d.withFeatures f) t)
    (hT : o.platform.TellsOnly T) (s : Settings) (options : IntakeOptions) :
    Keeps (Stands Q) (stages s o m pace options) := by
  have hstage : ∀ (wanted : Bool) {x : Action (Intake σ) SyncResult},
      Keeps (Stands Q) x → Keeps (Stands Q) (stage wanted x) :=
    fun _ _ hx => keeps_ite hx (keeps_pure _)
  exact Keeps.bind (hstage _ (hQ.keeps_likedStage o m pace (hS _ (.inl ⟨rfl, rfl⟩)) hT)) fun _ =>
    Keeps.bind (hstage _ (hQ.keeps_albumStage o m pace (fun s h => hS s (.inr (.inl h))) hT)) fun _ =>
    Keeps.bind (hstage _ (hQ.keeps_playlistStage o m pace (fun s h => hS s (.inr (.inr h)))
      hsnapshot hT _)) fun _ =>
    Keeps.bind (hstage _ (keeps_featureStage_missing s (inner_stands Q)
      fun p f hf h => ⟨hfeatures f hf h.1, h.2⟩)) fun _ => keeps_pure _

end Collecting

namespace Stable

variable (o m pace)

/-- Storing audio features is all that their stage does to the database. -/
theorem keeps_featureStage {I : Intake σ → Prop} (s : Settings) (hI : Inner I)
    (hfeatures : ∀ p f, I p → I (p.withDatabase (p.world.database.withFeatures f))) :
    Keeps I (featureStage s o m) :=
  keeps_featureStage_missing s hI fun p f _ => hfeatures p f

/-- **What the changes of a pass keep, its stages keep**, whether they succeed or fail. -/
theorem keeps_stages (hQ : Stable T Q) (hT : o.platform.TellsOnly T) (s : Settings)
    (options : IntakeOptions) :
    Keeps (Stands Q) (stages s o m pace options) :=
  hQ.collecting.keeps_stages o m pace (fun _ h => h) hQ.snapshot (fun f _ => hQ.features f) hT s
    options

end Stable

end Intake

/-! ### A whole pass -/

/-- **How a pass ends.** When its stages succeed, the totals of what they touched are brought up to
date and the database is committed; when they fail, the database is what they last committed. -/
theorem runOn_takeInLibrary {σ : Type} (s : Settings) (o : Outside σ) (m : Monitor σ)
    (pace : IntakePace) (options : IntakeOptions) (w : World σ) :
    (takeInLibrary s o m pace options).runOn w =
      match (Intake.stages s o m pace options).runOn { world := w } with
      | (.ok result, p) =>
        let d := p.world.database.recomputed p.touched.albums p.touched.artists
        (.ok { result with total := p.seen.length }, { p.world with database := d, saved := d })
      | (.error f, p) => (.error f, p.world.rollback) := by
  unfold takeInLibrary World.unit restoring Intake.pass
  simp only [runOn_ofRun, runOn_bind]
  rcases (Intake.stages s o m pace options).runOn { world := w } with ⟨f | result, p⟩
  · rfl
  · rfl

end Mixtape
