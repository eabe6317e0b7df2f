import Mixtape.Proofs.Intake.Snapshots
import Mixtape.Proofs.Sync.Mirrors
import Mixtape.Proofs.World

/-!
# What a pass inward reads

A pass asks the platform for the liked tracks, the saved albums and the tracks on playlists. What it is
told is kept in a list beside the pass, one entry for each collection in the order in which they are told.
The pass does not see the list, and ends as it would without.

## Main definitions

* `Reading` — a collection with the tracks that were told of it.
* `Outside.telling`, `Monitor.telling` — the platform and the monitor of a pass that keeps the list.
* `Platform.MirrorsReads g q p` — the calls of a pass inward answer alike, if only `g` is seen of what lies
  outside.
* `readings` — what a pass is told.

## Main results

* `Intake.mirrors_stages`, `mirrors_takeInLibrary` — **a pass sees of the platform what its calls answer,
  and no more.**
* `runOn_telling` — a pass that keeps the list ends as it would without.
-/

namespace Mixtape

open Action

/-- A collection with the tracks that were told of it. -/
structure Reading where
  /-- What tells the collection from others. -/
  source : SourceKey
  /-- Its tracks, in order. -/
  tracks : List RemoteTrack
  deriving DecidableEq

section Telling

variable {σ α η : Type}

/-- A computation that leaves entries in the log of what it was told, unless it fails. -/
def Action.telling (entries : α → List η) (x : Action σ α) : Action (σ × List η) α := do
  let a ← x.unlogged
  modify fun u => (u.1, u.2 ++ entries a)
  return a

theorem Action.mirrors_telling {entries : α → List η} {x : Action σ α} :
    Mirrors Prod.fst (x.telling entries) x := by
  have hend : Mirrors Prod.fst (x.telling entries) (x >>= pure) :=
    mirrors_unlogged.bind fun _ _ => rfl
  rwa [bind_pure] at hend

/-- What is told is put at the end of the log. -/
theorem Action.yields_telling {entries : α → List η} {x : Action σ α} (log : List η) :
    Yields (·.2 = log) (x.telling entries) fun a u => u.2 = log ++ entries a := by
  refine Meets.bind (Q := fun _ u => u.2 = log) ?_ fun a => ?_
  · exact meets_within fun u hu => (yields_true (P := (· = u.1))).imp (fun _ h => h)
      (fun _ _ _ => hu) fun _ _ h => h
  · exact Meets.bind (meets_modify fun u hu => congrArg (· ++ entries a) hu) fun _ =>
      meets_pure fun _ h => h

/-- The entries of an album. -/
def RemoteAlbum.reading (a : RemoteAlbum) : Reading := ⟨(.album, a.externalId), a.tracks⟩

/-- The platform and the clock, with a list of what is told of collections. -/
def Outside.telling (o : Outside σ) : Outside (σ × List Reading) where
  platform :=
    { createPlaylist := fun name description =>
        (o.platform.createPlaylist name description).unlogged
      updateDetails := fun id name description =>
        (o.platform.updateDetails id name description).unlogged
      itemIds := fun id => (o.platform.itemIds id).unlogged
      addItems := fun id new => (o.platform.addItems id new).unlogged
      removeItems := fun id gone => (o.platform.removeItems id gone).unlogged
      likedTracks := o.platform.likedTracks.telling fun ts => [⟨(.likedSongs, ""), ts⟩]
      savedAlbums := o.platform.savedAlbums.telling fun as => as.map RemoteAlbum.reading
      userPlaylists := o.platform.userPlaylists.unlogged
      playlistTracks := fun id =>
        (o.platform.playlistTracks id).telling fun ts => [⟨(.playlist, id), ts⟩]
      recentPlays := fun limit => (o.platform.recentPlays limit).unlogged
      audioFeatures := fun ids => (o.platform.audioFeatures ids).unlogged }
  now u := o.now u.1

/-- A monitor that leaves the list. -/
def Monitor.telling (m : Monitor σ) : Monitor (σ × List Reading) :=
  m.within Prod.fst fun t u => (t, u.2)

end Telling

/-! ### Passes on states of which only a part is seen -/

/-- The calls of a pass inward answer alike, and change what is seen alike. -/
structure Platform.MirrorsReads {σ τ : Type} (g : τ → σ) (q : Platform τ) (p : Platform σ) :
    Prop where
  /-- The liked tracks. -/
  liked : Action.Mirrors g q.likedTracks p.likedTracks
  /-- The saved albums. -/
  albums : Action.Mirrors g q.savedAlbums p.savedAlbums
  /-- The user's playlists. -/
  playlists : Action.Mirrors g q.userPlaylists p.userPlaylists
  /-- The tracks on a playlist. -/
  tracks : ∀ id, Action.Mirrors g (q.playlistTracks id) (p.playlistTracks id)
  /-- Audio features. -/
  features : ∀ ids, Action.Mirrors g (q.audioFeatures ids) (p.audioFeatures ids)

theorem Outside.mirrors_telling {σ : Type} (o : Outside σ) :
    o.telling.platform.MirrorsReads Prod.fst o.platform where
  liked := Action.mirrors_telling
  albums := Action.mirrors_telling
  playlists := mirrors_unlogged
  tracks _ := Action.mirrors_telling
  features _ := mirrors_unlogged

theorem Monitor.mirrors_telling {σ : Type} (m : Monitor σ) : m.telling.Mirrors Prod.fst m where
  report _ := mirrors_unlogged
  check := mirrors_unlogged
  pause _ := mirrors_unlogged

namespace Intake

variable {σ τ α : Type} {g : τ → σ} {o : Outside σ} {q : Outside τ} {m : Monitor σ} {k : Monitor τ}
  {pace : IntakePace}

/-- A pass, if only a part is seen of what lies outside. -/
def seenBy (g : τ → σ) (p : Intake τ) : Intake σ :=
  ⟨p.world.seen g, p.touched, p.seen, p.added, p.changed⟩

theorem mirrors_inWorld {x : Action (World σ) α} {y : Action (World τ) α}
    (h : Action.Mirrors (World.seen g) y x) :
    Action.Mirrors (seenBy g) (inWorld y) (inWorld x) := by
  intro p
  simp only [inWorld, seenBy, runOn_within, h p.world]

theorem mirrors_query (x : Action Database α) : Action.Mirrors (seenBy g) (query x) (query x) :=
  mirrors_inWorld (Mixtape.mirrors_query x)

theorem mirrors_ask {x : Action σ α} {y : Action τ α} (h : Action.Mirrors g y x) :
    Action.Mirrors (seenBy g) (ask y) (ask x) :=
  mirrors_inWorld (Mixtape.mirrors_ask h)

theorem mirrors_commit :
    Action.Mirrors (seenBy g) (inWorld World.commit) (inWorld World.commit) :=
  mirrors_inWorld Mixtape.mirrors_commit

theorem mirrors_watch (h : k.Mirrors g m) : (watch k).Mirrors (seenBy g) (watch m) where
  report p := mirrors_ask (h.report p)
  check := mirrors_ask h.check
  pause seconds := mirrors_ask (h.pause seconds)

/-- Changes of the state that change what is seen alike. -/
theorem mirrors_modify {f : Intake τ → Intake τ} {f' : Intake σ → Intake σ}
    (h : ∀ p, f' (seenBy g p) = seenBy g (f p)) :
    Action.Mirrors (seenBy g) (modify f) (modify f') := by
  intro p
  rw [runOn_modify, runOn_modify, h]

/-! ### One source -/

theorem mirrors_addTracks (hnow : ∀ t, o.now (g t) = q.now t) (s : TrackSource)
    (known : Registry RemoteTrack) (ids : List String) :
    Action.Mirrors (seenBy g) (addTracks q s known ids) (addTracks o s known ids) := by
  unfold addTracks
  refine (mirrors_inWorld (mirrors_now hnow)).bind fun now => (mirrors_query _).bind ?_
  rintro ⟨new, old⟩
  refine Mirrors.bind (mirrors_modify ?_) fun _ => (mirrors_query _).bind fun _ => mirrors_pure _
  exact fun _ => rfl

theorem mirrors_removeTracks (s : TrackSource) (ids : List String) :
    Action.Mirrors (seenBy g) (removeTracks s ids) (removeTracks s ids) := by
  refine mirrors_get_bind fun p => ?_
  refine Mirrors.bind (mirrors_modify ?_) fun _ => (mirrors_query _).bind fun _ => mirrors_pure _
  exact fun _ => rfl

theorem mirrors_bringInLine (hnow : ∀ t, o.now (g t) = q.now t) (h : k.Mirrors g m) (s : TrackSource)
    (remote : List RemoteTrack) :
    Action.Mirrors (seenBy g) (bringInLine q k pace s remote) (bringInLine o m pace s remote) := by
  unfold bringInLine
  refine Mirrors.bind (mirrors_modify ?_) fun _ => mirrors_get_bind fun p => ?_
  · exact fun _ => rfl
  refine (mirrors_diff_apply (mirrors_watch h) (fun _ => mirrors_bounded (mirrors_removeTracks _ _))
    (fun _ => mirrors_bounded (mirrors_addTracks hnow _ _ _)) rfl _).bind fun applied => ?_
  exact mirrors_get_bind fun _ => mirrors_pure _

/-! ### The stages -/

theorem mirrors_likedStage (hp : q.platform.MirrorsReads g o.platform)
    (hnow : ∀ t, o.now (g t) = q.now t) (h : k.Mirrors g m) :
    Action.Mirrors (seenBy g) (likedStage q k pace) (likedStage o m pace) := by
  have hwatch := mirrors_watch h
  unfold likedStage
  refine (hwatch.report _).bind fun _ => (mirrors_ask hp.liked).bind fun liked => ?_
  refine (mirrors_bringInLine hnow h _ liked).bind fun result => (hwatch.report _).bind fun _ => ?_
  exact mirrors_commit.bind fun _ => mirrors_pure _

theorem mirrors_eachAlbum (hnow : ∀ t, o.now (g t) = q.now t) (h : k.Mirrors g m) (total : Nat) :
    ∀ (albums : List RemoteAlbum) (index : Nat), Action.Mirrors (seenBy g)
      (eachAlbum q k pace total index albums) (eachAlbum o m pace total index albums) := by
  have hwatch := mirrors_watch h
  intro albums
  induction albums with
  | nil => exact fun _ => mirrors_pure _
  | cons a rest ih =>
    intro index
    exact hwatch.check.bind fun _ => (hwatch.report _).bind fun _ =>
      (mirrors_bringInLine hnow h _ _).bind fun _ => (ih (index + 1)).bind fun _ => mirrors_pure _

theorem mirrors_emptySources (hnow : ∀ t, o.now (g t) = q.now t) (h : k.Mirrors g m) :
    ∀ sources : List TrackSource, Action.Mirrors (seenBy g)
      (emptySources q k pace sources) (emptySources o m pace sources) := by
  intro sources
  induction sources with
  | nil => exact mirrors_pure _
  | cons s rest ih =>
    exact (mirrors_bringInLine hnow h _ _).bind fun _ => ih.bind fun _ => mirrors_pure _

theorem mirrors_albumStage (hp : q.platform.MirrorsReads g o.platform)
    (hnow : ∀ t, o.now (g t) = q.now t) (h : k.Mirrors g m) :
    Action.Mirrors (seenBy g) (albumStage q k pace) (albumStage o m pace) := by
  have hwatch := mirrors_watch h
  unfold albumStage
  refine (hwatch.report _).bind fun _ => (mirrors_ask hp.albums).bind fun albums => ?_
  refine (mirrors_eachAlbum hnow h _ albums 0).bind fun result => mirrors_get_bind fun p => ?_
  refine (mirrors_emptySources hnow h _).bind fun others => (hwatch.report _).bind fun _ => ?_
  exact mirrors_commit.bind fun _ => mirrors_pure _

theorem mirrors_filePlaylist (hnow : ∀ t, o.now (g t) = q.now t) (h : k.Mirrors g m)
    (p : RemotePlaylist) (ts : List RemoteTrack) :
    Action.Mirrors (seenBy g) (filePlaylist q k pace p ts) (filePlaylist o m pace p ts) := by
  unfold filePlaylist
  refine (mirrors_bringInLine hnow h _ ts).bind fun result => ?_
  -- what follows the note is the same whether there is one or not
  have hrest : Action.Mirrors (seenBy g) (inWorld World.commit >>= fun _ => pure result)
      (inWorld World.commit >>= fun _ => pure result) :=
    mirrors_commit.bind fun _ => mirrors_pure _
  exact mirrors_ite ((mirrors_inWorld (mirrors_now hnow)).bind fun now =>
    (mirrors_query _).bind fun _ => hrest) hrest

theorem mirrors_onePlaylist (hp : q.platform.MirrorsReads g o.platform)
    (hnow : ∀ t, o.now (g t) = q.now t) (h : k.Mirrors g m) (force : Bool)
    (snapshotOf : String → Option String) (total index : Nat) (p : RemotePlaylist) :
    Action.Mirrors (seenBy g) (onePlaylist q k pace force snapshotOf total index p)
      (onePlaylist o m pace force snapshotOf total index p) := by
  have hwatch := mirrors_watch h
  unfold onePlaylist
  refine hwatch.check.bind fun _ => (hwatch.report _).bind fun _ => mirrors_ite (mirrors_pure _) ?_
  rw [readPlaylist_eq, readPlaylist_eq]
  refine mirrors_ite ((hwatch.pauseFor _).bind ?rest) (?rest ())
  exact fun _ => ((mirrors_ask (hp.tracks _)).bind fun ts => mirrors_filePlaylist hnow h p ts).bind
    fun _ => mirrors_pure _

theorem mirrors_eachPlaylist (hp : q.platform.MirrorsReads g o.platform)
    (hnow : ∀ t, o.now (g t) = q.now t) (h : k.Mirrors g m) (force : Bool)
    (snapshotOf : String → Option String) (total : Nat) :
    ∀ (playlists : List RemotePlaylist) (index : Nat), Action.Mirrors (seenBy g)
      (eachPlaylist q k pace force snapshotOf total index playlists)
      (eachPlaylist o m pace force snapshotOf total index playlists) := by
  intro playlists
  induction playlists with
  | nil => exact fun _ => mirrors_pure _
  | cons p rest ih =>
    intro index
    rw [eachPlaylist_cons, eachPlaylist_cons]
    refine (mirrors_onePlaylist hp hnow h _ _ _ _ p).bind fun result => ?_
    exact (ih (index + 1)).bind fun others => by cases result <;> exact mirrors_pure _

theorem mirrors_playlistStage (hp : q.platform.MirrorsReads g o.platform)
    (hnow : ∀ t, o.now (g t) = q.now t) (h : k.Mirrors g m) (force : Bool) :
    Action.Mirrors (seenBy g) (playlistStage q k pace force) (playlistStage o m pace force) := by
  have hwatch := mirrors_watch h
  unfold playlistStage
  refine mirrors_get_bind fun p => (hwatch.report _).bind fun _ => ?_
  refine (mirrors_ask hp.playlists).bind fun listed => ?_
  refine (mirrors_eachPlaylist hp hnow h force _ _ _ 0).bind fun r => ?_
  exact (hwatch.report _).bind fun _ => mirrors_pure _

theorem mirrors_featureStage (hp : q.platform.MirrorsReads g o.platform) (h : k.Mirrors g m)
    (s : Settings) : Action.Mirrors (seenBy g) (featureStage s q k) (featureStage s o m) := by
  have hwatch := mirrors_watch h
  have hfetch : ∀ missing, Action.Mirrors (seenBy g)
      (fetchFeatures (watch k) (fun ids => ask (q.platform.audioFeatures ids)) s.featureDelay
        s.featureBatch missing)
      (fetchFeatures (watch m) (fun ids => ask (o.platform.audioFeatures ids)) s.featureDelay
        s.featureBatch missing) := by
    intro missing
    unfold fetchFeatures
    refine mirrors_ite (mirrors_pure _) ?_
    refine (mirrors_processChunks hwatch (fun _ _ => mirrors_pure _)
      (fun ids => mirrors_bounded (mirrors_ask (hp.features ids))) rfl _ _ _).bind fun outcomes => ?_
    exact mirrors_ofExcept _
  unfold featureStage
  refine mirrors_get_bind fun p => mirrors_ite (mirrors_pure _) ?_
  refine (hwatch.report _).bind fun _ => (hfetch _).attempt.bind fun found => ?_
  rcases found with f | features
  · cases f <;> first | exact mirrors_pure _ | exact mirrors_throw _
  · exact (mirrors_query _).bind fun saved => (hwatch.report _).bind fun _ => mirrors_pure _

/-- **The stages of a pass see of the platform what its calls answer, and no more.** -/
theorem mirrors_stages (hp : q.platform.MirrorsReads g o.platform)
    (hnow : ∀ t, o.now (g t) = q.now t) (h : k.Mirrors g m) (s : Settings) (options : IntakeOptions) :
    Action.Mirrors (seenBy g) (stages s q k pace options) (stages s o m pace options) :=
  (mirrors_ite (mirrors_likedStage hp hnow h) (mirrors_pure _)).bind fun _ =>
    (mirrors_ite (mirrors_albumStage hp hnow h) (mirrors_pure _)).bind fun _ =>
    (mirrors_ite (mirrors_playlistStage hp hnow h _) (mirrors_pure _)).bind fun _ =>
    (mirrors_ite (mirrors_featureStage hp h s) (mirrors_pure _)).bind fun _ => mirrors_pure _

end Intake

section Passes

variable {σ τ : Type} {g : τ → σ} {o : Outside σ} {q : Outside τ} {m : Monitor σ} {k : Monitor τ}

/-- **A pass sees of the platform what its calls answer, and no more**: on platforms that answer alike it
ends alike, with the same database. -/
theorem mirrors_takeInLibrary (hp : q.platform.MirrorsReads g o.platform)
    (hnow : ∀ t, o.now (g t) = q.now t) (h : k.Mirrors g m) (s : Settings) (pace : IntakePace)
    (options : IntakeOptions) :
    Action.Mirrors (World.seen g) (takeInLibrary s q k pace options)
      (takeInLibrary s o m pace options) := by
  intro w
  have hstages : Action.Mirrors _ (Intake.stages s q k pace options) _ :=
    Intake.mirrors_stages hp hnow h s options
  have hpass := hstages { world := w }
  rw [runOn_takeInLibrary, runOn_takeInLibrary]
  change (Intake.stages s o m pace options).runOn { world := w.seen g } = _ at hpass
  rw [hpass]
  rcases (Intake.stages s q k pace options).runOn { world := w } with ⟨f | result, p⟩
  · rfl
  · rfl

variable (s : Settings) (o : Outside σ) (m : Monitor σ) (pace : IntakePace) (options : IntakeOptions)
  (w : World σ)

/-- What a pass is told of collections, in order. -/
def readings : List Reading :=
  ((takeInLibrary s o.telling m.telling pace options).runOn
    ⟨w.database, w.saved, (w.outside, [])⟩).2.outside.2

variable {s o m pace options w}

/-- A pass that keeps the list ends as it would without. -/
theorem runOn_telling {r : Except Failure SyncResult} {w' : World σ}
    (ends : (takeInLibrary s o m pace options).runOn w = (r, w')) :
    (takeInLibrary s o.telling m.telling pace options).runOn ⟨w.database, w.saved, (w.outside, [])⟩ =
      (r, ⟨w'.database, w'.saved, (w'.outside, readings s o m pace options w)⟩) := by
  have hmirrors := mirrors_takeInLibrary o.mirrors_telling (fun _ => rfl) m.mirrors_telling s pace
    options ⟨w.database, w.saved, (w.outside, [])⟩
  unfold readings
  rcases hrun : (takeInLibrary s o.telling m.telling pace options).runOn
    ⟨w.database, w.saved, (w.outside, [])⟩ with ⟨r', v⟩
  rw [hrun] at hmirrors
  obtain ⟨rfl, rfl⟩ := Prod.mk.inj (ends.symm.trans hmirrors)
  rfl

end Passes

end Mixtape
