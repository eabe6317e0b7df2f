import Mixtape.Proofs.Intake.Snapshots

/-!
# Where a pass that fails stops

A pass commits when the liked songs are taken in, when all albums are, and after each playlist that it
has read. In between, chunks of tracks come and go, and any call and any look for cancellation may end
it. What is left then is the database at the last of these boundaries, or at the start if there was
none.

To say so without speaking of commits, the boundaries are kept in a list beside the pass: each with the
database as it is at that moment, and that of a playlist with the tracks that were told. The pass does
not see the list.

## Main definitions

* `Boundary`, `Milestone` — a boundary, and the database there.
* `Intake.reaching b x` — at the end of `x`, the boundary `b` is reached.
* `Intake.stagesReaching` — the stages of a pass, with the boundaries that it reaches.
* `lastDatabase d reached`, `lastRead reached id` — the database at the last boundary, and what was last
  read of a playlist.
* `Database.AsRead d₀ id read d` — a playlist is noted and carried as it was read, or as in `d₀`.

## Main results

* `Intake.mirrors_stagesReaching` — **the pass does not see its boundaries.**
* `Intake.meets_stagesReaching` — what its stages leave behind.
* `stops_at_boundary` — **a pass that fails stops at the last boundary it has reached.**
-/

namespace Mixtape

open Action

/-! ### Boundaries -/

/-- A point at which a pass may stop. -/
inductive Boundary where
  /-- The liked songs are taken in. -/
  | likedSongs
  /-- All albums are taken in. -/
  | albums
  /-- A playlist is taken in, with the tracks that were told. -/
  | playlist (q : RemotePlaylist) (told : List RemoteTrack)

/-- A boundary that was reached, and the database there. -/
structure Milestone where
  /-- The boundary. -/
  boundary : Boundary
  /-- The database. -/
  database : Database

/-- What is read of a playlist before a boundary. -/
def Boundary.readOf (id : String) : Boundary → Option (RemotePlaylist × List RemoteTrack)
  | playlist q told => if q.externalId = id then some (q, told) else none
  | _ => none

@[simp] theorem Boundary.readOf_self {q : RemotePlaylist} {told : List RemoteTrack} :
    (playlist q told).readOf q.externalId = some (q, told) := if_pos rfl

theorem Boundary.readOf_of_ne {q : RemotePlaylist} {told : List RemoteTrack} {id : String}
    (h : id ≠ q.externalId) : (playlist q told).readOf id = none := if_neg h.symm

/-- The database at the last boundary, or the one at the start. -/
def lastDatabase (d : Database) (reached : List Milestone) : Database :=
  (reached.getLast?.map Milestone.database).getD d

/-- What was last read of a playlist. -/
def lastRead (reached : List Milestone) (id : String) : Option (RemotePlaylist × List RemoteTrack) :=
  (reached.filterMap (·.boundary.readOf id)).getLast?

section Milestone

variable {d : Database} {reached : List Milestone} {b : Boundary} {e : Database} {id : String}

@[simp] theorem lastDatabase_nil : lastDatabase d [] = d := rfl

@[simp] theorem lastDatabase_concat : lastDatabase d (reached ++ [⟨b, e⟩]) = e := by
  simp [lastDatabase]

@[simp] theorem lastRead_nil : lastRead [] id = none := rfl

theorem lastRead_concat :
    lastRead (reached ++ [⟨b, e⟩]) id = (b.readOf id).or (lastRead reached id) := by
  unfold lastRead
  rw [List.filterMap_append, List.getLast?_append]
  cases h : b.readOf id <;> simp [h]

end Milestone

/-- A playlist is noted with the snapshot with which it was read, and carried by the tracks that were
told; if it was not read, it is noted and carried as in `d₀`. -/
def Database.AsRead (d₀ : Database) (id : String) :
    Option (RemotePlaylist × List RemoteTrack) → Database → Prop
  | some (q, told), d =>
    d.snapshotOf id = q.snapshotId ∧ ∀ x, d.Carries (.playlist, id) x ↔ x ∈ idsOf told
  | none, d =>
    d.snapshotOf id = d₀.snapshotOf id ∧
      ∀ x, d.Carries (.playlist, id) x ↔ d₀.Carries (.playlist, id) x

theorem Database.AsRead.congr {d₀ d d' : Database} {id : String}
    {read : Option (RemotePlaylist × List RemoteTrack)} (h : d₀.AsRead id read d)
    (hnoted : d'.snapshotOf id = d.snapshotOf id)
    (hcarries : ∀ x, d'.Carries (.playlist, id) x ↔ d.Carries (.playlist, id) x) :
    d₀.AsRead id read d' := by
  cases read with
  | none => exact ⟨hnoted.trans h.1, fun x => (hcarries x).trans (h.2 x)⟩
  | some r => exact ⟨hnoted.trans h.1, fun x => (hcarries x).trans (h.2 x)⟩

namespace Intake

variable {σ α : Type} {o : Outside σ} {m : Monitor σ} {pace : IntakePace}

/-! ### A pass and its boundaries -/

/-- At the end of a computation, a boundary is reached. -/
def reaching (b : Boundary) (x : Action (Intake σ) α) : Action (Intake σ × List Milestone) α := do
  let a ← x.unlogged
  modify fun u => (u.1, u.2 ++ [⟨b, u.1.world.database⟩])
  return a

/-- What comes before a playlist; whether it is to be read. -/
def approach (m : Monitor σ) (pace : IntakePace) (force : Bool) (snapshotOf : String → Option String)
    (total index : Nat) (q : RemotePlaylist) : Action (Intake σ) Bool := do
  (watch m).check
  (watch m).tell "playlists" index total q.name
  if !shouldRead (.ofText? q.snapshotId) (.ofText? (snapshotOf q.externalId)) force then
    return false
  if 0 < index then (watch m).pauseFor pace.playlistDelay
  return true

/-- One playlist after another, with the boundaries that are reached. -/
def eachReaching (o : Outside σ) (m : Monitor σ) (pace : IntakePace) (force : Bool)
    (snapshotOf : String → Option String) (total : Nat) :
    (index : Nat) → List RemotePlaylist → Action (Intake σ × List Milestone) (SyncResult × Nat)
  | _, [] => pure ({}, 0)
  | index, q :: rest => do
    if ← (approach m pace force snapshotOf total index q).unlogged then
      let told ← (ask (o.platform.playlistTracks q.externalId)).unlogged
      let result ← reaching (.playlist q told) (filePlaylist o m pace q told)
      let others ← eachReaching o m pace force snapshotOf total (index + 1) rest
      return (result.merge others.1, others.2)
    else
      let others ← eachReaching o m pace force snapshotOf total (index + 1) rest
      return (others.1, others.2 + 1)

/-- The user's playlists, with the boundaries that are reached. -/
def playlistsReaching (o : Outside σ) (m : Monitor σ) (pace : IntakePace) (force : Bool) :
    Action (Intake σ × List Milestone) SyncResult := do
  let p ← (get : Action (Intake σ) (Intake σ)).unlogged
  let playlists ← (listing o m).unlogged
  let total := playlists.length
  let r ← eachReaching o m pace force p.world.database.snapshotOf total 0 playlists
  ((watch m).tell "playlists" total total (toString r.2 ++ " unchanged")).unlogged
  return r.1

/-- A stage with boundaries, if it is wanted. -/
def stageReaching (wanted : Bool) (x : Action (Intake σ × List Milestone) SyncResult) :
    Action (Intake σ × List Milestone) SyncResult :=
  if wanted then x else pure {}

/-- The stages of a pass, with the boundaries that it reaches. -/
def stagesReaching (s : Settings) (o : Outside σ) (m : Monitor σ) (pace : IntakePace)
    (options : IntakeOptions) : Action (Intake σ × List Milestone) SyncResult := do
  let liked ← stageReaching options.likedTracks (reaching .likedSongs (likedStage o m pace))
  let albums ← stageReaching options.albums (reaching .albums (albumStage o m pace))
  let playlists ←
    stageReaching options.playlists (playlistsReaching o m pace options.forceRefresh)
  let features ← stageReaching options.features (featureStage s o m).unlogged
  return ((liked.merge albums).merge playlists).merge features

/-! ### The pass does not see its boundaries -/

theorem mirrors_reaching (b : Boundary) (x : Action (Intake σ) α) :
    Mirrors Prod.fst (reaching b x) x := by
  have hend : Mirrors Prod.fst (reaching b x) (x >>= pure) :=
    mirrors_unlogged.bind fun _ _ => rfl
  rwa [bind_pure] at hend

theorem onePlaylist_eq (force : Bool) (snapshotOf : String → Option String) (total index : Nat)
    (q : RemotePlaylist) :
    onePlaylist o m pace force snapshotOf total index q =
      approach m pace force snapshotOf total index q >>= fun wanted =>
        if wanted = true then
          ask (o.platform.playlistTracks q.externalId) >>= fun told =>
            filePlaylist o m pace q told >>= fun result => pure (some result)
        else pure none := by
  rw [onePlaylist, approach]
  simp only [bind_assoc, readPlaylist_eq]
  congr 1
  funext _
  congr 1
  funext _
  split
  · simp
  · split <;> simp

theorem mirrors_eachReaching (force : Bool) (snapshotOf : String → Option String) (total : Nat) :
    ∀ (playlists : List RemotePlaylist) (index : Nat),
      Mirrors Prod.fst (eachReaching o m pace force snapshotOf total index playlists)
        (eachPlaylist o m pace force snapshotOf total index playlists) := by
  intro playlists
  induction playlists with
  | nil => exact fun _ => mirrors_pure _
  | cons q rest ih =>
    intro index
    rw [eachPlaylist_cons, onePlaylist_eq, eachReaching]
    simp only [bind_assoc]
    refine mirrors_unlogged.bind fun wanted => ?_
    cases wanted with
    | true =>
      simp only [if_true, bind_assoc, pure_bind]
      exact mirrors_unlogged.bind fun told => (mirrors_reaching _ _).bind fun result =>
        (ih (index + 1)).bind fun others => mirrors_pure _
    | false =>
      simp only [Bool.false_eq_true, if_false, pure_bind]
      exact (ih (index + 1)).bind fun others => mirrors_pure _

/-- **The pass does not see its boundaries.** -/
theorem mirrors_stagesReaching (s : Settings) (options : IntakeOptions) :
    Mirrors Prod.fst (stagesReaching s o m pace options) (stages s o m pace options) := by
  have hplaylists : Mirrors Prod.fst (playlistsReaching o m pace options.forceRefresh)
      (playlistStage o m pace options.forceRefresh) := by
    rw [playlistStage_eq]
    exact mirrors_unlogged.bind fun p => mirrors_unlogged.bind fun playlists =>
      (mirrors_eachReaching _ _ _ _ _).bind fun r => mirrors_unlogged.bind fun _ => mirrors_pure _
  exact (mirrors_ite (mirrors_reaching _ _) (mirrors_pure _)).bind fun liked =>
    (mirrors_ite (mirrors_reaching _ _) (mirrors_pure _)).bind fun albums =>
    (mirrors_ite hplaylists (mirrors_pure _)).bind fun playlists =>
    (mirrors_ite mirrors_unlogged (mirrors_pure _)).bind fun features => mirrors_pure _

/-! ### Where a pass stands -/

variable {d₀ : Database} {reached : List Milestone}

/-- In a sound database every playlist is noted and carried as it was last read. -/
def Filed (d₀ : Database) (read : String → Option (RemotePlaylist × List RemoteTrack))
    (d : Database) : Prop :=
  d₀.Sound → d.Sound ∧ ∀ id, d₀.AsRead id (read id) d

/-- What a pass falls back to: the database that was last committed is the one at the last boundary,
and every playlist is noted and carried in it as it was last read. -/
structure FallsTo (d₀ : Database) (u : Intake σ × List Milestone) : Prop where
  /-- The database at the last boundary. -/
  saved : u.1.world.saved = lastDatabase d₀ u.2
  /-- The playlists in it. -/
  filed : Filed d₀ (lastRead u.2) u.1.world.saved

/-- Between two stages nothing has changed since the last boundary. -/
structure Between (d₀ : Database) (u : Intake σ × List Milestone) : Prop extends FallsTo d₀ u where
  /-- The database is the one that was committed. -/
  committed : u.1.world.database = u.1.world.saved

/-- A computation that changes no more than what lies outside leaves a pass where it stands. -/
theorem keeps_between {x : Action (Intake σ) α} (hx : ∀ I, Inner I → Keeps I x) :
    Meets (Between d₀) x.unlogged (fun _ => Between d₀) fun _ => FallsTo d₀ := by
  refine meets_of_forall ?_
  rintro ⟨p, reached⟩ hp
  have hkeeps := hx (fun p => Between d₀ (p, reached)) fun _ _ h => ⟨⟨h.saved, h.filed⟩, h.committed⟩
  refine (meets_unlogged (L := (· = reached)) hkeeps).imp ?_ ?_ ?_
  · rintro _ rfl
    exact ⟨hp, rfl⟩
  · rintro _ ⟨p', _⟩ ⟨hp', rfl⟩
    exact hp'
  · rintro _ ⟨p', _⟩ ⟨hp', rfl⟩
    exact hp'.toFallsTo

/-- **A stage up to its boundary**: if it commits at its end and not before, the pass stands at the
boundary then, or falls back to the one before. -/
theorem meets_reaching {b : Boundary} {x : Action (Intake σ) α}
    (hx : ∀ p reached, Between d₀ (p, reached) → Meets (· = p) x
      (fun _ p' => p'.world.saved = p'.world.database ∧
        Filed d₀ (fun id => (b.readOf id).or (lastRead reached id)) p'.world.database)
      fun _ p' => p'.world.saved = p.world.saved) :
    Meets (Between d₀) (reaching b x) (fun _ => Between d₀) fun _ => FallsTo d₀ := by
  refine meets_of_forall ?_
  rintro ⟨p, reached⟩ hp
  have hstage := meets_unlogged (L := (· = reached)) (hx p reached hp)
  unfold reaching
  refine Meets.bind (hstage.imp ?_ (fun _ _ h => h) ?_) fun a => ?_
  · rintro _ rfl
    exact ⟨rfl, rfl⟩
  · rintro _ ⟨p', _⟩ ⟨hsaved, rfl⟩
    exact ⟨hsaved.trans hp.saved, (congrArg (Filed d₀ _) hsaved).mpr hp.filed⟩
  · rintro ⟨p', reached⟩ ⟨⟨hsaved, hfiled⟩, rfl⟩
    refine ⟨⟨hsaved.trans lastDatabase_concat.symm, ?_⟩, hsaved.symm⟩
    have hread : lastRead (reached ++ [⟨b, p'.world.database⟩]) =
        fun id => (b.readOf id).or (lastRead reached id) := funext fun id => lastRead_concat
    change Filed d₀ (lastRead (reached ++ [⟨b, p'.world.database⟩])) p'.world.saved
    rw [hread, hsaved]
    exact hfiled

/-- At the start no boundary has been reached. -/
theorem between_start {w : World σ} (committed : w.database = w.saved) :
    Between w.database ({ world := w }, []) where
  saved := committed.symm
  filed hsound := by
    refine ⟨(congrArg Database.Sound committed).mp hsound, fun id => ?_⟩
    change w.database.AsRead id none w.saved
    rw [← committed]
    exact ⟨rfl, fun _ => Iff.rfl⟩
  committed := committed

/-! ### The stages -/

theorem collecting_filed (d₀ : Database)
    (read : String → Option (RemotePlaylist × List RemoteTrack)) :
    Collecting (fun s => s.type ≠ .playlist) (fun _ => True) fun d _ => Filed d₀ read d := by
  refine Database.collecting_of_samePlaylists fun d d' hsame hd hsound => ?_
  obtain ⟨hd, hread⟩ := hd hsound
  obtain ⟨hd', hcarries⟩ := hsame.carries hd
  refine ⟨hd', fun id => (hread id).congr ?_ (hcarries id)⟩
  unfold Database.snapshotOf
  rw [hsame.snapshots]

/-- The liked songs and the albums read no playlist. -/
theorem meets_before_reaching :
    Meets (Between d₀) (reaching .likedSongs (likedStage o m pace)) (fun _ => Between d₀)
        (fun _ => FallsTo d₀) ∧
      Meets (Between d₀) (reaching .albums (albumStage o m pace)) (fun _ => Between d₀)
        fun _ => FallsTo d₀ := by
  have hstart : ∀ {p : Intake σ} {reached : List Milestone}, Between d₀ (p, reached) →
      ∀ q, q = p → Holds (fun d _ => Filed d₀ (lastRead reached) d) (· = p.world.saved) q := by
    rintro p reached hp _ rfl
    exact ⟨(congrArg (Filed d₀ _) hp.committed).mpr hp.filed, rfl⟩
  constructor
  · refine meets_reaching fun p reached hp => ?_
    exact ((collecting_filed d₀ (lastRead reached)).meets_likedStage o m pace (by simp)
      o.platform.tellsOnly_true).imp (hstart hp) (fun _ _ h => ⟨h.2, h.1⟩) fun _ _ h => h.2
  · refine meets_reaching fun p reached hp => ?_
    refine ((collecting_filed d₀ (lastRead reached)).meets_albumStage o m pace ?_
      o.platform.tellsOnly_true).imp (hstart hp) (fun _ _ h => ⟨h.2, h.1⟩) fun _ _ h => h.2
    intro s hs
    rw [hs]
    simp

theorem meets_playlist_reaching (q : RemotePlaylist) (told : List RemoteTrack) :
    Meets (Between d₀) (reaching (.playlist q told) (filePlaylist o m pace q told))
      (fun _ => Between d₀) fun _ => FallsTo d₀ := by
  refine meets_reaching fun p reached hp => ?_
  refine (meets_filePlaylist m.leaves_true q told trivial).imp (fun _ h => h) ?_ fun _ _ h => h
  intro _ p' hfiles
  refine ⟨hfiles.saved, fun hsound => ?_⟩
  obtain ⟨hd, hread⟩ := (congrArg (Filed d₀ _) hp.committed).mpr hp.filed hsound
  obtain ⟨hd', -, hcarries⟩ := hfiles.carries hd
  refine ⟨hd', fun id => ?_⟩
  beta_reduce
  by_cases hid : id = q.externalId
  · subst hid
    rw [Boundary.readOf_self, Option.some_or]
    refine ⟨(hfiles.noted _).trans (if_pos rfl), fun x => ?_⟩
    rw [hcarries, Function.update_self]
  · rw [Boundary.readOf_of_ne hid, Option.none_or]
    refine (hread id).congr ((hfiles.noted id).trans (if_neg hid)) fun x => ?_
    have hkey : ((SourceType.playlist, id) : SourceKey) ≠ (.playlist, q.externalId) :=
      fun hk => hid (Prod.mk.inj hk).2
    rw [hcarries, Function.update_of_ne hkey]

theorem keeps_approach {I : Intake σ → Prop} (hI : Inner I) (force : Bool)
    (snapshotOf : String → Option String) (total index : Nat) (q : RemotePlaylist) :
    Keeps I (approach m pace force snapshotOf total index q) := by
  obtain ⟨hreport, hcheck, hpause⟩ := keeps_watch (m := m) I hI
  unfold approach
  refine Keeps.bind hcheck fun _ => Keeps.bind (keeps_tell hreport _ _ _ _) fun _ => ?_
  refine keeps_ite (keeps_pure _) (keeps_ite ?_ (keeps_pure _))
  exact Keeps.bind (keeps_pauseFor hpause _) fun _ => keeps_pure _

/-- One playlist after another. -/
theorem meets_eachReaching (force : Bool) (snapshotOf : String → Option String) (total : Nat) :
    ∀ (playlists : List RemotePlaylist) (index : Nat),
      Meets (Between d₀) (eachReaching o m pace force snapshotOf total index playlists)
        (fun _ => Between d₀) fun _ => FallsTo d₀ := by
  intro playlists
  induction playlists with
  | nil => exact fun _ => meets_pure fun _ h => h
  | cons q rest ih =>
    intro index
    refine Meets.bind (keeps_between fun I hI => keeps_approach hI _ _ _ _ _) fun wanted => ?_
    refine meets_ite (fun _ => ?_) fun _ => ?_
    · exact Meets.bind (keeps_between fun I hI => keeps_ask hI _) fun told =>
        Meets.bind (meets_playlist_reaching q told) fun result =>
        Meets.bind (ih (index + 1)) fun others => meets_pure fun _ h => h
    · exact Meets.bind (ih (index + 1)) fun others => meets_pure fun _ h => h

theorem meets_playlistsReaching (force : Bool) :
    Meets (Between d₀) (playlistsReaching o m pace force) (fun _ => Between d₀)
      fun _ => FallsTo d₀ := by
  have hlisting : ∀ I, Inner I → Keeps I (listing o m) := by
    intro I hI
    obtain ⟨hreport, -, -⟩ := keeps_watch (m := m) I hI
    exact Keeps.bind keeps_get fun _ => Keeps.bind (keeps_tell hreport _ _ _ _) fun _ =>
      Keeps.bind (keeps_ask hI _) fun _ => keeps_pure _
  have htell : ∀ (total : Nat) (text : String) (I : Intake σ → Prop), Inner I →
      Keeps I ((watch m).tell "playlists" total total text) := by
    intro total text I hI
    exact keeps_tell (keeps_watch (m := m) I hI).1 _ _ _ _
  unfold playlistsReaching
  refine Meets.bind (keeps_between fun _ _ => keeps_get) fun p => ?_
  refine Meets.bind (keeps_between hlisting) fun playlists => ?_
  refine Meets.bind (meets_eachReaching _ _ _ _ _) fun r => ?_
  exact Meets.bind (keeps_between (htell _ _)) fun _ => meets_pure fun _ h => h

/-- **The stages of a pass leave behind what was there at the last boundary.** -/
theorem meets_stagesReaching (s : Settings) (options : IntakeOptions) :
    Meets (Between d₀) (stagesReaching s o m pace options) (fun _ => FallsTo d₀)
      fun _ => FallsTo d₀ := by
  have hstage : ∀ (wanted : Bool) {x : Action (Intake σ × List Milestone) SyncResult},
      Meets (Between d₀) x (fun _ => Between d₀) (fun _ => FallsTo d₀) →
      Meets (Between d₀) (stageReaching wanted x) (fun _ => Between d₀) fun _ => FallsTo d₀ :=
    fun _ _ hx => meets_ite (fun _ => hx) fun _ => meets_pure fun _ h => h
  -- audio features are stored, but not committed
  have hfeatures : Keeps (FallsTo (σ := σ) d₀)
      (stageReaching options.features (featureStage s o m).unlogged) := by
    refine keeps_ite (meets_of_forall ?_) (keeps_pure _)
    rintro ⟨p, reached⟩ hp
    have hkeeps : Keeps (fun p => FallsTo d₀ (p, reached)) (featureStage s o m) :=
      Stable.keeps_featureStage o m s (fun _ _ h => ⟨h.saved, h.filed⟩) fun _ _ h =>
        ⟨h.saved, h.filed⟩
    refine (meets_unlogged (L := (· = reached)) hkeeps).imp ?_ ?_ ?_
    · rintro _ rfl
      exact ⟨hp, rfl⟩
    · rintro _ ⟨p', _⟩ ⟨hp', rfl⟩
      exact hp'
    · rintro _ ⟨p', _⟩ ⟨hp', rfl⟩
      exact hp'
  exact Meets.bind (hstage _ meets_before_reaching.1) fun liked =>
    Meets.bind (hstage _ meets_before_reaching.2) fun albums =>
    Meets.bind (hstage _ (meets_playlistsReaching _)) fun playlists =>
    Meets.bind (hfeatures.meets.imp (fun _ h => h.toFallsTo) (fun _ _ h => h) fun _ _ h => h)
      fun features => meets_pure fun _ h => h

end Intake

/-! ### A pass that fails -/

/-- **A pass that fails stops at the last boundary it has reached.** Whatever the database, the platform
and the monitor do, and wherever the pass is ended, the database is then the one at the last boundary, or
the one at the start; it is committed; and every playlist is noted with the snapshot and carried by the
tracks with which it was last read, or as at the start if it was not read. -/
theorem stops_at_boundary {σ : Type} {s : Settings} {o : Outside σ} {m : Monitor σ}
    {pace : IntakePace} {options : IntakeOptions} {w w' : World σ} {f : Failure}
    (committed : w.database = w.saved)
    (fails : (takeInLibrary s o m pace options).runOn w = (.error f, w')) :
    ∃ p reached, (Intake.stagesReaching s o m pace options).runOn ({ world := w }, []) =
        (.error f, p, reached) ∧
      (Intake.stages s o m pace options).runOn { world := w } = (.error f, p) ∧
      w'.database = lastDatabase w.database reached ∧ w'.saved = w'.database ∧
      (w.database.Sound →
        ∀ id, w.database.AsRead id (lastRead reached id) w'.database) := by
  have hmirrors : Mirrors Prod.fst (Intake.stagesReaching s o m pace options)
      (Intake.stages s o m pace options) := Intake.mirrors_stagesReaching s options
  have hstages := hmirrors ({ world := w }, [])
  rw [runOn_takeInLibrary, hstages] at fails
  rcases hrun : (Intake.stagesReaching s o m pace options).runOn ({ world := w }, []) with
    ⟨f' | result, p, reached⟩
  · rw [hrun] at hstages fails
    cases fails
    have hfalls := (Intake.meets_stagesReaching s options).of_error (Intake.between_start committed) hrun
    exact ⟨p, reached, rfl, hstages, hfalls.saved, rfl, fun hsound => (hfalls.filed hsound).2⟩
  · rw [hrun] at fails
    cases fails

namespace Surroundings

/-- Two playlists that were read with one track, and have another now. Cancellation is found while the
second is read again, when its old track is gone and its new one has not come. -/
def halfway : World Surroundings :=
  let road : RemotePlaylist := { externalId := "p", name := "Road", snapshotId := some "v2" }
  let work : RemotePlaylist := { externalId := "q", name := "Work", snapshotId := some "v2" }
  let song : RemoteTrack := { externalId := "u", title := .text "Night", artist := .text "Artist" }
  let d : Database :=
    { tracks := [{ id := 1, externalId := "t", title := "Drive", artist := "Artist", addedAt := ⟨0, 0⟩ }]
      sources := [⟨1, .playlist, "p", some "Road"⟩, ⟨1, .playlist, "q", some "Work"⟩]
      snapshots :=
        [{ id := 1, externalId := "p", name := "Road", snapshotId := some "v1" },
          { id := 2, externalId := "q", name := "Work", snapshotId := some "v1" }] }
  { outside :=
      { clock := ⟨0, 0⟩, checks := some 5
        account := { userPlaylists := [road, work], playlistTracks := [("p", [song]), ("q", [song])] } }
    database := d
    saved := d }

theorem sound_halfway : halfway.database.Sound where
  numbers := by decide
  ids := by decide
  links l hl := by
    refine ⟨"t", ?_⟩
    rcases List.mem_cons.1 hl with rfl | hl
    · decide
    · obtain rfl := List.mem_singleton.1 hl
      decide

/-- The boundaries that the pass reaches. -/
def reachedHalfway : List Milestone :=
  ((Intake.stagesReaching {} outside monitor ({} : Settings).intakePace {}).runOn
    ({ world := halfway }, [])).2.2

theorem lastRead_halfway :
    (lastRead reachedHalfway "p").map (fun r => (r.1.snapshotId, idsOf r.2)) =
        some (some "v2", ["u"]) ∧ (lastRead reachedHalfway "q").isNone = true := by
  decide +kernel

theorem cancelled_halfway : failure? ((takeInLibrary {} outside monitor
    ({} : Settings).intakePace {}).runOn halfway).1 = some .cancelled := by
  decide +kernel

/-- The first playlist is left as it was read, the second as it was before. -/
theorem stops_at_boundary_halfway : ∃ w',
    (takeInLibrary {} outside monitor ({} : Settings).intakePace {}).runOn halfway =
        (.error .cancelled, w') ∧
      w'.database.snapshotOf "p" = some "v2" ∧
      (∀ x, w'.database.Carries (.playlist, "p") x ↔ x ∈ ["u"]) ∧
      w'.database.snapshotOf "q" = halfway.database.snapshotOf "q" ∧
      ∀ x, w'.database.Carries (.playlist, "q") x ↔ halfway.database.Carries (.playlist, "q") x := by
  have hcancelled := cancelled_halfway
  obtain ⟨hfirst, hsecond⟩ := lastRead_halfway
  obtain ⟨⟨q, told⟩, hq, htold⟩ := Option.map_eq_some_iff.1 hfirst
  obtain ⟨hsnapshot, hids⟩ := Prod.mk.inj htold
  rw [Option.isNone_iff_eq_none] at hsecond
  rcases hpass : (takeInLibrary {} outside monitor ({} : Settings).intakePace {}).runOn halfway with
    ⟨f | result, w'⟩
  · rw [hpass] at hcancelled
    obtain rfl := Option.some.inj hcancelled
    obtain ⟨p, reached, hrun, -, -, -, hreads⟩ := stops_at_boundary rfl hpass
    have hreached : reachedHalfway = reached := by
      unfold reachedHalfway
      rw [hrun]
    rw [hreached] at hq hsecond
    have hroad := hreads sound_halfway "p"
    have hwork := hreads sound_halfway "q"
    rw [hq] at hroad
    rw [hsecond] at hwork
    refine ⟨w', rfl, hroad.1.trans hsnapshot, fun x => ?_, hwork.1, hwork.2⟩
    rw [← hids]
    exact hroad.2 x
  · rw [hpass] at hcancelled
    cases hcancelled

end Surroundings

end Mixtape
