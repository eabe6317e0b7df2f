import Mixtape.Proofs.Intake.Collections
import Mixtape.Proofs.Intake.Errors
import Mixtape.Proofs.Intake.Run

/-!
# Playlists that are passed over

A pass reads a playlist only if the platform lists it with another snapshot than the one that was last
read. What was read is noted in a table of its own, and the tracks carry their sources in another, so
passing over a playlist is right only as long as the two agree: the tracks that carry a playlist are
those that it has at the snapshot that is noted.

A pass that fails goes back to what it last committed. It commits between two playlists, when what is
noted and what tracks carry agree again. So they agree in every state that is ever committed, and the
playlists that a later pass passes over are on the platform as they are in the library.

## Main definitions

* `Database.Faithful content d` — what is noted of playlists agrees with what tracks carry.
* `Platform.Versioned p content listed I` — while `I` holds of what lies outside, `p` lists `listed`, and
  tells of each playlist the tracks that it has at its snapshot.
* `Intake.passedOver`, `Intake.passedOverIn` — the playlists that are passed over, each with the database
  at that moment.
* `MirrorRun content w` — a history of passes that started without notes.

## Main results

* `Intake.meets_onePlaylist`, `Intake.meets_eachPlaylist` — **a playlist, and the playlists one after
  another, leave notes and sources in agreement.**
* `MirrorRun.faithful` — they agree after every history.
* `MirrorRun.passedOver_current` — **what is passed over is on the platform as it is in the library.**
-/

namespace Mixtape

open Action

/-- What is on playlists: the ids of the tracks that a playlist has at a snapshot. -/
abbrev Contents := String → String → List String

/-! ### Notes and sources -/

namespace Database

variable {content : Contents} {d d' : Database} {q : RemotePlaylist}

/-- The tracks that carry a playlist are those that it has at the snapshot that is noted. -/
structure Faithful (content : Contents) (d : Database) : Prop extends d.Sound where
  /-- Playlists without a note may be carried by any tracks. -/
  noted : ∀ id snapshot, d.snapshotOf id = some snapshot →
    ∀ x, d.Carries (.playlist, id) x ↔ x ∈ content id snapshot

/-- The tracks that carry a playlist are those that it has at the snapshot with which it is listed. -/
def Matches (content : Contents) (d : Database) (q : RemotePlaylist) : Prop :=
  ∃ snapshot, q.snapshotId = some snapshot ∧
    ∀ x, d.Carries (.playlist, q.externalId) x ↔ x ∈ content q.externalId snapshot

theorem Faithful.of_no_snapshots (hs : d.Sound) (h : d.snapshots = []) : d.Faithful content where
  toSound := hs
  noted id snapshot hnoted := by
    unfold snapshotOf at hnoted
    rw [h] at hnoted
    cases hnoted

theorem Faithful.congr (h : d.Faithful content) (hnames : d'.names = d.names)
    (hsources : d'.sources = d.sources) (hsnapshots : d'.snapshots = d.snapshots) :
    d'.Faithful content where
  toSound := h.toSound.congr hnames hsources
  noted id snapshot hnoted := by
    have hsame : d.snapshotOf id = some snapshot := by
      unfold snapshotOf at hnoted ⊢
      rwa [hsnapshots] at hnoted
    rw [Carries.congr hnames hsources]
    exact h.noted id snapshot hsame

/-- Two databases note the same of playlists, and the same tracks carry them. -/
structure SamePlaylists (d d' : Database) : Prop where
  /-- The notes are the same. -/
  snapshots : d'.snapshots = d.snapshots
  /-- So are the tracks, if they can be told apart. -/
  carries : d.Sound → d'.Sound ∧ ∀ id x, d'.Carries (.playlist, id) x ↔ d.Carries (.playlist, id) x

/-- A source that is no playlist leaves notes and playlists alone. -/
theorem collecting_of_samePlaylists {Q : Database → Prop}
    (hQ : ∀ d d' : Database, SamePlaylists d d' → Q d → Q d') :
    Intake.Collecting (fun s => s.type ≠ .playlist) (fun _ => True) fun d _ => Q d where
  add := by
    intro d d' _ now ts r s hs _ h htake
    refine hQ d _ ⟨(snapshots_takeIn htake : _), fun hsound => ?_⟩ h
    have hin := takenIn_takeIn hsound.toDistinct htake
    refine ⟨(hsound.of_grows hin.grows hin.distinct hin.sources).attached, fun id x => ?_⟩
    have hkey : ¬((SourceType.playlist, id) : SourceKey) = s.key := fun hk =>
      hs (congrArg Prod.fst hk).symm
    rw [carries_attached hin.distinct, carries_of_grows hsound hin.grows hin.sources]
    exact or_iff_left fun hnew => hkey hnew.1
  remove := by
    intro d _ ids s hs h
    refine hQ d _ ⟨rfl, fun hsound => ⟨hsound.detached, fun id x => ?_⟩⟩ h
    have hkey : ¬((SourceType.playlist, id) : SourceKey) = s.key := fun hk =>
      hs (congrArg Prod.fst hk).symm
    rw [carries_detached hsound.toDistinct]
    exact and_iff_left fun hgone => hkey hgone.1

theorem SamePlaylists.faithful (h : SamePlaylists d d') (hd : d.Faithful content) :
    d'.Faithful content where
  toSound := (h.carries hd.toSound).1
  noted id snapshot hnoted x := by
    have hsame : d.snapshotOf id = some snapshot := by
      unfold snapshotOf at hnoted ⊢
      rwa [h.snapshots] at hnoted
    rw [(h.carries hd.toSound).2]
    exact hd.noted id snapshot hsame x

/-- Sources come and go without a note. -/
theorem collecting_snapshots (rows : List SnapshotRow) :
    Intake.Collecting (fun _ => True) (fun _ => True) fun d _ => d.snapshots = rows where
  add _ _ _ h htake := (snapshots_takeIn htake).trans h
  remove _ _ _ h := h

/-- What a note changes: the snapshot of one playlist. -/
theorem meets_saveSnapshot_of (d : Database) (id name : String) (snapshot : Option String)
    (readAt : Option Timestamp) :
    Meets (· = d) (saveSnapshot id name snapshot readAt)
      (fun _ d' => d'.names = d.names ∧ d'.sources = d.sources ∧
        ∀ id', d'.snapshotOf id' = if id' = id then snapshot else d.snapshotOf id')
      fun _ _ => False := by
  unfold saveSnapshot
  refine meets_get_bind fun s hs => ?_
  subst hs
  cases hfind : s.snapshots.find? (·.externalId == id) with
  | some r =>
    have hr : r.externalId = id := by simpa using List.find?_some hfind
    refine Meets.bind (meets_set fun _ _ => ?_) fun _ => meets_pure fun _ h => h
    refine ⟨rfl, rfl, fun id' => ?_⟩
    let row := { r with name, snapshotId := snapshot, readAt := Timestamp.stored? readAt }
    have hrow : row.externalId = id := hr
    unfold snapshotOf
    rw [find?_changeWhere SnapshotRow.externalId hrow]
    by_cases hid : id' = id
    · rw [hid, hfind, if_pos rfl]
      simp [hr, row]
    · rw [if_neg hid]
      cases hother : s.snapshots.find? (·.externalId == id') with
      | none => rfl
      | some q =>
        have hq : q.externalId = id' := by simpa using List.find?_some hother
        simp [hq, hid]
  | none =>
    refine Meets.bind (meets_set fun _ _ => ?_) fun _ => meets_pure fun _ h => h
    refine ⟨rfl, rfl, fun id' => ?_⟩
    unfold snapshotOf
    rw [List.find?_append]
    by_cases hid : id' = id
    · rw [hid, hfind, if_pos rfl]
      simp
    · have hne : ¬id = id' := fun h => hid h.symm
      simp [hid, hne]

end Database

/-! ### What the platform tells -/

/-- The tracks that are told of a playlist are those that it has at the snapshot with which it is
listed; nothing is said of one that is listed without a snapshot. -/
def RemotePlaylist.HasAt (content : Contents) (q : RemotePlaylist) (ts : List RemoteTrack) : Prop :=
  ∀ snapshot, q.snapshotId = some snapshot →
    ∀ x, x ∈ idsOf ts ↔ x ∈ content q.externalId snapshot

/-- While `I` holds of what lies outside, a platform lists the same playlists, and what it tells of
one of them are its tracks at the snapshot with which it is listed. Any call may fail. -/
structure Platform.Versioned {σ : Type} (p : Platform σ) (content : Contents)
    (listed : List RemotePlaylist) (I : σ → Prop) : Prop where
  /-- The liked tracks may be any. -/
  liked : Yields I p.likedTracks fun _ s => True ∧ I s
  /-- So may the saved albums. -/
  albums : Yields I p.savedAlbums fun _ s => True ∧ I s
  /-- The playlists are those that are listed. -/
  playlists : Yields I p.userPlaylists fun ps s => ps = listed ∧ I s
  /-- The tracks on a playlist are those of its snapshot. -/
  tracks : ∀ id, Yields I (p.playlistTracks id) fun ts s =>
    (∀ q ∈ listed, q.externalId = id → q.HasAt content ts) ∧ I s

theorem Platform.Shows.versioned {σ : Type} {p : Platform σ} {v : View} {I : σ → Prop}
    {content : Contents} (h : p.Shows v I)
    (hcontent : ∀ q ∈ v.playlists, q.HasAt content (v.tracksOf q.externalId)) :
    p.Versioned content v.playlists I where
  liked := h.liked.imp (fun _ hs => hs) (fun _ _ hs => ⟨trivial, hs.2⟩) fun _ _ hs => hs
  albums := h.albums.imp (fun _ hs => hs) (fun _ _ hs => ⟨trivial, hs.2⟩) fun _ _ hs => hs
  playlists := h.playlists
  tracks id := by
    refine (h.tracks id).imp (fun _ hs => hs) ?_ fun _ _ hs => hs
    rintro _ s ⟨rfl, hs⟩
    refine ⟨?_, hs⟩
    rintro q hq rfl
    exact hcontent q hq

namespace Intake

variable {σ : Type} {I : σ → Prop} {o : Outside σ} {m : Monitor σ} {pace : IntakePace}
  {content : Contents} {listed : List RemotePlaylist} {passes : RemotePlaylist → Prop}

/-! ### Where a pass stands between two playlists -/

/-- Notes and sources agree in the database and in what was last committed, and the playlists that
are passed over are carried as they are listed. -/
structure Level (content : Contents) (I : σ → Prop) (passes : RemotePlaylist → Prop)
    (p : Intake σ) : Prop where
  /-- The database. -/
  database : p.world.database.Faithful content
  /-- The database that was last committed. -/
  saved : p.world.saved.Faithful content
  /-- What lies outside. -/
  outside : I p.world.outside
  /-- The playlists that are passed over. -/
  passed : ∀ q, passes q → p.world.database.Matches content q

/-- What a pass goes back to when it fails. -/
def FallsBack (content : Contents) (p : Intake σ) : Prop := p.world.saved.Faithful content

/-- A call outside leaves the rest of the state. -/
theorem Level.meets_ask {α : Type} {T : α → Prop} {y : Action σ α}
    (hy : Yields I y fun a s => T a ∧ I s) :
    Meets (Level content I passes) (ask y) (fun a p => T a ∧ Level content I passes p)
      fun _ => FallsBack content := by
  unfold ask inWorld
  refine meets_within fun p hp => ?_
  unfold World.ask
  refine meets_within ?_
  rintro _ rfl
  refine hy.imp ?_ ?_ ?_
  · rintro _ rfl
    exact hp.outside
  · rintro a s ⟨ha, hs⟩
    exact ⟨ha, hp.database, hp.saved, hs, hp.passed⟩
  · exact fun _ _ _ => hp.saved

theorem Level.keeps_watch (content : Contents) (passes : RemotePlaylist → Prop) (hm : m.Leaves I) :
    (∀ x, Meets (Level content I passes) ((watch m).report x) (fun _ => Level content I passes)
      fun _ => FallsBack content) ∧
    Meets (Level content I passes) (watch m).check (fun _ => Level content I passes)
      (fun _ => FallsBack content) ∧
    ∀ x, Meets (Level content I passes) ((watch m).pause x) (fun _ => Level content I passes)
      fun _ => FallsBack content := by
  have hcall : ∀ {y : Action σ Unit}, Keeps I y → Meets (Level content I passes) (ask y)
      (fun _ => Level content I passes) fun _ => FallsBack content := by
    intro y hy
    have hyields : Yields I y fun _ s => True ∧ I s :=
      hy.yields.imp (fun _ hs => hs) (fun _ _ hs => ⟨trivial, hs⟩) fun _ _ hs => hs
    exact (Level.meets_ask hyields).imp (fun _ hp => hp) (fun _ _ hp => hp.2) fun _ _ hp => hp
  exact ⟨fun x => hcall (hm.report x), hcall hm.check, fun x => hcall (hm.pause x)⟩

/-- What bringing a playlist in line does: it reports no errors, sets the source of the playlist and
notes nothing. It commits nothing, also when it fails. -/
theorem meets_bringPlaylist (hm : m.Leaves I) (s : TrackSource) (ts : List RemoteTrack) {p : Intake σ}
    (hI : I p.world.outside) :
    Meets (· = p) (bringInLine o m pace s ts)
      (fun r q => r.errors = [] ∧ (p.world.database.Sound →
          q.world.database.Sound ∧ I q.world.outside ∧ q.world.database.Carries =
            Function.update p.world.database.Carries s.key (· ∈ idsOf ts)) ∧
        q.world.database.snapshots = p.world.database.snapshots ∧ q.world.saved = p.world.saved)
      fun _ q => q.world.saved = p.world.saved := by
  have hnotes : Keeps
      (Holds (fun d _ => d.snapshots = p.world.database.snapshots) (· = p.world.saved))
      (bringInLine o m pace s ts) :=
    (Database.collecting_snapshots _).keeps_bringInLine_holds o m pace trivial fun _ _ => trivial
  have hclean : Yields (fun _ => True) (bringInLine o m pace s ts) fun r _ => r.errors = [] :=
    errors_bringInLine s ts
  have hleads : Leads I SyncResult.errors (bringInLine o m pace s ts)
      fun d d' => d'.Carries = Function.update d.Carries s.key (· ∈ idsOf ts) :=
    leads_bringInLine hm s ts
  have hsources : Yields (· = p) (bringInLine o m pace s ts) fun r q =>
      p.world.database.Sound → q.world.database.Sound ∧ I q.world.outside ∧
        (r.errors = [] → q.world.database.Carries =
          Function.update p.world.database.Carries s.key (· ∈ idsOf ts)) := by
    by_cases hsound : p.world.database.Sound
    · refine (hleads.meets hsound hI).imp (fun _ h => h) ?_ fun _ _ h => h
      exact fun r q h _ => ⟨h.1, h.2.2.1, h.2.2.2⟩
    · exact (yields_true (P := (· = p))).imp (fun _ h => h) (fun _ _ _ h => absurd h hsound)
        fun _ _ h => h
  have hstart : Holds (fun d _ => d.snapshots = p.world.database.snapshots) (· = p.world.saved) p :=
    ⟨rfl, rfl⟩
  refine ((hnotes.meets.at_state hstart).and ((hclean.at_state trivial).and hsources)).imp
    (fun _ h => h) ?_ ?_
  · rintro r q ⟨⟨hsnapshots, hsaved⟩, herrors, hends⟩
    refine ⟨herrors, fun hsound => ?_, hsnapshots, hsaved⟩
    obtain ⟨hsound', hI', hcarries⟩ := hends hsound
    exact ⟨hsound', hI', hcarries herrors⟩
  · rintro _ q ⟨⟨-, hsaved⟩, -⟩
    exact hsaved

/-- What becomes of a playlist whose tracks were told: they carry it, and it is noted with which
snapshot it is listed. -/
structure Files (I : σ → Prop) (q : RemotePlaylist) (ts : List RemoteTrack) (p p' : Intake σ) :
    Prop where
  /-- It carries the tracks that were told. -/
  carries : p.world.database.Sound → p'.world.database.Sound ∧ I p'.world.outside ∧
    p'.world.database.Carries =
      Function.update p.world.database.Carries (.playlist, q.externalId) (· ∈ idsOf ts)
  /-- It is noted. -/
  noted : ∀ id, p'.world.database.snapshotOf id =
    if id = q.externalId then q.snapshotId else p.world.database.snapshotOf id
  /-- All this is committed. -/
  saved : p'.world.saved = p'.world.database

/-- Brings a playlist in line whose tracks were told. -/
def filePlaylist (o : Outside σ) (m : Monitor σ) (pace : IntakePace) (q : RemotePlaylist)
    (ts : List RemoteTrack) : Action (Intake σ) SyncResult := do
  let result ← bringInLine o m pace ⟨.playlist, some q.externalId, some q.name⟩ ts
  if result.errors.isEmpty then
    let now ← inWorld (World.now o)
    let _ ← query (Database.saveSnapshot q.externalId q.name q.snapshotId (some now))
  inWorld World.commit
  return result

theorem readPlaylist_eq (o : Outside σ) (m : Monitor σ) (pace : IntakePace) (q : RemotePlaylist) :
    readPlaylist o m pace q =
      ask (o.platform.playlistTracks q.externalId) >>= filePlaylist o m pace q := rfl

/-- **What is told of a playlist is filed as a whole or not at all.** -/
theorem meets_filePlaylist (hm : m.Leaves I) (q : RemotePlaylist) (ts : List RemoteTrack)
    {p : Intake σ} (hI : I p.world.outside) :
    Meets (· = p) (filePlaylist o m pace q ts) (fun _ p' => Files I q ts p p')
      fun _ p' => p'.world.saved = p.world.saved := by
  unfold filePlaylist
  refine Meets.bind (meets_bringPlaylist hm _ ts hI) fun r => meets_of_and fun herrors => ?_
  rw [if_pos (by simp [herrors])]
  refine meets_of_forall ?_
  rintro p₁ ⟨hcarries, hsnapshots, hsaved⟩
  refine Meets.bind (Q := fun _ p' => p' = p₁) (keeps_now o) fun now => ?_
  -- what is noted is the snapshot with which the playlist is listed
  have hnote := (meets_query (Database.meets_saveSnapshot_of p₁.world.database q.externalId q.name
    q.snapshotId (some now)))
  refine Meets.bind (hnote.imp (fun _ h => h) (fun _ _ h => h) ?_) fun _ => ?_
  · rintro _ _ ⟨_, h, -⟩
    exact h.elim
  refine meets_of_exists fun d => meets_of_and ?_
  rintro ⟨hnames, hsources, hnoted⟩
  -- the commit keeps this state
  rintro _ rfl
  refine ⟨fun hsound => ?_, fun id => ?_, rfl⟩
  · obtain ⟨hsound', hI', hcarries⟩ := hcarries hsound
    exact ⟨hsound'.congr hnames hsources, hI', (Database.Carries.congr hnames hsources).trans hcarries⟩
  · refine (hnoted id).trans ?_
    unfold Database.snapshotOf
    rw [hsnapshots]

/-- **A playlist that is read is noted as it is carried**: after it, notes and sources agree again,
and the playlists that are passed over are carried as before. -/
theorem meets_readPlaylist (hp : o.platform.Versioned content listed I) (hm : m.Leaves I)
    {q : RemotePlaylist} (hq : q ∈ listed) (hpasses : ∀ q, passes q → q ∈ listed) :
    Meets (Level content I passes) (readPlaylist o m pace q) (fun _ => Level content I passes)
      fun _ => FallsBack content := by
  rw [readPlaylist_eq]
  refine Meets.bind (Level.meets_ask (hp.tracks q.externalId)) fun ts => meets_of_and fun hts => ?_
  refine meets_of_forall fun p hlevel => ?_
  refine (meets_filePlaylist hm q ts hlevel.outside).imp (fun _ h => h) ?_ ?_
  · intro r p' hfiles
    obtain ⟨hsound, hI, hcarries⟩ := hfiles.carries hlevel.database.toSound
    -- the tracks that carry a playlist are those that were told, or those that carried it before
    have hread : ∀ x, p'.world.database.Carries (.playlist, q.externalId) x ↔ x ∈ idsOf ts := by
      intro x
      rw [hcarries, Function.update_self]
    have hother : ∀ id x, id ≠ q.externalId → (p'.world.database.Carries (.playlist, id) x ↔
        p.world.database.Carries (.playlist, id) x) := by
      intro id x hid
      have hkey : ((SourceType.playlist, id) : SourceKey) ≠ (.playlist, q.externalId) :=
        fun hk => hid (Prod.mk.inj hk).2
      rw [hcarries, Function.update_of_ne hkey]
    have hfaithful : p'.world.database.Faithful content := by
      refine ⟨hsound, fun id snapshot hsnapshot x => ?_⟩
      rw [hfiles.noted] at hsnapshot
      by_cases hid : id = q.externalId
      · rw [if_pos hid] at hsnapshot
        rw [hid, hread]
        exact hts q hq rfl snapshot hsnapshot x
      · rw [if_neg hid] at hsnapshot
        rw [hother id x hid]
        exact hlevel.database.noted id snapshot hsnapshot x
    have hpassed : ∀ q', passes q' → p'.world.database.Matches content q' := by
      intro q' hq'
      obtain ⟨snapshot, hsnapshot, hx⟩ := hlevel.passed q' hq'
      refine ⟨snapshot, hsnapshot, fun x => ?_⟩
      by_cases hid : q'.externalId = q.externalId
      · rw [hid, hread, ← hid]
        exact hts q' (hpasses q' hq') hid snapshot hsnapshot x
      · rw [hother _ x hid]
        exact hx x
    exact ⟨hfaithful, hfiles.saved ▸ hfaithful, hI, hpassed⟩
  · intro _ p' hsaved
    exact (congrArg (·.Faithful content) hsaved).mpr hlevel.saved

/-! ### One playlist after another -/

/-- A playlist is passed over: it is listed, with the snapshot that is noted. -/
def PassesOver (listed : List RemotePlaylist) (force : Bool) (snapshotOf : String → Option String)
    (q : RemotePlaylist) : Prop :=
  q ∈ listed ∧ shouldRead (.ofText? q.snapshotId) (.ofText? (snapshotOf q.externalId)) force = false

/-- One playlist: its result, or nothing if it is passed over. -/
def onePlaylist (o : Outside σ) (m : Monitor σ) (pace : IntakePace) (force : Bool)
    (snapshotOf : String → Option String) (total index : Nat) (p : RemotePlaylist) :
    Action (Intake σ) (Option SyncResult) := do
  (watch m).check
  (watch m).tell "playlists" index total p.name
  if !shouldRead (.ofText? p.snapshotId) (.ofText? (snapshotOf p.externalId)) force then
    return none
  if 0 < index then (watch m).pauseFor pace.playlistDelay
  return some (← readPlaylist o m pace p)

/-- The playlists that are passed over, each with the database at that moment. -/
def passedOver (o : Outside σ) (m : Monitor σ) (pace : IntakePace) (force : Bool)
    (snapshotOf : String → Option String) (total : Nat) :
    (index : Nat) → List RemotePlaylist → Intake σ → List (RemotePlaylist × Database)
  | _, [], _ => []
  | index, p :: rest, q =>
    match (onePlaylist o m pace force snapshotOf total index p).runOn q with
    | (.ok none, q') =>
      (p, q'.world.database) :: passedOver o m pace force snapshotOf total (index + 1) rest q'
    | (.ok (some _), q') => passedOver o m pace force snapshotOf total (index + 1) rest q'
    | (.error _, _) => []

variable {force : Bool} {snapshotOf : String → Option String} {total : Nat}

theorem eachPlaylist_cons (o : Outside σ) (m : Monitor σ) (pace : IntakePace) (force : Bool)
    (snapshotOf : String → Option String) (total index : Nat) (p : RemotePlaylist)
    (rest : List RemotePlaylist) :
    eachPlaylist o m pace force snapshotOf total index (p :: rest) =
      onePlaylist o m pace force snapshotOf total index p >>= fun r =>
        eachPlaylist o m pace force snapshotOf total (index + 1) rest >>= fun others =>
          pure (r.elim (others.1, others.2 + 1) fun result => (result.merge others.1, others.2)) := by
  rw [eachPlaylist, onePlaylist]
  simp only [bind_assoc]
  congr 1
  funext _
  congr 1
  funext _
  split
  · rw [pure_bind]
    rfl
  · split
    · simp only [bind_assoc, pure_bind]
      rfl
    · simp only [bind_assoc, pure_bind]
      rfl

/-- The playlists that are passed over are those that are counted. -/
theorem length_passedOver : ∀ {playlists : List RemotePlaylist} {index : Nat} {q q' : Intake σ}
    {r : SyncResult} {skipped : Nat},
    (eachPlaylist o m pace force snapshotOf total index playlists).runOn q = (.ok (r, skipped), q') →
      (passedOver o m pace force snapshotOf total index playlists q).length = skipped := by
  intro playlists
  induction playlists with
  | nil =>
    intro index q q' r skipped h
    cases h
    rfl
  | cons p rest ih =>
    intro index q q' r skipped h
    rw [eachPlaylist_cons, runOn_bind_eq_ok] at h
    obtain ⟨one, q₁, hone, h⟩ := h
    obtain ⟨others, q₂, hothers, h⟩ := runOn_bind_eq_ok.1 h
    obtain ⟨hresult, -⟩ := runOn_pure_eq_ok.1 h
    have hlength := ih hothers
    unfold passedOver
    rw [hone]
    cases one with
    | none =>
      cases hresult
      exact congrArg (· + 1) hlength
    | some result =>
      cases hresult
      exact hlength

/-- **One playlist leaves notes and sources in agreement**, and when it is passed over, it is one
that is. -/
theorem meets_onePlaylist (hp : o.platform.Versioned content listed I) (hm : m.Leaves I)
    (hpasses : ∀ q, passes q ↔ PassesOver listed force snapshotOf q) {q : RemotePlaylist}
    (hq : q ∈ listed) (index : Nat) :
    Meets (Level content I passes) (onePlaylist o m pace force snapshotOf total index q)
      (fun r p => (r = none → passes q) ∧ Level content I passes p) fun _ => FallsBack content := by
  obtain ⟨hreport, hcheck, hpause⟩ := Level.keeps_watch content passes hm
  unfold onePlaylist
  refine Meets.bind hcheck fun _ => Meets.bind (hreport _) fun _ => ?_
  refine meets_ite (fun hskip => ?_) fun _ => ?_
  · refine meets_pure fun p hlevel => ⟨fun _ => ?_, hlevel⟩
    exact (hpasses q).2 ⟨hq, by simpa using hskip⟩
  · refine meets_when (J := Level content I passes) (meets_pauseFor hpause (fun _ h => h) _)
      (fun _ h => h) fun _ => ?_
    refine Meets.bind (meets_readPlaylist hp hm hq fun q h => ((hpasses q).1 h).1) fun r => ?_
    exact meets_pure fun p hlevel => ⟨nofun, hlevel⟩

/-- **The playlists one after another leave notes and sources in agreement.** -/
theorem meets_eachPlaylist (hp : o.platform.Versioned content listed I) (hm : m.Leaves I)
    (hpasses : ∀ q, passes q ↔ PassesOver listed force snapshotOf q) :
    ∀ {playlists : List RemotePlaylist} (index : Nat), (∀ q ∈ playlists, q ∈ listed) →
      Meets (Level content I passes) (eachPlaylist o m pace force snapshotOf total index playlists)
        (fun _ => Level content I passes) fun _ => FallsBack content := by
  intro playlists
  induction playlists with
  | nil => exact fun _ _ => meets_pure fun _ h => h
  | cons q rest ih =>
    intro index hlisted
    obtain ⟨hq, hrest⟩ := List.forall_mem_cons.1 hlisted
    rw [eachPlaylist_cons]
    refine Meets.bind ((meets_onePlaylist hp hm hpasses hq index).imp (fun _ h => h)
      (fun _ _ h => h.2) fun _ _ h => h) fun r => ?_
    exact Meets.bind (ih (index + 1) hrest) fun _ => meets_pure fun _ h => h

/-- **What is passed over is carried as it is listed**, at the moment it is passed over. -/
theorem matches_of_mem_passedOver (hp : o.platform.Versioned content listed I) (hm : m.Leaves I)
    (hpasses : ∀ q, passes q ↔ PassesOver listed force snapshotOf q) :
    ∀ {playlists : List RemotePlaylist} {index : Nat} {p : Intake σ}, (∀ q ∈ playlists, q ∈ listed) →
      Level content I passes p →
      ∀ e ∈ passedOver o m pace force snapshotOf total index playlists p,
        e.1 ∈ listed ∧ e.2.Sound ∧ e.2.Matches content e.1 := by
  intro playlists
  induction playlists with
  | nil =>
    intro index p _ _ e he
    cases he
  | cons q rest ih =>
    intro index p hlisted hlevel e he
    obtain ⟨hq, hrest⟩ := List.forall_mem_cons.1 hlisted
    have hone : Meets (Level content I passes) (onePlaylist o m pace force snapshotOf total index q)
        (fun r p => (r = none → passes q) ∧ Level content I passes p) fun _ => FallsBack content :=
      meets_onePlaylist hp hm hpasses hq index
    unfold passedOver at he
    split at he
    · next p' hrun =>
      obtain ⟨hpassed, hlevel'⟩ := hone.of_ok hlevel hrun
      rcases List.mem_cons.1 he with rfl | he
      · exact ⟨hq, hlevel'.database.toSound, hlevel'.passed q (hpassed rfl)⟩
      · exact ih hrest hlevel' e he
    · next r p' hrun =>
      exact ih hrest (hone.of_ok hlevel hrun).2 e he
    · cases he

/-! ### The stages -/

/-- The liked songs and the albums leave notes and playlists alone. -/
theorem meets_before (pace : IntakePace) (hp : o.platform.Versioned content listed I)
    (hm : m.Leaves I) :
    (Meets (Level content I fun _ => False) (likedStage o m pace)
      (fun _ => Level content I fun _ => False) fun _ => FallsBack content) ∧
    Meets (Level content I fun _ => False) (albumStage o m pace)
      (fun _ => Level content I fun _ => False) fun _ => FallsBack content := by
  have hcollecting : Collecting (fun s => s.type ≠ .playlist) (fun _ => True)
      fun d _ => d.Faithful content :=
    Database.collecting_of_samePlaylists fun _ _ => Database.SamePlaylists.faithful
  -- the database by what the changes keep, what lies outside by what the stage leads to
  have hstage : ∀ {x : Action (Intake σ) SyncResult} {R : Database → Database → Prop},
      Keeps (Stands fun d _ => d.Faithful content) x → Leads I SyncResult.errors x R →
      Meets (Level content I fun _ => False) x (fun _ => Level content I fun _ => False)
        fun _ => FallsBack content := by
    intro x R hkeeps hleads
    refine meets_of_forall fun p hlevel => ?_
    have hstart : Stands (fun d _ => d.Faithful content) p := ⟨hlevel.database, {}, hlevel.saved⟩
    refine ((hkeeps.meets.at_state hstart).and
      (hleads.meets hlevel.database.toSound hlevel.outside)).imp (fun _ h => h) ?_ ?_
    · rintro _ q ⟨⟨hdatabase, _, hsaved⟩, -, -, hI, -⟩
      exact ⟨hdatabase, hsaved, hI, fun _ => False.elim⟩
    · rintro _ q ⟨⟨-, _, hsaved⟩, -⟩
      exact hsaved
  constructor
  · refine hstage (hcollecting.keeps_likedStage o m pace (by simp) o.platform.tellsOnly_true)
      (leads_likedStage_of hp.liked hm)
  · refine hstage (hcollecting.keeps_albumStage o m pace ?_ o.platform.tellsOnly_true)
      (leads_albumStage_of hp.albums hm)
    intro s hs
    rw [hs]
    simp

/-- The playlists that are listed, apart from the outward copies of smart playlists. -/
def listing (o : Outside σ) (m : Monitor σ) : Action (Intake σ) (List RemotePlaylist) := do
  let d := (← get).world.database
  (watch m).tell "playlists" 0 0 "Fetching playlists"
  let listed ← ask o.platform.userPlaylists
  return listed.filter fun p => !d.remoteIds.contains p.externalId

theorem get_bind_get {τ α : Type} (f : τ → τ → Action τ α) :
    (MonadState.get >>= fun p => MonadState.get >>= fun q => f p q) =
      (MonadState.get >>= fun p => f p p) := rfl

theorem playlistStage_eq (o : Outside σ) (m : Monitor σ) (pace : IntakePace) (force : Bool) :
    playlistStage o m pace force = MonadState.get >>= fun p =>
      listing o m >>= fun playlists =>
        eachPlaylist o m pace force p.world.database.snapshotOf playlists.length 0 playlists >>=
          fun r => (watch m).tell "playlists" playlists.length playlists.length
            (toString r.2 ++ " unchanged") >>= fun _ => pure r.1 := by
  unfold playlistStage listing
  simp only [bind_assoc, pure_bind]
  rw [get_bind_get]

theorem meets_listing (hp : o.platform.Versioned content listed I) (hm : m.Leaves I) :
    Meets (Level content I passes) (listing o m)
      (fun playlists p => (∀ q ∈ playlists, q ∈ listed) ∧ Level content I passes p)
      fun _ => FallsBack content := by
  obtain ⟨hreport, -, -⟩ := Level.keeps_watch content passes hm
  unfold listing
  refine meets_get_bind fun p hlevel => ?_
  refine Meets.bind ((hreport _).at_state hlevel) fun _ => ?_
  refine Meets.bind (Level.meets_ask hp.playlists) fun ps => meets_of_and ?_
  rintro rfl
  exact meets_pure fun q hq => ⟨fun _ hmem => (List.mem_filter.1 hmem).1, hq⟩

/-- A playlist is passed over when it is listed with the snapshot that is noted, and only then. -/
theorem exists_of_not_shouldRead {listedAt noted : Option String}
    (h : shouldRead (.ofText? listedAt) (.ofText? noted) force = false) :
    ∃ snapshot, listedAt = some snapshot ∧ noted = some snapshot := by
  unfold shouldRead at h
  simp only [Bool.or_eq_false_iff] at h
  obtain ⟨⟨⟨-, hlisted⟩, hnoted⟩, hsame⟩ := h
  cases listedAt with
  | none => cases hlisted
  | some a =>
    cases noted with
    | none => cases hnoted
    | some b =>
      have hab : a = b := by simpa [Json.ofText?] using hsame
      exact ⟨a, rfl, hab ▸ rfl⟩

/-- What is passed over is carried as it is listed, where notes and sources agree. -/
theorem Level.passesOver {p : Intake σ} (h : Level content I (fun _ => False) p)
    (listed : List RemotePlaylist) (force : Bool) :
    Level content I (PassesOver listed force p.world.database.snapshotOf) p where
  database := h.database
  saved := h.saved
  outside := h.outside
  passed q hq := by
    obtain ⟨snapshot, hlisted, hnoted⟩ := exists_of_not_shouldRead hq.2
    exact ⟨snapshot, hlisted, h.database.noted _ snapshot hnoted⟩

theorem meets_playlistStage (hp : o.platform.Versioned content listed I) (hm : m.Leaves I)
    (force : Bool) :
    Meets (Level content I fun _ => False) (playlistStage o m pace force)
      (fun _ p => p.world.database.Faithful content ∧ p.world.saved.Faithful content)
      fun _ => FallsBack content := by
  rw [playlistStage_eq]
  refine meets_get_bind fun p hlevel => ?_
  have hstart := hlevel.passesOver listed force
  obtain ⟨hreport, -, -⟩ := Level.keeps_watch content
    (PassesOver listed force p.world.database.snapshotOf) hm
  refine Meets.bind ((meets_listing hp hm).at_state hstart) fun playlists => ?_
  refine meets_of_and fun hlisted => ?_
  refine Meets.bind (meets_eachPlaylist hp hm (fun _ => Iff.rfl) 0 hlisted) fun r => ?_
  refine Meets.bind (hreport _) fun _ => ?_
  exact meets_pure fun q hq => ⟨hq.database, hq.saved⟩

/-- **The stages of a pass leave notes and sources in agreement**, and so is what is left when one of
them fails. -/
theorem meets_stages (pace : IntakePace) (hp : o.platform.Versioned content listed I)
    (hm : m.Leaves I) (s : Settings) (options : IntakeOptions) :
    Meets (Level content I fun _ => False) (stages s o m pace options)
      (fun _ p => p.world.database.Faithful content) fun _ => FallsBack content := by
  obtain ⟨hliked, halbums⟩ := meets_before pace hp hm
  have hstage : ∀ (wanted : Bool) {x : Action (Intake σ) SyncResult},
      Meets (Level content I fun _ => False) x (fun _ => Level content I fun _ => False)
        (fun _ => FallsBack content) →
      Meets (Level content I fun _ => False) (stage wanted x)
        (fun _ => Level content I fun _ => False) fun _ => FallsBack content :=
    fun _ _ hx => meets_ite (fun _ => hx) fun _ => meets_pure fun _ h => h
  unfold stages
  refine Meets.bind (hstage _ hliked) fun liked => Meets.bind (hstage _ halbums) fun albums => ?_
  refine Meets.bind (Q := fun _ => Stands fun d _ => d.Faithful content) ?_ fun playlists => ?_
  · refine meets_ite (fun _ => ?_) fun _ => meets_pure fun p h => ⟨h.database, {}, h.saved⟩
    exact (meets_playlistStage hp hm _).imp (fun _ h => h) (fun _ _ h => ⟨h.1, {}, h.2⟩)
      fun _ _ h => h
  -- audio features are neither notes nor sources
  have hfeatures : Keeps (Stands (σ := σ) fun d _ => d.Faithful content)
      (stage options.features (featureStage s o m)) := by
    refine keeps_ite (Stable.keeps_featureStage o m s (inner_stands _) fun p f h => ?_) (keeps_pure _)
    exact ⟨h.1.congr (Database.names_withFeatures _ f) rfl rfl, h.2⟩
  refine Meets.bind (hfeatures.meets.imp (fun _ h => h) (fun _ _ h => h) ?_) fun features => ?_
  · rintro _ p ⟨-, _, hsaved⟩
    exact hsaved
  · exact meets_pure fun p h => h.1

/-- A pass up to its playlists, and those that are listed. -/
def untilPlaylists (o : Outside σ) (m : Monitor σ) (pace : IntakePace) (options : IntakeOptions) :
    Action (Intake σ) (List RemotePlaylist) := do
  let _ ← stage options.likedTracks (likedStage o m pace)
  let _ ← stage options.albums (albumStage o m pace)
  listing o m

/-- The playlists that a pass passes over, each with the database at that moment. -/
def passedOverIn (o : Outside σ) (m : Monitor σ) (pace : IntakePace) (options : IntakeOptions)
    (w : World σ) : List (RemotePlaylist × Database) :=
  if options.playlists then
    match (untilPlaylists o m pace options).runOn { world := w } with
    | (.ok playlists, p) =>
      passedOver o m pace options.forceRefresh p.world.database.snapshotOf playlists.length 0
        playlists p
    | (.error _, _) => []
  else []

theorem meets_untilPlaylists (hp : o.platform.Versioned content listed I) (hm : m.Leaves I)
    (options : IntakeOptions) :
    Meets (Level content I fun _ => False) (untilPlaylists o m pace options)
      (fun playlists p => (∀ q ∈ playlists, q ∈ listed) ∧ Level content I (fun _ => False) p)
      fun _ => FallsBack content := by
  obtain ⟨hliked, halbums⟩ := meets_before pace hp hm
  refine Meets.bind (meets_ite (fun _ => hliked) fun _ => meets_pure fun _ h => h) fun _ => ?_
  refine Meets.bind (meets_ite (fun _ => halbums) fun _ => meets_pure fun _ h => h) fun _ => ?_
  exact meets_listing hp hm

end Intake

/-! ### Histories -/

/-- A history of passes. It starts from a database without notes of playlists; passes come in any order
with changes of what lies outside, and with changes of the database that leave tracks, sources and
notes. What is on a playlist depends on its snapshot alone, along the whole history. -/
inductive MirrorRun {σ : Type} (content : Contents) : World σ → Prop
  /-- Nothing is noted of any playlist yet. -/
  | start {w : World σ} (committed : w.database = w.saved) (sound : w.saved.Sound)
      (snapshots : w.saved.snapshots = []) : MirrorRun content w
  /-- What lies outside changes. -/
  | outside {w : World σ} (run : MirrorRun content w) (outside : σ) :
      MirrorRun content { w with outside }
  /-- Ratings, tags, smart playlists or jobs change. -/
  | edit {w : World σ} (run : MirrorRun content w) (d : Database) (names : d.names = w.saved.names)
      (sources : d.sources = w.saved.sources) (snapshots : d.snapshots = w.saved.snapshots) :
      MirrorRun content { w with database := d, saved := d }
  /-- A pass, which may succeed or fail. -/
  | pass {w : World σ} (run : MirrorRun content w) (s : Settings) (o : Outside σ) (m : Monitor σ)
      (pace : IntakePace) (options : IntakeOptions) {listed : List RemotePlaylist} {I : σ → Prop}
      (versioned : o.platform.Versioned content listed I) (leaves : m.Leaves I)
      (now : I w.outside) {r : Except Failure SyncResult} {w' : World σ}
      (ends : (takeInLibrary s o m pace options).runOn w = (r, w')) : MirrorRun content w'

namespace MirrorRun

open Intake

variable {σ : Type} {content : Contents} {w : World σ} {listed : List RemotePlaylist} {I : σ → Prop}
  {o : Outside σ} {m : Monitor σ}

theorem committed (run : MirrorRun content w) : w.database = w.saved := by
  induction run with
  | start committed => exact committed
  | outside _ _ ih => exact ih
  | edit => rfl
  | pass _ _ _ _ _ _ _ _ _ ends => exact IntakeRun.committed_takeInLibrary ends

/-- **Notes and sources agree after every history.** -/
theorem faithful (run : MirrorRun content w) : w.saved.Faithful content := by
  induction run with
  | start committed sound snapshots => exact .of_no_snapshots sound snapshots
  | outside _ _ ih => exact ih
  | edit _ d names sources snapshots ih => exact ih.congr names sources snapshots
  | @pass w run s o m pace options listed I versioned leaves now r w' ends ih =>
    have hlevel : Level content I (fun _ => False) { world := w } :=
      ⟨run.committed ▸ ih, ih, now, fun _ => False.elim⟩
    have hstages := meets_stages pace versioned leaves s options
    rw [runOn_takeInLibrary] at ends
    rcases hrun : (Intake.stages s o m pace options).runOn { world := w } with ⟨f | result, p⟩
    · rw [hrun] at ends
      cases ends
      exact hstages.of_error hlevel hrun
    · rw [hrun] at ends
      cases ends
      exact (hstages.of_ok hlevel hrun).congr rfl rfl rfl

/-- **What is passed over is on the platform as it is in the library.** After any history of passes,
succeeded, failed or cancelled, a playlist that the next pass passes over is held, at that moment, by
exactly the tracks that it has at the snapshot with which it is listed, and these are the tracks that
the platform would tell if it were asked. -/
theorem passedOver_current (run : MirrorRun content w) (pace : IntakePace) (options : IntakeOptions)
    (versioned : o.platform.Versioned content listed I) (leaves : m.Leaves I)
    (now : I w.outside) :
    ∀ e ∈ passedOverIn o m pace options w,
      (∃ snapshot, e.1.snapshotId = some snapshot ∧
        ∀ x, x ∈ e.2.heldBy ⟨.playlist, some e.1.externalId, some e.1.name⟩ ↔
          x ∈ content e.1.externalId snapshot) ∧
      Yields I (o.platform.playlistTracks e.1.externalId) fun ts _ =>
        ∀ x, x ∈ e.2.heldBy ⟨.playlist, some e.1.externalId, some e.1.name⟩ ↔ x ∈ idsOf ts := by
  intro e he
  have hlevel : Level content I (fun _ => False) { world := w } :=
    ⟨run.committed ▸ run.faithful, run.faithful, now, fun _ => False.elim⟩
  obtain ⟨hmem, hsound, snapshot, hsnapshot, hcarries⟩ :
      e.1 ∈ listed ∧ e.2.Sound ∧ e.2.Matches content e.1 := by
    unfold passedOverIn at he
    split at he
    · split at he
      · next playlists p hrun =>
        obtain ⟨hlisted, hlevel'⟩ :=
          (meets_untilPlaylists versioned leaves options).of_ok hlevel hrun
        exact matches_of_mem_passedOver versioned leaves (fun _ => Iff.rfl) hlisted
          (hlevel'.passesOver listed options.forceRefresh) e he
      · cases he
    · cases he
  have hheld : ∀ x, x ∈ e.2.heldBy ⟨.playlist, some e.1.externalId, some e.1.name⟩ ↔
      x ∈ content e.1.externalId snapshot := fun x =>
    (Database.mem_heldBy hsound.toDistinct).trans (hcarries x)
  refine ⟨⟨snapshot, hsnapshot, hheld⟩, ?_⟩
  refine (versioned.tracks e.1.externalId).imp (fun _ h => h) ?_ fun _ _ h => h
  rintro ts _ ⟨hts, -⟩ x
  exact (hheld x).trans (hts e.1 hmem rfl snapshot hsnapshot x).symm

/-! ### A playlist that changes and changes back -/

/-- A playlist whose second snapshot has a track more than the others. -/
def growing : Contents := fun _ snapshot => if snapshot = "v2" then ["t", "u"] else ["t"]

/-- An account with the playlist at a snapshot. -/
def roadAt (snapshot : String) : Account :=
  { userPlaylists := [{ externalId := "p", name := "Road", snapshotId := some snapshot }]
    playlistTracks := [("p", (growing "p" snapshot).map fun id =>
      { externalId := id, title := .text "Drive", artist := .text "Artist" })] }

theorem versioned_roadAt (snapshot : String) :
    Surroundings.platform.Versioned growing (roadAt snapshot).userPlaylists
      fun s => s.account = roadAt snapshot := by
  refine (Surroundings.shows_platform (roadAt snapshot)).versioned fun q hq => ?_
  obtain rfl := List.mem_singleton.1 hq
  rintro _ ⟨⟩ x
  change x ∈ ((growing "p" snapshot).map _).map _ ↔ _
  rw [List.map_map, Function.comp_def, List.map_id']

/-- The playlist was read at its first snapshot. -/
def road : World Surroundings :=
  (Surroundings.takenIn false (Surroundings.beside (roadAt "v1"))).2

/-- The next pass fails while it reads the second snapshot. -/
def broken : World Surroundings :=
  Surroundings.revoked "get_playlist_tracks" (Surroundings.showing (roadAt "v2") road)

/-- Then the playlist is at its first snapshot again. -/
def reverted : World Surroundings :=
  Surroundings.showing (roadAt "v1") (Surroundings.takenIn false broken).2

theorem run_takenIn {w : World Surroundings} (run : MirrorRun growing w) (force : Bool)
    (snapshot : String) (now : w.outside.account = roadAt snapshot) :
    MirrorRun growing (Surroundings.takenIn force w).2 :=
  .pass run {} Surroundings.outside Surroundings.monitor ({} : Settings).intakePace
    { forceRefresh := force, features := false } (versioned_roadAt snapshot)
    (Surroundings.leaves_monitor fun a => a = roadAt snapshot) now rfl

theorem run_showing {w : World Surroundings} (run : MirrorRun growing w) (account : Account) :
    MirrorRun growing (Surroundings.showing account w) := .outside run _

theorem run_revoked {w : World Surroundings} (run : MirrorRun growing w) (method : String) :
    MirrorRun growing (Surroundings.revoked method w) := .outside run _

theorem run_reverted : MirrorRun growing reverted := by
  have hstart : MirrorRun growing (Surroundings.beside (roadAt "v1")) :=
    .start rfl ⟨⟨List.nodup_nil, List.nodup_nil⟩, by simp [Surroundings.beside]⟩ rfl
  have hroad : MirrorRun growing road := run_takenIn hstart false "v1" rfl
  have hbroken : MirrorRun growing broken := run_revoked (run_showing hroad _) _
  exact run_showing (run_takenIn hbroken false "v2" rfl) _

/-- The pass over the second snapshot fails, the one after it passes the playlist over, and the
playlist is held as it is listed. -/
theorem passedOver_current_reverted :
    (Surroundings.takenIn false broken).1.isOk = false ∧
      (passedOverIn Surroundings.outside Surroundings.monitor ({} : Settings).intakePace {}
        reverted).map (·.1.externalId) = ["p"] ∧
      ∀ e ∈ passedOverIn Surroundings.outside Surroundings.monitor ({} : Settings).intakePace {}
        reverted,
        (∃ snapshot, e.1.snapshotId = some snapshot ∧
          ∀ x, x ∈ e.2.heldBy ⟨.playlist, some e.1.externalId, some e.1.name⟩ ↔
            x ∈ growing e.1.externalId snapshot) ∧
        Yields (fun s : Surroundings => s.account = roadAt "v1")
          (Surroundings.platform.playlistTracks e.1.externalId) fun ts _ =>
            ∀ x, x ∈ e.2.heldBy ⟨.playlist, some e.1.externalId, some e.1.name⟩ ↔ x ∈ idsOf ts := by
  refine ⟨by decide +kernel, by decide +kernel, ?_⟩
  exact run_reverted.passedOver_current _ _ (versioned_roadAt "v1")
    (Surroundings.leaves_monitor fun a => a = roadAt "v1") rfl

end MirrorRun

end Mixtape
