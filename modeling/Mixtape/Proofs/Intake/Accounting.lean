import Mathlib.Data.Finset.Card
import Mixtape.Proofs.Intake.Refresh

/-!
# What a pass counts

The result of a pass tells how many tracks were met and how many of them are new. A track may be listed in
many collections, and in one of them more than once. It is met once all the same, as it is noted only if
it is not there yet, and it is new once, as it is stored when it is met again.

New tracks are counted collection by collection, from notes that start afresh with each, and the counts
are added up. They agree with the library because the rows that come in are those that are noted: what a
collection adds to the rows is what it counts.

## Main definitions

* `toldIds told` — the ids of the tracks on collections.
* `Database.trackIds d` — the ids of the stored tracks, row by row.
* `Intake.RowsNoted I met ids p` — the rows that have come in behind `ids` are noted as new.
* `Intake.Tally waits n p` — what was told is noted, apart from the collections that wait, and there are
  `n` rows.
* `Intake.Counts waits waits' count x` — `x` adds as many rows as it counts, while the collections `waits`
  wait in the beginning and the collections `waits'` in the end.

## Main results

* `Database.trackIds_takeIn` — the rows that come in are those that are told to be new.
* `Intake.counted_bringInLine` — one collection counts the rows that it adds.
* `Intake.counts_stages`, `counted_takeInLibrary` — **what a pass counts.**
-/

namespace Mixtape

open Action

/-! ### Notes -/

theorem Touched.nodup_note {id : String} {ids : List String} (h : ids.Nodup) :
    (Touched.note id ids).Nodup := by
  unfold note
  split
  · exact h
  · refine List.nodup_append.2 ⟨h, List.nodup_singleton id, ?_⟩
    rintro a ha b hb rfl
    exact ‹¬_› (List.mem_singleton.1 hb ▸ ha)

section Notes

variable {ids seen : List String} {x : String}

theorem mem_noteAll : x ∈ noteAll ids seen ↔ x ∈ ids ∨ x ∈ seen := by
  unfold noteAll
  induction ids generalizing seen with
  | nil => simp
  | cons id ids ih =>
    rw [List.foldl_cons, ih, Touched.mem_note, List.mem_cons, or_assoc]
    exact or_left_comm

theorem nodup_noteAll (h : seen.Nodup) : (noteAll ids seen).Nodup := by
  unfold noteAll
  induction ids generalizing seen with
  | nil => exact h
  | cons id ids ih => exact ih (Touched.nodup_note h)

/-- What is not there yet is put at the end. -/
theorem noteAll_of_new (hids : ids.Nodup) (hnew : ∀ x ∈ ids, x ∉ seen) :
    noteAll ids seen = seen ++ ids := by
  unfold noteAll
  induction ids generalizing seen with
  | nil => exact (List.append_nil seen).symm
  | cons id ids ih =>
    obtain ⟨hid, hids⟩ := List.nodup_cons.1 hids
    obtain ⟨hfirst, hrest⟩ := List.forall_mem_cons.1 hnew
    have hnote : Touched.note id seen = seen ++ [id] := if_neg hfirst
    rw [List.foldl_cons, hnote, ih hids fun x hx hseen => ?_, List.append_assoc]
    · rfl
    · rcases List.mem_append.1 hseen with hseen | hseen
      · exact hrest x hx hseen
      · exact hid (List.mem_singleton.1 hseen ▸ hx)

end Notes

/-- The ids of the tracks on collections. -/
def toldIds (told : List Reading) : List String := told.flatMap fun r => idsOf r.tracks

theorem toldIds_append (told told' : List Reading) :
    toldIds (told ++ told') = toldIds told ++ toldIds told' := List.flatMap_append

/-! ### Rows that come in -/

namespace Database

variable {d d' : Database} {now : Timestamp} {t : RemoteTrack} {ts : List RemoteTrack} {x : String}

/-- The ids of the stored tracks, row by row. -/
def trackIds (d : Database) : List String := d.tracks.map (·.externalId)

theorem mem_trackIds : x ∈ d.trackIds ↔ (d.trackNamed? x).isSome = true := by
  simp [trackIds, trackNamed?]

theorem length_trackIds (d : Database) : d.trackIds.length = d.tracks.length := List.length_map _

theorem trackIds_withFeatures (f : TrackRow → Option Json) : (d.withFeatures f).trackIds = d.trackIds := by
  unfold trackIds withFeatures
  rw [List.map_map]
  rfl

/-- A track that comes in adds a row if it is not stored. -/
theorem trackIds_takeInOne (h : takeInOne now d t = .ok d') :
    d'.trackIds = d.trackIds ++ [t.externalId].filter (· ∉ d.trackIds) := by
  rcases takeInOne_ok h with ⟨r, row, hr, -, htells, rfl⟩ | ⟨row, hr, -, htells, rfl⟩
  · have hmem : t.externalId ∈ d.trackIds := mem_trackIds.2 (Option.isSome_iff_exists.2 ⟨r, hr⟩)
    have hnone : [t.externalId].filter (· ∉ d.trackIds) = [] := by simp [hmem]
    rw [hnone, List.append_nil]
    -- a row stands in the place of one with its id
    unfold trackIds changeWhere
    rw [List.map_map]
    refine List.map_congr_left fun q _ => ?_
    by_cases hq : q.externalId = t.externalId
    · simp [hq, htells.1]
    · simp [hq]
  · have hmem : t.externalId ∉ d.trackIds := by
      rw [mem_trackIds, hr]
      simp
    have hone : [t.externalId].filter (· ∉ d.trackIds) = [t.externalId] := by simp [hmem]
    rw [hone]
    simp [trackIds, htells.1]

theorem trackIds_foldlM : ∀ {ts : List RemoteTrack} {d d' : Database},
    (ts.map (·.externalId)).Nodup → ts.foldlM (takeInOne now) d = .ok d' →
    d'.trackIds = d.trackIds ++ (ts.map (·.externalId)).filter (· ∉ d.trackIds) := by
  intro ts
  induction ts with
  | nil =>
    intro d d' _ h
    cases h
    exact (List.append_nil _).symm
  | cons t ts ih =>
    intro d d' hids h
    obtain ⟨hid, hids⟩ := List.nodup_cons.1 hids
    rw [List.foldlM_cons] at h
    obtain ⟨d₁, h₁, h⟩ := exists_of_bind_eq_ok h
    have hone := trackIds_takeInOne h₁
    -- the track that came in is not among the others
    have hothers : (ts.map (·.externalId)).filter (· ∉ d₁.trackIds) =
        (ts.map (·.externalId)).filter (· ∉ d.trackIds) := by
      refine List.filter_congr fun x hx => ?_
      have hne : x ≠ t.externalId := by
        rintro rfl
        exact hid hx
      simp [hone, hne]
    rw [ih hids h, hothers, hone, List.append_assoc, ← List.filter_append]
    rfl

theorem map_externalId_latestById (ts : List RemoteTrack) :
    ((latestById ts).map Prod.snd).map (·.externalId) = (latestById ts).keys := by
  rw [List.map_map]
  exact List.map_congr_left fun e he => (mem_latestById he).2.symm

theorem nodup_keys_latestById (ts : List RemoteTrack) : (latestById ts).keys.Nodup :=
  nodup_keys_foldl_put ts List.nodup_nil

/-- What is told to be new was not stored, and it is what comes in. -/
theorem yields_takeIn_rows (d : Database) (now : Timestamp) (ts : List RemoteTrack) :
    Yields (· = d) (takeIn now ts) fun r d' =>
      d'.trackIds = d.trackIds ++ r.1 ∧ r.1 = (latestById ts).keys.filter (· ∉ d.trackIds) := by
  have hnew : (latestById ts).keys.filter (fun id => !(d.trackNamed? id).isSome) =
      (latestById ts).keys.filter (· ∉ d.trackIds) := by
    refine List.filter_congr fun x _ => ?_
    rw [decide_not, Bool.not_inj_iff, ← Bool.decide_coe (d.trackNamed? x).isSome]
    exact decide_eq_decide.2 mem_trackIds.symm
  unfold takeIn
  refine meets_get_bind fun s hs => ?_
  subst hs
  refine Meets.bind (Q := fun taken _ =>
    ((latestById ts).map Prod.snd).foldlM (takeInOne now) s = .ok taken)
    (meets_ofExcept (fun _ h _ _ => h) fun _ _ _ _ => trivial) fun taken => ?_
  refine meets_of_forall fun _ htaken => ?_
  have hrows := trackIds_foldlM ((map_externalId_latestById ts).symm ▸ nodup_keys_latestById ts) htaken
  rw [map_externalId_latestById] at hrows
  -- albums and artists that are not known yet add no rows
  refine Meets.bind (Q := fun _ _ => True) yields_true fun albums => ?_
  refine Meets.bind (Q := fun _ _ => True) yields_true fun artists => ?_
  refine Meets.bind (Q := fun _ d' => d'.trackIds = taken.trackIds) (meets_set fun _ _ => rfl)
    fun _ => meets_pure fun d' hd' => ?_
  exact ⟨by rw [hd', hrows, hnew], hnew⟩

/-- **The rows that come in are those that are told to be new**, each once. -/
theorem trackIds_takeIn {r : List String × List String}
    (h : (takeIn now ts).runOn d = (.ok r, d')) :
    d'.trackIds = d.trackIds ++ r.1 ∧ r.1.Nodup ∧ ∀ x ∈ r.1, x ∉ d.trackIds := by
  obtain ⟨hrows, hnew⟩ := (yields_takeIn_rows d now ts).of_ok rfl h
  refine ⟨hrows, hnew ▸ (nodup_keys_latestById ts).filter _, fun x hx => ?_⟩
  rw [hnew] at hx
  simpa using (List.mem_filter.1 hx).2

end Database

namespace Intake

variable {σ α β : Type} {I : σ → Prop} {o : Outside σ} {m : Monitor σ} {pace : IntakePace}

/-! ### One collection -/

/-- While a collection is brought in line, the rows that have come in behind `ids` are those that are noted
as new. -/
structure RowsNoted (I : σ → Prop) (met ids : List String) (p : Intake σ) : Prop where
  /-- What lies outside. -/
  outside : I p.world.outside
  /-- The tracks that were met. -/
  seen : p.seen = met
  /-- The rows. -/
  rows : p.world.database.trackIds = ids ++ p.added

section RowsNoted

variable {met ids : List String}

theorem keeps_rowsNoted_ask {y : Action σ β} (hy : Keeps I y) : Keeps (RowsNoted I met ids) (ask y) :=
  keeps_iff.2 fun _ hp => ⟨keeps_iff.1 hy _ hp.outside, hp.seen, hp.rows⟩

theorem keeps_rowsNoted_removeTracks (s : TrackSource) (gone : List String) :
    Keeps (RowsNoted (σ := σ) I met ids) (removeTracks s gone) :=
  keeps_iff.2 fun _ hp => ⟨hp.outside, hp.seen, hp.rows⟩

theorem keeps_rowsNoted_addTracks (s : TrackSource) (known : Registry RemoteTrack)
    (new : List String) : Keeps (RowsNoted I met ids) (addTracks o s known new) := by
  refine meets_of_forall ?_
  rintro p ⟨hI, hseen, hrows⟩
  refine (meets_addTracks_noting p s known new).imp (fun _ h => h) ?_ ?_
  · rintro _ _ ⟨now, r, d, htake, rfl⟩
    obtain ⟨hcome, hnodup, hnew⟩ := Database.trackIds_takeIn htake
    -- what is new is not among the rows, so it was not noted either
    have hadded : noteAll r.1 p.added = p.added ++ r.1 :=
      noteAll_of_new hnodup fun x hx hnoted => hnew x hx (hrows ▸ List.mem_append_right _ hnoted)
    refine ⟨hI, hseen, ?_⟩
    change d.trackIds = ids ++ noteAll r.1 p.added
    rw [hcome, hrows, hadded, List.append_assoc]
  · rintro _ _ rfl
    exact ⟨hI, hseen, hrows⟩

end RowsNoted

/-- **One collection counts the rows that it adds**, and its tracks are noted. -/
theorem counted_bringInLine (hm : m.Leaves I) (s : TrackSource) (remote : List RemoteTrack)
    {p₀ : Intake σ} (hI : I p₀.world.outside) :
    Yields (· = p₀) (bringInLine o m pace s remote) fun r p => I p.world.outside ∧
      p.seen = noteAll (Database.latestById remote).keys p₀.seen ∧
      ∃ new, p.world.database.trackIds = p₀.world.database.trackIds ++ new ∧
        r.added = new.length := by
  let P : Intake σ → Prop := RowsNoted I (noteAll (Database.latestById remote).keys p₀.seen)
    p₀.world.database.trackIds
  unfold bringInLine
  refine Meets.bind (Q := fun _ => P) (meets_modify ?_) fun _ => meets_get_bind fun p hp => ?_
  · rintro _ rfl
    exact ⟨hI, rfl, (List.append_nil _).symm⟩
  have happly := meets_apply (P := fun _ _ => P) (w := writer o s (Database.latestById remote))
    (m := watch m) (fun _ _ q => keeps_rowsNoted_ask (hm.report q))
    (fun _ _ => keeps_rowsNoted_ask hm.check) (fun _ _ x => keeps_rowsNoted_ask (hm.pause x))
    (fun _ => keeps_rowsNoted_removeTracks s) (fun _ _ => keeps_rowsNoted_addTracks s _)
    (d := computeDiff s.id (Database.latestById remote).keys (p.world.database.heldBy s))
    ⟨pace.chunkSize, {}⟩
  refine Meets.bind (happly.imp (fun q hq => hq ▸ hp) (fun _ _ h => h.1) fun _ _ _ => trivial)
    fun applied => meets_get_bind ?_
  rintro q ⟨hI, hseen, hrows⟩
  refine meets_pure ?_
  rintro p' rfl
  exact ⟨hI, hseen, p'.added, hrows, rfl⟩

/-! ### The tally -/

/-- What was told is noted, each track once, apart from collections that wait to be brought in line, and
there are `n` rows. -/
structure Tally (waits : List Reading) (n : Int) (p : Intake (σ × List Reading)) : Prop where
  /-- Each track is noted once. -/
  nodup : p.seen.Nodup
  /-- What was told is noted or waits. -/
  told : ∀ x, x ∈ toldIds p.world.outside.2 ↔ x ∈ toldIds waits ∨ x ∈ p.seen
  /-- The number of rows. -/
  rows : (p.world.database.tracks.length : Int) = n

/-- While the collections `waits` wait in the beginning and the collections `waits'` in the end, a stage adds
as many rows as it counts. -/
def Counts (waits waits' : List Reading) (count : α → Int)
    (x : Action (Intake (σ × List Reading)) α) : Prop :=
  ∀ n, Yields (Tally waits n) x fun a => Tally waits' (n + count a)

/-! ### Rules -/

section Rules

variable {waits waits' waits'' : List Reading} {n : Int}

/-- A call that tells of no collection leaves the tally. -/
theorem keeps_tally_ask {y : Action (σ × List Reading) β} (hy : ∀ log, Keeps (·.2 = log) y) :
    Keeps (Tally waits n) (ask y) := by
  refine keeps_iff.2 ?_
  rintro p ⟨hnodup, htold, hrows⟩
  have hlog := keeps_iff.1 (hy p.world.outside.2) p.world.outside rfl
  refine ⟨hnodup, fun x => ?_, hrows⟩
  change x ∈ toldIds (y.runOn p.world.outside).2.2 ↔ _
  rw [hlog]
  exact htold x

theorem keeps_tally_watch (m : Monitor σ) :
    (∀ p, Keeps (Tally waits n) ((watch m.telling).report p)) ∧
      Keeps (Tally waits n) (watch m.telling).check ∧
      ∀ x, Keeps (Tally waits n) ((watch m.telling).pause x) :=
  ⟨fun p => keeps_tally_ask fun log => (leaves_telling m log).report p,
    keeps_tally_ask fun log => (leaves_telling m log).check,
    fun x => keeps_tally_ask fun log => (leaves_telling m log).pause x⟩

theorem keeps_tally_tell (m : Monitor σ) (phase : String) (current total : Int) (message : String) :
    Keeps (Tally waits n) ((watch m.telling).tell phase current total message) :=
  keeps_tell (keeps_tally_watch m).1 _ _ _ _

theorem keeps_tally_commit : Keeps (Tally (σ := σ) waits n) (inWorld World.commit) :=
  keeps_iff.2 fun _ hp => ⟨hp.nodup, hp.told, hp.rows⟩

namespace Counts

variable {count : α → Int} {count' : β → Int} {x : Action (Intake (σ × List Reading)) α}

theorem pure {a : α} (ha : count a = 0) :
    Counts waits waits count (Pure.pure a : Action (Intake (σ × List Reading)) α) :=
  fun n => meets_pure fun p hp => by rwa [ha, Int.add_zero]

/-- A step that leaves the tally, before a stage. -/
theorem after {y : Action (Intake (σ × List Reading)) β}
    {z : β → Action (Intake (σ × List Reading)) α} (hy : ∀ n, Keeps (Tally waits n) y)
    (hz : ∀ b, Counts waits waits' count (z b)) : Counts waits waits' count (y >>= z) :=
  fun n => Meets.bind (hy n).yields fun b => hz b n

/-- One stage after another. -/
theorem bind {z : α → Action (Intake (σ × List Reading)) β} (hx : Counts waits waits' count x)
    (hz : ∀ a, Counts waits' waits'' (fun b => count' b - count a) (z a)) :
    Counts waits waits'' count' (x >>= z) := by
  refine fun n => Meets.bind (hx n) fun a => (hz a (n + count a)).imp (fun _ h => h) ?_ fun _ _ h => h
  intro b p hp
  rwa [show n + count a + (count' b - count a) = n + count' b by omega] at hp

theorem ite {c : Prop} [Decidable c] {y : Action (Intake (σ × List Reading)) α}
    (hx : Counts waits waits' count x) (hy : Counts waits waits' count y) :
    Counts waits waits' count (if c then x else y) :=
  fun n => meets_ite (fun _ => hx n) fun _ => hy n

/-- The platform tells of collections, which wait then. -/
theorem asked {y : Action σ β} {entries : β → List Reading}
    {z : β → Action (Intake (σ × List Reading)) α} (hz : ∀ b, Counts (entries b) waits count (z b)) :
    Counts [] waits count (ask (y.telling entries) >>= z) := by
  refine fun n => Meets.bind (meets_of_forall ?_) fun b => hz b n
  rintro p ⟨hnodup, htold, hrows⟩
  refine (meets_ask_at ((yields_telling p.world.outside.2).at_state rfl)).imp (fun _ h => h) ?_
    fun _ _ _ => trivial
  rintro b _ ⟨u, hu, rfl⟩
  refine ⟨hnodup, fun x => ?_, hrows⟩
  have hseen : x ∈ toldIds p.world.outside.2 ↔ x ∈ p.seen :=
    (htold x).trans (or_iff_right List.not_mem_nil)
  change x ∈ toldIds u.2 ↔ _
  rw [hu, toldIds_append, List.mem_append, hseen]
  exact or_comm

end Counts

end Rules

/-! ### The stages -/

/-- A collection that waits is brought in line. -/
theorem counts_bringInLine {o : Outside (σ × List Reading)} {waits waits' : List Reading}
    (s : TrackSource) (remote : List RemoteTrack)
    (hwaits : ∀ x, x ∈ toldIds waits ↔ x ∈ idsOf remote ∨ x ∈ toldIds waits') :
    Counts waits waits' SyncResult.added (bringInLine o m.telling pace s remote) := by
  refine fun n => meets_of_forall fun p hp => ?_
  refine (counted_bringInLine (leaves_telling m p.world.outside.2) s remote rfl).imp (fun _ h => h) ?_
    fun _ _ h => h
  rintro r q ⟨hlog, hseen, new, hnew, hadded⟩
  have hrows := congrArg List.length hnew
  rw [List.length_append, Database.length_trackIds, Database.length_trackIds] at hrows
  refine ⟨hseen ▸ nodup_noteAll hp.nodup, fun x => ?_, ?_⟩
  · rw [hlog, hp.told, hwaits, hseen, mem_noteAll, Database.mem_keys_latestById, or_assoc]
    exact or_left_comm
  · rw [hrows, hadded, ← hp.rows]
    rfl

theorem counts_likedStage :
    Counts [] [] SyncResult.added (likedStage o.telling m.telling pace) := by
  unfold likedStage
  refine Counts.after (fun n => keeps_tally_tell m _ _ _ _) fun _ => Counts.asked fun liked => ?_
  have hliked : Counts [⟨(.likedSongs, ""), liked⟩] [] SyncResult.added
      (bringInLine o.telling m.telling pace ⟨.likedSongs, none, none⟩ liked) :=
    counts_bringInLine _ liked fun x => List.mem_append
  refine hliked.bind fun r => Counts.after (fun n => keeps_tally_tell m _ _ _ _) fun _ => ?_
  exact Counts.after (fun n => keeps_tally_commit) fun _ => Counts.pure (Int.sub_self _)

theorem counts_eachAlbum (total : Nat) : ∀ (albums : List RemoteAlbum) (index : Nat),
    Counts (albums.map RemoteAlbum.reading) [] SyncResult.added
      (eachAlbum o.telling m.telling pace total index albums) := by
  intro albums
  induction albums with
  | nil => exact fun _ => Counts.pure rfl
  | cons a rest ih =>
    intro index
    unfold eachAlbum
    refine Counts.after (fun n => (keeps_tally_watch m).2.1) fun _ => ?_
    refine Counts.after (fun n => keeps_tally_tell m _ _ _ _) fun _ => ?_
    refine Counts.bind (counts_bringInLine _ a.tracks fun x => List.mem_append) fun r => ?_
    refine Counts.bind (ih (index + 1)) fun others => Counts.pure ?_
    simp only [SyncResult.added_merge]
    omega

/-- Sources that are emptied add no rows, and nothing was told of them. -/
theorem counts_emptySources : ∀ sources : List TrackSource,
    Counts [] [] SyncResult.added (emptySources o.telling m.telling pace sources) := by
  intro sources
  induction sources with
  | nil => exact Counts.pure rfl
  | cons s rest ih =>
    unfold emptySources
    have hempty : Counts [] [] SyncResult.added (bringInLine o.telling m.telling pace s []) :=
      counts_bringInLine s [] fun x => by simp [idsOf]
    refine hempty.bind fun r => Counts.bind ih fun others => Counts.pure ?_
    simp only [SyncResult.added_merge]
    omega

theorem counts_albumStage :
    Counts [] [] SyncResult.added (albumStage o.telling m.telling pace) := by
  unfold albumStage
  refine Counts.after (fun n => keeps_tally_tell m _ _ _ _) fun _ => Counts.asked fun albums => ?_
  refine Counts.bind (counts_eachAlbum _ albums 0) fun r => Counts.after (fun n => keeps_get) fun p => ?_
  refine Counts.bind (counts_emptySources _) fun others => ?_
  refine Counts.after (fun n => keeps_tally_tell m _ _ _ _) fun _ => ?_
  refine Counts.after (fun n => keeps_tally_commit) fun _ => Counts.pure ?_
  simp only [SyncResult.added_merge]
  omega

/-- What is noted of a playlist concerns no rows. -/
theorem keeps_tally_saveSnapshot {waits : List Reading} {n : Int} (q : RemotePlaylist)
    (now : Timestamp) : Keeps (Tally (σ := σ) waits n)
      (query (Database.saveSnapshot q.externalId q.name q.snapshotId (some now))) := by
  refine meets_of_forall fun p hp => ?_
  refine (meets_query (Database.meets_saveSnapshot p.world.database _ _ _ _)).imp (fun _ h => h) ?_ ?_
  · rintro _ _ ⟨_, ⟨rows, rfl⟩, rfl⟩
    exact ⟨hp.nodup, hp.told, hp.rows⟩
  · rintro _ _ ⟨_, h, -⟩
    exact h.elim

theorem counts_filePlaylist (q : RemotePlaylist) (ts : List RemoteTrack) :
    Counts [⟨(.playlist, q.externalId), ts⟩] [] SyncResult.added
      (filePlaylist o.telling m.telling pace q ts) := by
  have hplaylist : Counts [⟨(.playlist, q.externalId), ts⟩] [] SyncResult.added
      (bringInLine o.telling m.telling pace ⟨.playlist, some q.externalId, some q.name⟩ ts) :=
    counts_bringInLine _ ts fun x => List.mem_append
  unfold filePlaylist
  refine hplaylist.bind fun r => ?_
  have hend : Counts (σ := σ) [] [] (fun r' => r'.added - r.added)
      (inWorld World.commit >>= fun _ => pure r) :=
    Counts.after (fun n => keeps_tally_commit) fun _ => Counts.pure (Int.sub_self _)
  refine Counts.ite ?_ hend
  refine Counts.after (fun n => keeps_iff.2 fun p hp => hp) fun now => ?_
  exact Counts.after (fun n => keeps_tally_saveSnapshot q now) fun _ => hend

/-- A playlist counts nothing if it is passed over. -/
theorem counts_onePlaylist (force : Bool) (snapshotOf : String → Option String) (total index : Nat)
    (q : RemotePlaylist) : Counts [] [] (fun r => r.elim 0 SyncResult.added)
      (onePlaylist o.telling m.telling pace force snapshotOf total index q) := by
  rw [onePlaylist_eq]
  refine Counts.after (fun n => ?_) fun wanted => Counts.ite ?_ (Counts.pure rfl)
  · unfold approach
    refine Keeps.bind (keeps_tally_watch m).2.1 fun _ => ?_
    refine Keeps.bind (keeps_tally_tell m _ _ _ _) fun _ => ?_
    refine keeps_ite (keeps_pure _) (keeps_ite ?_ (keeps_pure _))
    exact Keeps.bind (keeps_pauseFor (keeps_tally_watch m).2.2 _) fun _ => keeps_pure _
  · refine Counts.asked fun ts => Counts.bind (counts_filePlaylist q ts) fun r => ?_
    exact Counts.pure (Int.sub_self _)

theorem counts_eachPlaylist (force : Bool) (snapshotOf : String → Option String) (total : Nat) :
    ∀ (playlists : List RemotePlaylist) (index : Nat), Counts [] [] (fun r => r.1.added)
      (eachPlaylist o.telling m.telling pace force snapshotOf total index playlists) := by
  intro playlists
  induction playlists with
  | nil => exact fun _ => Counts.pure rfl
  | cons q rest ih =>
    intro index
    rw [eachPlaylist_cons]
    refine Counts.bind (counts_onePlaylist force snapshotOf total index q) fun r => ?_
    refine Counts.bind (ih (index + 1)) fun others => Counts.pure ?_
    cases r with
    | none => simp
    | some result =>
      simp only [Option.elim_some, SyncResult.added_merge]
      omega

theorem counts_playlistStage (force : Bool) :
    Counts [] [] SyncResult.added (playlistStage o.telling m.telling pace force) := by
  unfold playlistStage
  refine Counts.after (fun n => keeps_get) fun p => ?_
  refine Counts.after (fun n => keeps_tally_tell m _ _ _ _) fun _ => ?_
  refine Counts.after (fun n => keeps_tally_ask fun log => keeps_iff.2 fun _ h => h) fun listed => ?_
  refine Counts.bind (counts_eachPlaylist force _ _ _ 0) fun r => ?_
  exact Counts.after (fun n => keeps_tally_tell m _ _ _ _) fun _ => Counts.pure (Int.sub_self _)

/-- The result of the audio features tells of no new track. -/
theorem added_featureStage (s : Settings) {P : Intake σ → Prop} :
    Yields P (featureStage s o m) fun r _ => r.added = 0 := by
  unfold featureStage
  refine meets_get_bind fun p hp => meets_ite (fun _ => meets_pure fun _ _ => rfl) fun _ => ?_
  refine Meets.bind (Q := fun _ _ => True) yields_true fun _ => ?_
  refine Meets.bind (Q := fun _ _ => True) yields_true fun found => ?_
  rcases found with f | table
  · cases f <;> first | exact meets_pure fun _ _ => rfl | exact meets_throw fun _ _ => trivial
  · refine Meets.bind (Q := fun _ _ => True) yields_true fun _ => ?_
    exact Meets.bind (Q := fun _ _ => True) yields_true fun _ => meets_pure fun _ _ => rfl

/-- Audio features are stored in the rows that there are. -/
theorem counts_featureStage (s : Settings) :
    Counts [] [] SyncResult.added (featureStage s o.telling m.telling) := by
  refine fun n => meets_of_forall fun p hp => ?_
  have hinner : Keeps (fun q : Intake (σ × List Reading) => q.seen = p.seen ∧
      q.world.database.trackIds = p.world.database.trackIds) (featureStage s o.telling m.telling) :=
    keeps_featureStage_missing s (fun _ _ h => h) fun _ f _ h =>
      ⟨h.1, (Database.trackIds_withFeatures f).trans h.2⟩
  have hlog : Keeps (fun q : Intake (σ × List Reading) => q.world.outside.2 = p.world.outside.2)
      (featureStage s o.telling m.telling) :=
    keeps_featureStage_outside s (leaves_telling m p.world.outside.2) fun _ => keeps_iff.2 fun _ h => h
  refine (((hinner.meets.at_state ⟨rfl, rfl⟩).and (hlog.meets.at_state rfl)).yields.and
    (added_featureStage s)).imp (fun _ h => h) ?_ fun _ _ _ => trivial
  rintro r q ⟨⟨⟨hseen, hrows⟩, hlog⟩, hadded⟩
  have hlength := congrArg List.length hrows
  rw [Database.length_trackIds, Database.length_trackIds] at hlength
  refine ⟨hseen ▸ hp.nodup, fun x => ?_, ?_⟩
  · rw [hlog, hseen]
    exact hp.told x
  · rw [hlength, hp.rows, hadded, Int.add_zero]

/-- **The stages count the rows that they add**, and note what they are told. -/
theorem counts_stages (s : Settings) (options : IntakeOptions) :
    Counts [] [] SyncResult.added (stages s o.telling m.telling pace options) := by
  have hstage : ∀ {wanted : Bool} {x : Action (Intake (σ × List Reading)) SyncResult},
      Counts [] [] SyncResult.added x → Counts [] [] SyncResult.added (stage wanted x) :=
    fun hx => hx.ite (Counts.pure rfl)
  unfold stages
  refine (hstage counts_likedStage).bind fun liked => ?_
  refine (hstage counts_albumStage).bind fun albums => ?_
  refine (hstage (counts_playlistStage _)).bind fun playlists => ?_
  refine (hstage (counts_featureStage s)).bind fun features => Counts.pure ?_
  simp only [SyncResult.added_merge]
  omega

end Intake

/-! ### A whole pass -/

section Passes

variable {σ : Type} {s : Settings} {o : Outside σ} {m : Monitor σ} {pace : IntakePace}
  {options : IntakeOptions} {w w' : World σ} {result : SyncResult}

/-- **What a pass counts**, when it comes to its end: as new the rows that there are more than before, and
in all the tracks that it was told of, each once. -/
theorem counted_takeInLibrary (ends : (takeInLibrary s o m pace options).runOn w = (.ok result, w')) :
    result.added = w'.database.tracks.length - w.database.tracks.length ∧
      result.total = (toldIds (readings s o m pace options w)).toFinset.card := by
  have htelling := runOn_telling ends
  rw [runOn_takeInLibrary] at htelling
  rcases hrun : (Intake.stages s o.telling m.telling pace options).runOn
    { world := ⟨w.database, w.saved, (w.outside, [])⟩ } with ⟨f | r, p⟩
  · rw [hrun] at htelling
    cases htelling
  · rw [hrun] at htelling
    have hstart : Intake.Tally [] w.database.tracks.length
        { world := ⟨w.database, w.saved, (w.outside, ([] : List Reading))⟩ } :=
      ⟨List.nodup_nil, fun x => by simp, rfl⟩
    obtain ⟨hnodup, htold, hrows⟩ := (Intake.counts_stages s options _).of_ok hstart hrun
    obtain ⟨hresult, hworld⟩ := Prod.mk.inj htelling
    have hdatabase := congrArg World.database hworld
    have hlog : p.world.outside.2 = readings s o m pace options w :=
      congrArg (fun v => v.outside.2) hworld
    have htotal : p.seen.toFinset = (toldIds (readings s o m pace options w)).toFinset := by
      ext x
      rw [List.mem_toFinset, List.mem_toFinset, ← hlog]
      exact ((htold x).trans (or_iff_right List.not_mem_nil)).symm
    cases hresult
    rw [← hdatabase, ← htotal, List.toFinset_card_of_nodup hnodup]
    refine ⟨?_, rfl⟩
    change r.added = (p.world.database.tracks.length : Int) - _
    rw [hrows]
    omega

end Passes

/-! ### A library of four tracks -/

namespace Surroundings

/-- A track with an id. -/
def song (id : String) : RemoteTrack :=
  { externalId := id, title := .text id, artist := .text "Artist" }

/-- One of the liked tracks is listed twice, and is on a saved album and a playlist besides. -/
def overlapping : Account where
  liked := [song "a", song "b", song "a"]
  albums := [{ externalId := "x", name := "Album", tracks := [song "b", song "c"] }]
  userPlaylists := [{ externalId := "p", name := "Road" }]
  playlistTracks := [("p", [song "c", song "a", song "d"])]

/-- One track was taken in before. -/
def extended : World Surroundings :=
  showing overlapping (takenIn true (beside { liked := [song "a"] })).2

/-- What is seen of the result of a pass: how many tracks were met, and how many of them are new. -/
def seenCounts : Except Failure SyncResult × World Surroundings → Option (Int × Int)
  | (.ok result, _) => some (result.total, result.added)
  | (.error _, _) => none

/-- Four tracks are met, three of which are new. -/
theorem counted_extended : ∃ result w', takenIn true extended = (.ok result, w') ∧
    result.total = 4 ∧ result.added = 3 ∧
    result.added = w'.database.tracks.length - extended.database.tracks.length ∧
    result.total = (toldIds (readings {} outside monitor ({} : Settings).intakePace
      { forceRefresh := true, features := false } extended)).toFinset.card := by
  have hseen : seenCounts (takenIn true extended) = some (4, 3) := by decide +kernel
  rcases hpass : takenIn true extended with ⟨f | result, w'⟩
  · rw [hpass] at hseen
    cases hseen
  · rw [hpass] at hseen
    obtain ⟨htotal, hadded⟩ := Prod.mk.inj (Option.some.inj hseen)
    exact ⟨result, w', rfl, htotal, hadded, counted_takeInLibrary hpass⟩

end Surroundings

end Mixtape
