import Mixtape.Proofs.Database.Plays

/-!
# A history of plays, told in batches

The history of plays is told in batches that overlap and repeat themselves, in any order, and tells of
tracks that are not stored. What has been counted in the end depends on which plays were told, and on
nothing else: every track has been played as often as there are instants at which it was, and last at
the latest of them. Only the duration of a play is what it was told to be first.

## Main definitions

* `Database.recordEach` — plays recorded batch by batch.
* `Database.Counts d plays e` — what has become of the database when plays were told.
* `Database.Alike e e'` — the same plays are counted and stored.

## Main results

* `runOn_recordEach` — what batches do is what one batch of all their plays would have done.
* `counts_tallied`, `alike_tallied` — what that is, and that it does not depend on the order.
* `recordEach_counts` — **plays are counted once**, however they are told.
-/

namespace Mixtape

namespace Database

open Action Timestamp

variable {d e : Database} {p : KnownPlay} {r : TrackRow} {told plays plays' : List Play}
  {batches batches' : List (Timestamp × List Play)}

/-! ### Batches -/

/-- Plays recorded batch by batch, each at its time; the numbers that are handed back. -/
def recordEach (batches : List (Timestamp × List Play)) : Action Database (List Nat) :=
  batches.mapM fun b => recordPlays b.1 b.2

/-- The plays of batches. -/
def playsIn (batches : List (Timestamp × List Play)) : List Play := batches.flatMap Prod.snd

/-- Of each batch after others, how many plays were not seen before. -/
def unseen (d : Database) (told : List Play) : List (Timestamp × List Play) → List Nat
  | [] => []
  | (_, plays) :: rest =>
    (dedupAfter (d.seen told) (d.seen plays)).length :: unseen d (told ++ plays) rest

/-- Batch after batch, the new plays are put in and counted in as if all had been told at once. -/
theorem runOn_recordEach (hd : d.Unplayed) (h : d.Admits (told ++ playsIn batches)) :
    (recordEach batches).runOn (d.tallied told) =
      (.ok (d.unseen told batches), d.tallied (told ++ playsIn batches)) := by
  unfold recordEach
  induction batches generalizing told with
  | nil =>
    rw [playsIn, List.flatMap_nil, List.append_nil]
    rfl
  | cons b rest ih =>
    rw [playsIn, List.flatMap_cons, ← List.append_assoc] at h ⊢
    rw [List.mapM_cons, runOn_bind,
      runOn_recordPlays hd (h.mono (List.subset_append_left _ (playsIn rest)))]
    dsimp only
    rw [runOn_bind, ih h]
    rfl

theorem tallied_nil (hd : d.Unplayed) : d.tallied [] = d := by
  have htracks : d.tracks.map (played (d.firsts [])) = d.tracks := List.map_id _
  unfold tallied
  rw [htracks]
  change { d with plays := [] } = d
  rw [← hd.plays]

/-! ### What is counted -/

/-- What becomes of a track when plays are told: it has been played as often as before and once more
at each instant, and last at the latest of all moments. -/
structure Tallies (plays : List Play) (r q : TrackRow) : Prop where
  /-- The rest is as it was. -/
  rest : q = { r with playCount := q.playCount, lastPlayedAt := q.lastPlayedAt }
  /-- Every instant counts. -/
  count : ∃ n, r.playCount = .int n ∧ q.playCount = .int (n + (instantsOf r.externalId plays).length)
  /-- The latest moment is noted. -/
  latest : IsLatest (r.lastPlayedAt.toList ++ momentsOf r.externalId plays) q.lastPlayedAt

/-- What becomes of the database when plays are told. -/
structure Counts (d : Database) (plays : List Play) (e : Database) : Prop where
  /-- Nothing else has changed. -/
  rest : e = { d with tracks := e.tracks, plays := e.plays }
  /-- Every track has its plays counted. -/
  tracks : List.Forall₂ (Tallies plays) d.tracks e.tracks
  /-- No play is stored twice. -/
  once : (e.plays.map PlayRow.mark).Nodup
  /-- The plays that were told are stored. -/
  stored : ∀ m, m ∈ e.plays.map PlayRow.mark ↔ m ∈ d.seen plays
  /-- Each is stored as it was told first. -/
  first : ∀ row ∈ e.plays, ∃ r ∈ d.tracks, ∃ p,
    plays.find? (fun p => p.externalId == r.externalId && p.playedAt.instant == row.playedAt.instant) =
      some p ∧ row = KnownPlay.row ⟨r.id, p.playedAt, p.duration⟩

/-- Two databases in which the same plays are counted and stored, in whatever order and of whatever
durations. -/
structure Alike (e e' : Database) : Prop where
  /-- Nothing else differs. -/
  rest : e' = { e with plays := e'.plays }
  /-- The same plays are stored. -/
  marks : (e'.plays.map PlayRow.mark).Perm (e.plays.map PlayRow.mark)

theorem tallies_played (hd : d.Unplayed) (h : d.Admits plays) (hr : r ∈ d.tracks) :
    Tallies plays r (played (d.firsts plays) r) := by
  obtain ⟨n, hcount, -⟩ := h.counts r hr
  have hutc : ∀ p ∈ d.firsts plays, p.playedAt.offset = 0 := fun p hp => (h.storable_firsts hp).utc
  rw [played_eq hcount (hd.utc r hr) hutc]
  refine ⟨rfl, ⟨n, hcount, ?_⟩, ?_⟩
  · rw [length_playsOf_firsts hd.toDistinct hr]
  · refine (isLatest_latestOf ..).congr fun t => ?_
    rw [List.mem_append, List.mem_append]
    refine or_congr_right (mem_iff_of_instants ?_ ?_ (fun i => ?_) t)
    · exact utc_of_momentsOf h.utc
    · exact utc_of_playsOf hutc
    · rw [← mem_dedup, List.map_map]
      exact (mem_instants_playsOf hd.toDistinct hr).symm

/-! ### What is stored -/

/-- A play of a stored track that is told first is the first of its track and instant. -/
theorem find?_of_mem_firsts (hd : d.Distinct) (hp : p ∈ d.firsts plays) :
    ∃ r ∈ d.tracks, ∃ q, plays.find? (fun q =>
        q.externalId == r.externalId && q.playedAt.instant == p.playedAt.instant) = some q ∧
      p = ⟨r.id, q.playedAt, q.duration⟩ := by
  have hfirst := find?_of_mem_unrecorded hp
  unfold known at hfirst
  rw [List.find?_filterMap] at hfirst
  obtain ⟨q, hq, hknown⟩ := Option.bind_eq_some_iff.1 hfirst
  obtain ⟨r, hr, rfl⟩ := Option.map_eq_some_iff.1 hknown
  have hmem : r ∈ d.tracks := List.mem_of_find?_eq_some hr
  have hx : r.externalId = q.externalId := by simpa using List.find?_some hr
  refine ⟨r, hmem, q, ?_, rfl⟩
  rw [← hq]
  congr 1
  funext p
  rw [Bool.eq_iff_iff, Bool.and_eq_true, beq_iff_eq, beq_iff_eq, Option.any_map, Option.any_eq_true]
  have hown : (r.id, p.externalId) ∈ d.names ↔ p.externalId = r.externalId := by
    have hnamed : (r.id, r.externalId) ∈ d.names := mem_names.2 ⟨r, hmem, rfl, rfl⟩
    exact ⟨fun h => hd.id_eq h hnamed, fun h => h ▸ hnamed⟩
  rw [← hown, ← trackNamed?_map_id hd, Option.map_eq_some_iff]
  constructor
  · rintro ⟨⟨k, hk, hid⟩, hinstant⟩
    exact ⟨k, hk, beq_iff_eq.2 (Prod.ext hid hinstant)⟩
  · rintro ⟨k, hk, hmark⟩
    obtain ⟨hid, hinstant⟩ := Prod.mk.inj (beq_iff_eq.1 hmark)
    exact ⟨⟨k, hk, hid⟩, hinstant⟩

theorem counts_tallied (hd : d.Unplayed) (h : d.Admits plays) : d.Counts plays (d.tallied plays) where
  rest := rfl
  tracks := List.forall₂_map_right_iff.2 (List.forall₂_same.2 fun r hr => tallies_played hd h hr)
  once := by
    rw [map_mark_tallied h]
    exact nodup_map_mark_unrecorded
  stored m := by rw [map_mark_tallied h, mem_map_mark_firsts]
  first row hrow := by
    obtain ⟨p, hp, rfl⟩ := List.mem_map.1 hrow
    obtain ⟨r, hr, q, hq, rfl⟩ := find?_of_mem_firsts hd.toDistinct hp
    refine ⟨r, hr, q, ?_, rfl⟩
    rw [← hq]
    change plays.find? (fun _ => _ && _ == q.playedAt.asUtc.instant) = _
    rw [asUtc_of_offset (h.storable_firsts hp).utc]

/-! ### The order of plays -/

/-- What has been counted does not depend on the order of the plays. -/
theorem tallies_unique {q q' : TrackRow} (h : Tallies plays r q) (h' : Tallies plays' r q')
    (hr : ∀ t ∈ r.lastPlayedAt, t.offset = 0) (hplays : ∀ p ∈ plays, p.playedAt.offset = 0)
    (hsame : ∀ p, p ∈ plays' ↔ p ∈ plays) : q = q' := by
  obtain ⟨hrest, ⟨n, hn, hcount⟩, hlatest⟩ := h
  obtain ⟨hrest', ⟨n', hn', hcount'⟩, hlatest'⟩ := h'
  have hmoments : ∀ t, t ∈ momentsOf r.externalId plays ↔ t ∈ momentsOf r.externalId plays' := by
    intro t
    simp [momentsOf, hsame]
  have hinstants : (instantsOf r.externalId plays).length = (instantsOf r.externalId plays').length := by
    refine ((List.perm_ext_iff_of_nodup (nodup_dedup _) (nodup_dedup _)).2 fun i => ?_).length_eq
    rw [← instantsOf, ← instantsOf]
    simp only [mem_instantsOf, hsame]
  have hsamecount : q.playCount = q'.playCount := by
    rw [hn] at hn'
    rw [hcount, hcount', hinstants, Json.int.inj hn']
  have hsamelatest : q.lastPlayedAt = q'.lastPlayedAt := by
    refine hlatest.unique (hlatest'.congr fun t => ?_) fun t ht => ?_
    · rw [List.mem_append, List.mem_append, hmoments t]
    · rcases List.mem_append.1 ht with ht | ht
      · exact hr t (Option.mem_toList.1 ht)
      · exact utc_of_momentsOf hplays t ht
  rw [hrest, hrest', hsamecount, hsamelatest]

theorem mem_seen_congr (hsame : ∀ p, p ∈ plays' ↔ p ∈ plays) (m : Int × Int) :
    m ∈ d.seen plays' ↔ m ∈ d.seen plays := by
  unfold seen known
  simp [hsame]

/-- The same plays are counted and stored alike, whatever the order they are told in. -/
theorem alike_tallied (hd : d.Unplayed) (h : d.Admits plays) (h' : d.Admits plays')
    (hsame : ∀ p, p ∈ plays' ↔ p ∈ plays) : Alike (d.tallied plays) (d.tallied plays') := by
  have htracks : (d.tallied plays').tracks = (d.tallied plays).tracks :=
    List.map_congr_left fun r hr => (tallies_unique (tallies_played hd h hr)
      (tallies_played hd h' hr) (hd.utc r hr) h.utc hsame).symm
  refine ⟨?_, ?_⟩
  · rw [← htracks]
    rfl
  · have hcounts := counts_tallied hd h
    have hcounts' := counts_tallied hd h'
    refine (List.perm_ext_iff_of_nodup hcounts'.once hcounts.once).2 fun m => ?_
    rw [hcounts'.stored, hcounts.stored, mem_seen_congr hsame]

/-- No play is told with two durations. -/
def Agreeing (plays : List Play) : Prop :=
  ∀ p ∈ plays, ∀ q ∈ plays, p.externalId = q.externalId → p.playedAt = q.playedAt →
    p.duration = q.duration

/-- If no play is told with two durations, what is stored of a play does not depend on the order. -/
theorem plays_subset (hd : d.Distinct) {e e' : Database} (h : d.Counts plays e)
    (h' : d.Counts plays' e') (hutc : ∀ p ∈ plays, p.playedAt.offset = 0)
    (hsame : ∀ p, p ∈ plays' ↔ p ∈ plays) (hone : Agreeing plays) : e.plays ⊆ e'.plays := by
  intro row hrow
  have hseen : row.mark ∈ e'.plays.map PlayRow.mark := by
    rw [h'.stored, mem_seen_congr hsame, ← h.stored]
    exact List.mem_map_of_mem hrow
  obtain ⟨row', hrow', hmark⟩ := List.mem_map.1 hseen
  obtain ⟨r, hr, p, hp, heq⟩ := h.first row hrow
  obtain ⟨r', hr', p', hp', heq'⟩ := h'.first row' hrow'
  have hpmem := List.mem_of_find?_eq_some hp
  have hpmem' := (hsame p').1 (List.mem_of_find?_eq_some hp')
  obtain ⟨hx, hinstant⟩ : p.externalId = r.externalId ∧ p.playedAt.instant = row.playedAt.instant := by
    simpa using List.find?_some hp
  obtain ⟨hx', hinstant'⟩ :
      p'.externalId = r'.externalId ∧ p'.playedAt.instant = row'.playedAt.instant := by
    simpa using List.find?_some hp'
  obtain ⟨htrack, hat⟩ := Prod.mk.inj hmark
  have hid : r'.id = r.id := by
    rw [heq, heq'] at htrack
    exact htrack
  have hnames : r'.externalId = r.externalId :=
    hd.id_eq (hid ▸ mem_names.2 ⟨r', hr', rfl, rfl⟩) (mem_names.2 ⟨r, hr, rfl, rfl⟩)
  have hplayed : p.playedAt = p'.playedAt :=
    eq_of_instant (hutc p hpmem) (hutc p' hpmem') (by rw [hinstant, hinstant', hat])
  have hduration : p.duration = p'.duration :=
    hone p hpmem p' hpmem' (by rw [hx, hx', hnames]) hplayed
  rw [heq, ← hid, hplayed, hduration, ← heq']
  exact hrow'

theorem perm_plays_tallied (hd : d.Unplayed) (h : d.Admits plays) (h' : d.Admits plays')
    (hsame : ∀ p, p ∈ plays' ↔ p ∈ plays) (hone : Agreeing plays) :
    (d.tallied plays').plays.Perm (d.tallied plays).plays := by
  have hcounts := counts_tallied hd h
  have hcounts' := counts_tallied hd h'
  have hone' : Agreeing plays' := fun p hp q hq => hone p ((hsame p).1 hp) q ((hsame q).1 hq)
  refine (List.perm_ext_iff_of_nodup hcounts'.once.of_map hcounts.once.of_map).2 fun row => ⟨?_, ?_⟩
  · exact fun hrow =>
      plays_subset hd.toDistinct hcounts' hcounts h'.utc (fun p => (hsame p).symm) hone' hrow
  · exact fun hrow => plays_subset hd.toDistinct hcounts hcounts' h.utc hsame hone hrow

/-! ### Plays are counted once -/

/-- **Plays are counted once.** In a library whose plays are yet to be told, plays are recorded batch
by batch: each batch comes to the number of its plays that were not seen before, and in the end every
track has been played as often as before and once more at each instant, and last at the latest of all
moments. The same plays in other batches and in another order leave the same counts and the same plays
stored; only the duration of a play is what it was told to be first, and even that is the same if no
play is told with two durations. -/
theorem recordEach_counts (hd : d.Unplayed) (h : d.Admits (playsIn batches)) :
    ∃ e, (recordEach batches).runOn d = (.ok (d.unseen [] batches), e) ∧
      d.Counts (playsIn batches) e ∧
      ∀ batches', (∀ p, p ∈ playsIn batches' ↔ p ∈ playsIn batches) →
        ∃ e', (recordEach batches').runOn d = (.ok (d.unseen [] batches'), e') ∧ Alike e e' ∧
          (Agreeing (playsIn batches) → e'.plays.Perm e.plays) := by
  have hrun : ∀ {batches}, d.Admits (playsIn batches) →
      (recordEach batches).runOn d = (.ok (d.unseen [] batches), d.tallied (playsIn batches)) := by
    intro batches h
    have hfrom : (recordEach batches).runOn (d.tallied []) =
        (.ok (d.unseen [] batches), d.tallied (playsIn batches)) := runOn_recordEach hd h
    rwa [tallied_nil hd] at hfrom
  refine ⟨d.tallied (playsIn batches), hrun h, counts_tallied hd h, fun batches' hsame => ?_⟩
  have h' : d.Admits (playsIn batches') := h.mono fun p hp => (hsame p).1 hp
  exact ⟨_, hrun h', alike_tallied hd h h' hsame, perm_plays_tallied hd h h' hsame⟩

/-! ### Examples -/

/-- A library of two tracks, one of which was played before. -/
def twoTracks : Database where
  tracks :=
    [{ id := 1, externalId := "x", title := "X", artist := "A", addedAt := .utc 0, playCount := .int 2
       lastPlayedAt := some (.utc 50) },
     { id := 2, externalId := "y", title := "Y", artist := "A", addedAt := .utc 0 }]

/-- Two windows of a history that overlap, one of them with a play that is told twice and one of a track
that is not stored. -/
def windows : List (Timestamp × List Play) :=
  [(.utc 90,
      [⟨"x", .utc 40, .int 1⟩, ⟨"y", .utc 60, .int 2⟩, ⟨"y", .utc 60, .int 2⟩, ⟨"z", .utc 60, .int 3⟩]),
    (.utc 91, [⟨"y", .utc 60, .int 2⟩, ⟨"x", .utc 70, .int 4⟩])]

theorem unplayed_twoTracks : twoTracks.Unplayed where
  numbers := by decide
  ids := by decide
  plays := rfl
  utc := by decide

theorem admits_windows : twoTracks.Admits (playsIn windows) where
  utc := by decide
  durations := by decide
  counts := by
    intro r hr
    rcases List.mem_cons.1 hr with rfl | hr
    · exact ⟨2, rfl, by decide, by decide⟩
    · obtain rfl := List.mem_singleton.1 hr
      exact ⟨0, rfl, by decide, by decide⟩

theorem recordEach_counts_windows :
    ∃ e, (recordEach windows).runOn twoTracks = (.ok [2, 1], e) ∧
      twoTracks.Counts (playsIn windows) e ∧
      ∃ e', (recordEach [(.utc 92, (playsIn windows).reverse)]).runOn twoTracks = (.ok [3], e') ∧
        Alike e e' := by
  obtain ⟨e, hrun, hcounts, hothers⟩ := recordEach_counts unplayed_twoTracks admits_windows
  obtain ⟨e', hrun', halike, -⟩ := hothers [(.utc 92, (playsIn windows).reverse)] <| by
    intro p
    rw [playsIn, List.flatMap_singleton, List.mem_reverse]
  exact ⟨e, hrun, hcounts, e', hrun', halike⟩

/-- One play of a track. -/
def lasting (duration : Int) : Play := ⟨"x", .utc 60, .int duration⟩

/-- A library whose track was played as often as can be stored. -/
def playedOut : Database where
  tracks :=
    [{ id := 1, externalId := "x", title := "X", artist := "A", addedAt := .utc 0
       playCount := .int (storableBound - 1) }]

/-- **A play that is told with two durations is stored with the first of them**, so what is stored
depends on the order; and neither a duration nor a count that is too large can be stored. -/
theorem recordEach_not_counts :
    ¬((recordEach [(.utc 90, [lasting 1, lasting 2])]).runOn twoTracks).2.plays.Perm
        ((recordEach [(.utc 90, [lasting 2, lasting 1])]).runOn twoTracks).2.plays ∧
      ((recordEach [(.utc 90, [lasting storableBound])]).runOn twoTracks).1.isOk = false ∧
      ((recordEach [(.utc 90, [lasting 1])]).runOn playedOut).1.isOk = false := by
  decide +kernel

end Database

end Mixtape
