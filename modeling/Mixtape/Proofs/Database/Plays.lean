import Mixtape.Proofs.Database.Sources
import Mathlib.Data.List.Perm.Subperm

/-!
# Plays that are told again

A play is known by its track and its instant. The first time it is told it is put in, and its track has
been played once more; told again it is passed over. So what a batch of plays does after others were
told is what the two would have done as one batch.

## Main definitions

* `Timestamp.IsLatest` — the latest of moments.
* `Database.seen d plays` — the plays of stored tracks, each by the number of its track and its instant.
* `Database.Unplayed`, `Database.Admits` — libraries and plays that can be counted.
* `Database.tallied d plays` — the database after plays were told.

## Main results

* `unrecorded_append`, `played_append` — plays that are told one after the other.
* `length_playsOf_firsts` — a track has as many plays as there are instants at which it was played.
* `runOn_recordPlays` — **what one batch does** after other plays were told.
-/

namespace Mixtape

/-! ### Moments -/

namespace Timestamp

/-- A moment is the latest of those that are given; there is none if none is given. -/
def IsLatest (moments : List Timestamp) : Option Timestamp → Prop
  | none => moments = []
  | some t => t ∈ moments ∧ ∀ u ∈ moments, u.instant ≤ t.instant

variable {moments moments' : List Timestamp} {t u : Timestamp} {o o' : Option Timestamp}

theorem eq_of_instant (ht : t.offset = 0) (hu : u.offset = 0) (h : t.instant = u.instant) : t = u := by
  obtain ⟨wall, offset⟩ := t
  obtain ⟨wall', offset'⟩ := u
  simp only [instant] at ht hu h ⊢
  obtain rfl := ht
  obtain rfl := hu
  simpa using h

/-- Moments of universal time are told by their instants. -/
theorem mem_iff_of_instants (h : ∀ t ∈ moments, t.offset = 0) (h' : ∀ t ∈ moments', t.offset = 0)
    (hsame : ∀ i, i ∈ moments.map instant ↔ i ∈ moments'.map instant) (t : Timestamp) :
    t ∈ moments ↔ t ∈ moments' := by
  constructor
  · intro ht
    obtain ⟨u, hu, heq⟩ := List.mem_map.1 ((hsame _).1 (List.mem_map_of_mem ht))
    exact eq_of_instant (h' u hu) (h t ht) heq ▸ hu
  · intro ht
    obtain ⟨u, hu, heq⟩ := List.mem_map.1 ((hsame _).2 (List.mem_map_of_mem ht))
    exact eq_of_instant (h u hu) (h' t ht) heq ▸ hu

theorem IsLatest.congr (h : IsLatest moments o) (hmem : ∀ t, t ∈ moments' ↔ t ∈ moments) :
    IsLatest moments' o := by
  cases o with
  | none =>
    obtain rfl : moments = [] := h
    exact List.eq_nil_iff_forall_not_mem.2 fun t ht => List.not_mem_nil ((hmem t).1 ht)
  | some t => exact ⟨(hmem t).2 h.1, fun u hu => h.2 u ((hmem u).1 hu)⟩

/-- The latest of some moments takes their place among others. -/
theorem IsLatest.append (h : IsLatest moments (some t)) (h' : IsLatest (t :: moments') o) :
    IsLatest (moments ++ moments') o := by
  cases o with
  | none => cases h'
  | some u =>
    obtain ⟨hmem, hlast⟩ := h'
    refine ⟨?_, fun v hv => ?_⟩
    · rcases List.mem_cons.1 hmem with rfl | hmem
      · exact List.mem_append_left _ h.1
      · exact List.mem_append_right _ hmem
    · rcases List.mem_append.1 hv with hv | hv
      · exact Int.le_trans (h.2 v hv) (hlast t List.mem_cons_self)
      · exact hlast v (List.mem_cons_of_mem t hv)

/-- Of moments of universal time only one is the latest. -/
theorem IsLatest.unique (h : IsLatest moments o) (h' : IsLatest moments o')
    (hutc : ∀ t ∈ moments, t.offset = 0) : o = o' := by
  cases o with
  | none =>
    obtain rfl : moments = [] := h
    cases o' with
    | none => rfl
    | some t => exact absurd h'.1 List.not_mem_nil
  | some t =>
    cases o' with
    | none => exact absurd (h' ▸ h.1 : t ∈ []) List.not_mem_nil
    | some u =>
      rw [eq_of_instant (hutc t h.1) (hutc u h'.1) (Int.le_antisymm (h'.2 t h.1) (h.2 u h'.1))]

end Timestamp

/-- What a play is known by: the number of its track, and its instant. -/
def PlayRow.mark (row : PlayRow) : Int × Int := (row.track, row.playedAt.instant)

namespace Database

open Action Timestamp

variable {d : Database} {p : KnownPlay} {ps qs : List KnownPlay} {rows rows' : List PlayRow}
  {r : TrackRow} {now : Timestamp}

/-! ### Plays that are told again -/

/-- What a play is known by: the number of its track, and its instant. -/
def KnownPlay.mark (p : KnownPlay) : Int × Int := (p.track, p.playedAt.instant)

theorem isRecorded_iff : isRecorded rows p = true ↔ p.mark ∈ rows.map PlayRow.mark := by
  unfold isRecorded
  rw [List.any_eq_true, List.mem_map]
  refine exists_congr fun row => and_congr_right fun _ => ?_
  rw [Bool.and_eq_true, beq_iff_eq, beq_iff_eq]
  exact (iff_of_eq (Prod.mk.injEq ..)).symm

theorem unrecorded_cons : unrecorded rows (p :: ps) =
    if p.mark ∈ rows.map PlayRow.mark then unrecorded rows ps
    else p :: unrecorded (⟨p.track, p.playedAt, p.duration⟩ :: rows) ps := by
  rw [unrecorded]
  by_cases h : p.mark ∈ rows.map PlayRow.mark
  · rw [if_pos h, if_pos (isRecorded_iff.2 h)]
  · rw [if_neg h, if_neg fun hrec => h (isRecorded_iff.1 hrec)]

/-- Which plays are not recorded yet is a matter of the marks of those that are. -/
theorem unrecorded_congr (h : ∀ m, m ∈ rows.map PlayRow.mark ↔ m ∈ rows'.map PlayRow.mark) :
    unrecorded rows ps = unrecorded rows' ps := by
  induction ps generalizing rows rows' with
  | nil => rfl
  | cons p ps ih =>
    rw [unrecorded_cons, unrecorded_cons, ih h]
    simp only [h p.mark]
    congr 2
    refine ih fun m => ?_
    rw [List.map_cons, List.map_cons, List.mem_cons, List.mem_cons, h m]

/-- The marks of the plays that are not recorded yet: each mark that is told, once, unless it is among
the rows. -/
theorem map_mark_unrecorded : (unrecorded rows ps).map KnownPlay.mark =
    dedupAfter (rows.map PlayRow.mark) (ps.map KnownPlay.mark) := by
  induction ps generalizing rows with
  | nil => rfl
  | cons p ps ih =>
    rw [unrecorded_cons, List.map_cons, dedupAfter]
    split
    · exact ih
    · rw [List.map_cons, ih]
      rfl

theorem mem_map_mark_unrecorded {m : Int × Int} : m ∈ (unrecorded rows ps).map KnownPlay.mark ↔
    m ∈ ps.map KnownPlay.mark ∧ m ∉ rows.map PlayRow.mark := by
  rw [map_mark_unrecorded, mem_dedupAfter]

theorem nodup_map_mark_unrecorded : ((unrecorded rows ps).map KnownPlay.mark).Nodup := by
  rw [map_mark_unrecorded]
  exact nodup_dedupAfter ..

/-- Each of them is the first play with its mark that is told. -/
theorem find?_of_mem_unrecorded (h : p ∈ unrecorded rows ps) : ps.find? (·.mark == p.mark) = some p := by
  induction ps generalizing rows with
  | nil => cases h
  | cons q ps ih =>
    rw [unrecorded_cons] at h
    split at h
    · rename_i hq
      have hne : q.mark ≠ p.mark := by
        intro heq
        exact (mem_map_mark_unrecorded.1 (List.mem_map_of_mem h)).2 (heq ▸ hq)
      rw [List.find?_cons_of_neg (by simpa using hne)]
      exact ih h
    · rcases List.mem_cons.1 h with rfl | h
      · exact List.find?_cons_of_pos (by simp)
      · have hne : q.mark ≠ p.mark := by
          intro heq
          refine (mem_map_mark_unrecorded.1 (List.mem_map_of_mem h)).2 ?_
          rw [← heq]
          exact List.mem_cons_self
        rw [List.find?_cons_of_neg (by simpa using hne)]
        exact ih h

theorem mem_of_mem_unrecorded (h : p ∈ unrecorded rows ps) : p ∈ ps :=
  List.mem_of_find?_eq_some (find?_of_mem_unrecorded h)

/-- **Plays that are told after others**: those of them that are new come after the new ones of the
others, whatever rows stand for these. -/
theorem unrecorded_append
    (h : ∀ m, m ∈ rows'.map PlayRow.mark ↔ m ∈ rows.map PlayRow.mark ∨ m ∈ ps.map KnownPlay.mark) :
    unrecorded rows (ps ++ qs) = unrecorded rows ps ++ unrecorded rows' qs := by
  induction ps generalizing rows with
  | nil =>
    refine unrecorded_congr fun m => ?_
    rw [h m]
    simp
  | cons p ps ih =>
    rw [List.cons_append, unrecorded_cons, unrecorded_cons]
    split
    · rename_i hp
      refine ih fun m => ?_
      have hagain : m ∈ rows.map PlayRow.mark ∨ m = p.mark ↔ m ∈ rows.map PlayRow.mark :=
        or_iff_left_of_imp fun hm => hm ▸ hp
      rw [h m, List.map_cons, List.mem_cons, ← or_assoc, hagain]
    · rw [List.cons_append]
      refine congrArg (List.cons p) (ih fun m => ?_)
      rw [h m, List.map_cons, List.mem_cons, List.map_cons, List.mem_cons]
      change _ ∨ m = p.mark ∨ _ ↔ (m = p.mark ∨ _) ∨ _
      tauto

/-! ### Rows of plays -/

/-- The row of a play. -/
def KnownPlay.row (p : KnownPlay) : PlayRow where
  track := p.track
  playedAt := p.playedAt.asUtc
  duration := (Column.neededCount (orDefault p.duration (.int 0))).toOption.getD .null

/-- A play at a time of universal time, whose duration can be stored. -/
structure KnownPlay.Storable (p : KnownPlay) : Prop where
  /-- The time is of universal time. -/
  utc : p.playedAt.offset = 0
  /-- The duration can be stored. -/
  duration : (Column.neededCount (orDefault p.duration (.int 0))).isOk = true

theorem KnownPlay.Storable.mark_row (h : p.Storable) : p.row.mark = p.mark := by
  unfold row PlayRow.mark mark
  dsimp only
  rw [asUtc_of_offset h.utc]

theorem map_mark_row (h : ∀ p ∈ ps, p.Storable) :
    (ps.map KnownPlay.row).map PlayRow.mark = ps.map KnownPlay.mark := by
  rw [List.map_map]
  exact List.map_congr_left fun p hp => (h p hp).mark_row

/-- A play that is not recorded can be put in. -/
theorem insertPlay_eq_ok {oneOfSeveral : Bool} (h : p.Storable)
    (hnew : p.mark ∉ d.plays.map PlayRow.mark) :
    insertPlay now oneOfSeveral d p = .ok { d with plays := d.plays ++ [p.row] } := by
  have hfree : (d.plays.any fun r => r.track == p.track && r.playedAt == p.playedAt.asUtc) = false := by
    rw [List.any_eq_false]
    intro row hrow hsame
    rw [Bool.and_eq_true, beq_iff_eq, beq_iff_eq, asUtc_of_offset h.utc] at hsame
    exact hnew (List.mem_map.2 ⟨row, hrow, Prod.ext hsame.1 (congrArg instant hsame.2)⟩)
  unfold insertPlay KnownPlay.row
  cases hkept : Column.neededCount (orDefault p.duration (.int 0)) with
  | error f =>
    have := h.duration
    rw [hkept] at this
    cases this
  | ok kept =>
    rw [hfree]
    rfl

/-- New plays are put in one after the other. -/
theorem foldlM_insertPlay_eq_ok {oneOfSeveral : Bool} (hps : ∀ p ∈ ps, p.Storable)
    (hone : (ps.map KnownPlay.mark).Nodup) (hnew : ∀ p ∈ ps, p.mark ∉ d.plays.map PlayRow.mark) :
    ps.foldlM (insertPlay now oneOfSeveral) d =
      .ok { d with plays := d.plays ++ ps.map KnownPlay.row } := by
  induction ps generalizing d with
  | nil =>
    rw [List.map_nil, List.append_nil]
    rfl
  | cons p ps ih =>
    have hp := hps p List.mem_cons_self
    rw [List.map_cons, List.nodup_cons] at hone
    rw [List.foldlM_cons, insertPlay_eq_ok hp (hnew p List.mem_cons_self)]
    change ps.foldlM _ _ = _
    rw [ih (fun q hq => hps q (List.mem_cons_of_mem p hq)) hone.2 fun q hq => ?_]
    · rw [List.map_cons, List.append_assoc, List.singleton_append]
    · rw [List.map_append, List.mem_append, List.map_cons, List.map_nil, List.mem_singleton,
        hp.mark_row]
      rintro (hmem | hsame)
      · exact hnew q (List.mem_cons_of_mem p hq) hmem
      · exact hone.1 (hsame ▸ List.mem_map_of_mem hq)

/-! ### Tracks -/

/-- The latest of moments that come one after the other. -/
def latestOf (previous : Option Timestamp) (moments : List Timestamp) : Option Timestamp :=
  moments.foldl (fun t u => some (t.elim u fun t => laterOf t u)) previous

theorem laterOf_cases (t u : Timestamp) :
    laterOf t u = t ∧ u.instant ≤ t.instant ∨ laterOf t u = u ∧ t.instant ≤ u.instant := by
  unfold laterOf isLt
  split
  · rename_i h
    exact .inr ⟨rfl, Int.le_of_lt (of_decide_eq_true h)⟩
  · rename_i h
    exact .inl ⟨rfl, Int.not_lt.1 fun hlt => h (decide_eq_true hlt)⟩

theorem laterOf_assoc (t u v : Timestamp) : laterOf (laterOf t u) v = laterOf t (laterOf u v) := by
  unfold laterOf isLt
  grind

instance : Std.Associative laterOf := ⟨laterOf_assoc⟩

theorem isLatest_laterOf (t u : Timestamp) : IsLatest [t, u] (some (laterOf t u)) := by
  rcases laterOf_cases t u with ⟨heq, hle⟩ | ⟨heq, hle⟩ <;> rw [heq]
  · exact ⟨by simp, by simp [hle]⟩
  · exact ⟨by simp, by simp [hle]⟩

theorem isLatest_latestOf (previous : Option Timestamp) (moments : List Timestamp) :
    IsLatest (previous.toList ++ moments) (latestOf previous moments) := by
  induction moments generalizing previous with
  | nil =>
    cases previous with
    | none => rfl
    | some t => exact ⟨by simp, by simp⟩
  | cons u moments ih =>
    rw [← List.singleton_append, ← List.append_assoc]
    refine IsLatest.append (t := previous.elim u fun t => laterOf t u) ?_ (ih (some _))
    cases previous with
    | none => exact ⟨List.mem_cons_self, by simp⟩
    | some t => exact isLatest_laterOf t u

theorem latestOf_some (t : Timestamp) (moments : List Timestamp) :
    latestOf (some t) moments = some (moments.foldl laterOf t) := by
  induction moments generalizing t with
  | nil => rfl
  | cons u moments ih => exact ih (laterOf t u)

/-- What comes after an earlier moment may be compared among itself first. -/
theorem latestOf_cons (previous : Option Timestamp) (u : Timestamp) (moments : List Timestamp) :
    latestOf previous (u :: moments) =
      some (previous.elim (moments.foldl laterOf u) fun t => laterOf t (moments.foldl laterOf u)) := by
  cases previous with
  | none => exact latestOf_some u moments
  | some t =>
    change latestOf (some (laterOf t u)) moments = _
    rw [latestOf_some, List.foldl_assoc]
    rfl

theorem utc_of_latestOf {previous : Option Timestamp} {moments : List Timestamp}
    (hprevious : ∀ t ∈ previous, t.offset = 0) (hmoments : ∀ t ∈ moments, t.offset = 0) :
    ∀ t ∈ latestOf previous moments, t.offset = 0 := by
  intro t ht
  have hlatest := isLatest_latestOf previous moments
  rw [Option.mem_def.1 ht] at hlatest
  rcases List.mem_append.1 hlatest.1 with hmem | hmem
  · exact hprevious t (Option.mem_toList.1 hmem)
  · exact hmoments t hmem

/-- A track whose plays can be counted: its count is a whole number, and the time it was last played
is of universal time. -/
structure Countable (r : TrackRow) : Prop where
  /-- The count is a whole number. -/
  count : ∃ n, r.playCount = .int n
  /-- The time is of universal time. -/
  utc : ∀ t ∈ r.lastPlayedAt, t.offset = 0

@[simp] theorem id_played (ps : List KnownPlay) (r : TrackRow) : (played ps r).id = r.id := by
  unfold played
  split <;> rfl

@[simp] theorem externalId_played (ps : List KnownPlay) (r : TrackRow) :
    (played ps r).externalId = r.externalId := by
  unfold played
  split <;> rfl

/-- The plays of a track that are counted in. -/
def playsOf (ps : List KnownPlay) (r : TrackRow) : List KnownPlay := ps.filter (·.track == r.id)

theorem utc_of_playsOf (hps : ∀ p ∈ ps, p.playedAt.offset = 0) :
    ∀ t ∈ (playsOf ps r).map (·.playedAt), t.offset = 0 := by
  intro t ht
  obtain ⟨p, hp, rfl⟩ := List.mem_map.1 ht
  exact hps p (List.mem_of_mem_filter hp)

/-- What counting plays in does to a track. -/
theorem played_eq {n : Int} (hcount : r.playCount = .int n) (hr : ∀ t ∈ r.lastPlayedAt, t.offset = 0)
    (hps : ∀ p ∈ ps, p.playedAt.offset = 0) : played ps r =
      { r with
        playCount := .int (n + (playsOf ps r).length)
        lastPlayedAt := latestOf r.lastPlayedAt ((playsOf ps r).map (·.playedAt)) } := by
  have hutc : ∀ t ∈ latestOf r.lastPlayedAt ((playsOf ps r).map (·.playedAt)), t.offset = 0 :=
    utc_of_latestOf hr (utc_of_playsOf hps)
  revert hutc
  unfold played playsOf
  split
  · rename_i hnone
    intro _
    rw [hnone, List.length_nil, Int.natCast_zero, Int.add_zero, ← hcount]
    rfl
  · rename_i first rest hplays
    rw [hplays, List.map_cons, latestOf_cons, List.foldl_map]
    intro hutc
    dsimp only
    rw [asUtc_of_offset (hutc _ rfl), hcount]
    rfl

/-- **Plays that are counted in after others** are counted in with them. -/
theorem played_append (hr : Countable r) (hps : ∀ p ∈ ps, p.playedAt.offset = 0)
    (hqs : ∀ p ∈ qs, p.playedAt.offset = 0) : played qs (played ps r) = played (ps ++ qs) r := by
  obtain ⟨n, hcount⟩ := hr.count
  have hutc : ∀ t ∈ latestOf r.lastPlayedAt ((playsOf ps r).map (·.playedAt)), t.offset = 0 :=
    utc_of_latestOf hr.utc (utc_of_playsOf hps)
  have hboth : ∀ p ∈ ps ++ qs, p.playedAt.offset = 0 := by
    intro p hp
    exact (List.mem_append.1 hp).elim (hps p) (hqs p)
  rw [played_eq hcount hr.utc hps, played_eq hcount hr.utc hboth, played_eq rfl hutc hqs]
  unfold playsOf latestOf
  rw [List.filter_append, List.map_append, List.foldl_append, List.length_append, Int.natCast_add,
    ← Int.add_assoc]

/-! ### One batch -/

/-- The plays of stored tracks. -/
def known (d : Database) (plays : List Play) : List KnownPlay :=
  plays.filterMap fun p => (d.trackNamed? p.externalId).map fun r => ⟨r.id, p.playedAt, p.duration⟩

/-- The plays of stored tracks, each when it is told first. -/
def firsts (d : Database) (plays : List Play) : List KnownPlay := unrecorded [] (d.known plays)

/-- The database after plays were told. -/
def tallied (d : Database) (plays : List Play) : Database :=
  { d with
    tracks := d.tracks.map (played (d.firsts plays))
    plays := (d.firsts plays).map KnownPlay.row }

/-- The plays of stored tracks, each by the number of its track and by its instant. -/
def seen (d : Database) (plays : List Play) : List (Int × Int) := (d.known plays).map KnownPlay.mark

/-- When a track was played. -/
def momentsOf (x : String) (plays : List Play) : List Timestamp :=
  (plays.filter (·.externalId == x)).map (·.playedAt)

/-- The instants at which a track was played, each once. -/
def instantsOf (x : String) (plays : List Play) : List Int := dedup ((momentsOf x plays).map instant)

/-- A library whose plays are yet to be told: tracks can be told apart, no play is stored, and the
times they were last played are of universal time. -/
structure Unplayed (d : Database) : Prop extends d.Distinct where
  /-- No play is stored. -/
  plays : d.plays = []
  /-- Times are of universal time. -/
  utc : ∀ r ∈ d.tracks, ∀ t ∈ r.lastPlayedAt, t.offset = 0

/-- Plays that can be counted: at times of universal time, with durations that can be stored, and not
so many that the count of a track becomes too large to be stored. -/
structure Admits (d : Database) (plays : List Play) : Prop where
  /-- Times are of universal time. -/
  utc : ∀ p ∈ plays, p.playedAt.offset = 0
  /-- Durations of plays of stored tracks can be stored. -/
  durations : ∀ p ∈ plays, (d.trackNamed? p.externalId).isSome = true →
    (Column.neededCount (orDefault p.duration (.int 0))).isOk = true
  /-- Counts can be stored. -/
  counts : ∀ r ∈ d.tracks, ∃ n, r.playCount = .int n ∧ -storableBound ≤ n ∧
    n + (instantsOf r.externalId plays).length < storableBound

variable {told plays plays' : List Play} {x : String} {n i : Int}

theorem utc_of_momentsOf (h : ∀ p ∈ plays, p.playedAt.offset = 0) :
    ∀ t ∈ momentsOf x plays, t.offset = 0 := by
  intro t ht
  obtain ⟨p, hp, rfl⟩ := List.mem_map.1 ht
  exact h p (List.mem_of_mem_filter hp)

theorem mem_instantsOf :
    i ∈ instantsOf x plays ↔ ∃ p ∈ plays, p.externalId = x ∧ p.playedAt.instant = i := by
  unfold instantsOf momentsOf
  rw [mem_dedup, List.map_map, List.mem_map]
  refine exists_congr fun p => ?_
  rw [List.mem_filter, beq_iff_eq, and_assoc]
  rfl

theorem length_instantsOf_le (h : plays ⊆ plays') :
    (instantsOf x plays).length ≤ (instantsOf x plays').length := by
  refine (List.subperm_of_subset (nodup_dedup _) fun i hi => ?_).length_le
  obtain ⟨p, hp, hx, hinstant⟩ := mem_instantsOf.1 hi
  exact mem_instantsOf.2 ⟨p, h hp, hx, hinstant⟩

theorem Admits.mono (h : d.Admits plays') (hsub : plays ⊆ plays') : d.Admits plays where
  utc p hp := h.utc p (hsub hp)
  durations p hp := h.durations p (hsub hp)
  counts r hr := by
    obtain ⟨n, hcount, hlow, hhigh⟩ := h.counts r hr
    have hle : (instantsOf r.externalId plays).length ≤ (instantsOf r.externalId plays').length :=
      length_instantsOf_le hsub
    exact ⟨n, hcount, hlow, by omega⟩

theorem Admits.countable (h : d.Admits plays) (hd : d.Unplayed) (hr : r ∈ d.tracks) : Countable r where
  count := let ⟨n, hcount, _⟩ := h.counts r hr; ⟨n, hcount⟩
  utc := hd.utc r hr

theorem Admits.storable (h : d.Admits plays) (hp : p ∈ d.known plays) : p.Storable := by
  obtain ⟨q, hq, hknown⟩ := List.mem_filterMap.1 hp
  obtain ⟨r, hr, rfl⟩ := Option.map_eq_some_iff.1 hknown
  exact ⟨h.utc q hq, h.durations q hq (Option.isSome_iff_exists.2 ⟨r, hr⟩)⟩

theorem Admits.storable_firsts (h : d.Admits plays) (hp : p ∈ d.firsts plays) : p.Storable :=
  h.storable (mem_of_mem_unrecorded hp)

theorem mem_seen (hd : d.Distinct) : (n, i) ∈ d.seen plays ↔
    ∃ p ∈ plays, (n, p.externalId) ∈ d.names ∧ p.playedAt.instant = i := by
  unfold seen known
  rw [List.map_filterMap, List.mem_filterMap]
  refine exists_congr fun p => and_congr_right fun _ => ?_
  rw [← trackNamed?_map_id hd, Option.map_map, Option.map_eq_some_iff, Option.map_eq_some_iff]
  constructor
  · rintro ⟨r, hr, hmark⟩
    obtain ⟨hn, hi⟩ := Prod.mk.inj hmark
    exact ⟨⟨r, hr, hn⟩, hi⟩
  · rintro ⟨⟨r, hr, hn⟩, hi⟩
    exact ⟨r, hr, Prod.ext hn hi⟩

/-- For the number of a track, they are the instants at which it was played. -/
theorem mem_seen_iff (hd : d.Distinct) (hr : r ∈ d.tracks) :
    (r.id, i) ∈ d.seen plays ↔ i ∈ instantsOf r.externalId plays := by
  rw [mem_seen hd, mem_instantsOf]
  refine exists_congr fun p => and_congr_right fun _ => and_congr_left fun _ => ?_
  have hown : (r.id, r.externalId) ∈ d.names := mem_names.2 ⟨r, hr, rfl, rfl⟩
  exact ⟨fun h => hd.id_eq h hown, fun h => h ▸ hown⟩

/-- The plays of a track that are counted in are at the instants at which it was played. -/
theorem mem_instants_playsOf (hd : d.Distinct) (hr : r ∈ d.tracks) :
    i ∈ (playsOf (d.firsts plays) r).map (fun p => p.playedAt.instant) ↔
      i ∈ instantsOf r.externalId plays := by
  rw [← mem_seen_iff hd hr, List.mem_map]
  constructor
  · rintro ⟨p, hp, rfl⟩
    obtain ⟨hfirst, htrack⟩ := List.mem_filter.1 hp
    rw [← eq_of_beq htrack]
    exact List.mem_map_of_mem (mem_of_mem_unrecorded hfirst)
  · intro hi
    have hfirst : (r.id, i) ∈ (d.firsts plays).map KnownPlay.mark :=
      mem_map_mark_unrecorded.2 ⟨hi, List.not_mem_nil⟩
    obtain ⟨p, hp, hmark⟩ := List.mem_map.1 hfirst
    obtain ⟨htrack, hinstant⟩ := Prod.mk.inj hmark
    exact ⟨p, List.mem_filter.2 ⟨hp, beq_iff_eq.2 htrack⟩, hinstant⟩

/-- There are as many of them as there are such instants. -/
theorem length_playsOf_firsts (hd : d.Distinct) (hr : r ∈ d.tracks) :
    (playsOf (d.firsts plays) r).length = (instantsOf r.externalId plays).length := by
  have hmarks : (playsOf (d.firsts plays) r).map KnownPlay.mark =
      ((playsOf (d.firsts plays) r).map fun p => p.playedAt.instant).map (Prod.mk r.id) := by
    rw [List.map_map]
    refine List.map_congr_left fun p hp => ?_
    exact Prod.ext (eq_of_beq (List.mem_filter.1 hp).2) rfl
  have hone : ((playsOf (d.firsts plays) r).map fun p => p.playedAt.instant).Nodup := by
    refine List.Nodup.of_map (Prod.mk r.id) (hmarks ▸ ?_)
    exact nodup_map_mark_unrecorded.sublist (List.filter_sublist.map _)
  rw [← List.length_map fun p : KnownPlay => p.playedAt.instant]
  exact ((List.perm_ext_iff_of_nodup hone (nodup_dedup _)).2 fun i =>
    mem_instants_playsOf hd hr).length_eq

theorem trackNamed?_tallied (d : Database) (plays : List Play) (x : String) :
    (d.tallied plays).trackNamed? x = (d.trackNamed? x).map (played (d.firsts plays)) := by
  unfold tallied trackNamed?
  rw [List.find?_map]
  congr 2
  funext r
  exact congrArg (· == x) (externalId_played ..)

theorem known_tallied (d : Database) (told plays : List Play) :
    (d.tallied told).known plays = d.known plays := by
  unfold known
  congr 1
  funext p
  rw [trackNamed?_tallied, Option.map_map]
  congr 1
  funext r
  exact congrArg (KnownPlay.mk · _ _) (id_played ..)

/-- The new ones of plays that are told after others. -/
def newcomers (d : Database) (told plays : List Play) : List KnownPlay :=
  unrecorded (d.tallied told).plays (d.known plays)

theorem map_mark_tallied (h : d.Admits told) :
    (d.tallied told).plays.map PlayRow.mark = (d.firsts told).map KnownPlay.mark :=
  map_mark_row fun _ hp => h.storable_firsts hp

theorem mem_map_mark_firsts {m : Int × Int} :
    m ∈ (d.firsts plays).map KnownPlay.mark ↔ m ∈ d.seen plays := by
  rw [firsts, mem_map_mark_unrecorded]
  exact and_iff_left List.not_mem_nil

theorem firsts_append (h : d.Admits told) :
    d.firsts (told ++ plays) = d.firsts told ++ d.newcomers told plays := by
  have hknown : d.known (told ++ plays) = d.known told ++ d.known plays := List.filterMap_append
  unfold newcomers
  rw [firsts, hknown]
  refine unrecorded_append fun m => ?_
  rw [map_mark_tallied h, firsts, mem_map_mark_unrecorded]
  simp

/-- There are as many of them as there are plays not seen before. -/
theorem length_newcomers (h : d.Admits told) :
    (d.newcomers told plays).length = (dedupAfter (d.seen told) (d.seen plays)).length := by
  have hmarks : ∀ m, m ∈ (d.tallied told).plays.map PlayRow.mark ↔ m ∈ d.seen told := by
    intro m
    rw [map_mark_tallied h, mem_map_mark_firsts]
  unfold newcomers
  rw [← List.length_map KnownPlay.mark, map_mark_unrecorded, dedupAfter_congr hmarks]
  rfl

/-- **One batch of plays** that is told after others: the new ones are put in and counted in, as if
all had been told at once, and their number is handed back. -/
theorem runOn_recordPlays (hd : d.Unplayed) (h : d.Admits (told ++ plays)) :
    (recordPlays now plays).runOn (d.tallied told) =
      (.ok (dedupAfter (d.seen told) (d.seen plays)).length, d.tallied (told ++ plays)) := by
  have htold : d.Admits told := h.mono (List.subset_append_left told plays)
  have hplays : d.Admits plays := h.mono (List.subset_append_right told plays)
  have hfirsts : d.firsts (told ++ plays) = d.firsts told ++ d.newcomers told plays :=
    firsts_append htold
  have hstorable : ∀ p ∈ d.newcomers told plays, p.Storable :=
    fun p hp => hplays.storable (mem_of_mem_unrecorded hp)
  have hfilled : (d.newcomers told plays).foldlM
      (insertPlay now (decide (1 < (d.newcomers told plays).length))) (d.tallied told) =
      .ok { d.tallied told with plays := (d.firsts (told ++ plays)).map KnownPlay.row } := by
    rw [foldlM_insertPlay_eq_ok hstorable nodup_map_mark_unrecorded fun p hp =>
      (mem_map_mark_unrecorded.1 (List.mem_map_of_mem hp)).2, hfirsts, List.map_append]
    rfl
  have htracks : (d.tallied told).tracks.map (played (d.newcomers told plays)) =
      (d.tallied (told ++ plays)).tracks := by
    unfold tallied
    rw [List.map_map, hfirsts]
    refine List.map_congr_left fun r hr => ?_
    exact played_append (htold.countable hd hr)
      (fun p hp => (htold.storable (mem_of_mem_unrecorded hp)).utc) fun p hp => (hstorable p hp).utc
  have hcounts : ∀ r ∈ (d.tallied (told ++ plays)).tracks,
      (Column.neededCount r.playCount >>= fun _ => pure ()) = .ok () := by
    intro r hr
    obtain ⟨q, hq, rfl⟩ := List.mem_map.1 hr
    obtain ⟨n, hcount, hlow, hhigh⟩ := h.counts q hq
    rw [played_eq hcount (hd.utc q hq) fun p hp => (h.storable_firsts hp).utc]
    dsimp only
    rw [length_playsOf_firsts hd.toDistinct hq, Column.neededCount_int.2 ⟨⟨by omega, by omega⟩, rfl⟩]
    rfl
  have hknown : (plays.filterMap fun p => ((d.tallied told).trackNamed? p.externalId).map fun r =>
      (⟨r.id, p.playedAt, p.duration⟩ : KnownPlay)) = d.known plays := known_tallied d told plays
  unfold recordPlays
  rw [runOn_bind, runOn_get]
  dsimp only
  rw [hknown, ← newcomers, runOn_bind, runOn_ofExcept, hfilled]
  dsimp only
  rw [htracks, runOn_bind, runOn_ofExcept, forM_eq_ok hcounts, ← length_newcomers htold]
  rfl

end Database

end Mixtape
