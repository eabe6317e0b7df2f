import Mixtape.Proofs.Evaluation.Order
import Mixtape.Proofs.Evaluation.Total
import Mathlib.Data.List.Pairwise

/-!
# What criteria select

Criteria select the tracks of a library that are stored and that they accept, in order, up to their
limit. The order tells any two of these tracks apart, so nothing depends on how the library lists
its tracks; and a number leads back to its track, so the platform's ids of a membership are those of
the selected tracks, place by place.

## Main definitions

* `Library.HasDistinctNumbers` — numbers tell the stored tracks of a library apart.
* `Criteria.Selects now c l ts` — `ts` are the tracks criteria select from a library before their
  limit, in order.

## Main results

* `Criteria.Selects.unique` — criteria select one list only.
* `Library.HasDistinctNumbers.externalIds_filterMap` — numbers lead back to the tracks.
* `evaluate_selects` — **evaluation gives the numbers of the selected tracks, and a membership their
  ids at the platform.**
-/

namespace Mixtape

variable {now : Timestamp} {c : Criteria} {l l' : Library} {t u : Track} {ts us : List Track}
  {ps : List TrackPredicate}

/-! ### Numbers -/

/-- Numbers tell the stored tracks of a library apart. -/
def Library.HasDistinctNumbers (l : Library) : Prop := (l.tracks.filterMap Track.id).Nodup

namespace Library.HasDistinctNumbers

theorem of_perm (h : l.HasDistinctNumbers) (perm : l'.tracks.Perm l.tracks) :
    l'.HasDistinctNumbers :=
  (perm.filterMap Track.id).nodup_iff.2 h

theorem pairwise (h : l.HasDistinctNumbers) :
    l.tracks.Pairwise fun t u => ∀ i, t.id = some i → ∀ j, u.id = some j → i ≠ j :=
  List.pairwise_filterMap.1 h

theorem eq_of_id_eq (h : l.HasDistinctNumbers) (ht : t ∈ l.tracks) (hu : u ∈ l.tracks) {id : Int}
    (hid : t.id = some id) (hid' : u.id = some id) : t = u := by
  by_contra hne
  have hsymm : Std.Symm fun t u : Track => ∀ i, t.id = some i → ∀ j, u.id = some j → i ≠ j :=
    ⟨fun _ _ hr j hj i hi hji => hr i hi j hj hji.symm⟩
  exact h.pairwise.forall ht hu hne id hid id hid' rfl

/-- A number leads back to its track. -/
theorem track?_eq_some (h : l.HasDistinctNumbers) (ht : t ∈ l.tracks) {id : Int}
    (hid : t.id = some id) : l.track? id = some t := by
  unfold track?
  cases hfind : l.tracks.reverse.find? fun u => u.id == some id with
  | none => simpa [hid] using List.find?_eq_none.1 hfind t (List.mem_reverse.2 ht)
  | some u =>
    have hu : u ∈ l.tracks := List.mem_reverse.1 (List.mem_of_find?_eq_some hfind)
    have hid' : u.id = some id := by simpa using List.find?_some hfind
    rw [h.eq_of_id_eq hu ht hid' hid]

/-- **Numbers lead back to the tracks**, in their order. -/
theorem externalIds_filterMap (h : l.HasDistinctNumbers)
    (hts : ∀ t ∈ ts, t ∈ l.tracks ∧ t.id.isSome = true) :
    l.externalIds (ts.filterMap Track.id) = ts.map Track.externalId := by
  induction ts with
  | nil => rfl
  | cons t rest ih =>
    obtain ⟨⟨ht, hsome⟩, hrest⟩ := List.forall_mem_cons.1 hts
    obtain ⟨id, hid⟩ := Option.isSome_iff_exists.1 hsome
    have hhead : (l.track? id).map Track.externalId = some t.externalId := by
      rw [h.track?_eq_some ht hid, Option.map_some]
    rw [List.filterMap_cons_some hid, List.map_cons, ← ih hrest]
    exact List.filterMap_cons_some hhead

/-- The numbers of some of the stored tracks tell them apart. -/
theorem nodup_filter (h : l.HasDistinctNumbers) (p : TrackPredicate) :
    ((l.tracks.filter fun t => t.id.isSome && p t).map fun t => t.id.getD 0).Nodup := by
  refine List.pairwise_map.2 ((h.pairwise.filter _).imp_of_mem fun {t u} ht hu hne => ?_)
  have hstored : ∀ v ∈ l.tracks.filter fun t => t.id.isSome && p t, ∃ id, v.id = some id :=
    fun v hv => Option.isSome_iff_exists.1 (Bool.and_eq_true_iff.1 (List.mem_filter.1 hv).2).1
  obtain ⟨i, hi⟩ := hstored t ht
  obtain ⟨j, hj⟩ := hstored u hu
  rw [hi, hj]
  exact hne i hi j hj

end Library.HasDistinctNumbers

/-! ### The selected tracks -/

/-- The tracks criteria select from a library at a moment, before their limit: those that are stored
and accepted, in order. -/
structure Criteria.Selects (now : Timestamp) (c : Criteria) (l : Library) (ts : List Track) :
    Prop where
  /-- The tracks with a number that the criteria accept. -/
  members : ∀ t, t ∈ ts ↔ t ∈ l.tracks ∧ t.id.isSome = true ∧ c.Accepts now t
  /-- Each comes before those after it. -/
  ordered : ts.Pairwise (Track.Precedes c.orderBy c.direction)

namespace Criteria.Selects

theorem nodup (h : c.Selects now l ts) : ts.Nodup :=
  h.ordered.imp fun {t u} htu heq => by
    subst heq
    exact htu.asymm htu

/-- Criteria select one list of tracks only. -/
theorem unique (h : c.Selects now l ts) (h' : c.Selects now l us) : ts = us := by
  have hperm : ts.Perm us := (List.perm_ext_iff_of_nodup h.nodup h'.nodup).2 fun t =>
    (h.members t).trans (h'.members t).symm
  exact hperm.eq_of_pairwise (fun t u _ _ htu hut => (htu.asymm hut).elim) h.ordered h'.ordered

/-- A library that lists its tracks in another order has the same selected. -/
theorem of_perm (h : c.Selects now l ts) (perm : l'.tracks.Perm l.tracks) :
    c.Selects now l' ts where
  members t := by rw [h.members, perm.mem_iff]
  ordered := h.ordered

end Criteria.Selects

/-- A sorted selection is what criteria select. -/
theorem Decide.selects_sortTracks (h : Decide now c.rules ps) (distinct : l.HasDistinctNumbers) :
    c.Selects now l (sortTracks (l.tracks.filter fun t => t.id.isSome && c.logic.join ps t)
      c.orderBy c.direction) where
  members t := by
    rw [(sortTracks_perm _ _ _).mem_iff, List.mem_filter, Bool.and_eq_true, h.join_iff]
    rfl
  ordered := pairwise_sortTracks (distinct.nodup_filter _) _ _

/-! ### The numbers of the selected tracks -/

theorem cutTo_sublist (limit : Option Nat) (ts : List Track) : (cutTo limit ts).Sublist ts := by
  cases limit with
  | none => exact .refl ts
  | some n => exact List.take_sublist n ts

theorem map_some_filterMap_id (h : ∀ t ∈ ts, t.id.isSome = true) :
    (ts.filterMap Track.id).map some = ts.map Track.id := by
  induction ts with
  | nil => rfl
  | cons t rest ih =>
    obtain ⟨hsome, hrest⟩ := List.forall_mem_cons.1 h
    obtain ⟨id, hid⟩ := Option.isSome_iff_exists.1 hsome
    rw [List.filterMap_cons_some hid, List.map_cons, List.map_cons, ih hrest, hid]

/-- Distinct tracks of a library have distinct numbers. -/
theorem Library.HasDistinctNumbers.nodup_filterMap (h : l.HasDistinctNumbers) (nodup : ts.Nodup)
    (hts : ∀ t ∈ ts, t ∈ l.tracks) : (ts.filterMap Track.id).Nodup := by
  refine List.pairwise_filterMap.2 (nodup.imp_of_mem fun {t u} ht hu hne i hi j hj hij => ?_)
  exact hne (h.eq_of_id_eq (hts t ht) (hts u hu) hi (hij ▸ hj))

/-- Albums that fit do so in whatever order the tracks are listed. -/
theorem Criteria.AlbumsFit.of_perm (h : c.AlbumsFit now l) (perm : l'.tracks.Perm l.tracks) :
    c.AlbumsFit now l' where
  rules t ht := h.rules t (perm.mem_iff.1 ht)
  order horder t ht := h.order horder t (perm.mem_iff.1 ht)

/-- Criteria whose windows fit the calendar select some list of tracks. -/
theorem exists_selects (distinct : l.HasDistinctNumbers) (fits : c.FitsCalendar now) :
    ∃ ts, c.Selects now l ts := by
  obtain ⟨ps, hps⟩ := exists_compileRules_iff.2 fits
  exact ⟨_, (decide_of_compileRules hps).selects_sortTracks distinct⟩

/-- An evaluation gives the numbers of what is selected. -/
theorem evaluate_of_selects (distinct : l.HasDistinctNumbers) (fits : c.FitsCalendar now)
    (albums : c.AlbumsFit now l) (h : c.Selects now l ts) :
    evaluate c l now = .ok ((cutTo c.limit ts).filterMap Track.id) := by
  obtain ⟨ps, hps⟩ := exists_compileRules_iff.2 fits
  have hdecide := decide_of_compileRules hps
  refine evaluate_eq_ok_iff.2 ⟨ps, hps, (checkAlbums_eq_ok_iff hdecide).2 albums, ?_⟩
  rw [Criteria.select, (hdecide.selects_sortTracks distinct).unique h]

/-- **Evaluation gives the numbers of the selected tracks**, up to the limit, none twice, in
whatever order the library lists its tracks; **and a membership their ids at the platform**, place
by place. Albums that are texts always fit. -/
theorem evaluate_selects (distinct : l.HasDistinctNumbers) (fits : c.FitsCalendar now)
    (albums : c.AlbumsFit now l) :
    ∃ ts ids, c.Selects now l ts ∧ ids.map some = (cutTo c.limit ts).map Track.id ∧ ids.Nodup ∧
      ∀ l' : Library, l'.tracks.Perm l.tracks → evaluate c l' now = .ok ids ∧
        ∃ m, membership c l' now = .ok m ∧ m.trackIds = ids ∧
          m.externalIds = (cutTo c.limit ts).map Track.externalId := by
  obtain ⟨ts, hselects⟩ := exists_selects distinct fits
  have hcut := cutTo_sublist c.limit ts
  have hstored : ∀ t ∈ cutTo c.limit ts, t ∈ l.tracks ∧ t.id.isSome = true := fun t ht =>
    ((hselects.members t).1 (hcut.mem ht)).imp_right And.left
  refine ⟨ts, (cutTo c.limit ts).filterMap Track.id, hselects,
    map_some_filterMap_id fun t ht => (hstored t ht).2,
    distinct.nodup_filterMap (hselects.nodup.sublist hcut) fun t ht => (hstored t ht).1, ?_⟩
  intro l' perm
  have hdistinct := distinct.of_perm perm
  have hevaluate := evaluate_of_selects hdistinct fits (albums.of_perm perm) (hselects.of_perm perm)
  refine ⟨hevaluate, _, by rw [membership, hevaluate]; rfl, rfl, ?_⟩
  exact hdistinct.externalIds_filterMap fun t ht => (hstored t ht).imp_left perm.mem_iff.2

/-- A moment in June 2024. -/
def lately : Timestamp := ⟨63852883200000000, 0⟩

/-- Six tracks: one is not stored, one is not rated, and two have the same rating. -/
def mixedLibrary : Library where
  tracks :=
    [{ externalId := "far", title := "Far Away", artist := "A", id := some 4,
       rating := some ⟨4, .int 2, by decide, by decide⟩ },
     { externalId := "road", title := "Road", artist := "B", id := some 2,
       rating := some ⟨4, .int 2, by decide, by decide⟩ },
     { externalId := "early", title := "Early", artist := "C" },
     { externalId := "blue", title := "BLUE", artist := "D", id := some 9, addedAt := some lately },
     { externalId := "stone", title := "Stone", artist := "E", id := some 1, album := .null },
     { externalId := "salt", title := "SALT", artist := "F", id := some 7,
       rating := some ⟨8, .int 4, by decide, by decide⟩ }]

theorem thirty_pos : 0 < 30 := by decide

/-- The three best rated tracks of those that have an `a` in the title or were added lately. -/
def namedOrRecent : Criteria where
  logic := .or
  rules := [.text .title .contains "A", .date .dateAdded .inLast 30 thirty_pos]
  orderBy := .rating
  direction := .descending
  limit := some 3

/-- Of the four tracks that are accepted the one without a rating is cut off. -/
theorem evaluate_selects_mixed :
    mixedLibrary.HasDistinctNumbers ∧ namedOrRecent.FitsCalendar lately ∧
    namedOrRecent.AlbumsFit lately mixedLibrary ∧
    evaluate namedOrRecent mixedLibrary lately = .ok [7, 2, 4] ∧
    ∃ ts ids, namedOrRecent.Selects lately mixedLibrary ts ∧
      ids.map some = (cutTo (some 3) ts).map Track.id ∧ ids.Nodup ∧
      ∀ l' : Library, l'.tracks.Perm mixedLibrary.tracks →
        evaluate namedOrRecent l' lately = .ok ids ∧
        ∃ m, membership namedOrRecent l' lately = .ok m ∧ m.trackIds = ids ∧
          m.externalIds = (cutTo (some 3) ts).map Track.externalId := by
  have hdistinct : mixedLibrary.HasDistinctNumbers := by
    unfold Library.HasDistinctNumbers
    decide
  have hfits : namedOrRecent.FitsCalendar lately :=
    List.forall_mem_cons.2 ⟨trivial, List.forall_mem_singleton.2 ⟨by decide, by decide⟩⟩
  have halbums : mixedLibrary.HasTextAlbums := by
    simp [Library.HasTextAlbums, mixedLibrary]
  exact ⟨hdistinct, hfits, halbums.albumsFit, by rfl,
    evaluate_selects hdistinct hfits halbums.albumsFit⟩

end Mixtape
