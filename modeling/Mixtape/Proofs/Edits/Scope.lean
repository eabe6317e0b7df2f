import Mixtape.Edits
import Mixtape.Platform.Account
import Mixtape.Proofs.Criteria.TagReference
import Mixtape.Proofs.Database.Metadata
import Mixtape.Proofs.Database.RoundTrip
import Mixtape.Proofs.World

/-!
# Edits that touch what they name

Rating a track goes a long way round: the whole track is read, copied with another rating, and saved
in place of the stored one, which writes every column of its row and sets its links to tags anew. What
comes out is the row with another rating. What is read of a column is written back to it as it stood,
and every link to a tag is among the tags that were read, so none is lost and none comes in. Tagging a
track puts in at most one link, and finds it there the second time.

## Main definitions

* `TrackRow.IsStored r`, `Database.IsStored d` — what rows and tables can hold.
* `Database.rated d id rating now` — the database with a track rated.
* `Database.linked d id tag` — the database with a track tagged.
* `World.settled w d` — the world with another database, all of it committed.

## Main results

* `Database.filled_rated` — what is read of a row is written back as it stood.
* `Database.runOn_replaceTrack_rated` — saving a track that was read changes its rating only.
* `Database.IsStored.edited` — tables hold after an edit what tables can hold.
* `runOn_rateTrack_eq_ok`, `runOn_tagTrack_eq_ok` — when the edits succeed, and what they come to.
* `edits_touch_only` — **what rating and tagging a track change, and that nothing else changes.**
-/

namespace Mixtape

open Action

/-! ### What rows hold -/

/-- A number as a column of counts keeps it. -/
structure Column.IsCount (j : Json) : Prop where
  /-- It is a number. -/
  number : j.number?.isSome = true
  /-- The column keeps it as it is. -/
  kept : Column.neededCount j = .ok j

/-- What a row of a track can hold: wall clocks, read as universal time, and numbers in the columns of
counts. -/
structure TrackRow.IsStored (r : TrackRow) : Prop where
  /-- When the track was added. -/
  addedAt : r.addedAt.offset = 0
  /-- When it was released. -/
  releaseDate : ∀ t ∈ r.releaseDate, t.offset = 0
  /-- When it was last played. -/
  lastPlayedAt : ∀ t ∈ r.lastPlayedAt, t.offset = 0
  /-- The duration. -/
  duration : Column.IsCount r.duration
  /-- The play count. -/
  playCount : Column.IsCount r.playCount

/-- What the table of tracks can hold: tracks that can be told apart, in rows as they are stored. -/
structure Database.IsStored (d : Database) : Prop extends d.Distinct where
  /-- The rows. -/
  rows : ∀ r ∈ d.tracks, r.IsStored

/-- The row of a track with another rating. -/
def TrackRow.rated (r : TrackRow) (rating : Option Rating) (now : Timestamp) : TrackRow :=
  { r with rating := rating.map Rating.stored, ratedAt := rating.map fun _ => now.asUtc }

/-- A track as it is read when its row has another rating. -/
def Track.rated (t : Track) (rating : Option Rating) (now : Timestamp) : Track :=
  { t with rating := rating.map Rating.stored, ratedAt := rating.map fun _ => now.asUtc }

theorem Timestamp.stored?_of_offset {date : Option Timestamp} (h : ∀ t ∈ date, t.offset = 0) :
    Timestamp.stored? date = date := by
  cases date with
  | none => rfl
  | some t => exact congrArg some (Timestamp.asUtc_of_offset (h t rfl))

namespace Database

variable {d d' : Database} {r : TrackRow} {t : Track} {id tag : Int} {rating : Option Rating}
  {now : Timestamp}

/-- A column of counts keeps no zero with a point. -/
theorem count_zero (negative : Bool) : Column.count (.real (.finite negative 0)) = .ok (.int 0) := by
  have hinteger : Column.ofReal (.finite negative 0) = .int 0 := by
    simp [Column.ofReal, Binary64.truncate, Binary64.isWhole, storableBound]
  exact congrArg Except.ok hinteger

/-- **What is read of a column of counts is what it holds.** A zero is no other zero than the whole
number, since the column keeps no other. -/
theorem given_readCount {j : Json} (h : Column.IsCount j) {field : String} {c : Count}
    (hc : readCount field j = .ok c) : c.given = j := by
  have hgiven : ∀ {j : Json}, Count.ofJson field j = .ok c → c.given = j := by
    intro j hj
    unfold Count.ofJson at hj
    split at hj
    · split at hj
      · cases hj
        rfl
      · cases hj
    · cases hj
  unfold readCount at hc
  split at hc
  · exact hgiven hc
  · rename_i hfalsy
    rw [hgiven hc]
    obtain ⟨hnumber, hkept⟩ := h
    cases j with
    | int n =>
      have hzero : n = 0 := by simpa [Json.isTruthy] using hfalsy
      rw [hzero]
    | bool b => cases hkept
    | real x =>
      cases x with
      | finite negative units =>
        obtain rfl : units = 0 := by simpa [Json.isTruthy, Binary64.isZero] using hfalsy
        rw [Column.neededCount, count_zero] at hkept
        cases hkept
      | infinite negative => simp [Json.isTruthy, Binary64.isZero] at hfalsy
      | nan => cases hkept
    | null => cases hnumber
    | text s => cases hnumber
    | list items => cases hnumber
    | object fields => cases hnumber

/-- **What is read of a row is written back as it stood**, apart from the rating. -/
theorem filled_rated (h : r.IsStored) (ht : d.readTrack r = .ok t) :
    r.filled (t.withRating rating now) r.album r.addedAt = .ok (r.rated rating now) := by
  obtain ⟨duration, hduration, ht⟩ := exists_of_bind_eq_ok ht
  obtain ⟨playCount, hplays, ht⟩ := exists_of_bind_eq_ok ht
  obtain rfl := Except.ok.inj ht
  unfold TrackRow.filled Track.withRating
  dsimp only
  rw [text?_ofText?, text?_ofText?, given_readCount h.duration hduration,
    given_readCount h.playCount hplays, h.duration.kept, h.playCount.kept,
    Timestamp.stored?_of_offset h.releaseDate, Timestamp.stored?_of_offset h.lastPlayedAt,
    Timestamp.asUtc_of_offset h.addedAt]
  cases rating <;> rfl

/-! ### Reading one track -/

/-- A row is found by its key when no two rows share theirs. -/
theorem find?_key {α κ : Type} [DecidableEq κ] (key : α → κ) {rows : List α} (h : (rows.map key).Nodup)
    {row : α} (hrow : row ∈ rows) : rows.find? (key · == key row) = some row := by
  obtain ⟨q, hq⟩ : ∃ q, rows.find? (key · == key row) = some q :=
    Option.isSome_iff_exists.1 (List.find?_isSome.2 ⟨row, hrow, beq_self_eq_true _⟩)
  have hkey : key q = key row := by simpa using List.find?_some hq
  rw [hq, List.inj_on_of_nodup_map h (List.mem_of_find?_eq_some hq) hrow hkey]

/-- What is found after rows were changed that keep the key: the row that is found, changed. -/
theorem find?_changeWhere_of_key {α κ : Type} [DecidableEq κ] (key : α → κ) {selected : α → Bool}
    {f : α → α} (hf : ∀ a, key (f a) = key a) (rows : List α) (k : κ) :
    (changeWhere selected f rows).find? (key · == k) =
      (rows.find? (key · == k)).map fun q => if selected q then f q else q := by
  unfold changeWhere
  rw [List.find?_map]
  congr 2
  funext q
  dsimp only [Function.comp]
  split
  · rw [hf]
  · rfl

theorem runOn_track_eq_ok : (track id).runOn d = (.ok t, d') ↔
    d = d' ∧ IsStorable id ∧ ∃ r, d.tracks.find? (·.id == id) = some r ∧ d.readTrack r = .ok t := by
  unfold track
  rw [runOn_bind_eq_ok]
  simp only [runOn_ofExcept_eq_ok]
  constructor
  · rintro ⟨⟨⟩, u, ⟨hid, rfl⟩, h⟩
    rw [runOn_bind, runOn_get] at h
    dsimp only at h
    split at h
    · rename_i r hr
      obtain ⟨ht, rfl⟩ := runOn_ofExcept_eq_ok.1 h
      exact ⟨rfl, isStorable_of_storable hid, r, hr, ht⟩
    · cases h
  · rintro ⟨rfl, hid, r, hr, ht⟩
    refine ⟨(), d, ⟨storable_eq_ok hid, rfl⟩, ?_⟩
    rw [runOn_bind, runOn_get]
    dsimp only
    rw [hr]
    exact runOn_ofExcept_eq_ok.2 ⟨ht, rfl⟩

/-- A track that is read has a row with its number. -/
theorem exists_row_of_track (h : (track id).runOn d = (.ok t, d')) : d = d' ∧ IsStorable id ∧
    ∃ r ∈ d.tracks, r.id = id ∧ d.tracks.find? (·.id == id) = some r ∧ d.readTrack r = .ok t := by
  obtain ⟨hsame, hid, r, hr, hread⟩ := runOn_track_eq_ok.1 h
  exact ⟨hsame, hid, r, List.mem_of_find?_eq_some hr, by simpa using List.find?_some hr, hr, hread⟩

/-! ### Rating -/

/-- The database with a track rated: the row with its number has another rating, given now, or none. -/
def rated (d : Database) (id : Int) (rating : Option Rating) (now : Timestamp) : Database :=
  { d with tracks := changeWhere (·.id == id) (·.rated rating now) d.tracks }

theorem Distinct.trackNamed?_eq (hd : d.Distinct) (hr : r ∈ d.tracks) :
    d.trackNamed? r.externalId = some r :=
  find?_key TrackRow.externalId (by simpa [names, Function.comp_def] using hd.ids) hr

theorem find?_rated (n : Int) : (d.rated id rating now).tracks.find? (·.id == n) =
    (d.tracks.find? (·.id == n)).map fun q => if q.id == id then q.rated rating now else q :=
  find?_changeWhere_of_key TrackRow.id (f := (·.rated rating now)) (fun _ => rfl) d.tracks n

theorem trackNamed?_rated (x : String) : (d.rated id rating now).trackNamed? x =
    (d.trackNamed? x).map fun q => if q.id == id then q.rated rating now else q :=
  find?_changeWhere_of_key TrackRow.externalId (f := (·.rated rating now)) (fun _ => rfl) d.tracks x

/-- A row with another rating reads as it did, with that rating. -/
theorem readTrack_rated : (d.rated id rating now).readTrack (r.rated rating now) =
    (d.readTrack r).map (·.rated rating now) := by
  unfold readTrack
  change (readCount "duration_ms" r.duration >>= _) = _
  cases readCount "duration_ms" r.duration with
  | error f => rfl
  | ok duration =>
    change (readCount "play_count" r.playCount >>= _) = _
    cases readCount "play_count" r.playCount <;> rfl

/-- Every link of a track is among the tags that are read of it. -/
theorem mem_tagIdsOf {track : Int} {j : Json} :
    j ∈ d.tagIdsOf track ↔ ∃ tag, (track, tag) ∈ d.tagLinks ∧ j = .int tag := by
  have hlinks : (d.tagLinks.filter (·.1 == track)).map (fun l => Json.int l.2) =
      ((d.tagLinks.filter (·.1 == track)).map Prod.snd).map Json.int := by
    rw [List.map_map]
    rfl
  rw [tagIdsOf, hlinks, mem_ascendingIds]
  constructor
  · intro h
    obtain ⟨tag, htag, rfl⟩ := List.mem_map.1 h
    obtain ⟨⟨track', tag⟩, hl, rfl⟩ := List.mem_map.1 htag
    obtain ⟨hmem, htrack⟩ := List.mem_filter.1 hl
    obtain rfl : track' = track := by simpa using htrack
    exact ⟨tag, hmem, rfl⟩
  · rintro ⟨tag, hmem, rfl⟩
    exact List.mem_map_of_mem (List.mem_map.2
      ⟨(track, tag), List.mem_filter.2 ⟨hmem, beq_self_eq_true track⟩, rfl⟩)

/-- What is read of a row. -/
theorem readTrack_ok (ht : d.readTrack r = .ok t) : t.externalId = r.externalId ∧
    t.album = .text r.album ∧ t.addedAt = some r.addedAt ∧ t.tagIds = d.tagIdsOf r.id := by
  obtain ⟨duration, -, ht⟩ := exists_of_bind_eq_ok ht
  obtain ⟨playCount, -, ht⟩ := exists_of_bind_eq_ok ht
  obtain rfl := Except.ok.inj ht
  exact ⟨rfl, rfl, rfl, rfl⟩

/-- **Saving a track that was read changes its rating only**: its row has the other rating, and its
links to tags are those there were. -/
theorem runOn_replaceTrack_rated (hd : d.IsStored) (hr : r ∈ d.tracks) (ht : d.readTrack r = .ok t) :
    (replaceTrack r (t.withRating rating now)).runOn d = (.ok (), d.rated r.id rating now) := by
  have hfilled : r.filled (t.withRating rating now) r.album r.addedAt = .ok (r.rated rating now) :=
    filled_rated (hd.rows r hr) ht
  obtain ⟨-, halbum', hadded', htags⟩ := readTrack_ok ht
  have htagged : (t.withRating rating now).tagIds = d.tagIdsOf r.id := htags
  have halbum : Column.needed (Column.text? (t.withRating rating now).album) = .ok r.album := by
    change Column.needed (Column.text? t.album) = _
    rw [halbum']
    rfl
  have hadded : Column.needed (.ok (t.withRating rating now).addedAt) = .ok r.addedAt := by
    change Column.needed (.ok t.addedAt) = _
    rw [hadded']
    rfl
  have hkept : (d.tagLinks.filter fun l => l.1 != r.id || (d.tagIdsOf r.id).any (·.isSame (.int l.2))) =
      d.tagLinks := by
    refine List.filter_eq_self.2 fun l hl => ?_
    by_cases hlink : l.1 = r.id
    · refine Bool.or_eq_true_iff.2 (.inr (List.any_eq_true.2 ⟨.int l.2, ?_, Json.isSame_int.2 rfl⟩))
      exact mem_tagIdsOf.2 ⟨l.2, hlink ▸ hl, rfl⟩
    · simp [hlink]
  have hnew : ((d.tagIdsOf r.id).filter fun id =>
      !d.tagLinks.any fun l => l.1 == r.id && id.isSame (.int l.2)) = [] := by
    refine List.filter_eq_nil_iff.2 fun j hj => ?_
    obtain ⟨tag, htag, rfl⟩ := mem_tagIdsOf.1 hj
    have hlinked : (d.tagLinks.any fun l => l.1 == r.id && (Json.int tag).isSame (.int l.2)) = true :=
      List.any_eq_true.2 ⟨(r.id, tag), htag, by simp⟩
    simp [hlinked]
  have hids : (d.tracks.map (·.id)).Nodup := by
    simpa [names, Function.comp_def] using hd.numbers
  have hrow : changeWhere (·.id == r.id) (fun _ => r.rated rating now) d.tracks =
      changeWhere (·.id == r.id) (·.rated rating now) d.tracks := by
    refine List.map_congr_left fun q hq => ?_
    by_cases hqr : q.id = r.id
    · rw [List.inj_on_of_nodup_map hids hq hr hqr]
    · simp [hqr]
  unfold replaceTrack
  rw [halbum, hadded]
  simp only [runOn_bind, runOn_ofExcept, hfilled, runOn_get, runOn_set, htagged, hkept, hnew, hrow]
  refine (runOn_addTagLinks r.id (List.forall_mem_nil _)).trans ?_
  rw [List.map_nil, List.append_nil]
  rfl

/-- A track that was read is saved with another rating, and handed back with it. -/
theorem runOn_saveTrack_rated (hd : d.IsStored) (hr : r ∈ d.tracks) (ht : d.readTrack r = .ok t) :
    (saveTrack now (t.withRating rating now)).runOn d =
      (.ok (t.rated rating now), d.rated r.id rating now) := by
  have hnamed := hd.toDistinct.trackNamed?_eq hr
  unfold saveTrack
  have hname : (t.withRating rating now).externalId = r.externalId := (readTrack_ok ht).1
  simp only [runOn_bind, runOn_get, hname, hnamed, runOn_replaceTrack_rated hd hr ht, trackNamed?_rated,
    Option.map_some, beq_self_eq_true, if_true, runOn_ofExcept, readTrack_rated, ht, Except.map]

/-- A track reads after it was rated as it did before, with the rating. -/
theorem runOn_track_rated (ht : (track id).runOn d = (.ok t, d)) :
    (track id).runOn (d.rated id rating now) = (.ok (t.rated rating now), d.rated id rating now) := by
  obtain ⟨-, hid, r, -, rfl, hr, ht⟩ := exists_row_of_track ht
  refine runOn_track_eq_ok.2 ⟨rfl, hid, r.rated rating now, ?_, ?_⟩
  · rw [find?_rated, hr, Option.map_some, if_pos (beq_self_eq_true r.id)]
  · rw [readTrack_rated, ht]
    rfl

/-! ### Tagging -/

/-- The database with a track tagged; a track that has the tag keeps it. -/
def linked (d : Database) (id tag : Int) : Database :=
  { d with tagLinks := if (id, tag) ∈ d.tagLinks then d.tagLinks else d.tagLinks ++ [(id, tag)] }

theorem mem_linked {l : Int × Int} :
    l ∈ (d.linked id tag).tagLinks ↔ l ∈ d.tagLinks ∨ l = (id, tag) := by
  unfold linked
  dsimp only
  split
  · rename_i h
    constructor
    · exact .inl
    · rintro (h' | rfl)
      · exact h'
      · exact h
  · rw [List.mem_append, List.mem_singleton]

theorem linked_linked : (d.linked id tag).linked id tag = d.linked id tag := by
  have hmem : (id, tag) ∈ (d.linked id tag).tagLinks := mem_linked.2 (.inr rfl)
  rw [linked, if_pos hmem]

/-- A track that is tagged reads as it did, with its tags as they are then. -/
theorem readTrack_linked : (d.linked id tag).readTrack r =
    (d.readTrack r).map fun t => { t with tagIds := (d.linked id tag).tagIdsOf r.id } := by
  unfold readTrack
  cases readCount "duration_ms" r.duration with
  | error f => rfl
  | ok duration => cases readCount "play_count" r.playCount <;> rfl

/-- A tag is put on a track that exists. -/
theorem runOn_linkTag (hid : IsStorable id) (htag : IsStorable tag) (hrow : ∃ r ∈ d.tracks, r.id = id)
    (hexists : ∃ t ∈ d.tags, t.id = tag) :
    (linkTag id tag).runOn d = (.ok (), d.linked id tag) := by
  have htrack : require (d.tracks.any (·.id == id)) = .ok () := by
    obtain ⟨r, hr, rfl⟩ := hrow
    exact if_pos (List.any_eq_true.2 ⟨r, hr, beq_self_eq_true r.id⟩)
  unfold linkTag linked
  simp only [storable_eq_ok hid, storable_eq_ok htag, runOn_bind, runOn_ofExcept, runOn_get]
  by_cases hmem : (id, tag) ∈ d.tagLinks
  · rw [if_pos hmem, List.contains_iff_mem.2 hmem]
    rfl
  · have hnew : d.tagLinks.contains (id, tag) = false := by
      rwa [← Bool.not_eq_true, List.contains_iff_mem]
    rw [if_neg hmem, hnew, Bool.not_false, if_pos rfl, htrack]
    exact runOn_addTagLinks id fun n (hn : n ∈ [tag]) => by
      rw [List.mem_singleton.1 hn]
      exact ⟨htag, hexists⟩

/-- A track reads after it was tagged as it did before, with its tags as they are then. -/
theorem runOn_track_linked (ht : (track id).runOn d = (.ok t, d)) :
    (track id).runOn (d.linked id tag) =
      (.ok { t with tagIds := (d.linked id tag).tagIdsOf id }, d.linked id tag) := by
  obtain ⟨-, hid, r, -, rfl, hr, hread⟩ := exists_row_of_track ht
  refine runOn_track_eq_ok.2 ⟨rfl, hid, r, hr, ?_⟩
  rw [readTrack_linked, hread]
  rfl

/-- The tables hold after an edit what tables can hold. -/
theorem IsStored.edited (hd : d.IsStored) :
    (d.rated id rating now).IsStored ∧ (d.linked id tag).IsStored := by
  have hnames : (d.rated id rating now).names = d.names := by
    unfold names rated changeWhere
    rw [List.map_map]
    refine List.map_congr_left fun q _ => ?_
    dsimp only [Function.comp]
    split <;> rfl
  refine ⟨⟨⟨hnames ▸ hd.numbers, hnames ▸ hd.ids⟩, fun q hq => ?_⟩, ⟨hd.numbers, hd.ids⟩, hd.rows⟩
  obtain ⟨row, hrow, rfl⟩ := List.mem_map.1 hq
  split
  · exact { hd.rows row hrow with }
  · exact hd.rows row hrow

theorem isStorable_of_linkTag {u : Unit} (h : (linkTag id tag).runOn d = (.ok u, d')) :
    IsStorable tag := by
  obtain ⟨_, _, -, h⟩ := runOn_bind_eq_ok.1 h
  obtain ⟨_, _, hstorable, -⟩ := runOn_bind_eq_ok.1 h
  exact isStorable_of_storable (runOn_ofExcept_eq_ok.1 hstorable).1

end Database

/-! ### The two edits -/

variable {σ : Type} {w w' : World σ} {t : Track} {id : Int}

/-- The world with another database, all of it committed. -/
def World.settled (w : World σ) (d : Database) : World σ := { w with database := d, saved := d }

/-- **Rating a track**: it succeeds if the track can be read and the value is a rating, and the track
has the rating then. -/
theorem runOn_rateTrack_eq_ok (hd : w.database.IsStored) (o : Outside σ) {rating : Json} :
    (rateTrack o id rating).runOn w = (.ok t, w') ↔ ∃ r, Rating.ofJson? rating = .ok r ∧
      w' = w.settled (w.database.rated id r (o.now w.outside)) ∧
      ∃ before, (Database.track id).runOn w.database = (.ok before, w.database) ∧
        t = before.rated r (o.now w.outside) := by
  unfold rateTrack
  simp only [runOn_unit_eq_ok, runOn_bind_eq_ok, runOn_query_eq_ok, runOn_now]
  constructor
  · rintro ⟨v, ⟨before, _, ⟨d, hbefore, rfl⟩, _, _, hnow, h⟩, rfl⟩
    obtain ⟨rfl, rfl⟩ : o.now w.outside = _ ∧ _ = _ := by simpa using hnow
    obtain ⟨rfl, -, row, hrow, rfl, -, hread⟩ := Database.exists_row_of_track hbefore
    split at h
    · rename_i r hr
      obtain ⟨d, hsave, rfl⟩ := runOn_query_eq_ok.1 h
      rw [Database.runOn_saveTrack_rated hd hrow hread] at hsave
      cases hsave
      exact ⟨r, hr, rfl, before, hbefore, rfl⟩
    · cases h
    · cases h
  · rintro ⟨r, hr, rfl, before, hbefore, rfl⟩
    obtain ⟨-, -, row, hrow, rfl, -, hread⟩ := Database.exists_row_of_track hbefore
    refine ⟨{ w with database := w.database.rated row.id r (o.now w.outside) },
      ⟨before, w, ⟨_, hbefore, rfl⟩, _, _, rfl, ?_⟩, rfl⟩
    rw [hr]
    exact runOn_query_eq_ok.2
      ⟨_, Database.runOn_saveTrack_rated hd hrow hread, rfl⟩

/-- **Tagging a track**: it succeeds if the track can be read and the text names a tag, and the track
has the tag then. -/
theorem runOn_tagTrack_eq_ok {text : String} : (tagTrack id text).runOn w = (.ok t, w') ↔
    ∃ tag ∈ w.database.tags, resolveTag w.database.tagsByName text = .ok tag ∧ IsStorable tag.id ∧
      w' = w.settled (w.database.linked id tag.id) ∧
      ∃ before, (Database.track id).runOn w.database = (.ok before, w.database) ∧
        t = { before with tagIds := w'.database.tagIdsOf id } := by
  have hexists {tag : Tag} (h : resolveTag w.database.tagsByName text = .ok tag) :
      tag ∈ w.database.tags := by
    obtain ⟨before, after, hsplit, -, -⟩ := resolveTag_eq_ok_iff.1 h
    exact mem_sortBy.1 (hsplit ▸ List.mem_append_cons_self)
  have hlinked {tag : Tag} {before : Track} (htag : tag ∈ w.database.tags) (hstorable : IsStorable tag.id)
      (hbefore : (Database.track id).runOn w.database = (.ok before, w.database)) :
      (Database.linkTag id tag.id).runOn w.database = (.ok (), w.database.linked id tag.id) := by
    obtain ⟨-, hid, row, hrow, hnumber, -⟩ := Database.exists_row_of_track hbefore
    exact Database.runOn_linkTag hid hstorable ⟨row, hrow, hnumber⟩ ⟨tag, htag, rfl⟩
  unfold tagTrack
  simp only [runOn_unit_eq_ok, runOn_bind_eq_ok, runOn_query_eq_ok, runOn_ofExcept_eq_ok]
  constructor
  · rintro ⟨_, ⟨before, _, ⟨_, hbefore, rfl⟩, _, _, hget, tag, _, ⟨htag, rfl⟩, _, _,
      ⟨d, hlink, rfl⟩, after, hafter, rfl⟩, rfl⟩
    obtain ⟨rfl, -⟩ := Database.runOn_track_eq_ok.1 hbefore
    obtain ⟨rfl, rfl⟩ : w = _ ∧ w = _ := by simpa using hget
    have hstorable := Database.isStorable_of_linkTag hlink
    rw [hlinked (hexists htag) hstorable hbefore] at hlink
    cases hlink
    rw [Database.runOn_track_linked hbefore] at hafter
    cases hafter
    exact ⟨tag, hexists htag, htag, hstorable, rfl, before, hbefore, rfl⟩
  · rintro ⟨tag, htag, hresolved, hstorable, rfl, before, hbefore, rfl⟩
    exact ⟨{ w with database := w.database.linked id tag.id }, ⟨before, w, ⟨_, hbefore, rfl⟩, w, w, rfl,
      tag, w, ⟨hresolved, rfl⟩, (), _, ⟨_, hlinked htag hstorable hbefore, rfl⟩, _,
      Database.runOn_track_linked hbefore, rfl⟩, rfl⟩

/-- Tagging a track a second time changes nothing. -/
theorem runOn_tagTrack_again {text : String} (h : (tagTrack id text).runOn w = (.ok t, w')) :
    (tagTrack id text).runOn w' = (.ok t, w') := by
  obtain ⟨tag, htag, hresolved, hstorable, rfl, before, hbefore, rfl⟩ := runOn_tagTrack_eq_ok.1 h
  have hagain : (w.database.linked id tag.id).linked id tag.id = w.database.linked id tag.id :=
    Database.linked_linked
  refine runOn_tagTrack_eq_ok.2 ⟨tag, htag, hresolved, hstorable, ?_, _,
    Database.runOn_track_linked hbefore, rfl⟩
  exact congrArg (World.settled w) hagain.symm

/-- **Edits touch only what they name.** A rating changes the row of the track and in it the rating and
when it was given, which is empty just when the rating is. A tag that a track is given is a link that
there is then; given again, it changes nothing. All else is as it was, whatever it is. -/
theorem edits_touch_only (hd : w.database.IsStored) (o : Outside σ) (id : Int) :
    (∀ rating t w', (rateTrack o id rating).runOn w = (.ok t, w') →
      ∃ r, Rating.ofJson? rating = .ok r ∧
        w' = w.settled (w.database.rated id r (o.now w.outside)) ∧
        (∀ row ∈ w'.database.tracks, row.id = id → (row.ratedAt = none ↔ row.rating = none)) ∧
        ∃ before, (Database.track id).runOn w.database = (.ok before, w.database) ∧
          t = before.rated r (o.now w.outside) ∧
          (Database.track id).runOn w'.database = (.ok t, w'.database)) ∧
    ∀ text t w', (tagTrack id text).runOn w = (.ok t, w') →
      (∃ tag ∈ w.database.tags, resolveTag w.database.tagsByName text = .ok tag ∧
        w' = w.settled (w.database.linked id tag.id) ∧
        (∀ l, l ∈ w'.database.tagLinks ↔ l ∈ w.database.tagLinks ∨ l = (id, tag.id)) ∧
        ∃ before, (Database.track id).runOn w.database = (.ok before, w.database) ∧
          t = { before with tagIds := w'.database.tagIdsOf id }) ∧
      (tagTrack id text).runOn w' = (.ok t, w') := by
  refine ⟨fun rating t w' h => ?_, fun text t w' h => ⟨?_, runOn_tagTrack_again h⟩⟩
  · obtain ⟨r, hr, rfl, before, hbefore, rfl⟩ := (runOn_rateTrack_eq_ok hd o).1 h
    refine ⟨r, hr, rfl, fun row hrow hid => ?_, before, hbefore, rfl, Database.runOn_track_rated hbefore⟩
    obtain ⟨q, -, rfl⟩ := List.mem_map.1 hrow
    by_cases hq : q.id = id
    · rw [if_pos (beq_iff_eq.2 hq)]
      cases r <;> simp [TrackRow.rated]
    · rw [if_neg (mt beq_iff_eq.1 hq)] at hid
      exact absurd hid hq
  · obtain ⟨tag, htag, hresolved, -, rfl, before, hbefore, rfl⟩ := runOn_tagTrack_eq_ok.1 h
    exact ⟨tag, htag, hresolved, rfl, fun l => Database.mem_linked, before, hbefore, rfl⟩

namespace Shelf

/-- A track with ratings, plays, features and tags, beside another one. -/
def database : Database where
  tracks := [
    { id := 1, externalId := "a", title := "A", artist := "X", album := "First", duration := .int 180000,
      addedAt := .utc 5, rating := (Rating.ofJson? (.int 4)).toOption.join, ratedAt := some (.utc 7),
      playCount := .int 3, lastPlayedAt := some (.utc 9), features := some (.object [("tempo", .int 120)]) },
    { id := 2, externalId := "b", title := "B", artist := "Y", addedAt := .utc 6 }]
  tags := [{ id := 1, name := "Calm", color := "" }, { id := 2, name := "Loud", color := "" }]
  tagLinks := [(1, 2), (2, 1)]
  sources := [⟨1, .likedSongs, "", none⟩]
  plays := [⟨1, .utc 9, .int 1000⟩]
  artists := [{ id := "x", name := "X", trackCount := 1, averageRating := none }]

/-- The database is all there is of the world. -/
def world : World Surroundings := ⟨database, database, { clock := .utc 11 }⟩

theorem isStored_database : database.IsStored := by
  refine ⟨⟨by decide, by decide⟩, ?_⟩
  simp only [database, List.forall_mem_cons, List.not_mem_nil, false_implies, implies_true, and_true]
  exact ⟨⟨rfl, by simp, by simp [Timestamp.utc], ⟨rfl, rfl⟩, ⟨rfl, rfl⟩⟩,
    ⟨rfl, by simp, by simp, ⟨rfl, rfl⟩, ⟨rfl, rfl⟩⟩⟩

/-- The first track loses its rating, and gets a tag by its name. -/
theorem edits_touch_only_shelf : world.database.IsStored ∧
    (∃ t w', (rateTrack Surroundings.outside 1 .null).runOn world = (.ok t, w') ∧
      w' = world.settled (database.rated 1 none (.utc 11))) ∧
    ∃ t w', (tagTrack 1 "calm").runOn world = (.ok t, w') ∧
      w' = world.settled (database.linked 1 1) ∧ (tagTrack 1 "calm").runOn w' = (.ok t, w') := by
  obtain ⟨hrate, htag⟩ := edits_touch_only (w := world) isStored_database Surroundings.outside 1
  refine ⟨isStored_database, ?_, ?_⟩
  · obtain ⟨t, w', hrun⟩ := exists_of_isOk (r := (rateTrack Surroundings.outside 1 .null).runOn world)
      (by decide +kernel)
    obtain ⟨r, hr, hworld, -⟩ := hrate _ _ _ hrun
    obtain rfl : none = r := Except.ok.inj hr
    exact ⟨t, w', hrun, hworld⟩
  · obtain ⟨t, w', hrun⟩ := exists_of_isOk (r := (tagTrack 1 "calm").runOn world) (by decide +kernel)
    obtain ⟨⟨tag, -, hresolved, hworld, -⟩, hagain⟩ := htag _ _ _ hrun
    have hcalm : (resolveTag database.tagsByName "calm").map Tag.id = .ok 1 := by decide +kernel
    rw [show resolveTag database.tagsByName "calm" = .ok tag from hresolved] at hcalm
    obtain htag : tag.id = 1 := Except.ok.inj hcalm
    rw [htag] at hworld
    exact ⟨t, w', hrun, hworld, hagain⟩

end Shelf

end Mixtape
