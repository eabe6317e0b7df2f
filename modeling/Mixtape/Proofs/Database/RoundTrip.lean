import Mixtape.Proofs.Database.Sources

/-!
# Tracks that are saved and read back

A track that is put in is read back from three tables: its row, the links to its tags, and the links
to its sources. Texts, counts and the half stars of a rating come back as they were, and so do the sets
of tags and sources. Of a date only the wall clock is kept, and it is read back as universal time: so it
denotes the same instant exactly if it was given in universal time. Of two sources of one type, one
without id and one with an empty id, the database takes one only, and refuses the track.

## Main definitions

* `Track.IsWritable d t` — a track whose values have columns, and whose tags exist.
* `Database.HasRoom d` — links start from stored tracks, and there is a number for one track more.
* `Track.IsUniversal t` — all dates are given in universal time.
* `Track.Survives t t'` — a track read back is the one that was saved.
* `Track.readBack t n` — the track that is read back.

## Main results

* `runOn_insertTrack`, `runOn_track_entered` — what is put in, and what is read back of it.
* `survives_readBack_iff` — what is read back is the same exactly if all dates are universal.
* `saveTrack_reads_back_iff` — **which tracks come back as they were saved.**
-/

namespace Mixtape

open Action

/-! ### Tracks with columns for their values -/

/-- A source as it is read back: an empty id as none. -/
def TrackSource.stored (s : TrackSource) : TrackSource :=
  { s with id := if s.id = some "" then none else s.id }

theorem TrackSource.source_link (s : TrackSource) (n : Int) : (s.link n).source = s.stored := by
  obtain ⟨type, id, name⟩ := s
  cases id with
  | none => rfl
  | some id =>
    by_cases hid : id = "" <;> simp [TrackSource.link, SourceLink.source, TrackSource.stored, hid]

/-- A whole number that a column holds. -/
def IsStorable (n : Int) : Prop := -Database.storableBound ≤ n ∧ n < Database.storableBound

instance (n : Int) : Decidable (IsStorable n) := inferInstanceAs (Decidable (_ ∧ _))

theorem storable_eq_ok {n : Int} (h : IsStorable n) : Database.storable n = .ok () := if_pos h

theorem isStorable_of_storable {n : Int} (h : Database.storable n = .ok ()) : IsStorable n := by
  unfold Database.storable at h
  split at h
  · assumption
  · cases h

namespace Track

/-- A track whose values have columns, and whose tags exist. -/
structure IsWritable (d : Database) (t : Track) : Prop where
  /-- The album is a text. -/
  album : ∃ text, t.album = .text text
  /-- The id of the artist is a text, or missing. -/
  artistId : ∃ id, t.artistId = .ofText? id
  /-- The id of the album is a text, or missing. -/
  albumId : ∃ id, t.albumId = .ofText? id
  /-- The duration is a whole number that a column holds. -/
  duration : ∃ n : Nat, t.duration = .ofNat n ∧ IsStorable n
  /-- So is the play count. -/
  playCount : ∃ n : Nat, t.playCount = .ofNat n ∧ IsStorable n
  /-- It is told when the track was added. -/
  addedAt : ∃ date, t.addedAt = some date
  /-- The tags are told by numbers that a column holds, and they exist. -/
  tagIds : ∃ ids : List Int, t.tagIds = ids.map .int ∧
    ∀ id ∈ ids, IsStorable id ∧ ∃ tag ∈ d.tags, tag.id = id

/-- The dates of a track. -/
def dates (t : Track) : List (Option Timestamp) :=
  [t.addedAt, t.ratedAt, t.lastPlayedAt, t.releaseDate]

/-- All dates of a track are given in universal time. -/
def IsUniversal (t : Track) : Prop := ∀ date, some date ∈ t.dates → date.offset = 0

/-- A track that is read back is the one that was saved, apart from its number: dates denote the same
instant, ratings have as many half stars, tags and sources are the same ones. -/
structure Survives (t t' : Track) : Prop where
  /-- The id at the platform. -/
  externalId : t'.externalId = t.externalId
  /-- The title. -/
  title : t'.title = t.title
  /-- The artist. -/
  artist : t'.artist = t.artist
  /-- The album. -/
  album : t'.album = t.album
  /-- The id of the artist. -/
  artistId : t'.artistId = t.artistId
  /-- The id of the album. -/
  albumId : t'.albumId = t.albumId
  /-- The duration. -/
  duration : t'.duration = t.duration
  /-- The play count. -/
  playCount : t'.playCount = t.playCount
  /-- The rating. -/
  rating : t'.rating.map Rating.halves = t.rating.map Rating.halves
  /-- The tags. -/
  tagIds : ∀ id, id ∈ t'.tagIds ↔ id ∈ t.tagIds
  /-- The sources. -/
  sources : ∀ s, s ∈ t'.sources ↔ ∃ given ∈ t.sources, s = given.stored
  /-- The dates. -/
  dates : t'.dates.map (·.map Timestamp.instant) = t.dates.map (·.map Timestamp.instant)

/-- The track that is read back of one that was put in with a number. -/
def readBack (t : Track) (n : Int) : Track :=
  { t with
    rating := t.rating.map Rating.stored, ratedAt := Timestamp.stored? t.ratedAt
    lastPlayedAt := Timestamp.stored? t.lastPlayedAt, addedAt := Timestamp.stored? t.addedAt
    releaseDate := Timestamp.stored? t.releaseDate, tagIds := ascendingIds t.tagIds
    sources := dedup (t.sources.map TrackSource.stored), id := some n }

end Track

/-- Numbers in ascending order are those that are told. -/
theorem mem_ascendingIds {ids : List Int} {j : Json} :
    j ∈ ascendingIds (ids.map .int) ↔ j ∈ ids.map Json.int := by
  have hfold : ∀ ids told : List Int, ∃ all : List Int,
      (ids.map Json.int).foldl addTagId (told.map .int) = all.map .int ∧
        ∀ n, n ∈ all ↔ n ∈ told ∨ n ∈ ids := by
    intro ids
    induction ids with
    | nil => exact fun told => ⟨told, rfl, by simp⟩
    | cons id ids ih =>
      intro told
      have hknown : (told.map Json.int).any (·.isSame (.int id)) = true ↔ id ∈ told := by
        simp [List.any_eq_true]
      rw [List.map_cons, List.foldl_cons, addTagId]
      by_cases hid : id ∈ told
      · rw [if_pos (hknown.2 hid)]
        obtain ⟨all, hall, hmem⟩ := ih told
        refine ⟨all, hall, fun n => ?_⟩
        rw [hmem, List.mem_cons]
        constructor
        · exact fun h => h.imp_right .inr
        · rintro (h | rfl | h)
          · exact .inl h
          · exact .inl hid
          · exact .inr h
      · rw [if_neg (mt hknown.1 hid)]
        obtain ⟨all, hall, hmem⟩ := ih (told ++ [id])
        refine ⟨all, by rw [← hall, List.map_append]; rfl, fun n => ?_⟩
        rw [hmem, List.mem_append, List.mem_singleton, List.mem_cons, or_assoc]
  obtain ⟨all, hall, hmem⟩ := hfold ids []
  rw [ascendingIds, mem_sortBy, show ([] : List Json) = ([] : List Int).map .int from rfl, hall,
    List.mem_map, List.mem_map]
  simp only [hmem, List.not_mem_nil, false_or]

/-! ### What comes back -/

section Dates

variable {t : Track}

theorem Timestamp.instant_stored?_iff (date : Option Timestamp) :
    (Timestamp.stored? date).map Timestamp.instant = date.map Timestamp.instant ↔
      ∀ d, date = some d → d.offset = 0 := by
  cases date with
  | none => simp [Timestamp.stored?]
  | some d =>
    simp only [Timestamp.stored?, Option.map_some, Option.some.injEq, Timestamp.asUtc,
      Timestamp.utc, Timestamp.instant, forall_eq']
    omega

/-- **What is read back is the track that was saved exactly if all dates are universal.** -/
theorem survives_readBack_iff {ids : List Int} (hids : t.tagIds = ids.map .int) (n : Int) :
    t.Survives (t.readBack n) ↔ t.IsUniversal := by
  have hdates : (t.readBack n).dates.map (·.map Timestamp.instant) =
      t.dates.map (·.map Timestamp.instant) ↔ t.IsUniversal := by
    simp only [Track.dates, Track.readBack, Track.IsUniversal, List.map_cons, List.map_nil,
      List.cons.injEq, and_true, Timestamp.instant_stored?_iff, List.mem_cons, List.not_mem_nil,
      or_false, eq_comm (a := some _), or_imp, forall_and]
  constructor
  · exact fun h => hdates.1 h.dates
  · intro h
    refine ⟨rfl, rfl, rfl, rfl, rfl, rfl, rfl, rfl, ?_, fun id => ?_, fun s => ?_, hdates.2 h⟩
    · rw [Track.readBack, Option.map_map]
      rfl
    · rw [Track.readBack, hids]
      exact mem_ascendingIds
    · simp only [Track.readBack, mem_dedup, List.mem_map, eq_comm]

end Dates

/-! ### Putting in and reading back -/

namespace Database

variable {d : Database} {t : Track} {now : Timestamp}

/-- Links start from stored tracks, and there is a number for one track more. -/
structure HasRoom (d : Database) : Prop where
  /-- Links to tags start from stored tracks. -/
  tagLinks : ∀ l ∈ d.tagLinks, ∃ r ∈ d.tracks, r.id = l.1
  /-- So do links to sources. -/
  sources : ∀ l ∈ d.sources, ∃ r ∈ d.tracks, r.id = l.track
  /-- The next number can be stored. -/
  next : nextId (d.tracks.map (·.id)) < storableBound

theorem isStorable_nextId (h : d.HasRoom) : IsStorable (nextId (d.tracks.map (·.id))) := by
  have : 0 ≤ (d.tracks.map (·.id)).foldl max 0 := le_foldl_max _ 0
  refine ⟨?_, h.next⟩
  unfold nextId storableBound
  omega

/-- The database with a track put in: its row, links to its tags, and links to its sources. -/
def entered (d : Database) (row : TrackRow) (ids : List Int) (sources : List TrackSource) : Database :=
  { d with
    tracks := d.tracks ++ [row], tagLinks := d.tagLinks ++ ids.map fun id => (row.id, id)
    sources := d.sources ++ sources.map fun s => s.link row.id }

/-- A row that holds a track. -/
structure KeptBy (t : Track) (row : TrackRow) : Prop where
  /-- The id at the platform. -/
  externalId : row.externalId = t.externalId
  /-- The title. -/
  title : row.title = t.title
  /-- The artist. -/
  artist : row.artist = t.artist
  /-- The album. -/
  album : t.album = .text row.album
  /-- The id of the artist. -/
  artistId : t.artistId = .ofText? row.artistId
  /-- The id of the album. -/
  albumId : t.albumId = .ofText? row.albumId
  /-- The duration. -/
  duration : ∃ n : Nat, t.duration = .ofNat n ∧ row.duration = .int n
  /-- The play count. -/
  playCount : ∃ n : Nat, t.playCount = .ofNat n ∧ row.playCount = .int n
  /-- The rating. -/
  rating : row.rating = t.rating.map Rating.stored
  /-- The wall clocks of the dates. -/
  dates : some row.addedAt = Timestamp.stored? t.addedAt ∧ row.ratedAt = Timestamp.stored? t.ratedAt ∧
    row.lastPlayedAt = Timestamp.stored? t.lastPlayedAt ∧
    row.releaseDate = Timestamp.stored? t.releaseDate

theorem text?_ofText? (id : Option String) : Column.text? (.ofText? id) = .ok id := by
  cases id <;> rfl

/-- The row of a writable track holds it. -/
theorem exists_filled (h : t.IsWritable d) {album : String} (halbum : t.album = .text album) (id : Int)
    (now : Timestamp) :
    ∃ row, TrackRow.filled
        { id, externalId := t.externalId, title := t.title, artist := t.artist, addedAt := now } t
        album (t.addedAt.getD now) = .ok row ∧ row.id = id ∧ KeptBy t row := by
  obtain ⟨artistId, hartist⟩ := h.artistId
  obtain ⟨albumId, halbumId⟩ := h.albumId
  obtain ⟨duration, hduration, hstorable⟩ := h.duration
  obtain ⟨playCount, hplays, hstorable'⟩ := h.playCount
  obtain ⟨date, hdate⟩ := h.addedAt
  have hkept : Column.neededCount (Count.ofNat duration).given = .ok (.int duration) :=
    Column.neededCount_int.2 ⟨hstorable, rfl⟩
  have hkept' : Column.neededCount (Count.ofNat playCount).given = .ok (.int playCount) :=
    Column.neededCount_int.2 ⟨hstorable', rfl⟩
  unfold TrackRow.filled
  rw [hartist, halbumId, hduration, hplays, text?_ofText?, text?_ofText?, hkept, hkept', hdate]
  exact ⟨_, rfl, rfl, rfl, rfl, rfl, halbum, hartist, halbumId, ⟨duration, hduration, rfl⟩,
    ⟨playCount, hplays, rfl⟩, rfl, by rw [hdate]; rfl, rfl, rfl, rfl⟩

/-- The numbers of tags that exist are linked. -/
theorem runOn_addTagLinks {ids : List Int} (n : Int)
    (h : ∀ id ∈ ids, IsStorable id ∧ ∃ tag ∈ d.tags, tag.id = id) :
    (addTagLinks n (ids.map .int)).runOn d =
      (.ok (), { d with tagLinks := d.tagLinks ++ ids.map fun id => (n, id) }) := by
  have hnumbers : (ids.map Json.int).mapM (fun id => Column.needed (Column.number? id)) = .ok ids := by
    clear n
    induction ids with
    | nil => rfl
    | cons id ids ih =>
      obtain ⟨hid, hrest⟩ := List.forall_mem_cons.1 h
      have hnumber : Column.needed (Column.number? (.int id)) = .ok id := by
        unfold Column.number? Column.count
        dsimp only
        rw [storable_eq_ok hid.1]
        rfl
      rw [List.map_cons, List.mapM_cons, hnumber, ih hrest]
      rfl
  have hexist : (ids.all fun id => d.tags.any (·.id == id)) = true := by
    rw [List.all_eq_true]
    intro id hid
    obtain ⟨tag, htag, rfl⟩ := (h id hid).2
    exact List.any_eq_true.2 ⟨tag, htag, beq_self_eq_true _⟩
  unfold addTagLinks
  rw [hnumbers, runOn_bind, runOn_ofExcept]
  dsimp only
  rw [runOn_bind, runOn_get]
  dsimp only
  rw [require, hexist]
  rfl

/-- The keys of the sources that are put in. -/
theorem map_key_link (sources : List TrackSource) (n : Int) :
    (sources.map fun s => s.link n).map (fun l => (l.type, l.sourceId)) =
      sources.map TrackSource.key := List.map_map

/-- **What is put in** of a new track. -/
theorem runOn_insertTrack (h : t.IsWritable d) (hkeys : (t.sources.map TrackSource.key).Nodup)
    (now : Timestamp) :
    ∃ ids row, t.tagIds = ids.map .int ∧ row.id = nextId (d.tracks.map (·.id)) ∧ KeptBy t row ∧
      (insertTrack now t).runOn d = (.ok (), d.entered row ids t.sources) := by
  obtain ⟨album, halbum⟩ := h.album
  obtain ⟨ids, hids, htags⟩ := h.tagIds
  obtain ⟨row, hrow, hid, hkept⟩ :=
    exists_filled h halbum (nextId (d.tracks.map (·.id))) now
  refine ⟨ids, row, hids, hid, hkept, ?_⟩
  unfold insertTrack
  rw [halbum, hids]
  simp only [Column.text?, runOn_bind, runOn_ofExcept, runOn_get, Option.getD_some, map_key_link,
    require, decide_eq_true hkeys, if_true, hrow, runOn_set]
  rw [← hid]
  exact runOn_addTagLinks row.id htags

/-- A track with two sources of one key is refused. -/
theorem runOn_insertTrack_refused (h : t.IsWritable d)
    (hkeys : ¬(t.sources.map TrackSource.key).Nodup) :
    (insertTrack now t).runOn d = (.error (.constraint ""), d) := by
  obtain ⟨album, halbum⟩ := h.album
  unfold insertTrack
  rw [halbum]
  simp only [Column.text?, runOn_bind, runOn_ofExcept, runOn_get, map_key_link, require,
    decide_eq_false hkeys, Bool.false_eq_true, if_false]

section Entered

variable {ids : List Int} {row : TrackRow}

theorem readCount_nat (field : String) (n : Nat) : readCount field (.int n) = .ok (.ofNat n) := by
  unfold readCount
  cases n with
  | zero => exact Count.ofJson_nat field 0
  | succ n => exact Count.ofJson_nat field (n + 1)

/-- No link starts from the next number. -/
theorem ne_nextId {n : Int} (h : ∃ r ∈ d.tracks, r.id = n) : n ≠ nextId (d.tracks.map (·.id)) := by
  obtain ⟨r, hr, rfl⟩ := h
  exact Int.ne_of_lt (lt_nextId (List.mem_map_of_mem hr))

theorem tagIdsOf_entered (room : d.HasRoom) (hid : row.id = nextId (d.tracks.map (·.id))) :
    (d.entered row ids t.sources).tagIdsOf row.id = ascendingIds (ids.map .int) := by
  have hold : d.tagLinks.filter (·.1 == row.id) = [] := by
    refine List.filter_eq_nil_iff.2 fun l hl => ?_
    simpa [hid] using ne_nextId (room.tagLinks l hl)
  simp [tagIdsOf, entered, List.filter_append, hold, List.filter_map, Function.comp_def]

theorem sourcesOf_entered (room : d.HasRoom) (hid : row.id = nextId (d.tracks.map (·.id))) :
    (d.entered row ids t.sources).sourcesOf row.id = dedup (t.sources.map TrackSource.stored) := by
  have hold : d.sources.filter (·.track == row.id) = [] := by
    refine List.filter_eq_nil_iff.2 fun l hl => ?_
    simpa [hid] using ne_nextId (room.sources l hl)
  have hnew : (t.sources.map fun s => s.link row.id).filter (·.track == row.id) =
      t.sources.map fun s => s.link row.id := by
    refine List.filter_eq_self.2 fun l hl => ?_
    obtain ⟨s, -, rfl⟩ := List.mem_map.1 hl
    exact beq_self_eq_true row.id
  simp only [sourcesOf, entered, List.filter_append, hold, hnew, List.nil_append, List.map_map,
    Function.comp_def, TrackSource.source_link]

/-- **What is read back of a track that was put in.** -/
theorem readTrack_entered (room : d.HasRoom) (hid : row.id = nextId (d.tracks.map (·.id)))
    (hids : t.tagIds = ids.map .int) (hkept : KeptBy t row) :
    (d.entered row ids t.sources).readTrack row = .ok (t.readBack row.id) := by
  obtain ⟨duration, hduration, hcount⟩ := hkept.duration
  obtain ⟨playCount, hplays, hcount'⟩ := hkept.playCount
  obtain ⟨hadded, hrated, hplayed, hreleased⟩ := hkept.dates
  unfold readTrack Track.readBack
  rw [hcount, hcount', readCount_nat, readCount_nat, tagIdsOf_entered room hid,
    sourcesOf_entered room hid, hids, hkept.album, hkept.artistId, hkept.albumId, hduration,
    hplays, ← hadded, ← hrated, ← hplayed, ← hreleased, ← hkept.rating, ← hkept.externalId,
    ← hkept.title, ← hkept.artist]
  rfl

/-- The row of a new track is found by its id. -/
theorem trackNamed?_entered (fresh : d.trackNamed? t.externalId = none) (hkept : KeptBy t row) :
    (d.entered row ids t.sources).trackNamed? t.externalId = some row := by
  unfold trackNamed? at fresh ⊢
  rw [entered, List.find?_append, fresh, Option.none_or,
    List.find?_cons_of_pos (by simp [hkept.externalId])]

/-- The row of a new track is found by its number. -/
theorem runOn_track_entered (room : d.HasRoom) (hid : row.id = nextId (d.tracks.map (·.id)))
    (hids : t.tagIds = ids.map .int) (hkept : KeptBy t row) :
    (track row.id).runOn (d.entered row ids t.sources) =
      (.ok (t.readBack row.id), d.entered row ids t.sources) := by
  have hold : d.tracks.find? (·.id == row.id) = none := by
    refine List.find?_eq_none.2 fun r hr => ?_
    simpa [hid] using ne_nextId ⟨r, hr, rfl⟩
  have hfound : (d.entered row ids t.sources).tracks.find? (·.id == row.id) = some row := by
    rw [entered, List.find?_append, hold, Option.none_or, List.find?_cons_of_pos (by simp)]
  unfold track
  simp only [runOn_bind, runOn_ofExcept, runOn_get, storable_eq_ok (hid ▸ isStorable_nextId room),
    hfound, readTrack_entered room hid hids hkept]

theorem runOn_saveTrack (room : d.HasRoom) (fresh : d.trackNamed? t.externalId = none)
    (hid : row.id = nextId (d.tracks.map (·.id))) (hids : t.tagIds = ids.map .int)
    (hkept : KeptBy t row)
    (hrun : (insertTrack now t).runOn d = (.ok (), d.entered row ids t.sources)) :
    (saveTrack now t).runOn d = (.ok (t.readBack row.id), d.entered row ids t.sources) := by
  unfold saveTrack
  simp only [runOn_bind, runOn_get, fresh, hrun, trackNamed?_entered fresh hkept, runOn_ofExcept,
    readTrack_entered room hid hids hkept]

end Entered

/-- **Which tracks come back as they were saved.** A new track whose values have columns is saved and
read back as the same one exactly if all its dates are given in universal time and no two of its sources
have one key: of the others the track is refused, or a date comes back as another instant. -/
theorem saveTrack_reads_back_iff (room : d.HasRoom) (writable : t.IsWritable d)
    (fresh : d.trackNamed? t.externalId = none) (now : Timestamp) :
    (∃ saved n t' d', (saveTrack now t).runOn d = (.ok saved, d') ∧ saved.id = some n ∧
        (track n).runOn d' = (.ok t', d') ∧ t.Survives t') ↔
      t.IsUniversal ∧ (t.sources.map TrackSource.key).Nodup := by
  by_cases hkeys : (t.sources.map TrackSource.key).Nodup
  · obtain ⟨ids, row, hids, hid, hkept, hrun⟩ := runOn_insertTrack writable hkeys now
    have hsave := runOn_saveTrack room fresh hid hids hkept hrun
    have hread := runOn_track_entered room hid hids hkept
    rw [and_iff_left hkeys, ← survives_readBack_iff hids row.id]
    constructor
    · rintro ⟨saved, n, t', d', hx, hn, ht', h⟩
      obtain ⟨hsaved, rfl⟩ := Prod.mk.inj (hsave.symm.trans hx)
      obtain rfl := Except.ok.inj hsaved
      obtain rfl : row.id = n := Option.some.inj hn
      obtain rfl := Except.ok.inj (Prod.mk.inj (hread.symm.trans ht')).1
      exact h
    · exact fun h => ⟨_, row.id, _, _, hsave, rfl, hread, h⟩
  · constructor
    · rintro ⟨saved, n, t', d', hx, -⟩
      have hrefused : (saveTrack now t).runOn d = (.error (.constraint ""), d) := by
        unfold saveTrack
        simp only [runOn_bind, runOn_get, fresh, runOn_insertTrack_refused writable hkeys]
      rw [hrefused] at hx
      cases hx
    · exact fun h => absurd h.2 hkeys

/-! ### A track that survives, and one that does not -/

/-- A database with one tag. -/
def tagged : Database := { tags := [⟨1, "Chill", "#6b7280"⟩] }

/-- A rated track with a tag, which was liked and is on a playlist. -/
def atHome : Track where
  externalId := "sp1"
  title := "T"
  artist := "A"
  album := .text "Alb"
  rating := Rating.ofHalves? 9
  addedAt := some (.utc 63839232000000000)
  tagIds := [.int 1]
  sources := [⟨.likedSongs, none, none⟩, ⟨.playlist, some "pl-1", some "Road Trip"⟩]

/-- A track that was added at a place two hours ahead of universal time. -/
def abroad : Track where
  externalId := "sp1"
  title := "T"
  artist := "A"
  addedAt := some ⟨63839232000000000, 7200000000⟩

/-- The moment of saving. -/
def saving : Timestamp := .utc 63852796800000000

theorem saveTrack_reads_back_tagged :
    tagged.HasRoom ∧ atHome.IsWritable tagged ∧ tagged.trackNamed? atHome.externalId = none ∧
      ∃ saved n t' d', (saveTrack saving atHome).runOn tagged = (.ok saved, d') ∧ saved.id = some n ∧
        (track n).runOn d' = (.ok t', d') ∧ atHome.Survives t' := by
  have hroom : tagged.HasRoom := ⟨nofun, nofun, by decide⟩
  have hzero : IsStorable (0 : Nat) := by decide
  have hwritable : atHome.IsWritable tagged :=
    ⟨⟨"Alb", rfl⟩, ⟨none, rfl⟩, ⟨none, rfl⟩, ⟨0, rfl, hzero⟩, ⟨0, rfl, hzero⟩, ⟨_, rfl⟩, [1], rfl,
      by decide⟩
  refine ⟨hroom, hwritable, rfl, (saveTrack_reads_back_iff hroom hwritable rfl saving).2 ⟨?_, ?_⟩⟩
  · intro date hdate
    simp only [Track.dates, atHome, List.mem_cons, reduceCtorEq, List.not_mem_nil, or_false,
      Option.some.injEq] at hdate
    rw [hdate]
    rfl
  · decide

/-- The moment comes back two hours later. -/
theorem not_saveTrack_reads_back :
    HasRoom {} ∧ abroad.IsWritable {} ∧ trackNamed? {} abroad.externalId = none ∧
      ¬∃ saved n t' d', (saveTrack saving abroad).runOn {} = (.ok saved, d') ∧ saved.id = some n ∧
        (track n).runOn d' = (.ok t', d') ∧ abroad.Survives t' := by
  have hzero : IsStorable (0 : Nat) := by decide
  refine ⟨⟨nofun, nofun, by decide⟩, ⟨⟨"", rfl⟩, ⟨none, rfl⟩, ⟨none, rfl⟩, ⟨0, rfl, hzero⟩,
    ⟨0, rfl, hzero⟩, ⟨_, rfl⟩, [], rfl, nofun⟩, rfl, ?_⟩
  rintro ⟨saved, n, t', d', hsave, hn, hread, hsurvives⟩
  have hsaved : ((saveTrack saving abroad).runOn {}).1 = .ok (abroad.readBack 1) := by decide +kernel
  have hback : ((saveTrack saving abroad >>= fun _ => track 1).runOn {}).1 =
      .ok (abroad.readBack 1) := by decide +kernel
  rw [hsave] at hsaved
  obtain rfl := Except.ok.inj hsaved
  obtain rfl : 1 = n := Option.some.inj hn
  rw [runOn_bind, hsave] at hback
  dsimp only at hback
  rw [hread] at hback
  obtain rfl := Except.ok.inj hback
  exact absurd hsurvives.dates (by decide)

end Database

end Mixtape
