import Mixtape.Proofs.Database.RoundTrip

/-!
# What is stored of a track that the platform tells of

Of a track that is taken in, the row keeps what the platform tells, texts, ids and the duration as they
are told, and of the release date the wall clock. This holds for a track that is new as for one that was
stored before. Everything else a pass does to the database leaves it.

## Main definitions

* `Metadata` — what the platform tells of a track, as a row holds it.
* `RemoteTrack.Tells t μ` — the platform tells `μ` with the track `t`.
* `Database.metadataOf d x` — what is stored of the track with an id.
* `lastTold ts x` — the last of several tracks with an id.
* `Retold told before after` — what is stored of a track becomes what was told, if it was told.

## Main results

* `metadataOf_takeIn` — **what is stored of a track that is taken in.**
-/

namespace Mixtape

open Action

/-- What the platform tells of a track, as a row holds it. -/
structure Metadata where
  /-- The title. -/
  title : String
  /-- The artist. -/
  artist : String
  /-- The album. -/
  album : String
  /-- The id of the artist. -/
  artistId : Option String
  /-- The id of the album. -/
  albumId : Option String
  /-- The duration. -/
  duration : Json
  /-- The release date. -/
  releaseDate : Option Timestamp
  deriving DecidableEq

/-- What a row holds of what the platform tells. -/
def TrackRow.metadata (r : TrackRow) : Metadata :=
  ⟨r.title, r.artist, r.album, r.artistId, r.albumId, r.duration, r.releaseDate⟩

/-- What is read back: of the release date the wall clock, as universal time. -/
def Metadata.stored (μ : Metadata) : Metadata :=
  { μ with releaseDate := Timestamp.stored? μ.releaseDate }

/-- The platform tells this with a track: texts, ids that are texts or missing, and a whole number of
milliseconds. -/
structure RemoteTrack.Tells (t : RemoteTrack) (μ : Metadata) : Prop where
  /-- The title. -/
  title : t.title = .text μ.title
  /-- The artist. -/
  artist : t.artist = .text μ.artist
  /-- The album. -/
  album : t.album = .text μ.album
  /-- The id of the artist. -/
  artistId : t.artistId = .ofText? μ.artistId
  /-- The id of the album. -/
  albumId : t.albumId = .ofText? μ.albumId
  /-- The duration. -/
  duration : t.duration = μ.duration ∧ ∃ n : Int, μ.duration = .int n
  /-- The release date. -/
  releaseDate : t.releaseDate = μ.releaseDate

/-- The last of several tracks with an id. -/
def lastTold (ts : List RemoteTrack) (x : String) : Option RemoteTrack :=
  ts.reverse.find? (·.externalId == x)

/-- What is stored of a track becomes what was told; if it was not told, it stays. -/
def Retold : Option RemoteTrack → Option Metadata → Option Metadata → Prop
  | none, before, after => after = before
  | some u, _, after => ∀ μ, u.Tells μ → after = some μ.stored

/-- What was told later counts. -/
theorem Retold.trans {u v : Option RemoteTrack} {a b c : Option Metadata} (h : Retold u a b)
    (h' : Retold v b c) : Retold (v.or u) a c := by
  cases v with
  | some v => exact h'
  | none =>
    obtain rfl : c = b := h'
    exact h

section LastTold

variable {t u : RemoteTrack} {ts : List RemoteTrack} {x : String}

theorem lastTold_cons : lastTold (t :: ts) x =
    (lastTold ts x).or (if t.externalId = x then some t else none) := by
  unfold lastTold
  rw [List.reverse_cons, List.find?_append, List.find?_singleton]
  simp only [beq_iff_eq]

theorem mem_of_lastTold (h : lastTold ts x = some u) : u ∈ ts ∧ u.externalId = x :=
  ⟨List.mem_reverse.1 (List.mem_of_find?_eq_some h), by simpa using List.find?_some h⟩

theorem lastTold_eq_none : lastTold ts x = none ↔ ∀ u ∈ ts, u.externalId ≠ x := by
  simp [lastTold]

theorem lastTold_of_nodup (hids : (ts.map (·.externalId)).Nodup) (hu : u ∈ ts) :
    lastTold ts u.externalId = some u := by
  cases h : lastTold ts u.externalId with
  | none => exact absurd rfl (lastTold_eq_none.1 h u hu)
  | some v =>
    obtain ⟨hv, hid⟩ := mem_of_lastTold h
    exact congrArg some (List.inj_on_of_nodup_map hids hv hu hid)

theorem nodup_keys_put {α : Type} {key : String} {value : α} {r : Registry α} (h : r.keys.Nodup) :
    (r.put key value).keys.Nodup := by
  induction r with
  | nil => simp [Registry.put, Registry.keys]
  | cons e rest ih =>
    obtain ⟨k, v⟩ := e
    obtain ⟨hk, hrest⟩ := List.nodup_cons.1 h
    unfold Registry.put
    split
    · exact h
    · rename_i hne
      refine List.nodup_cons.2 ⟨fun hmem => ?_, ih hrest⟩
      rcases Registry.mem_keys_put.1 hmem with hkey | hmem
      · exact hne hkey
      · exact hk hmem

/-- Tracks that are put into a registry one after another: the last one with an id is found. -/
theorem find?_foldl_put (ts : List RemoteTrack) (r : Registry RemoteTrack) :
    Registry.find? x (ts.foldl (fun r t => r.put t.externalId t) r) =
      (lastTold ts x).or (r.find? x) := by
  induction ts generalizing r with
  | nil => rfl
  | cons t ts ih =>
    rw [List.foldl_cons, ih, lastTold_cons, Option.or_assoc]
    congr 1
    split
    · rename_i htx
      subst htx
      rw [Registry.find?_put_self, Option.some_or]
    · rename_i htx
      rw [Registry.find?_put_of_ne (Ne.symm htx), Option.none_or]

theorem nodup_keys_foldl_put (ts : List RemoteTrack) {r : Registry RemoteTrack} (h : r.keys.Nodup) :
    (Registry.keys (ts.foldl (fun r t => r.put t.externalId t) r)).Nodup := by
  induction ts generalizing r with
  | nil => exact h
  | cons t ts ih => exact ih (nodup_keys_put h)

theorem find?_latestById : (Database.latestById ts).find? x = lastTold ts x :=
  (find?_foldl_put ts []).trans Option.or_none

/-- Of several tracks with one id, the last is taken in. -/
theorem lastTold_latestById :
    lastTold ((Database.latestById ts).map Prod.snd) x = lastTold ts x := by
  have hkeys : (Database.latestById ts).keys.Nodup := nodup_keys_foldl_put ts List.nodup_nil
  have hids : ((Database.latestById ts).map Prod.snd).map (·.externalId) =
      (Database.latestById ts).keys := by
    rw [List.map_map]
    exact List.map_congr_left fun e he => (Database.mem_latestById he).2.symm
  have hfind : (Database.latestById ts).find? x = lastTold ts x := find?_latestById
  rw [← hfind]
  cases h : (Database.latestById ts).find? x with
  | some u =>
    have hmem := Registry.mem_of_find? h
    obtain rfl : x = u.externalId := (Database.mem_latestById hmem).2
    exact lastTold_of_nodup (hids ▸ hkeys) (List.mem_map_of_mem hmem)
  | none =>
    refine lastTold_eq_none.2 fun u hu hux => ?_
    have hx : x ∈ (Database.latestById ts).keys := hids ▸ hux ▸ List.mem_map_of_mem hu
    obtain ⟨v, hv⟩ := Registry.exists_find?_of_mem_keys hx
    rw [h] at hv
    cases hv

end LastTold

/-! ### One row -/

theorem metadata_of_refreshed {r row : TrackRow} {t : RemoteTrack} {μ : Metadata} (ht : t.Tells μ)
    (h : r.refreshed t = .ok row) : row.metadata = μ.stored := by
  obtain ⟨hduration, n, hn⟩ := ht.duration
  unfold TrackRow.refreshed at h
  rw [ht.title, ht.artist, ht.album, ht.artistId, ht.albumId, Database.text?_ofText?,
    Database.text?_ofText?, hduration, hn] at h
  obtain ⟨duration, hkept, h⟩ := exists_of_bind_eq_ok (r := Column.neededCount (.int n)) h
  obtain ⟨-, rfl⟩ := Column.neededCount_int.1 hkept
  cases h
  rw [TrackRow.metadata, Metadata.stored, ht.releaseDate, hn]

theorem metadata_of_row {row : TrackRow} {t : RemoteTrack} {μ : Metadata} {id : Int}
    {now : Timestamp} (ht : t.Tells μ) (h : t.row id now = .ok row) : row.metadata = μ.stored := by
  obtain ⟨hduration, n, hn⟩ := ht.duration
  refine metadata_of_refreshed (t := { t with
    album := orDefault t.album (.text ""), duration := orDefault t.duration (.int 0) }) ?_ h
  refine ⟨ht.title, ht.artist, ?_, ht.artistId, ht.albumId, ⟨?_, n, hn⟩, ht.releaseDate⟩
  · rw [ht.album]
    rfl
  · rw [hduration, hn]
    rfl

namespace Database

variable {d d' : Database} {t : RemoteTrack} {ts : List RemoteTrack} {now : Timestamp} {x : String}

/-- What is stored of the track with an id. -/
def metadataOf (d : Database) (x : String) : Option Metadata :=
  (d.trackNamed? x).map TrackRow.metadata

theorem metadataOf_congr (h : d'.tracks = d.tracks) : d'.metadataOf x = d.metadataOf x := by
  unfold metadataOf trackNamed?
  rw [h]

/-! ### Taking in -/

theorem externalId_of_trackNamed? {r : TrackRow} (h : d.trackNamed? x = some r) : r.externalId = x := by
  simpa using List.find?_some h

/-- A row that takes the place of one that is stored is found by its name, and the others as before. -/
theorem trackNamed?_replaced {r row : TrackRow} {name : String} (hid : row.externalId = name)
    (hr : d.trackNamed? name = some r) (x : String) :
    ({ d with tracks := changeWhere (·.externalId == name) (fun _ => row) d.tracks }).trackNamed? x =
      if name = x then some row else d.trackNamed? x := by
  rw [trackNamed?, find?_changeWhere TrackRow.externalId hid x]
  change (d.trackNamed? x).map _ = _
  split
  · rename_i hx
    subst hx
    simp [hr, externalId_of_trackNamed? hr]
  · rename_i hx
    cases hq : d.trackNamed? x with
    | none => rfl
    | some q => simp [externalId_of_trackNamed? hq, Ne.symm hx]

/-- A row that is new is found by its name, and the others as before. -/
theorem trackNamed?_appended {row : TrackRow} {name : String} (hid : row.externalId = name)
    (hnew : d.trackNamed? name = none) (x : String) :
    ({ d with tracks := d.tracks ++ [row] }).trackNamed? x =
      if name = x then some row else d.trackNamed? x := by
  unfold trackNamed? at hnew ⊢
  rw [List.find?_append]
  split
  · rename_i hx
    subst hx
    rw [hnew, Option.none_or, List.find?_cons_of_pos (by simp [hid])]
  · rename_i hx
    rw [List.find?_cons_of_neg (by simpa [hid] using hx), List.find?_nil, Option.or_none]

theorem metadataOf_takeInOne (h : takeInOne now d t = .ok d') (x : String) :
    Retold (if t.externalId = x then some t else none) (d.metadataOf x) (d'.metadataOf x) := by
  have hfound : ∀ {row : TrackRow}, (∀ μ, t.Tells μ → row.metadata = μ.stored) →
      (d'.trackNamed? x = if t.externalId = x then some row else d.trackNamed? x) →
      Retold (if t.externalId = x then some t else none) (d.metadataOf x) (d'.metadataOf x) := by
    intro row hrow hx
    unfold metadataOf
    rw [hx]
    split
    · exact fun μ hμ => congrArg some (hrow μ hμ)
    · rfl
  unfold takeInOne at h
  cases hr : d.trackNamed? t.externalId with
  | some r =>
    rw [hr] at h
    obtain ⟨row, hrow, h⟩ := exists_of_bind_eq_ok h
    obtain ⟨-, hname, -⟩ := refreshed_ok hrow
    cases h
    exact hfound (fun μ hμ => metadata_of_refreshed hμ hrow)
      (trackNamed?_replaced (hname.trans (externalId_of_trackNamed? hr)) hr x)
  | none =>
    rw [hr] at h
    obtain ⟨row, hrow, h⟩ := exists_of_bind_eq_ok h
    obtain ⟨-, hid, -⟩ := refreshed_ok hrow
    cases h
    exact hfound (fun μ hμ => metadata_of_row hμ hrow) (trackNamed?_appended hid hr x)

theorem metadataOf_foldlM : ∀ {ts : List RemoteTrack} {d d' : Database},
    ts.foldlM (takeInOne now) d = .ok d' →
      Retold (lastTold ts x) (d.metadataOf x) (d'.metadataOf x) := by
  intro ts
  induction ts with
  | nil =>
    intro d d' h
    cases h
    exact rfl
  | cons t ts ih =>
    intro d d' h
    rw [List.foldlM_cons] at h
    obtain ⟨d₁, h₁, h⟩ := exists_of_bind_eq_ok h
    rw [lastTold_cons]
    exact (metadataOf_takeInOne h₁ x).trans (ih h)

/-- **What is stored of a track that is taken in**: what was told with it last. -/
theorem metadataOf_takeIn {r : List String × List String}
    (h : (takeIn now ts).runOn d = (.ok r, d')) (x : String) :
    Retold (lastTold ts x) (d.metadataOf x) (d'.metadataOf x) := by
  obtain ⟨taken, albums, artists, htaken, -, -, rfl⟩ := (meets_takeIn d now ts).of_ok rfl h
  have hfold := metadataOf_foldlM (x := x) htaken
  rwa [lastTold_latestById] at hfold

end Database

end Mixtape
