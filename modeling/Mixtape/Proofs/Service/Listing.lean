import Mixtape.Proofs.Action
import Mixtape.Service.Connector

/-!
# What is taken from a listing

Of the entries of a listing some are passed over: local files, entries without a track, tracks without
an id, entries without an album. The others are converted one by one. That is how a listing is read here:
first the entries that are taken, then what they come to.

What cannot be converted fails for good. No failure of a conversion may pass, so none of them makes a
read begin anew.

## Main definitions

* `Failure.IsTransient f` — a failure after which a read begins anew.
* `listsTrack`, `hasId`, `listsAlbum` — the entries that are taken.
* `Definite r` — a checked value whose failure, if it is one, may not pass.

## Main results

* `mapM_of_collect` — what is collected comes from the entries that are taken, each once and in order.
* `itemIds_of_collect`, `itemTracks_of_collect`, `ofJson_filter` — the same for each kind of listing.
* `definite_trackListing`, `definite_albumListing`, `definite_playlistListing` — **conversions fail for
  good.**
-/

namespace Mixtape

/-- A failure of a service that may pass. -/
def Failure.IsTransient (f : Failure) : Prop := ∃ fault, f = .transient fault

namespace Service

open Action

variable {α β : Type} {j : Json} {key : String}

/-! ### The entries that are taken -/

/-- The entry lists a track with an id, and no local file unless those are allowed. -/
def listsTrack (allowsLocal : Bool) (item : Json) : Bool :=
  (allowsLocal || !(item.get "is_local").isTruthy) && (item.get "track").isTruthy &&
    ((item.get "track").get "id").isTruthy

/-- The track has an id. -/
def hasId (track : Json) : Bool := (track.get "id").isTruthy

/-- The entry lists an album. -/
def listsAlbum (item : Json) : Bool := (item.get "album").isTruthy

theorem eq_get_of_entry {v : Json} (h : entry j key = .ok v) : v = j.get key := by
  unfold entry entryOr at h
  cases j with
  | object fields => exact (Except.ok.inj h).symm
  | _ => cases h

/-- What is collected comes from the entries that are taken, each once and in order. -/
theorem mapM_of_collect {f : α → Except Failure (Option β)} {taken : α → Bool} {g : α → Except Failure β}
    (hf : ∀ a x, f a = .ok x → if taken a then ∃ b, x = some b ∧ g a = .ok b else x = none) :
    ∀ {as : List α} {bs : List β}, collect f as = .ok bs → (as.filter taken).mapM g = .ok bs := by
  intro as
  induction as with
  | nil => exact fun h => h
  | cons a rest ih =>
    intro bs h
    obtain ⟨x, hx, h⟩ := exists_of_bind_eq_ok h
    obtain ⟨others, hothers, h⟩ := exists_of_bind_eq_ok h
    obtain rfl := Except.ok.inj h
    have hone := hf a x hx
    cases htaken : taken a with
    | true =>
      rw [htaken, if_pos rfl] at hone
      obtain ⟨b, rfl, hb⟩ := hone
      rw [List.filter_cons_of_pos htaken, List.mapM_cons, hb, ih hothers]
      rfl
    | false =>
      rw [htaken, if_neg Bool.false_ne_true] at hone
      subst hone
      rw [List.filter_cons_of_neg (by rw [htaken]; exact Bool.false_ne_true)]
      exact ih hothers

/-- The track of an entry that is taken even if it is a local file. -/
theorem eq_of_listedTrack?_local {item : Json} {x : Option Json} (h : listedTrack? item true = .ok x) :
    x = if listsTrack true item then some (item.get "track") else none := by
  change (entry item "track" >>= _) = _ at h
  obtain ⟨track, htrack, h⟩ := exists_of_bind_eq_ok h
  obtain rfl := eq_get_of_entry htrack
  unfold listsTrack
  cases hgiven : (item.get "track").isTruthy with
  | false =>
    rw [hgiven] at h
    exact (Except.ok.inj h).symm
  | true =>
    rw [hgiven] at h
    obtain ⟨id, hid, h⟩ := exists_of_bind_eq_ok h
    obtain rfl := eq_get_of_entry hid
    exact (Except.ok.inj h).symm

/-- The track of an entry, if it is taken. -/
theorem eq_of_listedTrack? {item : Json} {allowsLocal : Bool} {x : Option Json}
    (h : listedTrack? item allowsLocal = .ok x) :
    x = if listsTrack allowsLocal item then some (item.get "track") else none := by
  cases allowsLocal with
  | true => exact eq_of_listedTrack?_local h
  | false =>
    obtain ⟨isLocal, hlocal, h⟩ := exists_of_bind_eq_ok h
    obtain rfl := eq_get_of_entry hlocal
    dsimp only at h
    unfold listsTrack
    cases hlocal : (item.get "is_local").isTruthy with
    | true =>
      rw [hlocal] at h
      exact (Except.ok.inj h).symm
    | false =>
      rw [hlocal] at h
      -- what is left is what is done where local files are taken
      exact eq_of_listedTrack?_local h

/-- The ids that are read of a playlist. -/
theorem itemIds_of_collect {items ids : List Json} (h : collect Connector.itemId? items = .ok ids) :
    (items.filter (listsTrack false)).mapM
      (fun item => (.ok ((item.get "track").get "id") : Except Failure Json)) = .ok ids := by
  refine mapM_of_collect (fun item x hx => ?_) h
  obtain ⟨listed, hlisted, hx⟩ := exists_of_bind_eq_ok hx
  obtain rfl := Except.ok.inj hx
  rw [eq_of_listedTrack? hlisted]
  split
  · exact ⟨_, rfl, rfl⟩
  · rfl

/-- The tracks that are read of a playlist, or of the liked ones. -/
theorem itemTracks_of_collect {allowsLocal : Bool} {items : List Json} {ts : List TrackListing}
    (h : collect (Connector.itemTrack? allowsLocal) items = .ok ts) :
    (items.filter (listsTrack allowsLocal)).mapM
      (fun item => TrackListing.ofJson (item.get "track") (item.get "added_at") .null) = .ok ts := by
  refine mapM_of_collect (fun item x hx => ?_) h
  obtain ⟨listed, hlisted, hx⟩ := exists_of_bind_eq_ok hx
  rw [eq_of_listedTrack? hlisted] at hx
  split
  · rename_i htaken
    rw [if_pos htaken] at hx
    obtain ⟨t, ht, hx⟩ := exists_of_bind_eq_ok hx
    exact ⟨t, (Except.ok.inj hx).symm, ht⟩
  · rename_i hpassed
    rw [if_neg hpassed] at hx
    exact (Except.ok.inj hx).symm

/-- What is passed over may as well be left out. -/
theorem collect_filter {f : α → Except Failure (Option β)} {taken : α → Bool}
    (hf : ∀ a x, taken a = false → f a = .ok x → x = none) :
    ∀ {as : List α} {bs : List β}, collect f as = .ok bs → collect f (as.filter taken) = .ok bs := by
  intro as
  induction as with
  | nil => exact fun h => h
  | cons a rest ih =>
    intro bs h
    obtain ⟨x, hx, h⟩ := exists_of_bind_eq_ok h
    obtain ⟨others, hothers, h⟩ := exists_of_bind_eq_ok h
    cases htaken : taken a with
    | true =>
      rw [List.filter_cons_of_pos htaken, collect, hx, ih hothers]
      exact h
    | false =>
      obtain rfl := hf a x htaken hx
      rw [List.filter_cons_of_neg (by rw [htaken]; exact Bool.false_ne_true), ih hothers]
      exact h

/-- The track that an album lists, if it has an id. -/
def albumTrack? (album addedAt track : Json) : Except Failure (Option TrackListing) := do
  let id ← entry track "id"
  if id.isTruthy then some <$> TrackListing.ofJson track addedAt album else pure none

theorem albumTrack?_of_not_hasId {album addedAt track : Json} {x : Option TrackListing}
    (hpassed : hasId track = false) (h : albumTrack? album addedAt track = .ok x) : x = none := by
  obtain ⟨id, hid, h⟩ := exists_of_bind_eq_ok h
  obtain rfl := eq_get_of_entry hid
  rw [show (track.get "id").isTruthy = false from hpassed] at h
  exact (Except.ok.inj h).symm

/-- An album that is read has the tracks with an id. -/
theorem ofJson_filter {album addedAt : Json} {tracks : List Json} {l : AlbumListing}
    (h : AlbumListing.ofJson album tracks addedAt = .ok l) :
    AlbumListing.ofJson album (tracks.filter hasId) addedAt = .ok l := by
  obtain ⟨artists, hartists, h⟩ := exists_of_bind_eq_ok h
  obtain ⟨externalId, hexternalId, h⟩ := exists_of_bind_eq_ok h
  obtain ⟨name, hname, h⟩ := exists_of_bind_eq_ok h
  obtain ⟨artist, hartist, h⟩ := exists_of_bind_eq_ok h
  obtain ⟨listed, hlisted, h⟩ := exists_of_bind_eq_ok h
  have hfiltered : collect (albumTrack? album addedAt) (tracks.filter hasId) = .ok listed :=
    collect_filter (fun _ _ => albumTrack?_of_not_hasId) hlisted
  change (entry album "artists" >>= fun artists => needed album "id" >>= fun externalId =>
    entryOr album "name" (.text "") >>= fun name => artistText artists >>= fun artist =>
    collect (albumTrack? album addedAt) (tracks.filter hasId) >>= fun tracks =>
    pure (⟨externalId, name, artist, tracks⟩ : AlbumListing)) = _
  rw [hartists, hexternalId, hname, hfiltered]
  change (artistText artists >>= _) = _
  rw [hartist]
  exact h

/-! ### Conversions fail for good -/

/-- No failure of a checked value may pass. -/
def Definite (r : Except Failure α) : Prop := ¬Fails Failure.IsTransient r

theorem definite_ok (a : α) : Definite (.ok a) := not_fails_ok

theorem definite_error {f : Failure} (h : ∀ fault, f ≠ .transient fault) :
    Definite (.error f : Except Failure α) := by
  rw [Definite, fails_error_iff]
  rintro ⟨fault, rfl⟩
  exact h fault rfl

theorem Definite.bind {r : Except Failure α} {k : α → Except Failure β} (h : Definite r)
    (hk : ∀ a, Definite (k a)) : Definite (r >>= k) := not_fails_bind h hk

theorem Definite.map {r : Except Failure α} {k : α → β} (h : Definite r) : Definite (r.map k) := by
  cases r with
  | ok a => exact definite_ok (k a)
  | error f => exact fun ⟨_, hf, htransient⟩ => h ⟨_, rfl, by cases hf; exact htransient⟩

/-- A choice between two values that are used in one way. -/
theorem definite_ite_bind {c : Prop} [Decidable c] {x y : Except Failure α} {k : α → Except Failure β}
    (hx : Definite x) (hy : Definite y) (hk : ∀ a, Definite (k a)) :
    Definite (if c then x >>= k else y >>= k) := by
  split
  · exact hx.bind hk
  · exact hy.bind hk

theorem definite_mapM {f : α → Except Failure β} (h : ∀ a, Definite (f a)) (as : List α) :
    Definite (as.mapM f) := by
  induction as with
  | nil => exact definite_ok []
  | cons a rest ih =>
    rw [List.mapM_cons]
    exact (h a).bind fun b => ih.bind fun bs => definite_ok (b :: bs)

theorem definite_collect {f : α → Except Failure (Option β)} (h : ∀ a, Definite (f a)) (as : List α) :
    Definite (collect f as) := by
  induction as with
  | nil => exact definite_ok []
  | cons a rest ih => exact (h a).bind fun x => ih.bind fun others => definite_ok (x.toList ++ others)

theorem definite_entryOr (j : Json) (key : String) (missing : Json) : Definite (entryOr j key missing) := by
  unfold entryOr
  split
  · exact definite_ok _
  · exact definite_error nofun

theorem definite_entry (j : Json) (key : String) : Definite (entry j key) := definite_entryOr j key .null

theorem definite_needed (j : Json) (key : String) : Definite (needed j key) := by
  unfold needed
  split
  · exact definite_ok _
  · exact definite_error nofun

theorem definite_elements (j : Json) : Definite j.elements := by
  unfold Json.elements
  split
  · exact definite_ok _
  · exact definite_ok _
  · exact definite_ok _
  · exact definite_error nofun

theorem definite_pageItems (page : Json) : Definite (pageItems page) :=
  (definite_entryOr page "items" _).bind fun items => (definite_elements items).bind fun _ => definite_ok _

theorem definite_readMoment (date precision : Json) : Definite (readMoment date precision) := by
  have hkind : ∀ {c : Prop} [Decidable c] {reason : String},
      Definite (.error (if c then .unsupported reason else .wrongType reason) :
        Except Failure (Option (Int × Option Int))) := by
    intro c _ reason
    split <;> exact definite_error nofun
  refine Definite.map ?_
  unfold readDate
  split
  · exact definite_ok none
  · split
    · split <;> exact definite_ok _
    · exact hkind
    · exact hkind
    · exact definite_error nofun

theorem definite_textOf (j : Json) : Definite (Track.textOf j) := by
  unfold Track.textOf
  split
  · exact definite_ok _
  · exact definite_error nofun

theorem definite_artistsIn (listed : Json) : Definite (artistsIn listed) := by
  unfold artistsIn
  split
  · exact definite_elements listed
  · exact definite_ok _

theorem definite_artistText (listed : Json) : Definite (artistText listed) :=
  (definite_artistsIn listed).bind fun artists =>
    (definite_collect (fun artist => (definite_entry artist "name").bind fun _ => definite_ok _) artists).bind
      fun names => (definite_mapM definite_textOf names).bind fun _ => definite_ok _

theorem definite_firstArtistId (listed : Json) : Definite (firstArtistId listed) := by
  refine (definite_artistsIn listed).bind fun artists => ?_
  cases artists with
  | nil => exact definite_ok _
  | cons artist _ => exact definite_entry artist "id"

theorem definite_trackListing (j addedAt enclosing : Json) :
    Definite (TrackListing.ofJson j addedAt enclosing) := by
  unfold TrackListing.ofJson
  dsimp only
  exact definite_ite_bind (definite_ok enclosing) (definite_entry j "album").map fun album =>
    (definite_entry j "artists").bind fun artists => (definite_needed j "id").bind fun _ =>
    (definite_entryOr j "name" _).bind fun _ => (definite_artistText artists).bind fun _ =>
    (definite_entryOr album "name" _).bind fun _ => (definite_firstArtistId artists).bind fun _ =>
    (definite_entry album "id").bind fun _ => (definite_entry j "duration_ms").bind fun _ =>
    (definite_entry album "release_date").bind fun date =>
    (definite_entryOr album "release_date_precision" _).bind fun precision =>
    (definite_readMoment date precision).bind fun _ => (definite_readMoment addedAt _).bind fun _ =>
    definite_ok _

theorem definite_albumListing (j addedAt : Json) (tracks : List Json) :
    Definite (AlbumListing.ofJson j tracks addedAt) := by
  have htrack : ∀ t, Definite (albumTrack? j addedAt t) := by
    refine fun t => (definite_entry t "id").bind fun id => ?_
    split
    · exact (definite_trackListing t addedAt j).map
    · exact definite_ok none
  exact (definite_entry j "artists").bind fun artists => (definite_needed j "id").bind fun _ =>
    (definite_entryOr j "name" _).bind fun _ => (definite_artistText artists).bind fun _ =>
    (definite_collect htrack tracks).bind fun _ => definite_ok _

theorem definite_playlistListing (j : Json) : Definite (PlaylistListing.ofJson j) := by
  unfold PlaylistListing.ofJson
  dsimp only
  exact definite_ite_bind (definite_needed j "id") (definite_error nofun) fun _ =>
    (definite_entryOr j "name" _).bind fun _ => (definite_entry j "snapshot_id").bind fun _ =>
    (definite_entry j "owner").bind fun owner => (definite_entry (orEmpty owner) "id").bind fun _ =>
    (definite_entry j "tracks").bind fun tracks => (definite_entryOr (orEmpty tracks) "total" _).bind fun _ =>
    definite_ok _

theorem definite_listedTrack? (item : Json) (allowsLocal : Bool) :
    Definite (listedTrack? item allowsLocal) := by
  unfold listedTrack?
  dsimp only
  refine definite_ite_bind (definite_ok _) (definite_entry item "is_local") fun isLocal => ?_
  split
  · exact definite_ok none
  · refine (definite_entry item "track").bind fun track => ?_
    split
    · exact definite_ok none
    · exact (definite_entry track "id").bind fun _ => definite_ok _

theorem definite_itemId? (item : Json) : Definite (Connector.itemId? item) :=
  (definite_listedTrack? item false).bind fun _ => definite_ok _

theorem definite_itemTrack? (allowsLocal : Bool) (item : Json) :
    Definite (Connector.itemTrack? allowsLocal item) := by
  refine (definite_listedTrack? item allowsLocal).bind fun x => ?_
  cases x with
  | none => exact definite_ok none
  | some track => exact (definite_trackListing track _ _).bind fun _ => definite_ok _

end Service

end Mixtape
