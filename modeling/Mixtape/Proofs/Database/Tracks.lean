import Mixtape.Database.Plays
import Mixtape.Database.Sources
import Mixtape.Proofs.Action
import Mathlib.Data.List.Nodup

/-!
# Stored tracks and their numbers

Every stored track has a number and an id at the platform. Taking in tracks of the platform leaves
the pairs that there are, and adds pairs with larger numbers.

## Main definitions

* `Database.names d` — the numbers of the stored tracks with their ids.
* `Database.Grows d d'` — no pair is lost, and new pairs have larger numbers.
* `Database.Tells t r` — a row that tells the album and the artist that a track of the platform tells.
* `Database.ToldWith idOf ts id` — an id that is told with one of several tracks.
* `Database.Distinct d`, `Database.TakenIn ts d d'` — stored tracks told apart, and what taking in
  tracks does to them.

## Main results

* `takenIn_takeInOne` — what taking in one track does.
* `takenIn_takeIn`, `totals_takeIn` — **what taking in tracks does.**
-/

namespace Mixtape

namespace Database

open Action

variable {d d' : Database}

/-- The numbers of the stored tracks with their ids. -/
def names (d : Database) : List (Int × String) := d.tracks.map fun r => (r.id, r.externalId)

theorem mem_names {n : Int} {x : String} :
    (n, x) ∈ d.names ↔ ∃ r ∈ d.tracks, r.id = n ∧ r.externalId = x := by
  simp [names]

/-- No pair of number and id is lost, and new pairs have larger numbers. -/
def Grows (d d' : Database) : Prop :=
  ∃ new, d'.names = d.names ++ new ∧ ∀ e ∈ new, ∀ f ∈ d.names, f.1 < e.1

theorem Grows.refl (d : Database) : d.Grows d := ⟨[], by simp, by simp⟩

theorem Grows.trans {d₁ d₂ d₃ : Database} (h : d₁.Grows d₂) (h' : d₂.Grows d₃) : d₁.Grows d₃ := by
  obtain ⟨new, hnames, hnew⟩ := h
  obtain ⟨new', hnames', hnew'⟩ := h'
  refine ⟨new ++ new', by rw [hnames', hnames, List.append_assoc], ?_⟩
  intro e he f hf
  rcases List.mem_append.1 he with he | he
  · exact hnew e he f hf
  · exact hnew' e he f (hnames ▸ List.mem_append_left new hf)

/-- A row that tells the album and the artist that a track of the platform tells. -/
def Tells (t : RemoteTrack) (r : TrackRow) : Prop :=
  r.externalId = t.externalId ∧ Column.text? t.albumId = .ok r.albumId ∧
    Column.text? t.artistId = .ok r.artistId

/-! ### One track -/

theorem refreshed_ok {r row : TrackRow} {t : RemoteTrack} (h : r.refreshed t = .ok row) :
    row.id = r.id ∧ row.externalId = r.externalId ∧ Column.text? t.albumId = .ok row.albumId ∧
      Column.text? t.artistId = .ok row.artistId := by
  obtain ⟨_, _, h⟩ := exists_of_bind_eq_ok h
  obtain ⟨_, _, h⟩ := exists_of_bind_eq_ok h
  obtain ⟨_, _, h⟩ := exists_of_bind_eq_ok h
  obtain ⟨artistId, hartist, h⟩ := exists_of_bind_eq_ok h
  obtain ⟨albumId, halbum, h⟩ := exists_of_bind_eq_ok h
  obtain ⟨_, _, h⟩ := exists_of_bind_eq_ok h
  cases h
  exact ⟨rfl, rfl, halbum, hartist⟩

/-- What taking in one track does: a row with its id becomes one with the same number, or a row with
a new number is added. -/
theorem takeInOne_ok {now : Timestamp} {t : RemoteTrack} (h : takeInOne now d t = .ok d') :
    (∃ r row, d.trackNamed? t.externalId = some r ∧ row.id = r.id ∧ Tells t row ∧
      d' = { d with tracks := changeWhere (·.externalId == t.externalId) (fun _ => row) d.tracks }) ∨
    (∃ row, d.trackNamed? t.externalId = none ∧ row.id = nextId (d.tracks.map (·.id)) ∧
      Tells t row ∧ d' = { d with tracks := d.tracks ++ [row] }) := by
  unfold takeInOne at h
  cases hr : d.trackNamed? t.externalId with
  | some r =>
    rw [hr] at h
    obtain ⟨row, hrow, h⟩ := exists_of_bind_eq_ok h
    obtain ⟨hid, hname, halbum, hartist⟩ := refreshed_ok hrow
    have hexternal : r.externalId = t.externalId := by simpa using List.find?_some hr
    cases h
    exact .inl ⟨r, row, rfl, hid, ⟨hname.trans hexternal, halbum, hartist⟩, rfl⟩
  | none =>
    rw [hr] at h
    obtain ⟨row, hrow, h⟩ := exists_of_bind_eq_ok h
    obtain ⟨hid, hname, halbum, hartist⟩ := refreshed_ok hrow
    cases h
    exact .inr ⟨row, rfl, hid, ⟨hname, halbum, hartist⟩, rfl⟩

theorem trackNamed?_eq_none {x : String} : d.trackNamed? x = none ↔ ∀ e ∈ d.names, e.2 ≠ x := by
  simp [trackNamed?, names]

/-- A row with the number and the id of another stands in its place. -/
theorem names_changeWhere {x : String} {r row : TrackRow} (hnames : (d.names.map Prod.snd).Nodup)
    (hr : d.trackNamed? x = some r) (hid : row.id = r.id) (hname : row.externalId = x) :
    names { d with tracks := changeWhere (·.externalId == x) (fun _ => row) d.tracks } = d.names := by
  have hids : (d.tracks.map (·.externalId)).Nodup := by
    simpa [names, Function.comp_def] using hnames
  unfold names changeWhere
  rw [List.map_map]
  refine List.map_congr_left fun q hq => ?_
  by_cases hqx : q.externalId = x
  · -- ids are told once, so the row is the one that was found
    have hrx : r.externalId = x := by simpa using List.find?_some hr
    have hqr : q = r :=
      List.inj_on_of_nodup_map hids hq (List.mem_of_find?_eq_some hr) (hqx.trans hrx.symm)
    subst hqr
    simp [hqx, hid, hname]
  · simp [hqx]

/-! ### Several tracks -/

/-- No two stored tracks share their number or their id. -/
structure Distinct (d : Database) : Prop where
  /-- Numbers are told once. -/
  numbers : (d.names.map Prod.fst).Nodup
  /-- Ids are told once. -/
  ids : (d.names.map Prod.snd).Nodup

/-- What taking in tracks does to the stored ones. -/
structure TakenIn (ts : List RemoteTrack) (d d' : Database) : Prop where
  /-- No two tracks share their number or their id. -/
  distinct : d'.Distinct
  /-- No pair of number and id is lost. -/
  grows : d.Grows d'
  /-- Tracks that come in have no source yet. -/
  sources : d'.sources = d.sources
  /-- Smart playlists stay as they are. -/
  playlists : d'.playlists = d.playlists
  /-- The tracks that are not told of stay as they are, and the others are as they are told. -/
  rows : ∀ r ∈ d'.tracks,
    (r ∈ d.tracks ∧ ∀ t ∈ ts, t.externalId ≠ r.externalId) ∨ ∃ t ∈ ts, Tells t r
  /-- All tracks that are told of are stored. -/
  stored : ∀ t ∈ ts, ∃ n, (n, t.externalId) ∈ d'.names

theorem TakenIn.nil (hd : d.Distinct) : TakenIn [] d d where
  distinct := hd
  grows := Grows.refl d
  sources := rfl
  playlists := rfl
  rows r hr := .inl ⟨hr, by simp⟩
  stored := by simp

theorem TakenIn.cons {t : RemoteTrack} {ts : List RemoteTrack} {d₁ d₂ d₃ : Database}
    (h : TakenIn [t] d₁ d₂) (h' : TakenIn ts d₂ d₃) : TakenIn (t :: ts) d₁ d₃ where
  distinct := h'.distinct
  grows := h.grows.trans h'.grows
  sources := h'.sources.trans h.sources
  playlists := h'.playlists.trans h.playlists
  rows r hr := by
    rcases h'.rows r hr with ⟨hr₂, hnot⟩ | ⟨u, hu, htells⟩
    · rcases h.rows r hr₂ with ⟨hr₁, hnot'⟩ | ⟨u, hu, htells⟩
      · exact .inl ⟨hr₁, List.forall_mem_cons.2 ⟨hnot' t List.mem_cons_self, hnot⟩⟩
      · exact .inr ⟨u, List.mem_cons.2 (.inl (List.mem_singleton.1 hu)), htells⟩
    · exact .inr ⟨u, List.mem_cons_of_mem t hu, htells⟩
  stored u hu := by
    rcases List.mem_cons.1 hu with rfl | hu
    · obtain ⟨n, hn⟩ := h.stored u List.mem_cons_self
      obtain ⟨new, hnames, -⟩ := h'.grows
      exact ⟨n, hnames ▸ List.mem_append_left new hn⟩
    · exact h'.stored u hu

/-- **What taking in one track does** to tracks of which no two share number or id. -/
theorem takenIn_takeInOne {now : Timestamp} {t : RemoteTrack} (hd : d.Distinct)
    (h : takeInOne now d t = .ok d') : TakenIn [t] d d' := by
  rcases takeInOne_ok h with ⟨r, row, hr, hid, htells, rfl⟩ | ⟨row, hr, hid, htells, rfl⟩
  · have hnames := names_changeWhere hd.ids hr hid htells.1
    refine ⟨⟨?_, ?_⟩, ⟨[], ?_, ?_⟩, rfl, rfl, ?_, ?_⟩
    · rw [hnames]
      exact hd.numbers
    · rw [hnames]
      exact hd.ids
    · rw [hnames, List.append_nil]
    · simp
    · intro q hq
      obtain ⟨p, hp, rfl⟩ := List.mem_map.1 hq
      by_cases hpt : p.externalId = t.externalId
      · rw [if_pos (by simpa using hpt)]
        exact .inr ⟨t, List.mem_cons_self, htells⟩
      · rw [if_neg (by simpa using hpt)]
        exact .inl ⟨hp, by simpa using Ne.symm hpt⟩
    · intro u hu
      obtain rfl := List.mem_singleton.1 hu
      rw [hnames]
      have hrx : r.externalId = u.externalId := by simpa using List.find?_some hr
      exact ⟨r.id, mem_names.2 ⟨r, List.mem_of_find?_eq_some hr, rfl, hrx⟩⟩
  · have hnames : names { d with tracks := d.tracks ++ [row] } =
        d.names ++ [(row.id, t.externalId)] := by
      simp [names, htells.1]
    have hlarger : ∀ f ∈ d.names, f.1 < row.id := by
      rintro ⟨n, x⟩ hf
      obtain ⟨q, hq, rfl, -⟩ := mem_names.1 hf
      rw [hid]
      exact lt_nextId (List.mem_map_of_mem hq)
    refine ⟨⟨?_, ?_⟩, ⟨_, hnames, ?_⟩, rfl, rfl, ?_, ?_⟩
    · rw [hnames, List.map_append]
      refine List.nodup_append.2 ⟨hd.numbers, by simp, ?_⟩
      intro a ha b hb
      obtain ⟨f, hf, rfl⟩ := List.mem_map.1 ha
      have hb : b = row.id := by simpa using hb
      have := hlarger f hf
      omega
    · rw [hnames, List.map_append]
      refine List.nodup_append.2 ⟨hd.ids, by simp, ?_⟩
      intro a ha b hb
      obtain ⟨f, hf, rfl⟩ := List.mem_map.1 ha
      have hb : b = t.externalId := by simpa using hb
      rw [hb]
      exact trackNamed?_eq_none.1 hr f hf
    · intro e he f hf
      obtain rfl := List.mem_singleton.1 he
      exact hlarger f hf
    · intro q hq
      rcases List.mem_append.1 hq with hq | hq
      · refine .inl ⟨hq, fun u hu => ?_⟩
        obtain rfl := List.mem_singleton.1 hu
        exact fun hne => trackNamed?_eq_none.1 hr _ (mem_names.2 ⟨q, hq, rfl, rfl⟩) hne.symm
      · obtain rfl := List.mem_singleton.1 hq
        exact .inr ⟨t, List.mem_cons_self, htells⟩
    · intro u hu
      obtain rfl := List.mem_singleton.1 hu
      exact ⟨row.id, hnames ▸ List.mem_append_right _ (List.mem_singleton_self _)⟩

theorem takenIn_foldlM {now : Timestamp} : ∀ {ts : List RemoteTrack} {d d' : Database},
    d.Distinct → ts.foldlM (takeInOne now) d = .ok d' → TakenIn ts d d' := by
  intro ts
  induction ts with
  | nil =>
    intro d d' hd h
    cases h
    exact .nil hd
  | cons t ts ih =>
    intro d d' hd h
    rw [List.foldlM_cons] at h
    obtain ⟨d₁, h₁, h⟩ := exists_of_bind_eq_ok h
    have hone := takenIn_takeInOne hd h₁
    exact hone.cons (ih hone.distinct h)

/-! ### Tracks by id -/

theorem mem_latestById {ts : List RemoteTrack} {e : String × RemoteTrack}
    (h : e ∈ latestById ts) : e.2 ∈ ts ∧ e.1 = e.2.externalId := by
  have hfold : ∀ (ts : List RemoteTrack) (r : Registry RemoteTrack),
      e ∈ ts.foldl (fun r t => r.put t.externalId t) r →
      e ∈ r ∨ (e.2 ∈ ts ∧ e.1 = e.2.externalId) := by
    intro ts
    induction ts with
    | nil => exact fun r h => .inl h
    | cons t ts ih =>
      intro r h
      rcases ih _ h with h | ⟨hmem, hid⟩
      · rcases Registry.eq_or_mem_of_mem_put h with rfl | h
        · exact .inr ⟨List.mem_cons_self, rfl⟩
        · exact .inl h
      · exact .inr ⟨List.mem_cons_of_mem t hmem, hid⟩
  rcases hfold ts [] h with h | h
  · cases h
  · exact h

theorem mem_keys_latestById {ts : List RemoteTrack} {x : String} :
    x ∈ (latestById ts).keys ↔ x ∈ ts.map (·.externalId) := by
  have hfold : ∀ (ts : List RemoteTrack) (r : Registry RemoteTrack),
      x ∈ Registry.keys (ts.foldl (fun r t => r.put t.externalId t) r) ↔
        x ∈ r.keys ∨ x ∈ ts.map (·.externalId) := by
    intro ts
    induction ts with
    | nil => simp
    | cons t ts ih =>
      intro r
      rw [List.foldl_cons, ih, Registry.mem_keys_put, List.map_cons, List.mem_cons, or_assoc]
      exact or_left_comm
  have := hfold ts []
  rwa [or_iff_right (by simp [Registry.keys])] at this

/-! ### Names that are told -/

/-- An id that is told with one of several tracks. -/
def ToldWith (idOf : RemoteTrack → Json) (ts : List RemoteTrack) (id : String) : Prop :=
  ∃ t ∈ ts, (idOf t).isTruthy = true ∧ (idOf t).plain = id

theorem toldWith_of_mem_namesBy {idOf nameOf : RemoteTrack → Json} {ts : List RemoteTrack}
    {e : String × Json} (h : e ∈ namesBy idOf nameOf ts) : ToldWith idOf ts e.1 := by
  have hfold : ∀ (ts : List RemoteTrack) (r : Registry Json),
      e ∈ ts.foldl (fun r t =>
        if (idOf t).isTruthy then r.put (idOf t).plain (nameOf t) else r) r →
      e ∈ r ∨ ToldWith idOf ts e.1 := by
    intro ts
    induction ts with
    | nil => exact fun r h => .inl h
    | cons t ts ih =>
      intro r h
      rw [List.foldl_cons] at h
      rcases ih _ h with h | ⟨u, hu, htold⟩
      · split at h
        · rcases Registry.eq_or_mem_of_mem_put h with rfl | h
          · exact .inr ⟨t, List.mem_cons_self, ‹_›, rfl⟩
          · exact .inl h
        · exact .inl h
      · exact .inr ⟨u, List.mem_cons_of_mem t hu, htold⟩
  rcases hfold ts [] h with h | h
  · cases h
  · exact h

/-- Names that are new were told. -/
theorem mem_of_mem_newNames {nameOf : Json → Except Failure String} {known : List Totals}
    {told : Registry Json} {names : Registry String} (h : newNames nameOf told known = .ok names)
    {e : String × String} (he : e ∈ names) : ∃ name, (e.1, name) ∈ told := by
  have hmap : ∀ (told : Registry Json) (names : Registry String),
      told.mapM (fun n => do return (n.1, ← nameOf n.2)) = .ok names → e ∈ names →
      ∃ name, (e.1, name) ∈ told := by
    intro told
    induction told with
    | nil =>
      intro names h he
      cases h
      cases he
    | cons n told ih =>
      intro names h he
      rw [List.mapM_cons] at h
      obtain ⟨new, hnew, h⟩ := exists_of_bind_eq_ok h
      obtain ⟨rest, hrest, h⟩ := exists_of_bind_eq_ok h
      obtain ⟨name, -, hname⟩ := exists_of_bind_eq_ok hnew
      cases h
      cases hname
      rcases List.mem_cons.1 he with rfl | he
      · exact ⟨n.2, List.mem_cons_self⟩
      · obtain ⟨name, hmem⟩ := ih rest hrest he
        exact ⟨name, List.mem_cons_of_mem n hmem⟩
  obtain ⟨name, hmem⟩ := hmap _ _ h he
  exact ⟨name, (List.mem_filter.1 hmem).1⟩

/-! ### Taking in -/

/-- What taking in tracks does: the tracks are put in or brought up to date, and albums and artists
that are not known yet get totals. When it fails, it has done nothing. -/
theorem meets_takeIn (d : Database) (now : Timestamp) (ts : List RemoteTrack) :
    Meets (· = d) (takeIn now ts)
      (fun _ d' => ∃ taken albums artists,
        ((latestById ts).map Prod.snd).foldlM (takeInOne now) d = .ok taken ∧
        (∀ e ∈ albums, ToldWith (·.albumId) ts e.1) ∧
        (∀ e ∈ artists, ToldWith (·.artistId) ts e.1) ∧
        d' = { taken with
          albums := addTotals albums taken.albums, artists := addTotals artists taken.artists })
      fun _ d' => d' = d := by
  unfold takeIn
  refine meets_get_bind fun s hs => ?_
  subst hs
  refine Meets.bind (Q := fun taken d' =>
    ((latestById ts).map Prod.snd).foldlM (takeInOne now) s = .ok taken ∧ d' = s)
    (meets_ofExcept (fun _ h _ hd => ⟨h, hd⟩) fun _ _ _ hd => hd) fun taken => ?_
  refine meets_of_and fun htaken => ?_
  -- what is new was told with one of the tracks
  have htold : ∀ {idOf nameOf : RemoteTrack → Json} {name : Json → Except Failure String}
      {known : List Totals} {names : Registry String},
      newNames name (namesBy idOf nameOf ((latestById ts).map Prod.snd)) known = .ok names →
      ∀ e ∈ names, ToldWith idOf ts e.1 := by
    intro idOf nameOf name known names hnames e he
    obtain ⟨name, hmem⟩ := mem_of_mem_newNames hnames he
    obtain ⟨t, ht, h⟩ := toldWith_of_mem_namesBy hmem
    obtain ⟨u, hu, rfl⟩ := List.mem_map.1 ht
    exact ⟨u.2, (mem_latestById hu).1, h⟩
  refine Meets.bind (Q := fun albums d' =>
    (∀ e ∈ albums, ToldWith (·.albumId) ts e.1) ∧ d' = s)
    (meets_ofExcept (fun _ h _ hd => ⟨htold h, hd⟩) fun _ _ _ hd => hd) fun albums => ?_
  refine meets_of_and fun halbums => ?_
  refine Meets.bind (Q := fun artists d' =>
    (∀ e ∈ artists, ToldWith (·.artistId) ts e.1) ∧ d' = s)
    (meets_ofExcept (fun _ h _ hd => ⟨htold h, hd⟩) fun _ _ _ hd => hd) fun artists => ?_
  refine meets_of_and fun hartists => ?_
  refine Meets.bind (Q := fun _ d' => d' = { taken with
      albums := addTotals albums taken.albums, artists := addTotals artists taken.artists })
    (meets_set fun _ _ => rfl) fun _ => ?_
  exact meets_pure fun d' hd => ⟨taken, albums, artists, htaken, halbums, hartists, hd⟩

/-- **What taking in tracks does** to the stored ones. -/
theorem takenIn_takeIn {now : Timestamp} {ts : List RemoteTrack} {r : List String × List String}
    (hd : d.Distinct) (h : (takeIn now ts).runOn d = (.ok r, d')) : TakenIn ts d d' := by
  obtain ⟨taken, albums, artists, htaken, -, -, rfl⟩ := (meets_takeIn d now ts).of_ok rfl h
  have hin := takenIn_foldlM hd htaken
  -- of several tracks with one id the last was taken in
  have hlatest : ∀ t ∈ ts, ∃ u ∈ (latestById ts).map Prod.snd, u.externalId = t.externalId := by
    intro t ht
    obtain ⟨⟨x, u⟩, hu, hx⟩ :=
      List.mem_map.1 (mem_keys_latestById.2 (List.mem_map_of_mem (f := (·.externalId)) ht))
    exact ⟨u, List.mem_map_of_mem hu, (mem_latestById hu).2.symm.trans hx⟩
  refine ⟨⟨hin.distinct.numbers, hin.distinct.ids⟩, hin.grows, hin.sources, hin.playlists, ?_, ?_⟩
  · intro q hq
    rcases hin.rows q hq with ⟨hmem, hnot⟩ | ⟨t, ht, htells⟩
    · refine .inl ⟨hmem, fun t ht => ?_⟩
      obtain ⟨u, hu, hut⟩ := hlatest t ht
      exact hut ▸ hnot u hu
    · obtain ⟨e, he, rfl⟩ := List.mem_map.1 ht
      exact .inr ⟨e.2, (mem_latestById he).1, htells⟩
  · intro t ht
    obtain ⟨u, hu, hut⟩ := hlatest t ht
    obtain ⟨n, hn⟩ := hin.stored u hu
    exact ⟨n, hut ▸ hn⟩

/-- What does not depend on the rows of tracks is the same after tracks have come in, before anything
else is put in. -/
theorem eq_of_foldlM {β : Type} {g : Database → β} (hg : ∀ d tracks, g { d with tracks } = g d)
    {now : Timestamp} : ∀ {ts : List RemoteTrack} {d d' : Database},
    ts.foldlM (takeInOne now) d = .ok d' → g d' = g d := by
  intro ts
  induction ts with
  | nil =>
    intro d d' h
    cases h
    rfl
  | cons t ts ih =>
    intro d d' h
    rw [List.foldlM_cons] at h
    obtain ⟨d₁, h₁, h⟩ := exists_of_bind_eq_ok h
    have hone : g d₁ = g d := by
      rcases takeInOne_ok h₁ with ⟨r, row, -, -, -, rfl⟩ | ⟨row, -, -, -, rfl⟩
      · exact hg d _
      · exact hg d _
    rw [ih h, hone]

/-- What depends neither on the rows of tracks nor on totals is the same after tracks have come in. -/
theorem eq_of_takeIn {β : Type} {g : Database → β}
    (hg : ∀ d tracks albums artists, g { d with tracks, albums, artists } = g d) {now : Timestamp}
    {ts : List RemoteTrack} {r : List String × List String}
    (h : (takeIn now ts).runOn d = (.ok r, d')) : g d' = g d := by
  obtain ⟨taken, albums, artists, htaken, -, -, rfl⟩ := (meets_takeIn d now ts).of_ok rfl h
  exact (hg taken _ _ _).trans (eq_of_foldlM (fun d tracks => hg d tracks _ _) htaken)

/-- Tracks that come in bring no snapshots. -/
theorem snapshots_takeIn {now : Timestamp} {ts : List RemoteTrack} {r : List String × List String}
    (h : (takeIn now ts).runOn d = (.ok r, d')) : d'.snapshots = d.snapshots :=
  eq_of_takeIn (fun _ _ _ _ => rfl) h

/-- Taking in tracks adds totals for albums and artists that are told with them and have none. -/
theorem totals_takeIn {now : Timestamp} {ts : List RemoteTrack} {r : List String × List String}
    (h : (takeIn now ts).runOn d = (.ok r, d')) :
    (∃ named, d'.albums = addTotals named d.albums ∧ ∀ e ∈ named, ToldWith (·.albumId) ts e.1) ∧
      ∃ named, d'.artists = addTotals named d.artists ∧ ∀ e ∈ named, ToldWith (·.artistId) ts e.1 := by
  obtain ⟨taken, albums, artists, htaken, halbums, hartists, rfl⟩ :=
    (meets_takeIn d now ts).of_ok rfl h
  have hsame : taken.albums = d.albums :=
    eq_of_foldlM (g := Database.albums) (fun _ _ => rfl) htaken
  have hsame' : taken.artists = d.artists :=
    eq_of_foldlM (g := Database.artists) (fun _ _ => rfl) htaken
  exact ⟨⟨albums, by rw [← hsame], halbums⟩, artists, by rw [← hsame'], hartists⟩

end Database
end Mixtape
