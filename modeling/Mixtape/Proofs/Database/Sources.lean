import Mixtape.Proofs.Database.Tracks

/-!
# Which tracks carry a source

A source is told by its type and its id. A track carries it when a link from the number of the track
goes to it. Attaching and detaching change what they name, and tracks that come in bring no source
with them, since links go to numbers that are in use.

## Main definitions

* `Database.Carries d k x` — the track with id `x` carries the source with key `k`.
* `Database.Sound d` — tracks can be told apart, and links start from stored tracks.

## Main results

* `mem_heldBy` — the tracks that are found to hold a source are those that carry it.
* `carries_attached`, `carries_detached`, `carries_of_grows` — **how the carried sources change.**
-/

namespace Mixtape

/-- What tells a source: its type and its id, empty for none. -/
abbrev SourceKey := SourceType × String

/-- The source a link goes to. -/
def SourceLink.key (l : SourceLink) : SourceKey := (l.type, l.sourceId)

/-- What tells a source from others; its name does not. -/
def TrackSource.key (s : TrackSource) : SourceKey := (s.type, s.id.getD "")

theorem SourceLink.isTo_iff {l : SourceLink} {s : TrackSource} : l.isTo s = true ↔ l.key = s.key := by
  simp [SourceLink.isTo, SourceLink.key, TrackSource.key]

@[simp] theorem TrackSource.key_link (s : TrackSource) (n : Int) : (s.link n).key = s.key := rfl

namespace Database

variable {d d' : Database} {k : SourceKey} {x y : String} {m n : Int} {ids : List String}
  {s : TrackSource}

/-- The database after a source was given to tracks. -/
def attached (d : Database) (ids : List String) (s : TrackSource) : Database :=
  { d with
    sources := d.sources ++ ((d.numbersOf ids).filter fun n =>
      !d.sources.any fun l => l.track == n && l.isTo s).map s.link }

/-- The database after a source was taken away from tracks. -/
def detached (d : Database) (ids : List String) (s : TrackSource) : Database :=
  { d with sources := d.sources.filter fun l => !((d.numbersOf ids).contains l.track && l.isTo s) }

/-- The track with an id carries a source. -/
def Carries (d : Database) (k : SourceKey) (x : String) : Prop :=
  ∃ n, (n, x) ∈ d.names ∧ ∃ l ∈ d.sources, l.track = n ∧ l.key = k

/-- Stored tracks can be told apart, and links start from stored tracks. -/
structure Sound (d : Database) : Prop extends d.Distinct where
  /-- Links start from stored tracks. -/
  links : ∀ l ∈ d.sources, ∃ x, (l.track, x) ∈ d.names

theorem Sound.congr (hs : d.Sound) (hnames : d'.names = d.names) (hsources : d'.sources = d.sources) :
    d'.Sound where
  numbers := hnames ▸ hs.numbers
  ids := hnames ▸ hs.ids
  links l hl := hnames ▸ hs.links l (hsources ▸ hl)

theorem Carries.congr (hnames : d'.names = d.names) (hsources : d'.sources = d.sources) :
    d'.Carries = d.Carries := by
  unfold Carries
  rw [hnames, hsources]

/-! ### Numbers and ids -/

theorem Distinct.id_eq (hd : d.Distinct) (hx : (n, x) ∈ d.names) (hy : (n, y) ∈ d.names) : x = y :=
  congrArg Prod.snd (List.inj_on_of_nodup_map hd.numbers hx hy rfl)

theorem Distinct.number_eq (hd : d.Distinct) (hm : (m, x) ∈ d.names) (hn : (n, x) ∈ d.names) :
    m = n :=
  congrArg Prod.fst (List.inj_on_of_nodup_map hd.ids hm hn rfl)

theorem trackNamed?_map_id (hd : d.Distinct) :
    (d.trackNamed? x).map (·.id) = some n ↔ (n, x) ∈ d.names := by
  rw [Option.map_eq_some_iff]
  constructor
  · rintro ⟨r, hr, hid⟩
    exact mem_names.2 ⟨r, List.mem_of_find?_eq_some hr, hid, by simpa using List.find?_some hr⟩
  · intro h
    obtain ⟨q, hq, -, hqx⟩ := mem_names.1 h
    obtain ⟨r, hr⟩ : ∃ r, d.trackNamed? x = some r :=
      Option.isSome_iff_exists.1 (List.find?_isSome.2 ⟨q, hq, by simpa using hqx⟩)
    refine ⟨r, hr, hd.number_eq (mem_names.2 ⟨r, List.mem_of_find?_eq_some hr, rfl, ?_⟩) h⟩
    simpa using List.find?_some hr

/-- The numbers that are found for ids are those of the stored tracks among them. -/
theorem mem_numbersOf (hd : d.Distinct) : n ∈ d.numbersOf ids ↔ ∃ x ∈ ids, (n, x) ∈ d.names := by
  unfold numbersOf
  rw [List.mem_filterMap]
  constructor
  · rintro ⟨x, hx, h⟩
    exact ⟨x, mem_dedup.1 hx, (trackNamed?_map_id hd).1 h⟩
  · rintro ⟨x, hx, h⟩
    exact ⟨x, mem_dedup.2 hx, (trackNamed?_map_id hd).2 h⟩

theorem find?_number (hd : d.Distinct) :
    (d.tracks.find? (·.id == n)).map (·.externalId) = some x ↔ (n, x) ∈ d.names := by
  rw [Option.map_eq_some_iff]
  constructor
  · rintro ⟨r, hr, hx⟩
    exact mem_names.2 ⟨r, List.mem_of_find?_eq_some hr, by simpa using List.find?_some hr, hx⟩
  · intro h
    obtain ⟨q, hq, hqn, -⟩ := mem_names.1 h
    obtain ⟨r, hr⟩ : ∃ r, d.tracks.find? (·.id == n) = some r :=
      Option.isSome_iff_exists.1 (List.find?_isSome.2 ⟨q, hq, by simpa using hqn⟩)
    refine ⟨r, hr, hd.id_eq (mem_names.2 ⟨r, List.mem_of_find?_eq_some hr, ?_, rfl⟩) h⟩
    simpa using List.find?_some hr

/-- The tracks that are found to hold a source are those that carry it. -/
theorem mem_heldBy (hd : d.Distinct) : x ∈ d.heldBy s ↔ d.Carries s.key x := by
  unfold heldBy
  rw [List.mem_filterMap]
  constructor
  · rintro ⟨l, hl, h⟩
    obtain ⟨hmem, hto⟩ := List.mem_filter.1 hl
    exact ⟨l.track, (find?_number hd).1 h, l, hmem, rfl, SourceLink.isTo_iff.1 hto⟩
  · rintro ⟨n, hn, l, hl, rfl, hkey⟩
    exact ⟨l, List.mem_filter.2 ⟨hl, SourceLink.isTo_iff.2 hkey⟩, (find?_number hd).2 hn⟩

/-- The sources of a type that are listed have that type, and every id that tracks carry. -/
theorem mem_sourcesOfType {type : SourceType} (h : s ∈ d.sourcesOfType type) :
    s.type = type ∧ s.id = (if s.key.2 = "" then none else some s.key.2) := by
  obtain ⟨id, -, rfl⟩ := List.mem_map.1 h
  refine ⟨rfl, ?_⟩
  unfold TrackSource.key SourceLink.source
  by_cases hid : id = ""
  · simp [hid]
  · simp [hid]

theorem type_of_mem_sourcesOfType {type : SourceType} (h : s ∈ d.sourcesOfType type) :
    s.type = type := (mem_sourcesOfType h).1

theorem exists_mem_sourcesOfType {type : SourceType} {id : String} (h : d.Carries (type, id) x) :
    ∃ s ∈ d.sourcesOfType type, s.key = (type, id) := by
  obtain ⟨n, -, l, hl, -, hkey⟩ := h
  obtain ⟨htype, hid⟩ := Prod.mk.inj hkey
  refine ⟨_, List.mem_map_of_mem (mem_sortBy.2 (mem_dedup.2 (List.mem_map.2
    ⟨l, List.mem_filter.2 ⟨hl, by simpa using htype⟩, hid⟩))), ?_⟩
  unfold TrackSource.key SourceLink.source
  by_cases h : id = ""
  · simp [h]
  · simp [h]

/-! ### Sources that come and go -/

theorem mem_sources_attached {l : SourceLink} : l ∈ (d.attached ids s).sources ↔
    l ∈ d.sources ∨ ∃ n ∈ d.numbersOf ids,
      (∀ l ∈ d.sources, ¬(l.track = n ∧ l.key = s.key)) ∧ s.link n = l := by
  unfold attached
  rw [List.mem_append, List.mem_map]
  simp only [List.mem_filter, Bool.not_eq_eq_eq_not, Bool.not_true, List.any_eq_false,
    Bool.and_eq_true, beq_iff_eq, SourceLink.isTo_iff, and_assoc]

theorem mem_sources_detached {l : SourceLink} : l ∈ (d.detached ids s).sources ↔
    l ∈ d.sources ∧ ¬(l.track ∈ d.numbersOf ids ∧ l.key = s.key) := by
  have hto : ((d.numbersOf ids).contains l.track && l.isTo s) = true ↔
      l.track ∈ d.numbersOf ids ∧ l.key = s.key := by
    rw [Bool.and_eq_true, List.contains_iff_mem, SourceLink.isTo_iff]
  unfold detached
  rw [List.mem_filter, Bool.not_eq_true', ← hto, Bool.not_eq_true]

theorem Sound.attached (hs : d.Sound) : (d.attached ids s).Sound where
  numbers := hs.numbers
  ids := hs.ids
  links l hl := by
    rcases mem_sources_attached.1 hl with hl | ⟨n, hn, -, rfl⟩
    · exact hs.links l hl
    · obtain ⟨x, -, hx⟩ := (mem_numbersOf hs.toDistinct).1 hn
      exact ⟨x, hx⟩

theorem Sound.detached (hs : d.Sound) : (d.detached ids s).Sound where
  numbers := hs.numbers
  ids := hs.ids
  links l hl := hs.links l (mem_sources_detached.1 hl).1

/-- Tracks that are given a source carry it from then on. -/
theorem carries_attached (hd : d.Distinct) : (d.attached ids s).Carries k x ↔
    d.Carries k x ∨ (k = s.key ∧ x ∈ ids ∧ ∃ n, (n, x) ∈ d.names) := by
  constructor
  · rintro ⟨n, hn, l, hl, rfl, rfl⟩
    rcases mem_sources_attached.1 hl with hl | ⟨m, hm, -, rfl⟩
    · exact .inl ⟨_, hn, l, hl, rfl, rfl⟩
    · obtain ⟨y, hy, hmy⟩ := (mem_numbersOf hd).1 hm
      obtain rfl := hd.id_eq hn hmy
      exact .inr ⟨rfl, hy, m, hn⟩
  · rintro (⟨n, hn, l, hl, hln, hlk⟩ | ⟨rfl, hx, n, hn⟩)
    · exact ⟨n, hn, l, mem_sources_attached.2 (.inl hl), hln, hlk⟩
    · by_cases h : ∃ l ∈ d.sources, l.track = n ∧ l.key = s.key
      · obtain ⟨l, hl, hln, hlk⟩ := h
        exact ⟨n, hn, l, mem_sources_attached.2 (.inl hl), hln, hlk⟩
      · refine ⟨n, hn, s.link n, mem_sources_attached.2 (.inr ⟨n, ?_, ?_, rfl⟩), rfl, rfl⟩
        · exact (mem_numbersOf hd).2 ⟨x, hx, hn⟩
        · exact fun l hl h' => h ⟨l, hl, h'⟩

/-- Tracks that a source is taken away from carry it no longer. -/
theorem carries_detached (hd : d.Distinct) : (d.detached ids s).Carries k x ↔
    d.Carries k x ∧ ¬(k = s.key ∧ x ∈ ids) := by
  constructor
  · rintro ⟨n, hn, l, hl, rfl, rfl⟩
    obtain ⟨hl, hnot⟩ := mem_sources_detached.1 hl
    refine ⟨⟨_, hn, l, hl, rfl, rfl⟩, fun ⟨hk, hx⟩ => hnot ⟨?_, hk⟩⟩
    exact (mem_numbersOf hd).2 ⟨x, hx, hn⟩
  · rintro ⟨⟨n, hn, l, hl, rfl, rfl⟩, hnot⟩
    refine ⟨_, hn, l, mem_sources_detached.2 ⟨hl, fun ⟨hm, hk⟩ => ?_⟩, rfl, rfl⟩
    obtain ⟨y, hy, hmy⟩ := (mem_numbersOf hd).1 hm
    exact hnot ⟨hk, hd.id_eq hn hmy ▸ hy⟩

/-! ### Tracks that come in -/

theorem Sound.of_grows (hs : d.Sound) (hgrows : d.Grows d') (hd' : d'.Distinct)
    (hsources : d'.sources = d.sources) : d'.Sound where
  toDistinct := hd'
  links l hl := by
    obtain ⟨x, hx⟩ := hs.links l (hsources ▸ hl)
    obtain ⟨new, hnames, -⟩ := hgrows
    exact ⟨x, hnames ▸ List.mem_append_left new hx⟩

/-- Tracks that come in bring no source with them. -/
theorem carries_of_grows (hs : d.Sound) (hgrows : d.Grows d') (hsources : d'.sources = d.sources) :
    d'.Carries k x ↔ d.Carries k x := by
  obtain ⟨new, hnames, hnew⟩ := hgrows
  unfold Carries
  rw [hnames, hsources]
  constructor
  · rintro ⟨n, hn, l, hl, rfl, hlk⟩
    rcases List.mem_append.1 hn with hn | hn
    · exact ⟨_, hn, l, hl, rfl, hlk⟩
    · -- the number of a new track is larger than that of the link's track
      obtain ⟨y, hy⟩ := hs.links l hl
      exact absurd (hnew _ hn _ hy) (Int.lt_irrefl _)
  · rintro ⟨n, hn, l, hl, hln, hlk⟩
    exact ⟨n, List.mem_append_left new hn, l, hl, hln, hlk⟩

end Database
end Mixtape
