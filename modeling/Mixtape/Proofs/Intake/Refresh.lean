import Mixtape.Proofs.Database.Metadata
import Mixtape.Proofs.Intake.Boundaries
import Mixtape.Proofs.Intake.Exactness
import Mixtape.Proofs.Intake.Readings

/-!
# Which tracks a pass brings up to date

What is stored of a track is brought up to date when the track comes to a source, and at no other time: a
pass takes in the tracks that a collection lists and that do not carry it yet. What is told of a track
that carries all collections it is listed in is not stored, whatever has changed.

So the stored metadata follow from what the pass was told and from what tracks carried before it. The
collections are gone through in the order in which they were told. An entry for a track is taken up if
the track does not carry the collection at that moment, and the last entry that is taken up counts.

## Main definitions

* `Database.holders d` — the tracks that carry each source.
* `lastTaken h told x` — the last entry for a track that is taken up, if `h` carry the sources before.
* `Follows K d told d'` — `d'` is what becomes of `d` when `told` is taken in; the sources with `K` are
  told exactly.
* `Intake.Reads L K x` — `x` is told of collections with `L`, and the database follows them.

## Main results

* `Intake.retold_bringInLine` — one collection: the tracks that come to it are brought up to date.
* `Intake.reads_stages`, `follows_takeInLibrary` — **what a pass makes of what it was told.**
-/

namespace Mixtape

open Action

/-! ### Entries that are taken up -/

/-- The tracks that carry each source. -/
abbrev Holders := SourceKey → List String

/-- The tracks that carry the sources after collections were taken in. -/
def holdersAfter (h : Holders) (told : List Reading) : Holders :=
  told.foldl (fun h r => Function.update h r.source (idsOf r.tracks)) h

/-- The last entry for a track that is taken up: one in a collection that the track does not carry. -/
def lastTaken : Holders → List Reading → String → Option RemoteTrack
  | _, [], _ => none
  | h, r :: rest, x =>
    (lastTaken (Function.update h r.source (idsOf r.tracks)) rest x).or
      (if x ∈ h r.source then none else lastTold r.tracks x)

/-- The same tracks carry the sources with `K`. -/
def AgreeOn (K : SourceKey → Prop) (h h' : Holders) : Prop := ∀ k, K k → ∀ x, x ∈ h k ↔ x ∈ h' k

section Holders

variable {K : SourceKey → Prop} {h h' : Holders} {told told' : List Reading} {x : String}

theorem AgreeOn.update (hh : AgreeOn K h h') (k : SourceKey) (ids : List String) :
    AgreeOn K (Function.update h k ids) (Function.update h' k ids) := by
  intro k' hk' x
  by_cases hk : k' = k
  · subst hk
    rw [Function.update_self, Function.update_self]
  · rw [Function.update_of_ne hk, Function.update_of_ne hk]
    exact hh k' hk' x

theorem AgreeOn.after (hh : AgreeOn K h h') : AgreeOn K (holdersAfter h told) (holdersAfter h' told) := by
  induction told generalizing h h' with
  | nil => exact hh
  | cons r rest ih => exact ih (hh.update _ _)

/-- What is taken up depends on the sources that are told of. -/
theorem lastTaken_congr (hh : AgreeOn K h h') (hK : ∀ r ∈ told, K r.source) :
    lastTaken h told x = lastTaken h' told x := by
  induction told generalizing h h' with
  | nil => rfl
  | cons r rest ih =>
    obtain ⟨hr, hrest⟩ := List.forall_mem_cons.1 hK
    unfold lastTaken
    rw [ih (hh.update _ _) hrest]
    congr 1
    exact if_congr (hh _ hr x) rfl rfl

theorem lastTaken_append : lastTaken h (told ++ told') x =
    (lastTaken (holdersAfter h told) told' x).or (lastTaken h told x) := by
  induction told generalizing h with
  | nil => exact (Option.or_none).symm
  | cons r rest ih =>
    rw [List.cons_append, lastTaken, lastTaken, ih, Option.or_assoc]
    rfl

/-- What is taken up was told. -/
theorem mem_of_lastTaken {u : RemoteTrack} (hu : lastTaken h told x = some u) :
    (∃ r ∈ told, u ∈ r.tracks) ∧ u.externalId = x := by
  induction told generalizing h with
  | nil => cases hu
  | cons r rest ih =>
    unfold lastTaken at hu
    rcases Option.or_eq_some_iff.1 hu with hu | ⟨-, hu⟩
    · obtain ⟨⟨q, hq, hmem⟩, hid⟩ := ih hu
      exact ⟨⟨q, List.mem_cons_of_mem r hq, hmem⟩, hid⟩
    · split at hu
      · cases hu
      · obtain ⟨hmem, hid⟩ := mem_of_lastTold hu
        exact ⟨⟨r, List.mem_cons_self, hmem⟩, hid⟩

end Holders

namespace Database

variable {d d' : Database} {k : SourceKey} {x : String}

/-- The tracks that carry each source. -/
def holders (d : Database) : Holders := fun k => d.heldBy ⟨k.1, some k.2, none⟩

theorem mem_holders (hd : d.Distinct) : x ∈ d.holders k ↔ d.Carries k x := mem_heldBy hd

/-- Audio features are kept apart. -/
theorem metadataOf_withFeatures (f : TrackRow → Option Json) :
    (d.withFeatures f).metadataOf x = d.metadataOf x := by
  unfold metadataOf trackNamed? withFeatures
  rw [List.find?_map, Option.map_map]
  rfl

end Database

/-- What becomes of a database when collections are taken in: what is stored of tracks is what was taken
up last. The sources with `K` are carried as they were told. -/
structure Follows (K : SourceKey → Prop) (d : Database) (told : List Reading) (d' : Database) :
    Prop where
  /-- The sources with `K`. -/
  carries : ∀ k, K k → ∀ x, d'.Carries k x ↔ x ∈ holdersAfter d.holders told k
  /-- What is stored of tracks. -/
  retold : ∀ x, Retold (lastTaken d.holders told x) (d.metadataOf x) (d'.metadataOf x)

namespace Follows

variable {K K' : SourceKey → Prop} {d d' d'' : Database} {told told' : List Reading}

/-- Nothing is taken in. -/
theorem of_same (hd : d.Distinct) (hcarries : ∀ k, K k → ∀ x, d'.Carries k x ↔ d.Carries k x)
    (hmetadata : ∀ x, d'.metadataOf x = d.metadataOf x) : Follows K d [] d' where
  carries k hk x := (hcarries k hk x).trans (Database.mem_holders hd).symm
  retold x := hmetadata x

/-- Some collections are taken in after others. -/
theorem append (h : Follows K d told d') (h' : Follows K' d' told' d'') (hd' : d'.Distinct)
    (hK : ∀ r ∈ told', K r.source) (hK' : ∀ k, K' k → K k) : Follows K' d (told ++ told') d'' := by
  have hagree : AgreeOn K d'.holders (holdersAfter d.holders told) := fun k hk x =>
    (Database.mem_holders hd').trans (h.carries k hk x)
  refine ⟨fun k hk x => ?_, fun x => ?_⟩
  · rw [h'.carries k hk x, holdersAfter, holdersAfter, List.foldl_append]
    exact hagree.after k (hK' k hk) x
  · rw [lastTaken_append, ← lastTaken_congr hagree hK]
    exact (h.retold x).trans (h'.retold x)

end Follows

namespace Intake

variable {σ α β : Type} {I : σ → Prop} {o : Outside σ} {m : Monitor σ} {pace : IntakePace}

/-! ### One collection -/

theorem lastTold_knownAmong {remote : List RemoteTrack} {ids : List String} {x : String} :
    lastTold (knownAmong (Database.latestById remote) ids) x =
      if x ∈ ids then lastTold remote x else none := by
  unfold knownAmong
  induction ids with
  | nil => rfl
  | cons i ids ih =>
    have hfind : (Database.latestById remote).find? i = lastTold remote i := find?_latestById
    rw [List.filterMap_cons, hfind]
    cases htold : lastTold remote i with
    | none =>
      dsimp only
      rw [ih]
      by_cases hx : x = i
      · subst hx
        simp [htold]
      · simp [hx]
    | some u =>
      dsimp only
      rw [lastTold_cons, ih, (mem_of_lastTold htold).2]
      by_cases hx : x = i
      · subst hx
        rw [htold, if_pos rfl, if_pos List.mem_cons_self]
        split <;> rfl
      · simp [hx, Ne.symm hx]

/-- What is added to a source are the listed tracks that do not carry it. -/
theorem lastTold_toAdd {remote : List RemoteTrack} {held : List String} {id : Option String}
    {x : String} :
    (if x ∈ (computeDiff id (Database.latestById remote).keys held).toAdd then lastTold remote x
      else none) = if x ∈ held then none else lastTold remote x := by
  rw [if_congr mem_toAdd_computeDiff rfl rfl]
  by_cases hheld : x ∈ held
  · rw [if_pos hheld, if_neg fun h => h.2 hheld]
  · rw [if_neg hheld]
    split
    · rfl
    · rename_i hnot
      refine (lastTold_eq_none.2 fun u hu hux => hnot ⟨?_, hheld⟩).symm
      exact Database.mem_keys_latestById.2 (hux ▸ List.mem_map_of_mem hu)

/-- What is stored of tracks, once the items `added` were added to a collection: what was told last of
them, and of the others what `d` stored. -/
def Renewed (remote : List RemoteTrack) (d : Database) (added : List String) (p : Intake σ) : Prop :=
  ∀ x, Retold (if x ∈ added then lastTold remote x else none) (d.metadataOf x)
    (p.world.database.metadataOf x)

theorem inner_renewed (remote : List RemoteTrack) (d : Database) (added : List String) :
    Inner (Renewed (σ := σ) remote d added) := fun _ _ h => h

/-- Items that are removed leave what is stored of tracks. -/
theorem meets_removeTracks_renewed (s : TrackSource) {remote : List RemoteTrack} {d : Database}
    {added : List String} (gone : List String) :
    Meets (Renewed remote d added) (removeTracks s gone : Action (Intake σ) Unit)
      (fun _ => Renewed remote d added) fun _ => Renewed remote d added := by
  refine meets_of_forall fun p hp => ?_
  refine (meets_removeTracks p s gone).imp (fun _ h => h) ?_ fun _ _ => False.elim
  rintro _ q ⟨hworld, -⟩ x
  rw [hworld]
  exact hp x

/-- Items that are added are brought up to date. -/
theorem meets_addTracks_renewed (s : TrackSource) {remote : List RemoteTrack} {d : Database}
    (added new : List String) :
    Meets (Renewed remote d added) (addTracks o s (Database.latestById remote) new)
      (fun _ => Renewed remote d (added ++ new)) fun _ => Renewed remote d added := by
  refine meets_of_forall fun p hp => ?_
  refine (meets_addTracks p s _ new).imp (fun _ h => h) ?_ ?_
  · rintro _ q ⟨now, res, d', htake, hworld, -⟩ x
    have htold := (hp x).trans (Database.metadataOf_takeIn htake x)
    rw [lastTold_knownAmong] at htold
    have heither : ((if x ∈ new then lastTold remote x else none).or
        (if x ∈ added then lastTold remote x else none)) =
          if x ∈ added ++ new then lastTold remote x else none := by
      by_cases hnew : x ∈ new <;> by_cases hadded : x ∈ added <;> simp [hnew, hadded]
    rw [← heither, hworld]
    exact htold
  · rintro _ _ rfl
    exact hp

/-- **The tracks that come to a collection are brought up to date**, and no others. -/
theorem retold_bringInLine (s : TrackSource) (remote : List RemoteTrack) (p₀ : Intake σ) :
    Yields (· = p₀) (bringInLine o m pace s remote) fun r p => r.errors = [] → ∀ x,
      Retold (if x ∈ p₀.world.database.heldBy s then none else lastTold remote x)
        (p₀.world.database.metadataOf x) (p.world.database.metadataOf x) := by
  have hwatch := fun added =>
    keeps_watch (m := m) _ (inner_renewed remote p₀.world.database added)
  unfold bringInLine
  refine Meets.bind (Q := fun _ p => p.world = p₀.world) (meets_modify fun p hp => by rw [hp])
    fun _ => ?_
  refine meets_get_bind fun p hp => ?_
  have happly := meets_apply (P := fun _ => Renewed remote p₀.world.database)
    (w := writer o s (Database.latestById remote)) (m := watch m) (fun _ added => (hwatch added).1)
    (fun _ added => (hwatch added).2.1) (fun _ added => (hwatch added).2.2)
    (fun _ => meets_removeTracks_renewed s) (fun _ => meets_addTracks_renewed s)
    (d := computeDiff s.id (Database.latestById remote).keys (p.world.database.heldBy s))
    ⟨pace.chunkSize, {}⟩
  refine Meets.bind (happly.imp ?_ (fun _ _ h => h) fun _ _ _ => trivial) fun applied => ?_
  · rintro _ rfl x
    rw [if_neg List.not_mem_nil, hp]
    exact rfl
  refine meets_get_bind ?_
  rintro q ⟨hretold, hdone⟩
  refine meets_pure ?_
  rintro _ rfl herrors x
  have hcomplete : applied.isComplete = true := by
    unfold Applied.isComplete
    rw [List.map_eq_nil_iff.1 herrors]
    rfl
  have hx := hretold x
  rw [(hdone hcomplete).2, hp] at hx
  rwa [lastTold_toAdd] at hx

/-- One collection is taken in, and nothing else. -/
theorem follows_bringInLine (hm : m.Leaves I) (s : TrackSource) (remote : List RemoteTrack) :
    Leads I (fun _ => []) (bringInLine o m pace s remote) fun d d' =>
      Follows (fun _ => True) d [⟨s.key, remote⟩] d' := by
  intro d hd
  refine meets_of_forall ?_
  rintro p ⟨rfl, hI⟩
  have hclean : Yields (· = p) (bringInLine o m pace s remote) fun r _ => r.errors = [] :=
    (errors_bringInLine s remote).imp (fun _ _ => trivial) (fun _ _ h => h) fun _ _ h => h
  have hleads : Yields (· = p) (bringInLine o m pace s remote) _ :=
    (leads_bringInLine hm s remote).meets hd hI
  refine ((hclean.and hleads).and (retold_bringInLine s remote p)).imp (fun _ h => h) ?_
    fun _ _ _ => trivial
  rintro r q ⟨⟨herrors, hsound, hplaylists, hI', hcarries⟩, hretold⟩
  refine ⟨hsound, hplaylists, hI', fun _ => ⟨fun k _ x => ?_, fun x => ?_⟩⟩
  · change _ ↔ x ∈ Function.update p.world.database.holders s.key (idsOf remote) k
    rw [hcarries herrors]
    by_cases hk : k = s.key
    · subst hk
      rw [Function.update_self, Function.update_self]
    · rw [Function.update_of_ne hk, Function.update_of_ne hk]
      exact (Database.mem_holders hd.toDistinct).symm
  · exact hretold herrors x

theorem follows_eachAlbum (hm : m.Leaves I) (total : Nat) : ∀ (albums : List RemoteAlbum)
    (index : Nat), Leads I (fun _ => []) (eachAlbum o m pace total index albums) fun d d' =>
      Follows (fun _ => True) d (albums.map RemoteAlbum.reading) d' := by
  intro albums
  induction albums with
  | nil =>
    intro index
    refine (leads_pure _).imp ?_
    rintro d _ hd rfl
    exact .of_same hd.toDistinct (fun _ _ _ => Iff.rfl) fun _ => rfl
  | cons a rest ih =>
    intro index
    unfold eachAlbum
    refine Leads.after (fun d => yields_check hm d) fun _ _ => ?_
    refine Leads.after (fun d => yields_tell hm d _ _ _ _) fun _ _ => ?_
    refine (Leads.bind (follows_bringInLine hm ⟨.album, some a.externalId, some a.name⟩ a.tracks)
      fun r => Leads.ends (T := ([] : List String) = []) (ih (index + 1)) fun others d => ?_).imp ?_
    · exact meets_pure fun p hp => ⟨fun _ => ⟨rfl, rfl⟩, hp⟩
    · rintro d d'' - ⟨d', hd', -, h, h'⟩
      exact h.append h' hd'.toDistinct (fun _ _ => trivial) fun _ _ => trivial

/-- Sources that are emptied bring nothing up to date. -/
theorem follows_emptySources (hm : m.Leaves I) : ∀ sources : List TrackSource,
    (∀ s ∈ sources, s.type = .album) →
    Leads I (fun _ => []) (emptySources o m pace sources) fun d d' =>
      Follows (·.1 ≠ .album) d [] d' := by
  intro sources
  induction sources with
  | nil =>
    intro _
    refine (leads_pure _).imp ?_
    rintro d _ hd rfl
    exact .of_same hd.toDistinct (fun _ _ _ => Iff.rfl) fun _ => rfl
  | cons s rest ih =>
    intro hsources
    obtain ⟨hs, hrest⟩ := List.forall_mem_cons.1 hsources
    unfold emptySources
    refine (Leads.bind (follows_bringInLine hm s []) fun r =>
      Leads.ends (T := ([] : List String) = []) (ih hrest) fun others d => ?_).imp ?_
    · exact meets_pure fun p hp => ⟨fun _ => ⟨rfl, rfl⟩, hp⟩
    · rintro d d'' hd ⟨d', hd', -, h, h'⟩
      -- the source that was emptied is an album, and an empty collection tells of no track
      have hempty : Follows (·.1 ≠ .album) d [] d' := by
        refine .of_same hd.toDistinct (fun k hk x => ?_) fun x => ?_
        · rw [h.carries k trivial x, ← Database.mem_holders hd.toDistinct]
          refine iff_of_eq (congrArg (x ∈ ·) (Function.update_of_ne ?_ _ _))
          rintro rfl
          exact hk hs
        · have hnone : lastTaken d.holders [⟨s.key, []⟩] x = none := by simp [lastTaken, lastTold]
          have hx := h.retold x
          rwa [hnone] at hx
      exact hempty.append h' hd'.toDistinct (List.forall_mem_nil _) fun _ h => h

/-- A playlist that is filed is taken in. -/
theorem follows_filePlaylist (hm : m.Leaves I) (q : RemotePlaylist) (ts : List RemoteTrack) :
    Leads I (fun _ => []) (filePlaylist o m pace q ts) fun d d' =>
      Follows (fun _ => True) d [⟨(.playlist, q.externalId), ts⟩] d' := by
  unfold filePlaylist
  refine (Leads.bind (follows_bringInLine hm _ ts) fun r => leads_readNoted _ q r).imp ?_
  rintro d d'' - ⟨d', hd', -, h, htracks, hsources⟩
  have hnames : d''.names = d'.names := by
    unfold Database.names
    rw [htracks]
  have hnoted : Follows (fun _ => True) d' [] d'' := by
    refine .of_same hd'.toDistinct (fun k _ x => ?_) fun x => Database.metadataOf_congr htracks
    rw [Database.Carries.congr hnames hsources]
  exact h.append hnoted hd'.toDistinct (List.forall_mem_nil _) fun _ h => h

/-! ### Reading collections -/

variable {L L' K K' : SourceKey → Prop}

/-- From sound databases, `x` leads to sound databases. It is told of collections with `L`, and what
becomes of the database is that they are taken in. -/
def Reads (L K : SourceKey → Prop) (x : Action (Intake (σ × List Reading)) α) : Prop :=
  ∀ d : Database, d.Sound → ∀ log, Yields (At d (·.2 = log)) x fun _ p =>
    p.world.database.Sound ∧ ∃ told, p.world.outside.2 = log ++ told ∧ (∀ r ∈ told, L r.source) ∧
      Follows K d told p.world.database

namespace Reads

variable {x : Action (Intake (σ × List Reading)) α}

theorem mono (h : Reads L K x) (hL : ∀ k, L k → L' k) : Reads L' K x := by
  refine fun d hd log => (h d hd log).imp (fun _ h => h) ?_ fun _ _ h => h
  rintro _ p ⟨hd', told, hlog, htold, h⟩
  exact ⟨hd', told, hlog, fun r hr => hL _ (htold r hr), h⟩

/-- A stage that is told nothing. -/
theorem of_leads (h : ∀ log, Leads (·.2 = log) (fun _ => []) x fun d d' => Follows K d [] d') :
    Reads L K x := by
  refine fun d hd log => (h log d hd).imp (fun _ h => h) ?_ fun _ _ h => h
  rintro _ p ⟨hd', -, hlog, h⟩
  exact ⟨hd', [], by rw [hlog, List.append_nil], List.forall_mem_nil _, h rfl⟩

theorem pure (a : α) : Reads L K (Pure.pure a : Action (Intake (σ × List Reading)) α) := by
  refine of_leads fun log => (leads_pure a).imp ?_
  rintro d _ hd rfl
  exact .of_same hd.toDistinct (fun _ _ _ => Iff.rfl) fun _ => rfl

/-- A step that leaves the database and is told nothing, before a stage. -/
theorem after {y : Action (Intake (σ × List Reading)) β}
    {z : β → Action (Intake (σ × List Reading)) α} {T : β → Prop}
    (hy : ∀ d log, Yields (At d (·.2 = log)) y fun b p => T b ∧ At d (·.2 = log) p)
    (hz : ∀ b, T b → Reads L K (z b)) : Reads L K (y >>= z) :=
  fun d hd log => Meets.bind (hy d log) fun b => meets_of_and fun hb => hz b hb d hd log

/-- Steps that leave the database and are told nothing, after a stage. -/
theorem ends {z : α → Action (Intake (σ × List Reading)) β} (hx : Reads L K x)
    (hz : ∀ a d log, Yields (At d (·.2 = log)) (z a) fun _ => At d (·.2 = log)) :
    Reads L K (x >>= z) := by
  refine fun d hd log => Meets.bind (hx d hd log) fun a => meets_of_forall ?_
  rintro p ⟨hd', told, hlog, htold, h⟩
  refine (hz a p.world.database (log ++ told)).imp ?_ ?_ fun _ _ h => h
  · rintro _ rfl
    exact ⟨rfl, hlog⟩
  · rintro b q ⟨hq, hlog'⟩
    rw [hq]
    exact ⟨hd', told, hlog', htold, h⟩

/-- One stage after another. -/
theorem bind {z : α → Action (Intake (σ × List Reading)) β} (hx : Reads L K x)
    (hz : ∀ a, Reads L' K' (z a)) (hL : ∀ k, L' k → K k) (hK : ∀ k, K' k → K k) :
    Reads (fun k => L k ∨ L' k) K' (x >>= z) := by
  refine fun d hd log => Meets.bind (hx d hd log) fun a => meets_of_forall ?_
  rintro p ⟨hd', told, hlog, htold, h⟩
  refine (hz a _ hd' (log ++ told)).imp ?_ ?_ fun _ _ h => h
  · rintro _ rfl
    exact ⟨rfl, hlog⟩
  · rintro b q ⟨hd'', told', hlog', htold', h'⟩
    refine ⟨hd'', told ++ told', by rw [hlog', List.append_assoc], fun r hr => ?_,
      h.append h' hd'.toDistinct (fun r hr => hL _ (htold' r hr)) hK⟩
    exact (List.mem_append.1 hr).imp (htold r) (htold' r)

/-- The platform tells of collections, which are taken in. -/
theorem asked {y : Action σ β} {entries : β → List Reading}
    {z : β → Action (Intake (σ × List Reading)) α} (hL : ∀ b, ∀ r ∈ entries b, L r.source)
    (hz : ∀ b log, Leads (·.2 = log) (fun _ => []) (z b) fun d d' => Follows K d (entries b) d') :
    Reads L K (ask (y.telling entries) >>= z) := by
  intro d hd log
  refine Meets.bind (yields_at_ask_of (yields_telling log)) fun b => ?_
  refine (hz b (log ++ entries b) d hd).imp (fun _ h => h) ?_ fun _ _ h => h
  rintro a p ⟨hd', -, hlog, h⟩
  exact ⟨hd', entries b, hlog, hL b, h rfl⟩

theorem ite {c : Prop} [Decidable c] {y : Action (Intake (σ × List Reading)) α} (hx : Reads L K x)
    (hy : Reads L K y) : Reads L K (if c then x else y) := by
  split
  · exact hx
  · exact hy

end Reads

/-! ### The stages -/

/-- A monitor that leaves the list of what was told. -/
theorem leaves_telling (m : Monitor σ) (log : List Reading) : m.telling.Leaves (·.2 = log) where
  report _ := keeps_iff.2 fun _ h => h
  check := keeps_iff.2 fun _ h => h
  pause _ := keeps_iff.2 fun _ h => h

/-- The liked songs are read. -/
theorem reads_likedStage : Reads (· = (.likedSongs, "")) (fun _ => True)
    (likedStage o.telling m.telling pace) := by
  unfold likedStage
  refine Reads.after (fun d log => yields_tell (leaves_telling m log) d _ _ _ _) fun _ _ => ?_
  refine Reads.asked (fun b r hr => (List.mem_singleton.1 hr) ▸ rfl) fun liked log => ?_
  have hm := leaves_telling m log
  refine (Leads.ends (T := ([] : List String) = []) (follows_bringInLine hm _ liked) fun r d => ?_).imp
    fun _ _ _ h => h.2
  refine Meets.bind (yields_tell hm d _ _ _ _) fun _ => meets_of_and fun _ => ?_
  refine Meets.bind (yields_commit d) fun _ => ?_
  exact meets_pure fun p hp => ⟨fun _ => ⟨rfl, rfl⟩, hp⟩

/-- The albums are read; those that are not told of are emptied. -/
theorem reads_albumStage : Reads (·.1 = .album) (·.1 ≠ .album)
    (albumStage o.telling m.telling pace) := by
  unfold albumStage
  refine Reads.after (fun d log => yields_tell (leaves_telling m log) d _ _ _ _) fun _ _ => ?_
  refine Reads.asked (fun albums r hr => ?_) fun albums log => ?_
  · obtain ⟨a, -, rfl⟩ := List.mem_map.1 hr
    rfl
  have hm := leaves_telling m log
  refine (Leads.bind (S := fun d d' => Follows (·.1 ≠ .album) d [] d')
    (follows_eachAlbum hm _ albums 0) fun r => Leads.get fun p =>
      (Leads.ends (T := ([] : List String) = []) (follows_emptySources hm _ fun s hs => ?_)
        fun others d => ?_).imp ?_).imp ?_
  · exact Database.type_of_mem_sourcesOfType (List.mem_filter.1 hs).1
  · refine Meets.bind (yields_tell hm d _ _ _ _) fun _ => meets_of_and fun _ => ?_
    refine Meets.bind (yields_commit d) fun _ => ?_
    exact meets_pure fun q hq => ⟨fun _ => ⟨rfl, rfl⟩, hq⟩
  · exact fun d d' _ h _ => ⟨rfl, h.2⟩
  · rintro d d'' - ⟨d', hd', -, h, h'⟩
    have := h.append h' hd'.toDistinct (List.forall_mem_nil _) fun _ _ => trivial
    rwa [List.append_nil] at this

/-- One playlist is read, or none. -/
theorem reads_onePlaylist (force : Bool) (snapshotOf : String → Option String) (total index : Nat)
    (q : RemotePlaylist) : Reads (·.1 = .playlist) (·.1 ≠ .album)
      (onePlaylist o.telling m.telling pace force snapshotOf total index q) := by
  rw [onePlaylist_eq]
  refine Reads.after (T := fun _ => True) (fun d log => ?_) fun wanted _ => ?_
  · have hm := leaves_telling m log
    have hcheck := yields_check hm d
    unfold approach
    refine Meets.bind hcheck fun _ => meets_of_and fun _ => ?_
    refine Meets.bind (yields_tell hm d _ _ _ _) fun _ => meets_of_and fun _ => ?_
    have hpure : ∀ b : Bool, Yields (At d (·.2 = log))
        (pure b : Action (Intake (σ × List Reading)) Bool) fun _ p => True ∧ At d (·.2 = log) p :=
      fun b => meets_pure fun _ h => ⟨trivial, h⟩
    refine meets_ite (fun _ => hpure false) fun _ => meets_ite (fun _ => ?_) fun _ => hpure true
    exact Meets.bind (keeps_pauseFor (keeps_at_watch hm d).2.2 _).yields fun _ => hpure true
  · refine Reads.ite (Reads.asked (fun ts r hr => (List.mem_singleton.1 hr) ▸ rfl) fun ts log => ?_)
      (.pure _)
    refine (Leads.ends (T := ([] : List String) = []) (follows_filePlaylist (leaves_telling m log) q
      ts) fun r d => ?_).imp fun _ _ _ h => ⟨fun k _ => h.2.carries k trivial, h.2.retold⟩
    exact meets_pure fun p hp => ⟨fun _ => ⟨rfl, rfl⟩, hp⟩

/-- The playlists are read one after another. -/
theorem reads_eachPlaylist (force : Bool) (snapshotOf : String → Option String) (total : Nat) :
    ∀ (playlists : List RemotePlaylist) (index : Nat), Reads (·.1 = .playlist) (·.1 ≠ .album)
      (eachPlaylist o.telling m.telling pace force snapshotOf total index playlists) := by
  intro playlists
  induction playlists with
  | nil => exact fun _ => .pure _
  | cons q rest ih =>
    intro index
    rw [eachPlaylist_cons]
    have hrest : ∀ r : Option SyncResult, Reads (·.1 = .playlist) (·.1 ≠ .album)
        (eachPlaylist o.telling m.telling pace force snapshotOf total (index + 1) rest >>=
          fun others => pure (r.elim (others.1, others.2 + 1) fun result =>
            (result.merge others.1, others.2))) :=
      fun r => (ih (index + 1)).ends fun _ _ _ => meets_pure fun _ h => h
    refine ((reads_onePlaylist force snapshotOf total index q).bind hrest ?_ fun _ h => h).mono ?_
    · intro k hk
      rw [hk]
      simp
    · exact fun k hk => hk.elim id id

theorem reads_playlistStage (force : Bool) : Reads (·.1 = .playlist) (·.1 ≠ .album)
    (playlistStage o.telling m.telling pace force) := by
  unfold playlistStage
  have hget : ∀ d log, Yields (At d (·.2 = log))
      (get : Action (Intake (σ × List Reading)) (Intake (σ × List Reading)))
      fun _ p => True ∧ At d (·.2 = log) p := fun d log p hp => ⟨trivial, hp⟩
  refine Reads.after hget fun p _ => ?_
  refine Reads.after (fun d log => yields_tell (leaves_telling m log) d _ _ _ _) fun _ _ => ?_
  refine Reads.after (T := fun _ => True) (fun d log => ?_) fun listed _ => ?_
  · have hlisted : Keeps (·.2 = log) o.telling.platform.userPlaylists := keeps_iff.2 fun _ h => h
    exact yields_at_ask (hlisted.yields.imp (fun _ h => h) (fun _ _ h => ⟨trivial, h⟩) fun _ _ h => h)
  refine (reads_eachPlaylist force _ _ _ 0).ends fun r d log => ?_
  refine Meets.bind (yields_tell (leaves_telling m log) d _ _ _ _) fun _ => meets_of_and fun _ => ?_
  exact meets_pure fun _ h => h

/-- The audio features tell of no collection. -/
theorem reads_featureStage (s : Settings) : Reads L K (featureStage s o.telling m.telling) := by
  intro d hd log
  let J (p : Intake (σ × List Reading)) : Prop :=
    (p.world.database.names = d.names ∧ p.world.database.sources = d.sources) ∧
      ∀ x, p.world.database.metadataOf x = d.metadataOf x
  have hdatabase : Keeps J (featureStage s o.telling m.telling) := by
    refine Stable.keeps_featureStage _ _ s (fun _ _ h => h) ?_
    rintro p f ⟨⟨hnames, hsources⟩, hmetadata⟩
    exact ⟨⟨(Database.names_withFeatures _ f).trans hnames, hsources⟩,
      fun x => (Database.metadataOf_withFeatures f).trans (hmetadata x)⟩
  have hlog : Keeps (fun p : Intake (σ × List Reading) => p.world.outside.2 = log)
      (featureStage s o.telling m.telling) :=
    keeps_featureStage_outside s (leaves_telling m log) fun _ => keeps_iff.2 fun _ h => h
  refine meets_of_forall ?_
  rintro p₀ ⟨rfl, hlog₀⟩
  have hstart : J p₀ := ⟨⟨rfl, rfl⟩, fun _ => rfl⟩
  refine ((hdatabase.meets.at_state hstart).and (hlog.meets.at_state hlog₀)).imp (fun _ h => h) ?_
    fun _ _ _ => trivial
  rintro r p ⟨⟨⟨hnames, hsources⟩, hmetadata⟩, hp⟩
  refine ⟨hd.congr hnames hsources, [], by rw [hp, List.append_nil], List.forall_mem_nil _, ?_⟩
  refine .of_same hd.toDistinct (fun k _ x => ?_) hmetadata
  rw [Database.Carries.congr hnames hsources]

/-- **The stages follow what they read.** -/
theorem reads_stages (s : Settings) (options : IntakeOptions) :
    Reads (fun _ => True) (·.1 ≠ .album) (stages s o.telling m.telling pace options) := by
  have hplaylist : ∀ k : SourceKey, k.1 = .playlist → k.1 ≠ .album := fun k hk => by simp [hk]
  have hliked : Reads (· = (.likedSongs, "")) (fun _ => True)
      (stage options.likedTracks (likedStage o.telling m.telling pace)) :=
    reads_likedStage.ite (.pure _)
  have halbums : Reads (·.1 = .album) (·.1 ≠ .album)
      (stage options.albums (albumStage o.telling m.telling pace)) :=
    reads_albumStage.ite (.pure _)
  have hplaylists : Reads (·.1 = .playlist) (·.1 ≠ .album)
      (stage options.playlists (playlistStage o.telling m.telling pace options.forceRefresh)) :=
    (reads_playlistStage _).ite (.pure _)
  have hfeatures : Reads (·.1 = .playlist) (·.1 ≠ .album)
      (stage options.features (featureStage s o.telling m.telling)) :=
    (reads_featureStage s).ite (.pure _)
  unfold stages
  -- all albums are read before a source is emptied, and nothing but playlists after it
  refine (hliked.bind (fun liked => (halbums.bind (fun albums => ((hplaylists.bind (fun playlists =>
    hfeatures.ends fun features d log => ?_) hplaylist fun _ h => h).mono fun k hk => hk.elim id id))
      hplaylist fun _ h => h)) (fun _ _ => trivial) fun _ _ => trivial).mono fun _ _ => trivial
  exact meets_pure fun _ h => h

end Intake

/-! ### A whole pass -/

section Passes

variable {σ : Type} {s : Settings} {o : Outside σ} {m : Monitor σ} {pace : IntakePace}
  {options : IntakeOptions} {w w' : World σ} {result : SyncResult}

/-- **What a pass makes of what it was told.** -/
theorem follows_takeInLibrary (hd : w.database.Sound)
    (ends : (takeInLibrary s o m pace options).runOn w = (.ok result, w')) :
    Follows (·.1 ≠ .album) w.database (readings s o m pace options w) w'.database := by
  have htelling := runOn_telling ends
  have hstages : Yields _ (Intake.stages s o.telling m.telling pace options) _ :=
    Intake.reads_stages s options w.database hd []
  rw [runOn_takeInLibrary] at htelling
  rcases hrun : (Intake.stages s o.telling m.telling pace options).runOn
    { world := ⟨w.database, w.saved, (w.outside, [])⟩ } with ⟨f | r, p⟩
  · rw [hrun] at htelling
    cases htelling
  · rw [hrun] at htelling
    obtain ⟨-, told, htold, -, hfollows⟩ := hstages.of_ok ⟨rfl, rfl⟩ hrun
    have hworld := (Prod.mk.inj htelling).2
    have hdatabase := congrArg World.database hworld
    have hlog : told = readings s o m pace options w :=
      htold.symm.trans (congrArg (fun v => v.outside.2) hworld)
    -- the totals that are brought up to date at the end are no metadata
    rw [← hlog, ← hdatabase]
    refine ⟨fun k hk x => ?_, hfollows.retold⟩
    rw [← hfollows.carries k hk x]
    exact iff_of_eq (congrFun (congrFun (Database.Carries.congr rfl rfl) k) x)

end Passes

end Mixtape
