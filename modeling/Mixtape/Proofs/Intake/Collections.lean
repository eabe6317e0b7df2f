import Mixtape.Proofs.Intake.Pass
import Mixtape.Proofs.Platform
import Mixtape.Proofs.Sync.Diff
import Mathlib.Logic.Function.Basic

/-!
# What the stages of a pass do to the sources

Every stage brings some sources in line with collections and leaves all others. What tracks carry
after it is therefore what they carried before it, with some sources set to new tracks. A stage that
reports an error may have stopped halfway; a stage that does not has done all of this.

## Main definitions

* `Leads I errors x R` — from sound databases, and while `I` holds of what lies outside, `x` leads to
  sound databases, and without errors to databases related by `R`.

## Main results

* `leads_bringInLine` — **one source is set to one collection.**
* `leads_likedStage`, `leads_albumStage`, `leads_playlistStage` — the stages.
* `takesAll_stages` — **what tracks carry after all stages.**
-/

namespace Mixtape

open Action

/-- What a list of assignments gives to a place: the last that is made there. -/
theorem foldl_update_apply {β κ γ : Type} [DecidableEq κ] (f : β → κ) (g : β → γ) (k : κ) :
    ∀ (l : List β) (c : κ → γ), l.foldl (fun c b => Function.update c (f b) (g b)) c k =
      (l.reverse.find? fun b => decide (f b = k)).elim (c k) g := by
  intro l
  induction l with
  | nil => exact fun c => rfl
  | cons b l ih =>
    intro c
    rw [List.foldl_cons, ih, List.reverse_cons, List.find?_append]
    cases l.reverse.find? fun b => decide (f b = k) with
    | some a => rfl
    | none =>
      by_cases h : f b = k
      · subst h
        simp
      · simp [h, Function.update_of_ne (Ne.symm h)]

/-- The ids of tracks that a platform tells of. -/
def idsOf (ts : List RemoteTrack) : List String := ts.map (·.externalId)

theorem mem_knownAmong {remote : List RemoteTrack} {ids : List String} {x : String} :
    x ∈ (knownAmong (Database.latestById remote) ids).map (·.externalId) ↔
      x ∈ ids ∧ x ∈ idsOf remote := by
  unfold knownAmong
  rw [List.mem_map]
  constructor
  · rintro ⟨t, ht, rfl⟩
    obtain ⟨y, hy, hfind⟩ := List.mem_filterMap.1 ht
    have hmem := Registry.mem_of_find? hfind
    obtain ⟨hin, hid⟩ := Database.mem_latestById hmem
    exact ⟨hid ▸ hy, List.mem_map_of_mem hin⟩
  · rintro ⟨hx, hremote⟩
    obtain ⟨t, ht⟩ := Registry.exists_find?_of_mem_keys (Database.mem_keys_latestById.2 hremote)
    refine ⟨t, List.mem_filterMap.2 ⟨x, hx, ht⟩, ?_⟩
    exact (Database.mem_latestById (Registry.mem_of_find? ht)).2.symm

namespace Intake

variable {σ : Type} {I : σ → Prop} {o : Outside σ} {m : Monitor σ} {pace : IntakePace}

/-- The state stands at a database, and what lies outside has a property. -/
def At (d : Database) (I : σ → Prop) (p : Intake σ) : Prop :=
  p.world.database = d ∧ I p.world.outside

/-- While `I` holds of what lies outside, `x` leads from sound databases to sound databases with the
same smart playlists, and when its result tells of no error, to databases related by `R`. -/
def Leads {α : Type} (I : σ → Prop) (errors : α → List String) (x : Action (Intake σ) α)
    (R : Database → Database → Prop) : Prop :=
  ∀ d : Database, d.Sound → Yields (At d I) x fun r p =>
    p.world.database.Sound ∧ p.world.database.playlists = d.playlists ∧ I p.world.outside ∧
      (errors r = [] → R d p.world.database)

variable {α β : Type} {x : Action (Intake σ) α} {R S : Database → Database → Prop}
  {e : α → List String} {f : β → List String}

/-! ### Rules -/

theorem keeps_at_ask {d : Database} {y : Action σ Unit} (h : Keeps I y) : Keeps (At d I) (ask y) := by
  refine keeps_iff.2 fun p hp => ?_
  exact ⟨hp.1, keeps_iff.1 h _ hp.2⟩

/-- A call outside leaves the database. -/
theorem yields_at_ask_of {d : Database} {T : α → σ → Prop} {y : Action σ α} (h : Yields I y T) :
    Yields (At d I) (ask y) fun a p => p.world.database = d ∧ T a p.world.outside := by
  refine yields_iff.2 fun p a q hp hrun => ?_
  obtain ⟨hd, hI⟩ := hp
  have hy := yields_iff.1 h p.world.outside
  change ((y.runOn p.world.outside).1, _) = _ at hrun
  obtain ⟨ha, rfl⟩ := Prod.mk.inj hrun
  exact ⟨hd, hy a _ hI (Prod.ext ha rfl)⟩

theorem yields_at_ask {d : Database} {T : α → Prop} {y : Action σ α}
    (h : Yields I y fun a s => T a ∧ I s) : Yields (At d I) (ask y) fun a p => T a ∧ At d I p :=
  (yields_at_ask_of h).imp (fun _ h => h) (fun _ _ h => ⟨h.2.1, h.1, h.2.2⟩) fun _ _ h => h

theorem keeps_at_watch (hm : m.Leaves I) (d : Database) :
    (∀ p, Keeps (At d I) ((watch m).report p)) ∧ Keeps (At d I) (watch m).check ∧
      ∀ x, Keeps (At d I) ((watch m).pause x) :=
  ⟨fun p => keeps_at_ask (hm.report p), keeps_at_ask hm.check, fun x => keeps_at_ask (hm.pause x)⟩

theorem leads_pure (a : α) : Leads I e (pure a) fun d d' => d' = d :=
  fun _ hd => meets_pure fun _ hp => ⟨hp.1 ▸ hd, by rw [hp.1], hp.2, fun _ => hp.1⟩

theorem Leads.imp (h : Leads I e x R) (hRS : ∀ d d', d.Sound → R d d' → S d d') : Leads I e x S :=
  fun _ hd => (h _ hd).imp (fun _ h => h)
    (fun _ _ h => ⟨h.1, h.2.1, h.2.2.1, fun herrors => hRS _ _ hd (h.2.2.2 herrors)⟩) fun _ _ h => h

/-- Where a stage leads to from one state. -/
theorem Leads.meets (h : Leads I e x R) {p : Intake σ} (hd : p.world.database.Sound)
    (hI : I p.world.outside) : Yields (· = p) x fun r q =>
      q.world.database.Sound ∧ q.world.database.playlists = p.world.database.playlists ∧
        I q.world.outside ∧ (e r = [] → R p.world.database q.world.database) := by
  refine (h _ hd).imp ?_ (fun _ _ h => h) fun _ _ h => h
  rintro _ rfl
  exact ⟨rfl, hI⟩

/-- A step that leaves the database, before a stage. -/
theorem Leads.after {y : Action (Intake σ) β} {z : β → Action (Intake σ) α} {T : β → Prop}
    (hy : ∀ d, Yields (At d I) y fun b p => T b ∧ At d I p)
    (hz : ∀ b, T b → Leads I e (z b) R) : Leads I e (y >>= z) R :=
  fun d hd => Meets.bind (hy d) fun b => meets_of_and fun hb => hz b hb d hd

/-- Steps that leave the database, after a stage. What they hand on tells of the errors of the
stage. -/
theorem Leads.ends {z : α → Action (Intake σ) β} {T : Prop} (hx : Leads I e x R)
    (hz : ∀ a d, Yields (At d I) (z a) fun b p => (f b = [] → e a = [] ∧ T) ∧ At d I p) :
    Leads I f (x >>= z) fun d d' => T ∧ R d d' := by
  intro d hd
  refine Meets.bind (hx d hd) fun a => meets_of_forall ?_
  rintro p ⟨hd', hplaylists, hI, hR⟩
  refine (hz a p.world.database).imp ?_ ?_ fun _ _ h => h
  · rintro _ rfl
    exact ⟨rfl, hI⟩
  · rintro b q ⟨herrors, hq, hI'⟩
    rw [hq]
    exact ⟨hd', hplaylists, hI', fun hb => ⟨(herrors hb).2, hR (herrors hb).1⟩⟩

/-- One stage after another. -/
theorem Leads.bind {z : α → Action (Intake σ) β} (hx : Leads I e x R)
    (hz : ∀ a, Leads I f (z a) fun d d' => e a = [] ∧ S d d') :
    Leads I f (x >>= z) fun d d'' =>
      ∃ d', d'.Sound ∧ d'.playlists = d.playlists ∧ R d d' ∧ S d' d'' := by
  intro d hd
  refine Meets.bind (hx d hd) fun a => meets_of_forall ?_
  rintro p ⟨hd', hplaylists, hI, hR⟩
  refine (hz a _ hd').imp ?_ ?_ fun _ _ h => h
  · rintro _ rfl
    exact ⟨rfl, hI⟩
  · rintro b q ⟨hd'', hplaylists', hI', hS⟩
    refine ⟨hd'', hplaylists'.trans hplaylists, hI', fun hb => ?_⟩
    exact ⟨_, hd', hplaylists, hR (hS hb).1, (hS hb).2⟩

/-- A look at the state before a stage. -/
theorem Leads.get {z : Intake σ → Action (Intake σ) α}
    (hz : ∀ p : Intake σ, Leads I e (z p) fun d d' => d = p.world.database → R d d') :
    Leads I e (MonadState.get >>= z) R := by
  intro d hd
  refine meets_get_bind ?_
  rintro p ⟨rfl, hI⟩
  refine (hz p _ hd).imp ?_ ?_ fun _ _ h => h
  · rintro _ rfl
    exact ⟨rfl, hI⟩
  · exact fun _ _ h => ⟨h.1, h.2.1, h.2.2.1, fun herrors => h.2.2.2 herrors rfl⟩

/-! ### One source -/

/-- **One source is set to one collection**, and all others are left. -/
theorem leads_bringInLine (hm : m.Leaves I) (s : TrackSource) (remote : List RemoteTrack) :
    Leads I SyncResult.errors (bringInLine o m pace s remote) fun d d' =>
      d'.Carries = Function.update d.Carries s.key (· ∈ idsOf remote) := by
  intro d hd
  -- the invariant: what tracks carry, in terms of the items removed and added so far
  let P (r a : List String) (p : Intake σ) : Prop :=
    (p.world.database.Sound ∧ p.world.database.playlists = d.playlists ∧ I p.world.outside) ∧
      (∀ k x, k ≠ s.key → (p.world.database.Carries k x ↔ d.Carries k x)) ∧
      ∀ x, p.world.database.Carries s.key x ↔
        (x ∈ d.heldBy s ∧ x ∉ r) ∨ (x ∈ a ∧ x ∈ idsOf remote)
  have hask : ∀ (r a : List String) (y : Action σ Unit), Keeps I y → Keeps (P r a) (ask y) := by
    intro r a y hy
    refine keeps_iff.2 ?_
    rintro p ⟨⟨hsound, hplaylists, hI⟩, hother, hthis⟩
    exact ⟨⟨hsound, hplaylists, keeps_iff.1 hy _ hI⟩, hother, hthis⟩
  have hremove : ∀ r gone, Meets (P r []) (removeTracks s gone) (fun _ => P (r ++ gone) [])
      fun _ => P r [] := by
    intro r gone
    refine meets_of_forall ?_
    rintro p ⟨⟨hsound, hplaylists, hI⟩, hother, hthis⟩
    refine (meets_removeTracks p s gone).imp (fun _ h => h) ?_ fun _ _ => False.elim
    rintro _ q ⟨hworld, -⟩
    change (q.world.database.Sound ∧ _ ∧ I q.world.outside) ∧ _
    rw [hworld]
    refine ⟨⟨hsound.detached, hplaylists, hI⟩, fun k x hk => ?_, fun x => ?_⟩
    · rw [Database.carries_detached hsound.toDistinct, hother k x hk]
      exact and_iff_left fun h => hk h.1
    · rw [Database.carries_detached hsound.toDistinct, hthis x, List.mem_append]
      simp only [List.not_mem_nil, false_and, or_false, true_and, not_or, and_assoc]
  have hadd : ∀ r a new, Meets (P r a) (addTracks o s (Database.latestById remote) new)
      (fun _ => P r (a ++ new)) fun _ => P r a := by
    intro r a new
    refine meets_of_forall ?_
    rintro p ⟨⟨hsound, hplaylists, hI⟩, hother, hthis⟩
    refine (meets_addTracks p s _ new).imp (fun _ h => h) ?_ ?_
    · rintro _ q ⟨now, res, d', htake, hworld, -⟩
      have hin := Database.takenIn_takeIn hsound.toDistinct htake
      have hsound' := hsound.of_grows hin.grows hin.distinct hin.sources
      have hsame : ∀ k x, d'.Carries k x ↔ p.world.database.Carries k x := fun k x =>
        Database.carries_of_grows hsound hin.grows hin.sources
      change (q.world.database.Sound ∧ _ ∧ I q.world.outside) ∧ _
      rw [hworld]
      refine ⟨⟨hsound'.attached, hin.playlists.trans hplaylists, hI⟩, fun k x hk => ?_, fun x => ?_⟩
      · rw [Database.carries_attached hin.distinct, hsame, hother k x hk]
        exact or_iff_left fun h => hk h.1
      · have hstored : x ∈ (knownAmong (Database.latestById remote) new).map (·.externalId) →
            ∃ n, (n, x) ∈ d'.names := by
          intro hx
          obtain ⟨t, ht, rfl⟩ := List.mem_map.1 hx
          exact hin.stored t ht
        rw [Database.carries_attached hin.distinct, hsame, hthis x, List.mem_append]
        constructor
        · rintro ((h | ⟨h, hr⟩) | ⟨-, h, -⟩)
          · exact .inl h
          · exact .inr ⟨.inl h, hr⟩
          · obtain ⟨hnew, hr⟩ := mem_knownAmong.1 h
            exact .inr ⟨.inr hnew, hr⟩
        · rintro (h | ⟨h | h, hr⟩)
          · exact .inl (.inl h)
          · exact .inl (.inr ⟨h, hr⟩)
          · have hx := mem_knownAmong.2 ⟨h, hr⟩
            exact .inr ⟨rfl, hx, hstored hx⟩
    · rintro _ _ rfl
      exact ⟨⟨hsound, hplaylists, hI⟩, hother, hthis⟩
  unfold bringInLine
  refine Meets.bind (Q := fun _ => At d I) (meets_modify fun p hp => hp) fun _ => ?_
  refine meets_get_bind ?_
  rintro p ⟨hp, hI⟩
  have happly := meets_apply (P := P) (w := writer o s (Database.latestById remote)) (m := watch m)
    (fun r a q => hask r a _ (hm.report q)) (fun r a => hask r a _ hm.check)
    (fun r a x => hask r a _ (hm.pause x)) hremove hadd
    (d := computeDiff s.id (Database.latestById remote).keys (p.world.database.heldBy s))
    ⟨pace.chunkSize, {}⟩
  refine Meets.bind (happly.imp ?_ (fun _ _ h => h) fun _ _ _ => trivial) fun applied => ?_
  · rintro _ rfl
    refine ⟨⟨hp ▸ hd, by rw [hp], hI⟩, fun k x _ => by rw [hp], fun x => ?_⟩
    rw [hp, ← Database.mem_heldBy hd.toDistinct]
    simp
  refine meets_get_bind ?_
  rintro q ⟨⟨⟨hsound, hplaylists, hI'⟩, hother, hthis⟩, hdone⟩
  refine meets_pure ?_
  rintro _ rfl
  refine ⟨hsound, hplaylists, hI', fun herrors => ?_⟩
  have hcomplete : applied.isComplete = true := by
    unfold Applied.isComplete
    rw [List.map_eq_nil_iff.1 herrors]
    rfl
  obtain ⟨hremoved, hadded⟩ := hdone hcomplete
  funext k x
  refine propext ?_
  by_cases hk : k = s.key
  · subst hk
    have hdiff := mem_change_computeDiff (x := x) _
      (rfl : _ = computeDiff s.id (Database.latestById remote).keys (p.world.database.heldBy s))
    have hkeys : x ∈ (Database.latestById remote).keys ↔ x ∈ idsOf remote :=
      Database.mem_keys_latestById
    rw [Function.update_self, hthis, hremoved, hadded, ← hp]
    rw [hkeys] at hdiff
    exact (or_congr_right (and_iff_left_of_imp fun h => hdiff.1 (.inr h))).trans hdiff
  · rw [Function.update_of_ne hk]
    exact hother k x hk

/-! ### The stages -/

variable {v : View}

theorem yields_tell (hm : m.Leaves I) (d : Database) (phase : String) (current total : Int)
    (message : String) : Yields (At d I) ((watch m).tell phase current total message)
      fun _ p => True ∧ At d I p :=
  (keeps_tell (keeps_at_watch hm d).1 _ _ _ _).yields.imp (fun _ h => h) (fun _ _ h => ⟨trivial, h⟩)
    fun _ _ h => h

theorem yields_check (hm : m.Leaves I) (d : Database) :
    Yields (At d I) (watch m).check fun _ p => True ∧ At d I p :=
  (keeps_at_watch hm d).2.1.yields.imp (fun _ h => h) (fun _ _ h => ⟨trivial, h⟩) fun _ _ h => h

theorem yields_commit (d : Database) :
    Yields (At d I) (inWorld World.commit) fun _ => At d I :=
  fun _ hp => ⟨hp.1, hp.2⟩

/-- The liked songs are set to the tracks that are told. -/
theorem leads_likedStage_of {T : List RemoteTrack → Prop}
    (hliked : Yields I o.platform.likedTracks fun ts s => T ts ∧ I s) (hm : m.Leaves I) :
    Leads I SyncResult.errors (likedStage o m pace) fun d d' => ∃ liked, T liked ∧
      d'.Carries = Function.update d.Carries (.likedSongs, "") (· ∈ idsOf liked) := by
  unfold likedStage
  refine Leads.after (fun d => yields_tell hm d _ _ _ _) fun _ _ => ?_
  refine Leads.after (fun d => yields_at_ask hliked) fun liked hT => ?_
  refine (Leads.ends (T := True) (leads_bringInLine hm _ _) fun r d => ?_).imp
    fun _ _ _ h => ⟨liked, hT, h.2⟩
  refine Meets.bind (yields_tell hm d _ _ _ _) fun _ => meets_of_and fun _ => ?_
  refine Meets.bind (yields_commit d) fun _ => ?_
  exact meets_pure fun p hp => ⟨fun h => ⟨h, trivial⟩, hp⟩

/-- The liked songs are set to the liked tracks. -/
theorem leads_likedStage (hv : o.platform.Shows v I) (hm : m.Leaves I) :
    Leads I SyncResult.errors (likedStage o m pace) fun d d' =>
      d'.Carries = Function.update d.Carries (.likedSongs, "") (· ∈ idsOf v.liked) := by
  refine (leads_likedStage_of hv.liked hm).imp ?_
  rintro d d' - ⟨_, rfl, h⟩
  exact h

/-- Albums set one after another. -/
def setAlbums (c : SourceKey → String → Prop) (albums : List RemoteAlbum) :
    SourceKey → String → Prop :=
  albums.foldl (fun c a => Function.update c (.album, a.externalId) (· ∈ idsOf a.tracks)) c

theorem leads_eachAlbum (hm : m.Leaves I) (total : Nat) : ∀ (albums : List RemoteAlbum)
    (index : Nat), Leads I SyncResult.errors (eachAlbum o m pace total index albums) fun d d' =>
      d'.Carries = setAlbums d.Carries albums := by
  intro albums
  induction albums with
  | nil =>
    intro index
    refine (leads_pure _).imp ?_
    rintro d _ - rfl
    rfl
  | cons a rest ih =>
    intro index
    unfold eachAlbum
    refine Leads.after (fun d => yields_check hm d) fun _ _ => ?_
    refine Leads.after (fun d => yields_tell hm d _ _ _ _) fun _ _ => ?_
    refine (Leads.bind (leads_bringInLine hm ⟨.album, some a.externalId, some a.name⟩ a.tracks)
      fun r => Leads.ends (T := r.errors = []) (ih (index + 1)) fun others d => ?_).imp ?_
    · refine meets_pure fun p hp => ⟨fun h => ?_, hp⟩
      exact (List.append_eq_nil_iff.1 h).symm
    · rintro d d'' - ⟨d', -, -, h, h'⟩
      rw [h', h]
      rfl

/-- Sources emptied one after another. -/
def emptied (c : SourceKey → String → Prop) (sources : List TrackSource) :
    SourceKey → String → Prop :=
  sources.foldl (fun c s => Function.update c s.key (· ∈ idsOf [])) c

theorem leads_emptySources (hm : m.Leaves I) : ∀ sources : List TrackSource,
    Leads I SyncResult.errors (emptySources o m pace sources) fun d d' =>
      d'.Carries = emptied d.Carries sources := by
  intro sources
  induction sources with
  | nil =>
    refine (leads_pure _).imp ?_
    rintro d _ - rfl
    rfl
  | cons s rest ih =>
    unfold emptySources
    refine (Leads.bind (leads_bringInLine hm s []) fun r =>
      Leads.ends (T := r.errors = []) ih fun others d => ?_).imp ?_
    · refine meets_pure fun p hp => ⟨fun h => ?_, hp⟩
      exact (List.append_eq_nil_iff.1 h).symm
    · rintro d d'' - ⟨d', -, -, h, h'⟩
      rw [h', h]
      rfl

/-- The albums that tracks carry a source of and that are not listed. -/
def goneAlbums (d : Database) (albums : List RemoteAlbum) : List TrackSource :=
  (d.sourcesOfType .album).filter fun s => !albums.any fun a => some a.externalId == s.id

/-- Albums are set to what is told, and albums that are not told of are emptied. -/
theorem leads_albumStage_of {T : List RemoteAlbum → Prop}
    (halbums : Yields I o.platform.savedAlbums fun as s => T as ∧ I s) (hm : m.Leaves I) :
    Leads I SyncResult.errors (albumStage o m pace) fun d d'' => ∃ albums, T albums ∧
      ∃ d', d'.Sound ∧ d'.Carries = setAlbums d.Carries albums ∧
        d''.Carries = emptied d'.Carries (goneAlbums d' albums) := by
  unfold albumStage
  refine Leads.after (fun d => yields_tell hm d _ _ _ _) fun _ _ => ?_
  refine Leads.after (fun d => yields_at_ask halbums) fun albums hT => ?_
  refine (Leads.bind (S := fun d d' => d'.Carries = emptied d.Carries (goneAlbums d albums))
    (leads_eachAlbum hm _ albums 0) fun r => Leads.get fun p =>
    (Leads.ends (T := r.errors = []) (leads_emptySources hm (goneAlbums p.world.database albums))
      fun others d => ?_).imp ?_).imp ?_
  · refine Meets.bind (yields_tell hm d _ _ _ _) fun _ => meets_of_and fun _ => ?_
    refine Meets.bind (yields_commit d) fun _ => ?_
    refine meets_pure fun q hq => ⟨fun h => ?_, hq⟩
    exact (List.append_eq_nil_iff.1 h).symm
  · intro d d' _ h hp
    exact ⟨h.1, hp ▸ h.2⟩
  · rintro d d'' - ⟨d', hd', -, h, h'⟩
    exact ⟨albums, hT, d', hd', h, h'⟩

/-- Albums are set to what is listed, and albums that are not listed are emptied. -/
theorem leads_albumStage (hv : o.platform.Shows v I) (hm : m.Leaves I) :
    Leads I SyncResult.errors (albumStage o m pace) fun d d'' => ∃ d', d'.Sound ∧
      d'.Carries = setAlbums d.Carries v.albums ∧
      d''.Carries = emptied d'.Carries (goneAlbums d' v.albums) := by
  refine (leads_albumStage_of hv.albums hm).imp ?_
  rintro d d'' - ⟨_, rfl, h⟩
  exact h

/-- Playlists set one after another. -/
def setPlaylists (c : SourceKey → String → Prop) (v : View) (playlists : List RemotePlaylist) :
    SourceKey → String → Prop :=
  playlists.foldl (fun c p =>
    Function.update c (.playlist, p.externalId) (· ∈ idsOf (v.tracksOf p.externalId))) c

/-- What was read of a playlist is noted, which concerns neither tracks nor sources. -/
theorem leads_readNoted (errors : SyncResult → List String) (p : RemotePlaylist) (r : SyncResult) :
    Leads I errors
      (do
        if r.errors.isEmpty then
          let now ← inWorld (World.now o)
          let _ ← query (Database.saveSnapshot p.externalId p.name p.snapshotId (some now))
        inWorld World.commit
        return r)
      fun d d' => errors r = [] ∧ d'.tracks = d.tracks ∧ d'.sources = d.sources := by
  intro d hd
  have hend : Yields (fun q : Intake σ => q.world.database.Sound ∧
        q.world.database.playlists = d.playlists ∧ I q.world.outside ∧
        q.world.database.tracks = d.tracks ∧ q.world.database.sources = d.sources)
      (inWorld World.commit >>= fun _ => pure r)
      fun r' q => q.world.database.Sound ∧ q.world.database.playlists = d.playlists ∧
        I q.world.outside ∧ (errors r' = [] → errors r = [] ∧
          q.world.database.tracks = d.tracks ∧ q.world.database.sources = d.sources) :=
    fun q hq => ⟨hq.1, hq.2.1, hq.2.2.1, fun h => ⟨h, hq.2.2.2⟩⟩
  refine meets_ite (fun _ => ?_) fun _ => ?_
  · refine Meets.bind (keeps_now o).yields fun now => ?_
    refine Meets.bind (Q := fun _ => _) ?_ fun _ => hend
    refine meets_of_forall ?_
    rintro q ⟨rfl, hI⟩
    refine (meets_query (Database.meets_saveSnapshot q.world.database _ _ _ _)).imp (fun _ h => h)
      ?_ fun _ _ _ => trivial
    rintro _ _ ⟨_, ⟨rows, rfl⟩, rfl⟩
    exact ⟨hd.congr rfl rfl, rfl, hI, rfl, rfl⟩
  · refine hend.imp ?_ (fun _ _ h => h) fun _ _ h => h
    rintro q ⟨rfl, hI⟩
    exact ⟨hd, rfl, hI, rfl, rfl⟩

theorem leads_readPlaylist (hv : o.platform.Shows v I) (hm : m.Leaves I) (p : RemotePlaylist) :
    Leads I SyncResult.errors (readPlaylist o m pace p) fun d d' => d'.Carries =
      Function.update d.Carries (.playlist, p.externalId) (· ∈ idsOf (v.tracksOf p.externalId)) := by
  unfold readPlaylist
  refine Leads.after (T := (· = v.tracksOf p.externalId))
    (fun d => yields_at_ask (hv.tracks p.externalId)) ?_
  rintro _ rfl
  refine (Leads.bind (leads_bringInLine hm _ _) fun r => leads_readNoted _ p r).imp ?_
  rintro d d'' - ⟨d', -, -, h, htracks, hsources⟩
  have hnames : d''.names = d'.names := by
    unfold Database.names
    rw [htracks]
  exact (Database.Carries.congr hnames hsources).trans h

/-- Playlists that are listed are set to what is on them, if all of them are read. -/
theorem leads_eachPlaylist (hv : o.platform.Shows v I) (hm : m.Leaves I)
    (snapshotOf : String → Option String) (total : Nat) : ∀ (playlists : List RemotePlaylist)
    (index : Nat), Leads I (fun r : SyncResult × Nat => r.1.errors)
      (eachPlaylist o m pace true snapshotOf total index playlists) fun d d' =>
        d'.Carries = setPlaylists d.Carries v playlists := by
  intro playlists
  induction playlists with
  | nil =>
    intro index
    refine (leads_pure _).imp ?_
    rintro d _ - rfl
    rfl
  | cons p rest ih =>
    intro index
    unfold eachPlaylist
    refine Leads.after (fun d => yields_check hm d) fun _ _ => ?_
    refine Leads.after (fun d => yields_tell hm d _ _ _ _) fun _ _ => ?_
    rw [if_neg (by simp [shouldRead])]
    have hread : Leads I (fun r : SyncResult × Nat => r.1.errors) (readPlaylist o m pace p >>=
        fun result => eachPlaylist o m pace true snapshotOf total (index + 1) rest >>= fun others =>
          pure (result.merge others.1, others.2))
        fun d d' => d'.Carries = setPlaylists d.Carries v (p :: rest) := by
      refine (Leads.bind (leads_readPlaylist hv hm p) fun r =>
        Leads.ends (T := r.errors = []) (ih (index + 1)) fun others d => ?_).imp ?_
      · refine meets_pure fun q hq => ⟨fun h => ?_, hq⟩
        exact (List.append_eq_nil_iff.1 h).symm
      · rintro d d'' - ⟨d', -, -, h, h'⟩
        rw [h', h]
        rfl
    intro d hd
    refine meets_ite (fun _ => ?_) fun _ => hread d hd
    refine Meets.bind ?_ fun _ => hread d hd
    exact (keeps_pauseFor (keeps_at_watch hm d).2.2 _).yields

/-- Playlists that are listed are set to what is on them, apart from the copies of smart
playlists. -/
theorem leads_playlistStage (hv : o.platform.Shows v I) (hm : m.Leaves I) :
    Leads I SyncResult.errors (playlistStage o m pace true) fun d d' =>
      d'.Carries = setPlaylists d.Carries v
        (v.playlists.filter fun p => !d.remoteIds.contains p.externalId) := by
  unfold playlistStage
  refine Leads.get fun p => ?_
  refine Leads.after (fun d => yields_tell hm d _ _ _ _) fun _ _ => ?_
  refine Leads.after (T := (· = v.playlists)) (fun d => yields_at_ask hv.playlists) ?_
  rintro _ rfl
  refine (Leads.ends (T := True) (leads_eachPlaylist hv hm _ _ _ 0) fun r d => ?_).imp ?_
  · refine Meets.bind (yields_tell hm d _ _ _ _) fun _ => meets_of_and fun _ => ?_
    exact meets_pure fun q hq => ⟨fun h => ⟨h, trivial⟩, hq⟩
  · rintro d d' - ⟨-, h⟩ rfl
    exact h

/-! ### What tracks carry after the stages -/

/-- The last listing of an album. -/
def lastListed (albums : List RemoteAlbum) (id : String) : Option RemoteAlbum :=
  albums.reverse.find? fun a => a.externalId == id

theorem setAlbums_apply (c : SourceKey → String → Prop) (albums : List RemoteAlbum) (id x : String) :
    setAlbums c albums (.album, id) x ↔ (lastListed albums id).elim (c (.album, id) x) fun a =>
      x ∈ idsOf a.tracks := by
  unfold setAlbums lastListed
  rw [foldl_update_apply]
  have hkey : (fun a : RemoteAlbum =>
      decide (((SourceType.album, a.externalId) : SourceKey) = (.album, id))) =
      fun a => a.externalId == id := by
    funext a
    rw [Bool.eq_iff_iff]
    simp
  rw [hkey]
  cases albums.reverse.find? fun a => a.externalId == id with
  | none => exact Iff.rfl
  | some a => exact Iff.rfl

theorem setAlbums_apply_of_ne {c : SourceKey → String → Prop} {albums : List RemoteAlbum}
    {k : SourceKey} (hk : k.1 ≠ .album) : setAlbums c albums k = c k := by
  unfold setAlbums
  rw [foldl_update_apply, List.find?_eq_none.2]
  · rfl
  · intro a _ h
    exact hk (of_decide_eq_true h ▸ rfl)

theorem emptied_apply (c : SourceKey → String → Prop) (sources : List TrackSource) (k : SourceKey)
    (x : String) : emptied c sources k x ↔ c k x ∧ ∀ s ∈ sources, s.key ≠ k := by
  unfold emptied
  rw [foldl_update_apply]
  cases h : sources.reverse.find? fun s => decide (s.key = k) with
  | none =>
    refine (and_iff_left fun s hs hk => ?_).symm
    exact List.find?_eq_none.1 h s (List.mem_reverse.2 hs) (decide_eq_true hk)
  | some s =>
    have hs : s ∈ sources := List.mem_reverse.1 (List.mem_of_find?_eq_some h)
    have hk : s.key = k := by simpa using List.find?_some h
    refine ⟨fun hx => ?_, fun hx => absurd hk (hx.2 s hs)⟩
    cases hx

/-- **What albums tracks carry after their stage**: those that are listed, each as it is listed last,
apart from an album with an empty id, which is taken for one that is not listed. -/
theorem carries_album {d d' d'' : Database} {albums : List RemoteAlbum}
    (h : d'.Carries = setAlbums d.Carries albums)
    (h' : d''.Carries = emptied d'.Carries (goneAlbums d' albums)) (id x : String) :
    d''.Carries (.album, id) x ↔
      id ≠ "" ∧ ∃ a, lastListed albums id = some a ∧ x ∈ idsOf a.tracks := by
  -- a source that is carried is listed among the sources, and gone unless its album is listed
  have hgone : d'.Carries (.album, id) x → (∀ s ∈ goneAlbums d' albums, s.key ≠ (.album, id)) →
      id ≠ "" ∧ ∃ a ∈ albums, a.externalId = id := by
    intro hx hnot
    obtain ⟨s, hs, hkey⟩ := Database.exists_mem_sourcesOfType hx
    have hid := (Database.mem_sourcesOfType hs).2
    rw [hkey] at hid
    have hlisted : (albums.any fun a => some a.externalId == s.id) = true := by
      refine Classical.byContradiction fun hno => hnot s (List.mem_filter.2 ⟨hs, ?_⟩) hkey
      simpa using hno
    obtain ⟨a, ha, has⟩ := List.any_eq_true.1 hlisted
    rw [beq_iff_eq, hid] at has
    by_cases hempty : id = ""
    · rw [if_pos hempty] at has
      cases has
    · rw [if_neg hempty] at has
      exact ⟨hempty, a, ha, Option.some.inj has⟩
  rw [h', emptied_apply]
  constructor
  · rintro ⟨hx, hnot⟩
    obtain ⟨hid, a, ha, haid⟩ := hgone hx hnot
    refine ⟨hid, ?_⟩
    rw [h, setAlbums_apply] at hx
    cases hlast : lastListed albums id with
    | none =>
      exact absurd (by simpa using haid)
        (List.find?_eq_none.1 hlast a (List.mem_reverse.2 ha))
    | some b =>
      rw [hlast] at hx
      exact ⟨b, rfl, hx⟩
  · rintro ⟨hid, a, hlast, hx⟩
    refine ⟨by rw [h, setAlbums_apply, hlast]; exact hx, fun s hs hkey => ?_⟩
    obtain ⟨hs, hno⟩ := List.mem_filter.1 hs
    have hsid := (Database.mem_sourcesOfType hs).2
    rw [hkey, if_neg hid] at hsid
    have hmem : a ∈ albums := List.mem_reverse.1 (List.mem_of_find?_eq_some hlast)
    have hany : (albums.any fun a => some a.externalId == s.id) = true := by
      refine List.any_eq_true.2 ⟨a, hmem, ?_⟩
      rw [hsid, beq_iff_eq]
      exact congrArg some (by simpa using List.find?_some hlast)
    rw [hany] at hno
    cases hno

theorem carries_of_ne_album {d d' d'' : Database} {albums : List RemoteAlbum}
    (h : d'.Carries = setAlbums d.Carries albums)
    (h' : d''.Carries = emptied d'.Carries (goneAlbums d' albums)) {k : SourceKey}
    (hk : k.1 ≠ .album) (x : String) : d''.Carries k x ↔ d.Carries k x := by
  rw [h', emptied_apply, h, setAlbums_apply_of_ne hk]
  refine and_iff_left fun s hs hkey => hk ?_
  rw [← hkey]
  exact Database.type_of_mem_sourcesOfType (List.mem_filter.1 hs).1

theorem setPlaylists_apply (c : SourceKey → String → Prop) (playlists : List RemotePlaylist)
    (id x : String) : setPlaylists c v playlists (.playlist, id) x ↔
      if ∃ p ∈ playlists, p.externalId = id then x ∈ idsOf (v.tracksOf id)
      else c (.playlist, id) x := by
  unfold setPlaylists
  rw [foldl_update_apply]
  cases h : playlists.reverse.find?
      fun p => decide (((SourceType.playlist, p.externalId) : SourceKey) = (.playlist, id)) with
  | none =>
    rw [if_neg]
    · exact Iff.rfl
    · rintro ⟨p, hp, rfl⟩
      exact List.find?_eq_none.1 h p (List.mem_reverse.2 hp) (decide_eq_true rfl)
  | some p =>
    have hp : p ∈ playlists := List.mem_reverse.1 (List.mem_of_find?_eq_some h)
    have hid : p.externalId = id := by simpa using List.find?_some h
    rw [if_pos ⟨p, hp, hid⟩, ← hid]
    exact Iff.rfl

theorem setPlaylists_apply_of_ne {c : SourceKey → String → Prop} {playlists : List RemotePlaylist}
    {k : SourceKey} (hk : k.1 ≠ .playlist) : setPlaylists c v playlists k = c k := by
  unfold setPlaylists
  rw [foldl_update_apply, List.find?_eq_none.2]
  · rfl
  · intro p _ h
    exact hk (of_decide_eq_true h ▸ rfl)

/-- What tracks carry after a pass that takes in everything. -/
structure TakesAll (v : View) (d d' : Database) : Prop where
  /-- The liked songs are the liked tracks. -/
  liked : ∀ x, d'.Carries (.likedSongs, "") x ↔ x ∈ idsOf v.liked
  /-- Albums are as they are listed last. -/
  albums : ∀ id x, d'.Carries (.album, id) x ↔
    id ≠ "" ∧ ∃ a, lastListed v.albums id = some a ∧ x ∈ idsOf a.tracks
  /-- Playlists that are read are as they were read, and others are as they were. -/
  playlists : ∀ id x, d'.Carries (.playlist, id) x ↔
    if (∃ p ∈ v.playlists, p.externalId = id) ∧ id ∉ d.remoteIds then x ∈ idsOf (v.tracksOf id)
    else d.Carries (.playlist, id) x
  /-- Other sources are as they were. -/
  others : ∀ k x, k ≠ (.likedSongs, "") → k.1 ≠ .album → k.1 ≠ .playlist →
    (d'.Carries k x ↔ d.Carries k x)

/-- What tracks carry after the three stages that take in collections. -/
theorem TakesAll.of_stages {d d₁ d₂ d₃ d₄ : Database}
    (h₁ : d₁.Carries = Function.update d.Carries (.likedSongs, "") (· ∈ idsOf v.liked))
    (h₂ : d₂.Carries = setAlbums d₁.Carries v.albums)
    (h₃ : d₃.Carries = emptied d₂.Carries (goneAlbums d₂ v.albums))
    (h₄ : d₄.Carries = setPlaylists d₃.Carries v
      (v.playlists.filter fun p => !d.remoteIds.contains p.externalId)) : TakesAll v d d₄ where
  liked x := by
    rw [h₄, setPlaylists_apply_of_ne (by simp), carries_of_ne_album h₂ h₃ (by simp), h₁,
      Function.update_self]
  albums id x := by
    rw [h₄, setPlaylists_apply_of_ne (by simp)]
    exact carries_album h₂ h₃ id x
  playlists id x := by
    have hlisted : (∃ p ∈ v.playlists.filter fun p => !d.remoteIds.contains p.externalId,
        p.externalId = id) ↔ (∃ p ∈ v.playlists, p.externalId = id) ∧ id ∉ d.remoteIds := by
      constructor
      · rintro ⟨p, hp, rfl⟩
        obtain ⟨hp, hremote⟩ := List.mem_filter.1 hp
        exact ⟨⟨p, hp, rfl⟩, by simpa using hremote⟩
      · rintro ⟨⟨p, hp, rfl⟩, hremote⟩
        exact ⟨p, List.mem_filter.2 ⟨hp, by simpa using hremote⟩, rfl⟩
    rw [h₄, setPlaylists_apply, carries_of_ne_album h₂ h₃ (by simp), h₁,
      Function.update_of_ne (by simp)]
    simp only [hlisted]
  others k x hliked halbum hplaylist := by
    rw [h₄, setPlaylists_apply_of_ne hplaylist, carries_of_ne_album h₂ h₃ halbum, h₁,
      Function.update_of_ne hliked]

/-- **What tracks carry after the stages** that take in everything and report no error. -/
theorem takesAll_stages (hv : o.platform.Shows v I) (hm : m.Leaves I) (s : Settings)
    (pace : IntakePace) {options : IntakeOptions} (hliked : options.likedTracks = true) (halbums : options.albums = true)
    (hplaylists : options.playlists = true) (hforce : options.forceRefresh = true)
    (p : Intake σ) (hd : p.world.database.Sound) (hI : I p.world.outside) :
    Yields (· = p) (stages s o m pace options) fun r q =>
      q.world.database.Sound ∧ (r.errors = [] → TakesAll v p.world.database q.world.database) := by
  unfold stages stage
  rw [hliked, halbums, hplaylists, hforce]
  simp only [if_true]
  refine Meets.bind ((leads_likedStage hv hm).meets hd hI) fun liked => meets_of_forall ?_
  rintro p₁ ⟨hd₁, hrows₁, hI₁, h₁⟩
  refine Meets.bind ((leads_albumStage hv hm).meets hd₁ hI₁) fun albums => meets_of_forall ?_
  rintro p₂ ⟨hd₂, hrows₂, hI₂, h₂⟩
  refine Meets.bind ((leads_playlistStage hv hm).meets hd₂ hI₂) fun playlists => meets_of_forall ?_
  rintro p₃ ⟨hd₃, -, -, h₃⟩
  -- the audio features change neither ids nor sources
  have hfeatures : Keeps (fun q : Intake σ => q.world.database.names = p₃.world.database.names ∧
      q.world.database.sources = p₃.world.database.sources)
      (stage options.features (featureStage s o m)) :=
    keeps_ite (Stable.keeps_featureStage o m s (fun _ _ h => h) fun q f h =>
      ⟨(Database.names_withFeatures _ f).trans h.1, h.2⟩) (keeps_pure _)
  refine Meets.bind (hfeatures.yields.imp (fun _ h => h ▸ ⟨rfl, rfl⟩) (fun _ _ h => h)
    fun _ _ h => h) fun features => meets_pure ?_
  rintro q ⟨hnames, hsources⟩
  refine ⟨hd₃.congr hnames hsources, fun herrors => ?_⟩
  obtain ⟨hl, ha, hp, -⟩ : liked.errors = [] ∧ albums.errors = [] ∧ playlists.errors = [] ∧
      features.errors = [] := by
    simpa [SyncResult.merge] using herrors
  obtain ⟨d', -, hset, hempty⟩ := h₂ ha
  have h₄ := h₃ hp
  have hremote : p₂.world.database.remoteIds = p.world.database.remoteIds := by
    unfold Database.remoteIds
    rw [hrows₂, hrows₁]
  rw [hremote, ← Database.Carries.congr hnames hsources] at h₄
  exact .of_stages (h₁ hl) hset hempty h₄

end Intake

end Mixtape
