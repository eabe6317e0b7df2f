import Mixtape.Proofs.Intake.Run
import Mixtape.Proofs.Outward.Copies

/-!
# Copies that are not taken in again

The outward copies of smart playlists stand on the platform beside the user's own playlists, and the
platform lists them all. If a pass inward took a copy in, the tracks of a smart playlist would hold a
source because they are on the copy, and would stay in the library because they hold a source. So a pass
leaves out what is noted as a copy, of any smart playlist, active or not.

That keeps the two apart as long as nothing becomes a copy that was taken in before: the copies that are
created are new to the platform, and they are noted before anything else can fail.

## Main definitions

* `Intake.listedIn` — the ids of the playlists that the platform lists in a pass inward.
* `Database.Apart rows ok d` — the smart playlists are `rows`, and tracks hold playlists with `ok` alone.
* `FeedRun w listed` — a history of passes in both directions; `listed` is what was ever listed.

## Main results

* `Intake.apart_takeInLibrary` — a pass inward takes in playlists that are listed and that are no copies.
* `FeedRun.no_copy_held` — **no track ever holds the copy of a smart playlist.**
-/

namespace Mixtape

open Action

/-! ### Playlists that are held -/

namespace Database

/-- The smart playlists are these, and the playlists that tracks hold have an id with a property. -/
structure Apart (rows : List PlaylistRow) (ok : String → Prop) (d : Database) : Prop where
  /-- The smart playlists. -/
  playlists : d.playlists = rows
  /-- The playlists that tracks hold. -/
  held : ∀ l ∈ d.sources, l.type = .playlist → ok l.sourceId

variable {rows : List PlaylistRow} {ok : String → Prop} {d d' : Database}

theorem Apart.congr (h : d.Apart rows ok) (hplaylists : d'.playlists = d.playlists)
    (hsources : d'.sources = d.sources) : d'.Apart rows ok :=
  ⟨hplaylists.trans h.playlists, hsources ▸ h.held⟩

theorem Apart.mono {ok' : String → Prop} (h : d.Apart rows ok) (hok : ∀ id, ok id → ok' id) :
    d.Apart rows ok' :=
  ⟨h.playlists, fun l hl htype => hok _ (h.held l hl htype)⟩

/-- Sources come and go, if those that are playlists have the property. -/
theorem collecting_apart (rows : List PlaylistRow) (ok : String → Prop) :
    Intake.Collecting (fun s => s.type = .playlist → ok (s.id.getD "")) (fun _ => True)
      fun d _ => d.Apart rows ok where
  add := by
    intro d d' _ now ts r s hs _ h htake
    have hd' : d'.Apart rows ok :=
      h.congr (eq_of_takeIn (fun _ _ _ _ => rfl) htake) (eq_of_takeIn (fun _ _ _ _ => rfl) htake)
    refine ⟨hd'.playlists, fun l hl htype => ?_⟩
    rcases mem_sources_attached.1 hl with hl | ⟨n, -, -, rfl⟩
    · exact hd'.held l hl htype
    · exact hs htype
  remove := by
    intro d _ ids s _ h
    exact ⟨h.playlists, fun l hl htype => h.held l (mem_sources_detached.1 hl).1 htype⟩

end Database

/-! ### A pass inward -/

namespace Intake

variable {σ : Type} {o : Outside σ} {m : Monitor σ} {pace : IntakePace} {options : IntakeOptions}

/-- A pass up to the playlists that the platform lists. -/
def untilListed (o : Outside σ) (m : Monitor σ) (pace : IntakePace) (options : IntakeOptions) :
    Action (Intake σ) (List RemotePlaylist) := do
  let _ ← stage options.likedTracks (likedStage o m pace)
  let _ ← stage options.albums (albumStage o m pace)
  (watch m).tell "playlists" 0 0 "Fetching playlists"
  ask o.platform.userPlaylists

/-- The ids of the playlists that the platform lists in a pass, outward copies included. -/
def listedIn (o : Outside σ) (m : Monitor σ) (pace : IntakePace) (options : IntakeOptions)
    (w : World σ) : List String :=
  if options.playlists then
    match (untilListed o m pace options).runOn { world := w } with
    | (.ok listed, _) => listed.map (·.externalId)
    | (.error _, _) => []
  else []

variable {rows : List PlaylistRow} {ok : String → Prop} {w : World σ}

/-- What the stages of a pass keep: tracks hold playlists that are listed and are not noted as copies,
beside those they held. -/
theorem apart_stages (s : Settings) (hw : Stands (fun d _ => d.Apart rows ok) { world := w })
    (hok : ∀ id ∈ listedIn o m pace options w, id ∉ w.database.remoteIds → ok id) :
    Meets (· = { world := w }) (stages s o m pace options)
      (fun _ => Stands fun d _ => d.Apart rows ok) fun _ => Stands fun d _ => d.Apart rows ok := by
  let J : Intake σ → Prop := Stands fun d _ => d.Apart rows ok
  have hcollecting := Database.collecting_apart rows ok
  have hT := o.platform.tellsOnly_true
  obtain ⟨hreport, -, -⟩ := keeps_watch (m := m) J (inner_stands _)
  have hliked : Keeps J (stage options.likedTracks (likedStage o m pace)) :=
    keeps_ite (hcollecting.keeps_likedStage o m pace nofun hT) (keeps_pure _)
  have halbums : Keeps J (stage options.albums (albumStage o m pace)) := by
    refine keeps_ite (hcollecting.keeps_albumStage o m pace (fun s hs => ?_) hT) (keeps_pure _)
    rw [hs]
    nofun
  unfold stages
  -- the run is kept up to the list of the platform, so that it is the one that is told of
  refine Meets.bind (hliked.meets_runOn hw) fun liked => meets_of_forall ?_
  rintro p₁ ⟨hrun₁, hJ₁⟩
  refine Meets.bind (halbums.meets_runOn hJ₁) fun albums => meets_of_forall ?_
  rintro p₂ ⟨hrun₂, hJ₂⟩
  refine Meets.bind (Q := fun _ => J) (meets_ite (fun hwanted => ?_) fun _ => ?_) fun playlists => ?_
  · unfold playlistStage
    refine meets_get_bind ?_
    rintro p rfl
    refine Meets.bind ((keeps_tell hreport "playlists" 0 0 "Fetching playlists").meets_runOn hJ₂)
      fun told => meets_of_forall ?_
    rintro p₃ ⟨hrun₃, hJ₃⟩
    refine Meets.bind ((keeps_ask (inner_stands _) o.platform.userPlaylists).meets_runOn hJ₃)
      fun listed => meets_of_forall ?_
    rintro p₄ ⟨hrun₄, hJ₄⟩
    have hlisted : listedIn o m pace options w = listed.map (·.externalId) := by
      unfold listedIn untilListed
      rw [if_pos hwanted]
      simp only [runOn_bind, hrun₁, hrun₂, hrun₃, hrun₄]
    have hsame : p.world.database.remoteIds = w.database.remoteIds := by
      unfold Database.remoteIds
      rw [hJ₂.1.playlists, hw.1.playlists]
    -- what is read is listed, and not noted as a copy
    have hread : ∀ q ∈ listed.filter fun q => !p.world.database.remoteIds.contains q.externalId,
        SourceType.playlist = .playlist → ok q.externalId := by
      intro q hq _
      obtain ⟨hmem, hnew⟩ := List.mem_filter.1 hq
      refine hok _ (hlisted ▸ List.mem_map_of_mem hmem) ?_
      rw [← hsame]
      simpa using hnew
    refine Meets.bind ((hcollecting.keeps_eachPlaylist o m pace (fun rows h => h.congr rfl rfl) hT
      _ _ _ _ 0 hread).meets.at_state hJ₄) fun r => ?_
    exact Keeps.bind (keeps_tell hreport _ _ _ _) fun _ => keeps_pure _
  · refine meets_pure ?_
    rintro _ rfl
    exact hJ₂
  refine Keeps.bind (keeps_ite (Stable.keeps_featureStage o m s (inner_stands _) ?_)
    (keeps_pure _)) fun features => keeps_pure _
  exact fun p f h => ⟨h.1.congr rfl rfl, h.2⟩

/-- **A pass inward takes in playlists that are listed and that are not noted as copies**, beside those
that tracks held before. It leaves the smart playlists, whether it succeeds or fails. -/
theorem apart_takeInLibrary {s : Settings} {r : Except Failure SyncResult} {w' : World σ}
    {held : String → Prop} (committed : w.database = w.saved)
    (hw : w.saved.Apart w.saved.playlists held)
    (ends : (takeInLibrary s o m pace options).runOn w = (r, w')) :
    w'.saved.Apart w.saved.playlists fun id =>
      held id ∨ (id ∈ listedIn o m pace options w ∧ id ∉ w.saved.remoteIds) := by
  have hapart := hw.mono fun id (h : held id) =>
    Or.inl (b := id ∈ listedIn o m pace options w ∧ id ∉ w.saved.remoteIds) h
  have hstages := apart_stages s (w := w) ⟨committed ▸ hapart, {}, hapart⟩
    fun id hlisted hnew => .inr ⟨hlisted, committed ▸ hnew⟩
  rw [runOn_takeInLibrary] at ends
  rcases hrun : (stages s o m pace options).runOn { world := w } with ⟨f | result, p⟩
  · rw [hrun] at ends
    cases ends
    obtain ⟨-, t, hsaved⟩ := hstages.of_error rfl hrun
    exact hsaved
  · rw [hrun] at ends
    cases ends
    exact (hstages.of_ok rfl hrun).1.congr rfl rfl

end Intake

/-! ### Histories of both directions -/

/-- A history of passes outward and inward, with the ids of the playlists that the platform has listed. It
starts without tracks and smart playlists. A copy that is created is one that was never listed before;
changes of the database give tracks no playlists, and smart playlists no copies. -/
inductive FeedRun {σ : Type} : World σ → List String → Prop
  /-- There is nothing yet. -/
  | start {w : World σ} (committed : w.database = w.saved) (sources : w.saved.sources = [])
      (playlists : w.saved.playlists = []) : FeedRun w []
  /-- What lies outside changes. -/
  | outside {w : World σ} {listed : List String} (run : FeedRun w listed) (outside : σ) :
      FeedRun { w with outside } listed
  /-- The database changes: smart playlists are put in, say, or are active no longer. -/
  | edit {w : World σ} {listed : List String} (run : FeedRun w listed) (d : Database)
      (sources : ∀ l ∈ d.sources, l.type = .playlist → l ∈ w.saved.sources)
      (copies : ∀ id ∈ d.remoteIds, id ∈ w.saved.remoteIds) :
      FeedRun { w with database := d, saved := d } listed
  /-- A pass outward. -/
  | outward {w : World σ} {listed : List String} (run : FeedRun w listed) (s : Settings)
      (o : Outside σ) (m : Monitor σ) (options : ApplyOptions) (n : Int) (force : Bool)
      (fresh : ∀ copy, .created copy ∈ exchanges s o m options n force w → copy ∉ listed)
      {r : Except Failure SyncOutcome} {w' : World σ}
      (ends : (bringOutward s o m options n force).runOn w = (r, w')) : FeedRun w' listed
  /-- A pass inward. -/
  | inward {w : World σ} {listed : List String} (run : FeedRun w listed) (s : Settings)
      (o : Outside σ) (m : Monitor σ) (pace : IntakePace) (options : IntakeOptions)
      {r : Except Failure SyncResult} {w' : World σ}
      (ends : (takeInLibrary s o m pace options).runOn w = (r, w')) :
      FeedRun w' (listed ++ Intake.listedIn o m pace options w)

namespace FeedRun

variable {σ : Type} {w : World σ} {listed : List String}

theorem committed (run : FeedRun w listed) : w.database = w.saved := by
  induction run with
  | start committed => exact committed
  | outside _ _ ih => exact ih
  | edit => rfl
  | outward _ _ _ _ _ _ _ _ ends => exact committed_unit ends
  | inward _ _ _ _ _ _ ends => exact committed_unit ends

/-- After every history, the playlists that tracks hold were listed and are no copies. -/
theorem apart (run : FeedRun w listed) :
    w.saved.Apart w.saved.playlists fun id => id ∈ listed ∧ id ∉ w.saved.remoteIds := by
  induction run with
  | start committed sources playlists =>
    refine ⟨rfl, fun l hl => ?_⟩
    rw [sources] at hl
    cases hl
  | outside _ _ ih => exact ih
  | edit _ d sources copies ih =>
    refine ⟨rfl, fun l hl htype => ?_⟩
    obtain ⟨hlisted, hnew⟩ := ih.held l (sources l hl htype) htype
    exact ⟨hlisted, fun hcopy => hnew (copies _ hcopy)⟩
  | @outward w listed run s o m options n force fresh r w' ends ih =>
    obtain ⟨-, hcopied, hloyal⟩ := copied_bringOutward run.committed ends
    have hsources : w'.saved.sources = w.saved.sources := by
      obtain ⟨rows, hrows⟩ := hcopied.others
      rw [hrows]
    refine ⟨rfl, fun l hl htype => ?_⟩
    obtain ⟨hlisted, hnew⟩ := ih.held l (hsources ▸ hl) htype
    refine ⟨hlisted, fun hcopy => ?_⟩
    rcases hcopied.ids _ hcopy with hold | hnow
    · exact hnew hold
    -- the copy was noted before, or it was created in this pass
    rcases hloyal.eq_or_created with hsame | ⟨copy, hcreated, hcopy⟩
    · exact hnew (Database.mem_remoteIds_of_copyOf (hsame ▸ hnow))
    · obtain rfl := Option.some.inj (hnow.symm.trans hcopy)
      exact fresh _ hcreated hlisted
  | @inward w listed run s o m pace options r w' ends ih =>
    have hapart := Intake.apart_takeInLibrary run.committed ih ends
    have hsame : w'.saved.remoteIds = w.saved.remoteIds := by
      unfold Database.remoteIds
      rw [hapart.playlists]
    refine ⟨rfl, fun l hl htype => ?_⟩
    rw [hsame]
    rcases hapart.held l hl htype with ⟨hlisted, hnew⟩ | ⟨hlisted, hnew⟩
    · exact ⟨List.mem_append_left _ hlisted, hnew⟩
    · exact ⟨List.mem_append_right _ hlisted, hnew⟩

/-! ### A copy that the platform lists -/

open Interrupted (everything brought exchanged)
open Surroundings (takenIn beside revoked showing)

/-- A playlist of the platform with one track. -/
def road : Account where
  userPlaylists := [{ externalId := "p", name := "Road" }]
  playlistTracks := [("p", [{ externalId := "t", title := .text "Drive", artist := .text "Artist" }])]

/-- The account with a copy in it, which is listed and has a track. -/
def withCopy (a : Account) : Account :=
  { a with
    userPlaylists := a.userPlaylists ++ [{ externalId := "created-1", name := "All" }]
    playlistTracks := a.playlistTracks ++
      [("created-1", [{ externalId := "u", title := .text "Stay", artist := .text "Artist" }])] }

/-- The database has one smart playlist, active or not, with the copy that it had. -/
def keeping (isActive : Bool) (w : World Surroundings) : World Surroundings :=
  let d := { w.saved with
    playlists := [{ everything with isActive, remoteId := w.saved.copyOf 1 }] }
  { w with database := d, saved := d }

/-- The smart playlist is put in, and the playlist of the platform is taken in. -/
def driven : World Surroundings := (takenIn false (keeping true (beside road))).2

/-- The copy is created, and nothing is written to it. -/
def copied : World Surroundings := (brought (revoked "add_items" driven)).2

/-- The smart playlist is active no longer, and its copy is listed. -/
def relisted : World Surroundings :=
  showing (withCopy copied.outside.account) (keeping false copied)

/-- The copy stands on the account when the next pass inward is made. -/
def passedBy : World Surroundings := (takenIn false relisted).2

/-- What the platform lists in such a pass. -/
def shownIn (w : World Surroundings) : List String :=
  Intake.listedIn Surroundings.outside Surroundings.monitor ({} : Settings).intakePace
    { features := false } w

theorem feedRun_takenIn {w : World Surroundings} {listed : List String} (run : FeedRun w listed) :
    FeedRun (takenIn false w).2 (listed ++ shownIn w) :=
  .inward run {} Surroundings.outside Surroundings.monitor ({} : Settings).intakePace
    { features := false } rfl

theorem feedRun_revoked {w : World Surroundings} {listed : List String} (run : FeedRun w listed)
    (method : String) : FeedRun (revoked method w) listed := .outside run _

theorem feedRun_showing {w : World Surroundings} {listed : List String} (run : FeedRun w listed)
    (account : Account) : FeedRun (showing account w) listed := .outside run _

theorem feedRun_keeping {w : World Surroundings} {listed : List String} (run : FeedRun w listed)
    (isActive : Bool) : FeedRun (keeping isActive w) listed := by
  refine .edit run _ (fun l hl _ => hl) fun id hid => ?_
  obtain ⟨r, hr, hcopy⟩ := Database.mem_remoteIds.1 hid
  obtain rfl := List.mem_singleton.1 hr
  exact Database.mem_remoteIds_of_copyOf hcopy

theorem feedRun_brought {w : World Surroundings} {listed : List String} (run : FeedRun w listed)
    (fresh : ∀ copy, .created copy ∈ exchanged w → copy ∉ listed) : FeedRun (brought w).2 listed :=
  .outward run {} Surroundings.outside Surroundings.monitor ⟨1, {}⟩ 1 false fresh rfl

theorem feedRun_passedBy : FeedRun passedBy ["p", "p", "created-1"] := by
  have hstart : FeedRun (keeping true (beside road)) [] :=
    feedRun_keeping (.start rfl rfl rfl) true
  have hdriven : FeedRun (revoked "add_items" driven) ([] ++ shownIn (keeping true (beside road))) :=
    feedRun_revoked (feedRun_takenIn hstart) _
  have hcopied : FeedRun copied ([] ++ shownIn (keeping true (beside road))) := by
    refine feedRun_brought hdriven fun copy hcopy => ?_
    have hcreated : exchanged (revoked "add_items" driven) =
        [.created "created-1", .wrote (some "created-1")] := by decide +kernel
    rw [hcreated] at hcopy
    obtain rfl : copy = "created-1" := by simpa using hcopy
    decide +kernel
  have hrelisted : FeedRun relisted ([] ++ shownIn (keeping true (beside road))) :=
    feedRun_showing (feedRun_keeping hcopied false) _
  have hlisted : [] ++ shownIn (keeping true (beside road)) ++ shownIn relisted =
      ["p", "p", "created-1"] := by decide +kernel
  rw [← hlisted]
  exact feedRun_takenIn hrelisted

/-! ### No feedback -/

/-- **No track ever holds the copy of a smart playlist**, active or not, whatever passes came before and
however they ended. -/
theorem no_copy_held (run : FeedRun w listed) : w.database = w.saved ∧
    ∀ r ∈ w.saved.playlists, ∀ copy, r.remoteId = some copy →
      ∀ l ∈ w.saved.sources, l.key ≠ (.playlist, copy) := by
  refine ⟨run.committed, fun r hr copy hcopy l hl hkey => ?_⟩
  obtain ⟨htype, rfl⟩ := Prod.mk.inj hkey
  exact (run.apart.held l hl htype).2 (Database.mem_remoteIds.2 ⟨r, hr, hcopy⟩)

/-- The pass that created the copy failed, the smart playlist is active no longer, and the platform lists
the copy. The playlist of the platform is taken in, and the copy is not. -/
theorem no_copy_held_passedBy : FeedRun passedBy ["p", "p", "created-1"] ∧
    (brought (revoked "add_items" driven)).1.isOk = false ∧ (takenIn false relisted).1.isOk = true ∧
    passedBy.saved.playlists.map (fun r => (r.isActive, r.remoteId)) = [(false, some "created-1")] ∧
    passedBy.saved.sources.map (·.key) = [(.playlist, "p")] ∧
    passedBy.database = passedBy.saved ∧
    ∀ r ∈ passedBy.saved.playlists, ∀ copy, r.remoteId = some copy →
      ∀ l ∈ passedBy.saved.sources, l.key ≠ (.playlist, copy) :=
  ⟨feedRun_passedBy, by decide +kernel, by decide +kernel, by decide +kernel, by decide +kernel,
    feedRun_passedBy.no_copy_held⟩

end FeedRun

end Mixtape
