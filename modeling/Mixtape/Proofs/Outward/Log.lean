import Mixtape.Proofs.Outward.Noting

/-!
# The log of a pass

What a pass does that can fail can be listed: the calls of the platform, among them the writes, and the
looks for cancellation. The list is kept along beside the pass, each entry with the failure it ended in.
The pass itself does not see it, and ends as it would without.

## Main definitions

* `Happening` — an entry of the log.
* `Outside.logging`, `Monitor.logging` — a platform and a monitor that keep the log.
* `happenings` — the log of a pass.
* `Steady log`, `Breaks f log` — nothing in the log ends a pass; its last entry ends it with `f`.
* `WritesFail log` — there are writes in the log, and all of them failed.

## Main results

* `runOn_logging` — **a pass that keeps the log ends as it would without.**
* `not_steady_iff` — which entries end a pass.
-/

namespace Mixtape

/-- What happens in a pass, with the failure it ended in. -/
inductive Happening where
  /-- A call of the platform other than a write. -/
  | asked (failure : Option Failure)
  /-- A write of items to the copy. -/
  | wrote (operation : ChunkOperation) (items : List String) (failure : Option Failure)
  /-- A look for cancellation. -/
  | looked (failure : Option Failure)
  deriving DecidableEq

namespace Happening

/-- Whether items are written. -/
def isWrite : Happening → Bool
  | wrote _ _ _ => true
  | _ => false

/-- Whether cancellation is looked for. -/
def isLook : Happening → Bool
  | looked _ => true
  | _ => false

/-- The failure that ends a pass: every one but that of a write that may be tried again. -/
def ends? : Happening → Option Failure
  | asked failure => failure
  | wrote _ _ failure => failure.filter (!·.isPassing)
  | looked failure => failure

/-- The error that is told of a failed write. -/
def error? : Happening → Option ChunkError
  | wrote operation items (some f) => some ⟨operation, items, f.shown, f.isPassing⟩
  | _ => none

end Happening

/-- Nothing in a log ends a pass. -/
def Steady (log : List Happening) : Prop := ∀ h ∈ log, h.ends? = none

instance (log : List Happening) : Decidable (Steady log) :=
  inferInstanceAs (Decidable (∀ h ∈ log, h.ends? = none))

/-- The last entry of a log ends a pass with a failure, and none before it does. A look for cancellation
that ends a pass has found it. -/
def Breaks (f : Failure) (log : List Happening) : Prop :=
  ∃ before h, log = before ++ [h] ∧ Steady before ∧ h.ends? = some f ∧
    (h.isLook = true → f = .cancelled)

/-- There are writes in a log, and all of them failed. -/
def WritesFail (log : List Happening) : Prop :=
  (∃ operation items failure, .wrote operation items failure ∈ log) ∧
    ∀ operation items, .wrote operation items none ∉ log

section Logs

variable {log : List Happening} {h : Happening} {f : Failure}

theorem steady_nil : Steady [] := fun _ h => nomatch h

theorem Steady.concat (hlog : Steady log) (hends : h.ends? = none) : Steady (log ++ [h]) := by
  intro g hg
  rcases List.mem_append.1 hg with hg | hg
  · exact hlog g hg
  · obtain rfl := List.mem_singleton.1 hg
    exact hends

theorem Steady.breaks (hlog : Steady log) (hends : h.ends? = some f)
    (hlook : h.isLook = true → f = .cancelled) : Breaks f (log ++ [h]) :=
  ⟨log, h, rfl, hlog, hends, hlook⟩

/-- A write that may be tried again ends no pass. -/
theorem ends?_of_isPassing {operation : ChunkOperation} {items : List String}
    (hpassing : f.isPassing = true) : (Happening.wrote operation items (some f)).ends? = none := by
  simp [Happening.ends?, hpassing]

/-- A write that failed for good ends it. -/
theorem Steady.breaks_write {operation : ChunkOperation} {items : List String} (hlog : Steady log)
    (hpassing : f.isPassing = false) : Breaks f (log ++ [.wrote operation items (some f)]) :=
  hlog.breaks (by simp [Happening.ends?, hpassing]) nofun

/-- A look for cancellation that found it is what ended the pass: no entry before the last ends it. -/
theorem Breaks.eq_cancelled (hbreaks : Breaks f log) {f' : Failure} (hmem : .looked (some f') ∈ log) :
    f = .cancelled := by
  obtain ⟨before, g, rfl, hsteady, -, hlook⟩ := hbreaks
  rcases List.mem_append.1 hmem with hmem | hmem
  · cases hsteady _ hmem
  · obtain rfl := List.mem_singleton.1 hmem
    exact hlook rfl

theorem Breaks.not_steady (hbreaks : Breaks f log) : ¬Steady log := by
  obtain ⟨before, g, rfl, -, hg, -⟩ := hbreaks
  intro hsteady
  rw [hsteady g List.mem_concat_self] at hg
  cases hg

/-- **Which entries end a pass**: a failed call that is no write, a write that failed for good, and a look
that found cancellation. -/
theorem not_steady_iff : ¬Steady log ↔ (∃ f, .asked (some f) ∈ log) ∨
    (∃ operation items f, .wrote operation items (some f) ∈ log ∧ f.isPassing = false) ∨
    ∃ f, .looked (some f) ∈ log := by
  unfold Steady
  simp only [Classical.not_forall, exists_prop]
  constructor
  · rintro ⟨g, hg, hends⟩
    obtain ⟨f, hf⟩ := Option.ne_none_iff_exists'.1 hends
    cases g with
    | asked failure =>
      obtain rfl : failure = some f := hf
      exact .inl ⟨f, hg⟩
    | wrote operation items failure =>
      obtain ⟨rfl, hpassing⟩ := Option.filter_eq_some_iff.1 hf
      exact .inr (.inl ⟨operation, items, f, hg, by simpa using hpassing⟩)
    | looked failure =>
      obtain rfl : failure = some f := hf
      exact .inr (.inr ⟨f, hg⟩)
  · rintro (⟨f, hf⟩ | ⟨operation, items, f, hf, hpassing⟩ | ⟨f, hf⟩)
    · exact ⟨_, hf, Option.some_ne_none f⟩
    · exact ⟨_, hf, by simp [Happening.ends?, hpassing]⟩
    · exact ⟨_, hf, Option.some_ne_none f⟩

end Logs

/-! ### The log of a pass -/

variable {σ : Type} {s : Settings} {o : Outside σ} {m : Monitor σ} {options : ApplyOptions} {n : Int}
  {force : Bool}

/-- The platform and the clock, with a log of the calls. -/
def Outside.logging (o : Outside σ) : Outside (σ × List Happening) where
  platform :=
    { createPlaylist := fun name description =>
        (o.platform.createPlaylist name description).logging .asked
      updateDetails := fun id name description =>
        (o.platform.updateDetails id name description).logging .asked
      itemIds := fun id => (o.platform.itemIds id).logging .asked
      addItems := fun id new => (o.platform.addItems id new).logging (.wrote .add new)
      removeItems := fun id gone => (o.platform.removeItems id gone).logging (.wrote .remove gone)
      likedTracks := o.platform.likedTracks.logging .asked
      savedAlbums := o.platform.savedAlbums.logging .asked
      userPlaylists := o.platform.userPlaylists.logging .asked
      playlistTracks := fun id => (o.platform.playlistTracks id).logging .asked
      recentPlays := fun limit => (o.platform.recentPlays limit).logging .asked
      audioFeatures := fun ids => (o.platform.audioFeatures ids).logging .asked }
  now u := o.now u.1

/-- A monitor with a log of the looks for cancellation. -/
def Monitor.logging (m : Monitor σ) : Monitor (σ × List Happening) where
  report p := (m.report p).unlogged
  check := m.check.logging .looked
  pause seconds := (m.pause seconds).unlogged

/-- What happens in a pass, in order. -/
def happenings (s : Settings) (o : Outside σ) (m : Monitor σ) (options : ApplyOptions) (n : Int)
    (force : Bool) (w : World σ) : List Happening :=
  ((bringOutward s o.logging m.logging options n force).runOn
    ⟨w.database, w.saved, (w.outside, [])⟩).2.outside.2

theorem Outside.mirrors_logging (o : Outside σ) :
    o.logging.platform.Mirrors Prod.fst o.platform where
  create _ _ := Action.mirrors_logging
  describe _ _ _ := Action.mirrors_logging
  read _ := Action.mirrors_logging
  add _ _ := Action.mirrors_logging
  remove _ _ := Action.mirrors_logging

theorem Monitor.mirrors_logging (m : Monitor σ) : m.logging.Mirrors Prod.fst m where
  report _ := Action.mirrors_unlogged
  check := Action.mirrors_logging
  pause _ := Action.mirrors_unlogged

/-- **A pass that keeps the log ends as it would without.** -/
theorem runOn_logging {w w' : World σ} {r : Except Failure SyncOutcome}
    (ends : (bringOutward s o m options n force).runOn w = (r, w')) :
    (bringOutward s o.logging m.logging options n force).runOn
      ⟨w.database, w.saved, (w.outside, [])⟩ =
        (r, ⟨w'.database, w'.saved, (w'.outside, happenings s o m options n force w)⟩) :=
  runOn_beside o.mirrors_logging (fun _ => rfl) m.mirrors_logging ends []

end Mixtape
