import Mixtape.Proofs.Outward.Mark
import Mixtape.Proofs.Outward.Verdict
import Mixtape.Proofs.Sync.Partial

/-!
# How many items a copy holds during a pass

A copy is read, then its superfluous items are removed, chunk by chunk, and then the missing ones are
added. As long as no removal fails, a copy that held no item twice first shrinks and then grows, and
grows to no more than what is desired. So at every moment it holds at most as many items as before the
pass or as now, and what it comes to is within the limit of the criteria, or within the most tracks of a
copy if there is no limit. A limit may be larger than the most tracks of a copy, and then it is the limit
that counts.

What lies outside is seen after everything that is done there: each call of the platform, each look for
cancellation, each report and each pause. The sights are kept along beside the pass, which ends as it
would without.

## Main definitions

* `Action.sighting` — a computation beside a list of what was seen, with the state it ends in.
* `sights` — what lies outside at each moment of a pass.
* `RemovalFails log` — a removal in the log has failed.
* `Fills items copy prior cap u` — how the copy was filled, as far as it was seen.

## Main results

* `runOn_sighting_logging` — **a pass that keeps the sights and the log ends as it would without.**
* `meets_applyFills` — applying a diff to a copy.
* `meets_bringFills` — a whole pass.
* `bringOutward_within_iff` — **when a copy is within the most tracks of a copy at every moment of a
  pass.**
* `not_bringOutward_within` — a pass that fills a copy beyond them.
-/

namespace Mixtape

open Action

/-! ### What is seen during a pass -/

namespace Action

variable {σ α : Type} {x : Action σ α}

/-- A computation that leaves the state it ends in among the sights. -/
def sighting (x : Action σ α) : Action (σ × List σ) α :=
  .ofRun fun u => ((x.runOn u.1).1, (x.runOn u.1).2, u.2 ++ [(x.runOn u.1).2])

theorem mirrors_sighting : Mirrors Prod.fst x.sighting x := fun _ => rfl

/-- A log that is kept beside the sights is the log that is kept without them. -/
theorem mirrors_sighting_logging {η : Type} {entry : Option Failure → η} :
    Mirrors (fun u => (u.1.1, u.2)) (x.sighting.logging entry) (x.logging entry) := fun _ => rfl

theorem mirrors_sighting_unlogged {η : Type} :
    Mirrors (fun u : (σ × List σ) × List η => (u.1.1, u.2)) x.sighting.unlogged x.unlogged :=
  fun _ => rfl

end Action

variable {σ : Type} {s : Settings} {o : Outside σ} {m : Monitor σ} {options : ApplyOptions} {n : Int}
  {force : Bool}

/-- The platform and the clock, with the sights. -/
def Outside.sighting (o : Outside σ) : Outside (σ × List σ) where
  platform :=
    { createPlaylist := fun name description => (o.platform.createPlaylist name description).sighting
      updateDetails := fun id name description =>
        (o.platform.updateDetails id name description).sighting
      itemIds := fun id => (o.platform.itemIds id).sighting
      addItems := fun id new => (o.platform.addItems id new).sighting
      removeItems := fun id gone => (o.platform.removeItems id gone).sighting
      likedTracks := o.platform.likedTracks.sighting
      savedAlbums := o.platform.savedAlbums.sighting
      userPlaylists := o.platform.userPlaylists.sighting
      playlistTracks := fun id => (o.platform.playlistTracks id).sighting
      recentPlays := fun limit => (o.platform.recentPlays limit).sighting
      audioFeatures := fun ids => (o.platform.audioFeatures ids).sighting }
  now u := o.now u.1

/-- A monitor with the sights. -/
def Monitor.sighting (m : Monitor σ) : Monitor (σ × List σ) where
  report p := (m.report p).sighting
  check := m.check.sighting
  pause seconds := (m.pause seconds).sighting

/-- What lies outside at each moment of a pass, in order: after each call, look, report and pause. -/
def sights (s : Settings) (o : Outside σ) (m : Monitor σ) (options : ApplyOptions) (n : Int)
    (force : Bool) (w : World σ) : List σ :=
  ((bringOutward s o.sighting m.sighting options n force).runOn
    ⟨w.database, w.saved, (w.outside, [])⟩).2.outside.2

theorem Outside.mirrors_sighting (o : Outside σ) :
    o.sighting.platform.Mirrors Prod.fst o.platform where
  create _ _ := Action.mirrors_sighting
  describe _ _ _ := Action.mirrors_sighting
  read _ := Action.mirrors_sighting
  add _ _ := Action.mirrors_sighting
  remove _ _ := Action.mirrors_sighting

theorem Monitor.mirrors_sighting (m : Monitor σ) : m.sighting.Mirrors Prod.fst m where
  report _ := Action.mirrors_sighting
  check := Action.mirrors_sighting
  pause _ := Action.mirrors_sighting

theorem Outside.mirrors_sighting_logging (o : Outside σ) :
    o.sighting.logging.platform.Mirrors (fun u => (u.1.1, u.2)) o.logging.platform where
  create _ _ := Action.mirrors_sighting_logging
  describe _ _ _ := Action.mirrors_sighting_logging
  read _ := Action.mirrors_sighting_logging
  add _ _ := Action.mirrors_sighting_logging
  remove _ _ := Action.mirrors_sighting_logging

theorem Monitor.mirrors_sighting_logging (m : Monitor σ) :
    m.sighting.logging.Mirrors (fun u => (u.1.1, u.2)) m.logging where
  report _ := mirrors_sighting_unlogged
  check := Action.mirrors_sighting_logging
  pause _ := mirrors_sighting_unlogged

/-- **A pass that keeps the sights and the log ends as it would without**, and both are as if kept
alone. -/
theorem runOn_sighting_logging {w w' : World σ} {r : Except Failure SyncOutcome}
    (ends : (bringOutward s o m options n force).runOn w = (r, w')) :
    (bringOutward s o.sighting.logging m.sighting.logging options n force).runOn
      ⟨w.database, w.saved, ((w.outside, []), [])⟩ =
        (r, ⟨w'.database, w'.saved,
          ((w'.outside, sights s o m options n force w), happenings s o m options n force w)⟩) := by
  have hsighted := runOn_beside o.mirrors_sighting (fun _ => rfl) m.mirrors_sighting ends []
  have hboth := runOn_logging hsighted
  -- the log does not depend on the sights
  have hlog := mirrors_bringOutward o.mirrors_sighting_logging (fun _ => rfl)
    m.mirrors_sighting_logging s options n force ⟨w.database, w.saved, ((w.outside, []), [])⟩
  rw [hboth] at hlog
  have hsame : happenings s o m options n force w =
      happenings s o.sighting m.sighting options n force ⟨w.database, w.saved, (w.outside, [])⟩ :=
    congrArg (fun x => x.2.outside.2) hlog
  rw [hsame]
  exact hboth

/-! ### Removals that fail -/

/-- Whether a removal has failed. -/
def Happening.isFailedRemoval : Happening → Bool
  | .wrote .remove _ (some _) => true
  | _ => false

/-- A removal in a log has failed. -/
def RemovalFails (log : List Happening) : Prop := ∃ h ∈ log, h.isFailedRemoval = true

instance (log : List Happening) : Decidable (RemovalFails log) :=
  inferInstanceAs (Decidable (∃ h ∈ log, h.isFailedRemoval = true))

/-- Something holds, unless a removal in the log has failed. -/
def UnlessFailed {τ : Type} (R : τ → Prop) (u : τ × List Happening) : Prop :=
  RemovalFails u.2 ∨ R u.1

theorem RemovalFails.append {log : List Happening} (h : RemovalFails log) (more : List Happening) :
    RemovalFails (log ++ more) := by
  obtain ⟨g, hmem, hfailed⟩ := h
  exact ⟨g, List.mem_append_left more hmem, hfailed⟩

section Unless

variable {τ α : Type} {O : τ → Prop} {x : Action τ α} {Q : α → τ → Prop} {E : Failure → τ → Prop}
  {entry : Option Failure → Happening}

/-- Once a removal has failed, the log tells so for good. -/
theorem meets_unless_logging (h : Meets O x Q E) :
    Meets (UnlessFailed O) (x.logging entry) (fun a => UnlessFailed (Q a))
      fun f => UnlessFailed (E f) := by
  rintro ⟨u, log⟩ hu
  unfold logging
  rw [runOn_ofRun]
  rcases hu with hfailed | hO
  · rcases x.runOn u with ⟨f | a, t⟩
    · exact .inl (hfailed.append _)
    · exact .inl (hfailed.append _)
  · have := h u hO
    revert this
    rcases x.runOn u with ⟨f | a, t⟩ <;> exact .inr

theorem meets_unless_unlogged (h : Meets O x Q E) :
    Meets (UnlessFailed O) x.unlogged (fun a => UnlessFailed (Q a)) fun f => UnlessFailed (E f) := by
  refine meets_within ?_
  rintro ⟨u, log⟩ (hfailed | hO)
  · exact (meets_runOn u).imp (fun _ => id) (fun _ _ _ => .inl hfailed) fun _ _ _ => .inl hfailed
  · exact (h.at_state hO).imp (fun _ => id) (fun _ _ => .inr) fun _ _ => .inr

/-- A removal that fails is in the log. -/
theorem meets_unless_removal {gone : List String} (h : Yields O x Q) :
    Meets (UnlessFailed O) (x.logging (.wrote .remove gone)) (fun a => UnlessFailed (Q a))
      fun _ u => RemovalFails u.2 := by
  have hends : Meets (UnlessFailed O) (x.logging (.wrote .remove gone)) (fun _ _ => True)
      fun _ u => RemovalFails u.2 := by
    refine (meets_logging (P := fun _ => True) (L := fun _ => True) _ yields_true).imp
      (fun _ _ => ⟨trivial, trivial⟩) (fun _ _ _ => trivial) ?_
    rintro f u ⟨-, log, -, hlog⟩
    exact ⟨_, hlog ▸ List.mem_concat_self, rfl⟩
  exact ((meets_unless_logging h).and hends).imp (fun _ => id) (fun _ _ => And.left)
    fun _ _ => And.right

end Unless

/-! ### How a copy is filled -/

variable {items : σ → String → List String} {copy : String} {prior held desired : List String}
  {cap : Nat} {u : σ × List σ} {D S : Database → Prop}

/-- How a copy was filled that held `prior`, as far as it was seen. -/
structure Fills (items : σ → String → List String) (copy : String) (prior : List String) (cap : Nat)
    (u : σ × List σ) : Prop where
  /-- It never held more than at the start or now. -/
  peaks : ∀ t ∈ u.2, (items t copy).length ≤ max prior.length (items u.1 copy).length
  /-- What it holds now was there at the start, or was seen. -/
  seen : items u.1 copy = prior ∨ ∃ t ∈ u.2, items t copy = items u.1 copy
  /-- It holds no more than at the start, or than it may come to. -/
  fits : prior.Nodup → (items u.1 copy).length ≤ max prior.length cap

/-- A copy that holds something else now than at the start was seen so. -/
theorem Fills.exists_seen {t : σ} {seen : List σ} (h : Fills items copy prior cap (t, seen))
    (hchanged : items t copy ≠ prior) : ∃ v ∈ seen, items v copy = items t copy :=
  h.seen.resolve_left hchanged

/-- A copy is filled so far, and holds certain items now. -/
def Filled (items : σ → String → List String) (copy : String) (prior : List String) (cap : Nat)
    (ids : List String) (u : σ × List σ) : Prop :=
  Fills items copy prior cap u ∧ items u.1 copy = ids

theorem filled_start (u : σ) :
    Filled items copy (items u copy) cap (items u copy) (u, []) :=
  ⟨⟨nofun, .inl rfl, fun _ => Nat.le_max_left _ _⟩, rfl⟩

section Steps

variable {α : Type} {ids ids' : List String} {x : Action σ α} {R : α → Prop}

/-- A copy that is seen once more, with what it holds then. -/
theorem Filled.concat (h : Filled items copy prior cap ids u) {t : σ} (ht : items t copy = ids')
    (hpeak : ids.length ≤ max prior.length ids'.length)
    (hfits : prior.Nodup → ids'.length ≤ max prior.length cap) :
    Filled items copy prior cap ids' (t, u.2 ++ [t]) := by
  obtain ⟨⟨hpeaks, -, -⟩, rfl⟩ := h
  subst ht
  refine ⟨⟨fun v hv => ?_, .inr ⟨t, List.mem_concat_self, rfl⟩, hfits⟩, rfl⟩
  rcases List.mem_append.1 hv with hv | hv
  · exact Nat.le_trans (hpeaks v hv) (Nat.max_le.2 ⟨Nat.le_max_left _ _, hpeak⟩)
  · obtain rfl := List.mem_singleton.1 hv
    exact Nat.le_max_right _ _

theorem Filled.same (h : Filled items copy prior cap ids u) {t : σ} (ht : items t copy = ids) :
    Filled items copy prior cap ids (t, u.2 ++ [t]) :=
  h.concat ht (Nat.le_max_right _ _) fun hprior => h.2 ▸ h.1.fits hprior

/-- **A step of filling a copy**: it changes what the copy holds, or fails and changes nothing. -/
theorem meets_fill (h : Meets (fun t => items t copy = ids) x
      (fun a t => R a ∧ items t copy = ids') fun _ t => items t copy = ids)
    (hpeak : ids.length ≤ max prior.length ids'.length)
    (hfits : prior.Nodup → ids'.length ≤ max prior.length cap) :
    Meets (Filled items copy prior cap ids) x.sighting
      (fun a u => R a ∧ Filled items copy prior cap ids' u)
      fun _ => Filled items copy prior cap ids := by
  intro u hu
  have := h u.1 hu.2
  unfold sighting
  rw [runOn_ofRun]
  revert this
  rcases x.runOn u.1 with ⟨f | a, t⟩
  · exact hu.same
  · exact fun ht => ⟨ht.1, hu.concat ht.2 hpeak hfits⟩

/-- What leaves the items of a copy leaves it filled as it is. -/
theorem keeps_filled (h : Keeps (fun t => items t copy = ids) x) :
    Keeps (Filled items copy prior cap ids) x.sighting := by
  rw [keeps_iff] at h ⊢
  intro u hu
  exact hu.same (h u.1 hu.2)

end Steps

/-- What the monitor does leaves a copy filled as it is. -/
theorem sustains_filled (quiet : m.Quiet items) (ids : List String) :
    (World.watch m.sighting.logging).Sustains
      (Holding D S (UnlessFailed (Filled items copy prior cap ids)))
      fun _ => Holding D S (UnlessFailed (Filled items copy prior cap ids)) where
  report p := meets_asking (meets_unless_unlogged (keeps_filled ((quiet copy ids).report p)))
  check := meets_asking (meets_unless_logging (keeps_filled (quiet copy ids).check))
  pause x := meets_asking (meets_unless_unlogged (keeps_filled ((quiet copy ids).pause x)))

/-! ### Applying a diff -/

/-- A copy without repetitions holds no more than what is desired once it was brought to it. -/
theorem length_broughtTo_le (hheld : held.Nodup) :
    (broughtTo desired held).length ≤ desired.length := by
  have hnodup : (broughtTo desired held).Nodup := by
    refine List.nodup_append.2 ⟨hheld.filter _, (nodup_dedup desired).filter _, ?_⟩
    rintro x hx y hy rfl
    simp at hx hy
    exact hy.2 hx.1
  exact (List.subperm_of_subset hnodup fun x => (sameMembers_broughtTo x).1).length_le

/-- Where the work is over before a call begins, nothing is done to the copy. -/
theorem meets_applyStalled (quiet : m.Quiet items) (stalls : ¬options.pacing.letsBegin = true)
    (d : Diff) (w : Writer (World ((σ × List σ) × List Happening))) :
    Meets (Holding D S (UnlessFailed (Filled items copy prior cap held)))
      (d.apply w (World.watch m.sighting.logging) options)
      (fun _ => Holding D S (UnlessFailed (Filled items copy prior cap held)))
      fun _ => Holding D S (UnlessFailed (Filled items copy prior cap held)) := by
  let I := Holding D S (UnlessFailed (Filled items copy prior cap held))
  have hcall : ∀ {x : Action (World ((σ × List σ) × List Happening)) Unit} {Q : Unit → _ → Prop},
      Meets I (options.pacing.bounded x) Q fun f w => if f.isPassing then I w else I w := by
    intro x Q
    rw [Pacing.bounded, if_neg stalls]
    refine meets_throw fun w hw => ?_
    split <;> exact hw
  refine (meets_applyChunks (P := fun _ _ => I) (E := fun _ => I) options
    (fun _ _ => sustains_filled quiet held) (fun _ _ => hcall) (fun _ _ _ => hcall)
    fun _ _ _ _ => id).imp (fun _ => id) ?_ fun _ _ => id
  rintro _ w ⟨-, -, h, -⟩
  exact h

section Chunks

variable {ro ao : List (Outcome String Unit)} {rr ra : List (List String)} {chunk : List String}
  {size : Nat}

/-- What a copy holds during the work on a diff, where no removal has failed. -/
def heldAfter (held : List String) (ro ao : List (Outcome String Unit)) : List String :=
  held.filter (!(ro.map (·.items)).flatten.contains ·) ++ doneItems ao

theorem length_heldAfter_removing : (heldAfter held ro []).length ≤ held.length := by
  rw [heldAfter, doneItems, List.filter_nil, List.flatMap_nil, List.append_nil]
  exact List.length_filter_le _ _

/-- Once all superfluous items are removed, a copy holds no more than what is desired. -/
theorem length_heldAfter_le (hsize : 0 < size) (hheld : held.Nodup)
    (hro : ro.map (·.items) = chunksOf size (computeDiff (some copy) desired held).toRemove)
    (hao : ao.map (·.items) ++ ra = chunksOf size (computeDiff (some copy) desired held).toAdd) :
    (heldAfter held ro ao).length ≤ desired.length := by
  have hadded : (doneItems ao).Sublist (computeDiff (some copy) desired held).toAdd := by
    rw [← flatten_chunksOf hsize (computeDiff (some copy) desired held).toAdd, ← hao,
      List.flatten_append]
    exact (doneItems_sublist ao).trans (List.sublist_append_left _ _)
  calc (heldAfter held ro ao).length ≤ (broughtTo desired held).length := by
        rw [heldAfter, hro, flatten_chunksOf hsize, ← @change_computeDiff (some copy)]
        exact ((List.Sublist.refl _).append hadded).length_le
    _ ≤ desired.length := length_broughtTo_le hheld

/-- What is known while a diff is applied: the chunks that were tried and those ahead are all there are,
and the copy holds what they have left, unless a removal has failed. -/
def Filling (items : σ → String → List String) (copy : String) (prior held : List String) (cap : Nat)
    (D S : Database → Prop) (removals additions : List (List String))
    (ro : List (Outcome String Unit)) (rr : List (List String)) (ao : List (Outcome String Unit))
    (ra : List (List String)) (w : World ((σ × List σ) × List Happening)) : Prop :=
  (ro.map (·.items) ++ rr = removals ∧ ao.map (·.items) ++ ra = additions) ∧
    Holding D S (UnlessFailed (Filled items copy prior cap (heldAfter held ro ao))) w

/-- A removal takes what it was to take from the copy, unless it fails. -/
theorem meets_removeFilling (honest : o.platform.Honest items) (hheld : held.length ≤ prior.length)
    {removals additions : List (List String)} :
    Meets (Filling items copy prior held cap D S removals additions ro (chunk :: rr) [] ra)
      (o.sighting.logging.platform.writer.remove (some copy) chunk)
      (fun r => Filling items copy prior held cap D S removals additions
        (ro ++ [⟨ro.length, chunk, .ok r⟩]) rr [] ra)
      fun f => Filling items copy prior held cap D S removals additions
        (ro ++ [⟨ro.length, chunk, .error f⟩]) rr [] ra := by
  refine meets_of_and ?_
  rintro ⟨hro, hao⟩
  have hchunks : ∀ r : Except Failure Unit,
      (ro ++ [(⟨ro.length, chunk, r⟩ : Outcome String Unit)]).map (·.items) ++ rr = removals :=
    fun r => by simpa using hro
  have hremoved : ∀ r : Except Failure Unit, (heldAfter held ro []).filter (!chunk.contains ·) =
      heldAfter held (ro ++ [⟨ro.length, chunk, r⟩]) [] := fun r => by
    simp [heldAfter, doneItems, Bool.and_comm]
  have hshort : ∀ ro', (heldAfter held ro' []).length ≤ prior.length :=
    fun ro' => Nat.le_trans length_heldAfter_removing hheld
  have hfill : Meets (Filled items copy prior cap (heldAfter held ro [])) _ _ _ :=
    meets_fill (R := fun _ => True)
      ((honest.remove copy (heldAfter held ro []) chunk).imp (fun _ => id)
        (fun _ _ h => ⟨trivial, h⟩) fun _ _ => id)
      (Nat.le_trans (hshort _) (Nat.le_max_left _ _))
      fun _ => Nat.le_trans (hremoved (.ok ()) ▸ hshort _) (Nat.le_max_left _ _)
  refine (meets_asking (meets_unless_removal hfill.yields)).imp (fun _ => id) ?_ ?_
  · rintro r w ⟨hd, hs, hfilled⟩
    exact ⟨⟨hchunks _, hao⟩, hd, hs, hfilled.imp_right fun h => hremoved (.ok r) ▸ h.2⟩
  · rintro f w ⟨hd, hs, hfailed⟩
    exact ⟨⟨hchunks _, hao⟩, hd, hs, .inl hfailed⟩

/-- An addition adds what it was to add to the copy, or fails and adds nothing. -/
theorem meets_addFilling (honest : o.platform.Honest items) (hsize : 0 < size)
    (hheld : prior.Nodup → held.Nodup) (hcap : desired.length ≤ cap) :
    Meets (Filling items copy prior held cap D S
        (chunksOf size (computeDiff (some copy) desired held).toRemove)
        (chunksOf size (computeDiff (some copy) desired held).toAdd) ro [] ao (chunk :: ra))
      (o.sighting.logging.platform.writer.add (some copy) chunk)
      (fun r => Filling items copy prior held cap D S
        (chunksOf size (computeDiff (some copy) desired held).toRemove)
        (chunksOf size (computeDiff (some copy) desired held).toAdd) ro []
        (ao ++ [⟨ao.length, chunk, .ok r⟩]) ra)
      fun f => Filling items copy prior held cap D S
        (chunksOf size (computeDiff (some copy) desired held).toRemove)
        (chunksOf size (computeDiff (some copy) desired held).toAdd) ro []
        (ao ++ [⟨ao.length, chunk, .error f⟩]) ra := by
  refine meets_of_and ?_
  rintro ⟨hro, hao⟩
  have hchunks : ∀ r : Except Failure Unit,
      (ao ++ [(⟨ao.length, chunk, r⟩ : Outcome String Unit)]).map (·.items) ++ ra =
        chunksOf size (computeDiff (some copy) desired held).toAdd := fun r => by simpa using hao
  have hadded : heldAfter held ro ao ++ chunk =
      heldAfter held ro (ao ++ [⟨ao.length, chunk, .ok ()⟩]) := by
    simp [heldAfter, doneItems_append]
  have hsame : ∀ f : Failure,
      heldAfter held ro (ao ++ [⟨ao.length, chunk, .error f⟩]) = heldAfter held ro ao :=
    fun f => by simp [heldAfter, doneItems_append]
  have hfill : Meets (Filled items copy prior cap (heldAfter held ro ao)) _ _ _ :=
    meets_fill (R := fun _ => True)
      ((honest.add copy (heldAfter held ro ao) chunk).imp (fun _ => id) (fun _ _ h => ⟨trivial, h⟩)
        fun _ _ => id)
      (Nat.le_trans (by simp) (Nat.le_max_right _ _))
      fun hprior => by
        rw [hadded]
        have := length_heldAfter_le hsize (hheld hprior) (by simpa using hro) (hchunks (.ok ()))
        omega
  refine (meets_asking (meets_unless_logging hfill)).imp (fun _ => id) ?_ ?_
  · rintro r w ⟨hd, hs, hfilled⟩
    exact ⟨⟨by simpa using hro, hchunks _⟩, hd, hs, hfilled.imp_right fun h => hadded ▸ h.2⟩
  · rintro f w ⟨hd, hs, hfilled⟩
    exact ⟨⟨by simpa using hro, hchunks _⟩, hd, hs, hfilled.imp_right fun h => (hsame f).symm ▸ h⟩

end Chunks

/-- **Applying a diff to a copy** that holds no more than at the start, as far as removals succeed. -/
theorem meets_applyFills (honest : o.platform.Honest items) (quiet : m.Quiet items)
    (hlength : held.length ≤ prior.length) (hnodup : prior.Nodup → held.Nodup)
    (hcap : desired.length ≤ cap) :
    Meets (Holding D S (UnlessFailed (Filled items copy prior cap held)))
      ((computeDiff (some copy) desired held).apply o.sighting.logging.platform.writer
        (World.watch m.sighting.logging) options)
      (fun _ => Holding D S (UnlessFailed (Fills items copy prior cap)))
      fun _ => Holding D S (UnlessFailed (Fills items copy prior cap)) := by
  have hfills : ∀ {ids : List String} {w : World ((σ × List σ) × List Happening)},
      Holding D S (UnlessFailed (Filled items copy prior cap ids)) w →
      Holding D S (UnlessFailed (Fills items copy prior cap)) w :=
    fun h => ⟨h.1, h.2.1, h.2.2.imp_right And.left⟩
  by_cases begins : options.pacing.letsBegin = true
  swap
  · exact (meets_applyStalled quiet begins _ _).imp (fun _ => id) (fun _ _ => hfills) fun _ _ => hfills
  refine (meets_applyChunks_ahead (E := fun _ => Holding D S (UnlessFailed (Fills items copy prior cap)))
    (P := Filling items copy prior held cap D S
      (chunksOf options.chunkSize.toNat (computeDiff (some copy) desired held).toRemove)
      (chunksOf options.chunkSize.toNat (computeDiff (some copy) desired held).toAdd)) options
    (fun ro rr ao ra => ?_) (fun hsize ro chunk rr ra => ?_) (fun hsize ro ao chunk ra => ?_)
    fun _ ro rr ra f w h => hfills h.2).imp ?_ ?_ fun _ _ => id
  · exact .of_and fun _ => ⟨fun p => ((sustains_filled quiet _).report p).imp_error fun _ _ => hfills,
      (sustains_filled quiet _).check.imp_error fun _ _ => hfills,
      fun x => ((sustains_filled quiet _).pause x).imp_error fun _ _ => hfills⟩
  · rw [Pacing.bounded, if_pos begins]
    refine (meets_removeFilling honest hlength).imp_error fun f w h => ?_
    split
    · exact h
    · exact hfills h.2
  · rw [Pacing.bounded, if_pos begins]
    refine (meets_addFilling honest hsize.toNat_pos hnodup hcap).imp_error fun f w h => ?_
    split
    · exact h
    · exact hfills h.2
  · refine fun w h => ⟨⟨rfl, rfl⟩, ?_⟩
    have hstart : heldAfter held [] [] = held :=
      (List.append_nil _).trans (List.filter_eq_self.2 fun _ _ => rfl)
    rwa [hstart]
  · rintro _ w ⟨ro, ao, h, -⟩
    exact hfills h.2

/-! ### A pass -/

variable {before : String → List String} {criteria : Json} {noted mark : Option String}
  {p : SmartPlaylist}

/-- The copy that is noted was filled as far as it was seen, unless a removal has failed. -/
def Settled (items : σ → String → List String) (before : String → List String) (n : Int) (cap : Nat)
    (w : World ((σ × List σ) × List Happening)) : Prop :=
  ∀ copy, w.saved.copyOf n = some copy → UnlessFailed (Fills items copy (before copy) cap) w.outside

/-- No copy was changed so far. -/
def Untouched (items : σ → String → List String) (before : String → List String) (cap : Nat)
    (u : (σ × List σ) × List Happening) : Prop :=
  ∀ copy, Filled items copy (before copy) cap (before copy) u.1

theorem Untouched.settled {w : World ((σ × List σ) × List Happening)}
    (h : Untouched items before cap w.outside) : Settled items before n cap w :=
  fun copy _ => .inr (h copy).1

theorem settled_of_noted {w : World ((σ × List σ) × List Happening)}
    (hnoted : Database.Noted n criteria (some copy) mark w.saved)
    (h : UnlessFailed (Fills items copy (before copy) cap) w.outside) :
    Settled items before n cap w := by
  intro c hc
  rw [hnoted.copyOf_eq] at hc
  exact Option.some.inj hc ▸ h

section Calls

variable {τ α : Type} {O : τ → Prop} {x : Action τ α} {Q : α → τ → Prop} {E : Failure → τ → Prop}

theorem meets_logged (entry : Option Failure → Happening) (h : Meets O x Q E) :
    Meets (fun u => O u.1) (x.logging entry) (fun a u => Q a u.1) fun f u => E f u.1 :=
  (meets_logging (L := fun _ => True) entry h).imp (fun _ hu => ⟨hu, trivial⟩) (fun _ _ => And.left)
    fun _ _ => And.left

theorem keeps_untouched {y : Action σ Unit} (h : ∀ c ids, Keeps (fun t => items t c = ids) y) :
    Keeps (fun u : σ × List σ => ∀ c, Filled items c (before c) cap (before c) u) y.sighting :=
  keeps_iff.2 fun u hu c => keeps_iff.1 (keeps_filled (h c (before c))) u (hu c)

end Calls

/-- Reports and looks change no copy. -/
theorem sustains_untouched (quiet : m.Quiet items) :
    (World.watch m.sighting.logging).Sustains (Holding D S (Untouched items before cap))
      fun _ w => S w.saved ∧ Untouched items before cap w.outside where
  report p := meets_ask ((meets_unlogged (L := fun _ => True)
    (keeps_untouched fun c ids => (quiet c ids).report p)).imp (fun _ h => ⟨h, trivial⟩)
      (fun _ _ => And.left) fun _ _ => And.left)
  check := meets_ask (meets_logged _ (keeps_untouched fun c ids => (quiet c ids).check))
  pause x := meets_ask ((meets_unlogged (L := fun _ => True)
    (keeps_untouched fun c ids => (quiet c ids).pause x)).imp (fun _ h => ⟨h, trivial⟩)
      (fun _ _ => And.left) fun _ _ => And.left)

/-- A copy that was just created holds nothing. -/
theorem yields_createSighted (honest : o.platform.Honest items) (name description : String) :
    Yields (fun u : σ × List σ => ∀ c, Filled items c (before c) cap (before c) u)
      (o.platform.createPlaylist name description).sighting
      fun c u => Filled items c (before c) cap [] u := by
  intro u hu
  have := honest.create name description u.1 trivial
  unfold sighting
  rw [runOn_ofRun]
  revert this
  rcases (o.platform.createPlaylist name description).runOn u.1 with ⟨f | c, t⟩
  · exact fun _ => trivial
  · exact fun hempty => (hu c).concat hempty (Nat.le_max_left _ _) fun _ => Nat.zero_le _

/-- A copy that is opened holds what it held, or nothing if it was just created. -/
theorem meets_openFills (honest : o.platform.Honest items) (hremote : p.remoteId = .ofText? noted) :
    Meets
      (Holding (Database.Noted n criteria noted mark) (Database.Noted n criteria noted mark)
        (Untouched items before cap))
      (openCopy s o.sighting.logging n p)
      (fun (_, c, _, held) w => (held = [] ∨ held = before c) ∧
        Holding (Database.Noted n criteria (some c) mark) (Database.Noted n criteria (some c) mark)
          (fun u => Filled items c (before c) cap held u.1) w)
      fun _ => Settled items before n cap := by
  unfold openCopy
  cases noted with
  | none =>
    rw [hremote]
    have hcreate : Yields (fun u : σ × List σ => ∀ c, Filled items c (before c) cap (before c) u) _
        fun c u => Filled items c (before c) cap [] u :=
      yields_createSighted honest (p.outwardName s) (p.outwardDescription s)
    have hnone : ∀ {w : World ((σ × List σ) × List Happening)},
        Database.Noted n criteria none mark w.saved → Settled items before n cap w := by
      intro w hnoted c hc
      rw [hnoted.copyOf_eq] at hc
      cases hc
    refine Meets.bind ((meets_ask (meets_logged .asked hcreate)).imp_error
      fun _ _ h => hnone h.1) fun c => ?_
    refine Meets.bind ((meets_query (Database.meets_setRemoteId c).yields).imp_error
      fun _ _ h => hnone h.1) fun p' => ?_
    refine Meets.bind (meets_commit (S := Database.Noted n criteria none mark)) fun _ => ?_
    refine meets_pure ?_
    rintro w ⟨⟨hnoted, -⟩, ⟨hsaved, -⟩, hfilled⟩
    exact ⟨.inl rfl, hnoted, hsaved, hfilled⟩
  | some c =>
    rw [hremote]
    have hstays : ∀ {α : Type} {x : Action σ α} {R : α → Prop},
        Meets (fun t => items t c = before c) x (fun a t => R a ∧ items t c = before c)
          (fun _ t => items t c = before c) →
        Meets (Filled items c (before c) cap (before c)) x.sighting
          (fun a u => R a ∧ Filled items c (before c) cap (before c) u)
          fun _ => Filled items c (before c) cap (before c) :=
      fun h => meets_fill h (Nat.le_max_left _ _) fun _ => Nat.le_max_left _ _
    have hsettled : ∀ {w : World ((σ × List σ) × List Happening)},
        Database.Noted n criteria (some c) mark w.saved ∧
          Filled items c (before c) cap (before c) w.outside.1 → Settled items before n cap w :=
      fun h => settled_of_noted h.1 (.inr h.2.1)
    have hdescribe := (honest.describe c (p.outwardName s) (p.outwardDescription s) c (before c)).meets
    refine Meets.bind ((meets_ask (meets_logged .asked (hstays (R := fun _ => True)
      (hdescribe.imp (fun _ => id) (fun _ _ h => ⟨trivial, h⟩) fun _ _ => id)))).imp
      (fun w h => ⟨h.1, h.2.1, h.2.2 c⟩) (fun _ _ => id) fun _ _ => hsettled) fun _ => ?_
    refine Meets.bind ((meets_ask (meets_logged .asked (hstays (honest.read c (before c))))).imp
      (fun w h => ⟨h.1, h.2.1, h.2.2.2⟩) (fun _ _ => id) fun _ _ => hsettled) fun held => ?_
    refine meets_pure ?_
    rintro w ⟨hnoted, hsaved, rfl, hfilled⟩
    exact ⟨.inr rfl, hnoted, hsaved, hfilled⟩

/-- Writing a copy fills it to what is desired at most. -/
theorem meets_writeFills (honest : o.platform.Honest items) (quiet : m.Quiet items)
    {members : Membership} (hremote : p.remoteId = .ofText? noted)
    (hcap : (desiredIds s p members).length ≤ cap) :
    Meets
      (Holding (Database.Noted n criteria noted mark) (Database.Noted n criteria noted mark)
        (Untouched items before cap))
      (writeCopy s o.sighting.logging (World.watch m.sighting.logging) options n p members)
      (fun _ w => Settled items before n cap { w with saved := w.database })
      fun _ => Settled items before n cap := by
  unfold writeCopy
  refine Meets.bind (meets_openFills honest hremote) ?_
  rintro ⟨p', c, created, held⟩
  refine meets_of_and fun hheld => ?_
  have hlength : held.length ≤ (before c).length := by
    rcases hheld with rfl | rfl
    · exact Nat.zero_le _
    · exact Nat.le_refl _
  have hnodup : (before c).Nodup → held.Nodup := by
    rcases hheld with rfl | rfl
    · exact fun _ => List.nodup_nil
    · exact id
  have happly : Meets (Holding (Database.Noted n criteria (some c) mark)
      (Database.Noted n criteria (some c) mark) (UnlessFailed (Filled items c (before c) cap held)))
      (Diff.apply _ _ _ options) _ _ :=
    meets_applyFills honest quiet hlength hnodup hcap
  refine Meets.bind (happly.imp (fun w h => ⟨h.1, h.2.1, .inr h.2.2⟩) (fun _ _ => id)
    fun _ w h => settled_of_noted h.2.1 h.2.2) fun applied => ?_
  refine meets_ite (fun _ => ?_) fun _ => ?_
  · exact Meets.bind (Q := fun _ _ => False) (meets_throw fun w h => settled_of_noted h.2.1 h.2.2)
      fun _ _ h => h.elim
  refine meets_ite (fun _ => meets_pure fun w h => settled_of_noted h.1 h.2.2) fun _ => ?_
  refine Meets.bind (meets_now o.sighting.logging) fun now => ?_
  refine Meets.bind ((meets_query (Database.meets_markSynced _ _ _).yields).imp_error
    fun _ w h => settled_of_noted h.1 h.2) fun p'' => ?_
  refine Meets.bind meets_commit fun _ => ?_
  exact meets_pure fun w h => settled_of_noted h.1.1 h.2.2

/-- **How a pass fills the copy** of its playlist, whatever it comes to. -/
theorem meets_bringFills (honest : o.platform.Honest items) (quiet : m.Quiet items) {d : Database}
    (found : (Database.playlist n).runOn d = (.ok p, d))
    (hcap : ∀ members, (desiredIds s p members).length ≤ cap) :
    Meets (Holding (· = d) (· = d) (Untouched items before cap))
      (bringOutward s o.sighting.logging m.sighting.logging options n force)
      (fun _ => Settled items before n cap) fun _ => Settled items before n cap := by
  obtain ⟨-, hid, criteria, noted, mark, hnoted, -, hremote, -⟩ :=
    (Database.meets_playlist d n).of_ok rfl found
  have hwatch : (World.watch m.sighting.logging).Sustains (Holding
      (Database.Noted n criteria noted mark) (Database.Noted n criteria noted mark)
      (Untouched items before cap)) _ := sustains_untouched quiet
  have hsettled : ∀ {w : World ((σ × List σ) × List Happening)},
      Database.Noted n criteria noted mark w.saved ∧ Untouched items before cap w.outside →
      Settled items before n cap w.rollback := fun h => Untouched.settled h.2
  refine meets_unit ?_
  -- the playlist is read
  have hread : Yields (· = d) (Database.playlist n) fun p' d' =>
      p' = p ∧ Database.Noted n criteria noted mark d' := by
    refine yields_iff.2 ?_
    rintro _ p' d' rfl hp'
    cases found.symm.trans hp'
    exact ⟨rfl, hnoted⟩
  refine Meets.bind ((meets_query hread).imp (fun w h => ⟨h.1, h.2.1 ▸ hnoted, h.2.2⟩) (fun _ _ => id)
    fun _ _ => hsettled) fun p' => ?_
  refine meets_of_forall ?_
  rintro w₀ ⟨⟨rfl, hd⟩, hs, hu⟩
  refine Meets.bind ((hwatch.report _).imp ?_ (fun _ _ => id) fun _ _ => hsettled) fun _ => ?_
  · rintro _ rfl
    exact ⟨hd, hs, hu⟩
  refine Meets.bind ((meets_query (Database.keeps_library _ false).yields).imp_error
    fun _ _ => hsettled) fun library => ?_
  -- the membership is noted, and committed
  refine Meets.bind ((meets_noteMembership o.sighting.logging p' library hid).imp_error
    fun _ _ => hsettled) fun members => ?_
  refine meets_of_and fun _ => ?_
  refine Meets.bind meets_commit fun _ => ?_
  refine Meets.bind ((hwatch.report _).imp_error fun _ _ => hsettled) fun _ => ?_
  refine meets_ite (fun _ => meets_pure fun w h => Untouched.settled h.2.2) fun _ => ?_
  refine Meets.bind (hwatch.check.imp_error fun _ _ => hsettled) fun _ => ?_
  exact meets_writeFills honest quiet hremote (hcap members)

/-! ### The most tracks of a copy -/

section Capacity

/-- The most items a copy may come to: the limit of the criteria, or the most tracks of a copy. -/
def SmartPlaylist.room (p : SmartPlaylist) (s : Settings) : Nat :=
  (p.criteria.limit.elim s.maxTracks fun k => (k : Int)).toNat

theorem length_upTo_le {k : Int} {ids : List String} (hk : 0 ≤ k) : (upTo k ids).length ≤ k.toNat := by
  rw [upTo, if_neg (by omega)]
  exact List.length_take_le _ _

theorem length_desiredIds_le (hmax : 0 ≤ s.maxTracks) (members : Membership) :
    (desiredIds s p members).length ≤ p.room s := by
  refine length_upTo_le ?_
  cases p.criteria.limit with
  | none => exact hmax
  | some k => exact Int.natCast_nonneg k

theorem room_le (hmax : 0 ≤ s.maxTracks)
    (hlimit : ∀ k, p.criteria.limit = some k → (k : Int) ≤ s.maxTracks) :
    (p.room s : Int) ≤ s.maxTracks := by
  unfold SmartPlaylist.room
  cases hk : p.criteria.limit with
  | none => exact Int.le_of_eq (Int.toNat_of_nonneg hmax)
  | some k => exact hlimit k hk

end Capacity

variable {w w' : World σ} {r : Except Failure SyncOutcome}

/-- A pass in which no removal fails fills the copy that is noted at its end. -/
theorem fills_of_bringOutward (honest : o.platform.Honest items) (quiet : m.Quiet items)
    (committed : w.database = w.saved)
    (found : (Database.playlist n).runOn w.saved = (.ok p, w.saved))
    (ends : (bringOutward s o m options n force).runOn w = (r, w'))
    (noted : w'.saved.copyOf n = some copy)
    (removes : ¬RemovalFails (happenings s o m options n force w))
    (hcap : ∀ members, (desiredIds s p members).length ≤ cap) :
    Fills items copy (items w.outside copy) cap (w'.outside, sights s o m options n force w) := by
  have hboth := runOn_sighting_logging ends
  have hmeets : Meets (Holding (· = w.saved) (· = w.saved) (Untouched items (items w.outside) cap))
      (bringOutward s o.sighting.logging m.sighting.logging options n force) _ _ :=
    meets_bringFills honest quiet found hcap
  have hstart : Holding (· = w.saved) (· = w.saved) (Untouched items (items w.outside) cap)
      ⟨w.database, w.saved, ((w.outside, []), [])⟩ :=
    ⟨committed, rfl, fun _ => filled_start w.outside⟩
  have hsettled : Settled items (items w.outside) n cap ⟨w'.database, w'.saved,
      ((w'.outside, sights s o m options n force w), happenings s o m options n force w)⟩ := by
    cases r with
    | ok out => exact hmeets.of_ok hstart hboth
    | error f => exact hmeets.of_error hstart hboth
  exact (hsettled copy noted).resolve_left removes

/-- **A copy is within the most tracks of a copy at every moment of a pass in which no removal fails**
exactly if the limit of the criteria is within them, where there is one, or what the copy comes to is. It
held no item twice before, and not too many. -/
theorem bringOutward_within_iff (honest : o.platform.Honest items) (quiet : m.Quiet items)
    (committed : w.database = w.saved)
    (found : (Database.playlist n).runOn w.saved = (.ok p, w.saved))
    (ends : (bringOutward s o m options n force).runOn w = (r, w'))
    (noted : w'.saved.copyOf n = some copy) (distinct : (items w.outside copy).Nodup)
    (within : ((items w.outside copy).length : Int) ≤ s.maxTracks)
    (removes : ¬RemovalFails (happenings s o m options n force w)) :
    (∀ u ∈ sights s o m options n force w, ((items u copy).length : Int) ≤ s.maxTracks) ↔
      (∀ k, p.criteria.limit = some k → (k : Int) ≤ s.maxTracks) ∨
        ((items w'.outside copy).length : Int) ≤ s.maxTracks := by
  have hmax : 0 ≤ s.maxTracks := by omega
  obtain ⟨hpeaks, hseen, hfits⟩ := fills_of_bringOutward honest quiet committed found ends noted removes
    (length_desiredIds_le hmax)
  constructor
  · intro hall
    right
    rcases hseen with hnow | ⟨t, ht, hnow⟩
    · exact hnow ▸ within
    · exact hnow ▸ hall t ht
  · intro hlimit
    have hnow : ((items w'.outside copy).length : Int) ≤ s.maxTracks := by
      refine hlimit.elim (fun hlimit => ?_) id
      have hroom := room_le hmax hlimit
      have : (items w'.outside copy).length ≤ max (items w.outside copy).length (p.room s) :=
        hfits distinct
      omega
    intro u hu
    have : (items u copy).length ≤ max (items w.outside copy).length (items w'.outside copy).length :=
      hpeaks u hu
    omega

/-- A playlist that is read without a failure is found. -/
theorem exists_playlist_of_isOk {d : Database} (h : ((Database.playlist n).runOn d).1.isOk = true) :
    ∃ p, (Database.playlist n).runOn d = (.ok p, d) := by
  obtain ⟨p, d', hrun⟩ := exists_of_isOk h
  exact ⟨p, by rw [hrun, database_of_playlist hrun]⟩

open Interrupted

/-- A pass that empties a copy of one track and fills it with two others. -/
theorem bringOutward_within_replaced : ∃ r w' p,
    (Database.playlist 1).runOn (relike ["b", "c"] created).saved =
      (.ok p, (relike ["b", "c"] created).saved) ∧
    brought (relike ["b", "c"] created) = (r, w') ∧ w'.saved.copyOf 1 = some "created-1" ∧
    created.outside.itemsOn "created-1" = ["a"] ∧ w'.outside.itemsOn "created-1" = ["b", "c"] ∧
    ((∀ u ∈ sights {} Surroundings.outside Surroundings.monitor ⟨1, {}⟩ 1 false
        (relike ["b", "c"] created), ((u.itemsOn "created-1").length : Int) ≤ 10000) ↔
      (∀ k, p.criteria.limit = some k → (k : Int) ≤ 10000) ∨
        ((w'.outside.itemsOn "created-1").length : Int) ≤ 10000) := by
  have hfound : (((Database.playlist 1).runOn (relike ["b", "c"] created).saved).1.isOk) = true := by
    decide +kernel
  have hheld : created.outside.itemsOn "created-1" = ["a"] := by decide +kernel
  have hnoted : (brought (relike ["b", "c"] created)).2.saved.copyOf 1 = some "created-1" := by
    decide +kernel
  have hnow : (brought (relike ["b", "c"] created)).2.outside.itemsOn "created-1" = ["b", "c"] := by
    decide +kernel
  have hremoves : ¬RemovalFails (happenings {} Surroundings.outside Surroundings.monitor ⟨1, {}⟩ 1 false
      (relike ["b", "c"] created)) := by
    decide +kernel
  obtain ⟨p, hp⟩ := exists_playlist_of_isOk hfound
  have hpass : brought (relike ["b", "c"] created) =
      ((brought (relike ["b", "c"] created)).1, (brought (relike ["b", "c"] created)).2) :=
    (Prod.eta _).symm
  refine ⟨_, _, p, hp, hpass, hnoted, hheld, hnow, ?_⟩
  exact bringOutward_within_iff Surroundings.honest_platform Surroundings.quiet_monitor rfl hp hpass
    hnoted (by decide +kernel) (by decide +kernel) hremoves

/-- At most two tracks are wanted, and a copy has one track at most. -/
def wanted : World Surroundings :=
  let twoAtMost : Criteria := { limit := some 2, limit_pos := fun _ h => Option.some.inj h ▸ Nat.two_pos }
  let d : Database := { playlists := [{ everything with criteria := twoAtMost.toDocument }] }
  relike ["a", "b"] { database := d, saved := d, outside := { clock := ⟨0, 0⟩ } }

/-- A pass over it that writes one track at a time. -/
def overfilling : Except Failure SyncOutcome × World Surroundings :=
  (bringOutward { maxTracks := 1 } Surroundings.outside Surroundings.monitor ⟨1, {}⟩ 1 false).runOn wanted

/-- A pass that fills a copy beyond the most tracks of a copy: the limit of the criteria is larger. -/
theorem not_bringOutward_within : ∃ r w', ∃ u ∈ sights { maxTracks := 1 } Surroundings.outside
      Surroundings.monitor ⟨1, {}⟩ 1 false wanted,
    overfilling = (r, w') ∧ w'.saved.copyOf 1 = some "created-1" ∧
    wanted.outside.itemsOn "created-1" = [] ∧
    ¬RemovalFails (happenings { maxTracks := 1 } Surroundings.outside Surroundings.monitor ⟨1, {}⟩ 1
      false wanted) ∧
    1 < (u.itemsOn "created-1").length := by
  have hfound : (((Database.playlist 1).runOn wanted.saved).1.isOk) = true := by decide +kernel
  have hnoted : overfilling.2.saved.copyOf 1 = some "created-1" := by decide +kernel
  have hremoves : ¬RemovalFails (happenings { maxTracks := 1 } Surroundings.outside
      Surroundings.monitor ⟨1, {}⟩ 1 false wanted) := by
    decide +kernel
  have hempty : wanted.outside.itemsOn "created-1" = [] := by decide +kernel
  have hnow : overfilling.2.outside.itemsOn "created-1" = ["a", "b"] := by decide +kernel
  have hpass : overfilling = (overfilling.1, overfilling.2) := (Prod.eta _).symm
  obtain ⟨p, hp⟩ := exists_playlist_of_isOk hfound
  have hcommitted : wanted.database = wanted.saved := rfl
  have hmax : 0 ≤ ({ maxTracks := 1 } : Settings).maxTracks := by decide
  have hfills := fills_of_bringOutward Surroundings.honest_platform Surroundings.quiet_monitor hcommitted
    hp hpass hnoted hremoves (length_desiredIds_le hmax)
  obtain ⟨u, hu, hsame⟩ := hfills.exists_seen (by rw [hnow, hempty]; decide)
  refine ⟨_, _, u, hu, hpass, hnoted, hempty, hremoves, ?_⟩
  rw [hsame, hnow]
  decide

end Mixtape
