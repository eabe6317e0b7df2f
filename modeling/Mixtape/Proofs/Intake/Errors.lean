import Mixtape.Proofs.Intake.Pass

/-!
# Sources are brought in line without errors

Chunks that fail in a way that may pass are reported as errors, and the work goes on. The calls that
bring a source in line reach no service: they put tracks into the database, and what the database
refuses once it refuses again. So no chunk is ever reported as an error; a chunk that fails ends the
pass.

## Main results

* `Database.meets_takeIn_lasting` — tracks that cannot be put in will not be put in later.
* `Intake.errors_bringInLine` — **a source that is brought in line reports no errors.**
-/

namespace Mixtape

open Action

namespace Database

/-! ### What columns refuse -/

theorem not_fails_text? (j : Json) : ¬Fails (·.isPassing = true) (Column.text? j) := by
  cases j with
  | int n =>
    refine not_fails_bind ?_ fun _ => not_fails_ok
    unfold storable
    split
    · exact not_fails_ok
    · simp [Failure.isPassing]
  | list _ => simp [Column.text?, Failure.isPassing]
  | object _ => simp [Column.text?, Failure.isPassing]
  | _ => exact not_fails_ok

theorem not_fails_needed {α : Type} {r : Except Failure (Option α)}
    (h : ¬Fails (·.isPassing = true) r) : ¬Fails (·.isPassing = true) (Column.needed r) := by
  refine not_fails_bind h fun a => ?_
  cases a with
  | none => exact fails_error_iff.not.2 (by simp [Failure.isPassing])
  | some a => exact not_fails_ok

theorem not_fails_neededCount (j : Json) : ¬Fails (·.isPassing = true) (Column.neededCount j) := by
  have hcount : ¬Fails (·.isPassing = true) (Column.count j) := by
    cases j with
    | int n =>
      refine not_fails_bind ?_ fun _ => not_fails_ok
      unfold storable
      split
      · exact not_fails_ok
      · simp [Failure.isPassing]
    | real x => cases x <;> exact not_fails_ok
    | list _ => simp [Column.count, Failure.isPassing]
    | object _ => simp [Column.count, Failure.isPassing]
    | _ => exact not_fails_ok
  refine not_fails_bind hcount fun kept => ?_
  split
  · exact fails_error_iff.not.2 (by simp [Failure.isPassing])
  · exact not_fails_ok

theorem not_fails_refreshed (r : TrackRow) (t : RemoteTrack) :
    ¬Fails (·.isPassing = true) (r.refreshed t) := by
  unfold TrackRow.refreshed
  refine not_fails_bind (not_fails_needed (not_fails_text? _)) fun title => ?_
  refine not_fails_bind (not_fails_needed (not_fails_text? _)) fun artist => ?_
  refine not_fails_bind (not_fails_needed (not_fails_text? _)) fun album => ?_
  refine not_fails_bind (not_fails_text? _) fun artistId => ?_
  refine not_fails_bind (not_fails_text? _) fun albumId => ?_
  exact not_fails_bind (not_fails_neededCount _) fun duration => not_fails_ok

theorem not_fails_foldlM (now : Timestamp) (ts : List RemoteTrack) :
    ∀ d : Database, ¬Fails (·.isPassing = true) (ts.foldlM (takeInOne now) d) := by
  induction ts with
  | nil => exact fun _ => not_fails_ok
  | cons t ts ih =>
    intro d
    rw [List.foldlM_cons]
    refine not_fails_bind ?_ ih
    unfold takeInOne
    split
    · exact not_fails_bind (not_fails_refreshed _ t) fun _ => not_fails_ok
    · exact not_fails_bind (not_fails_refreshed _ _) fun _ => not_fails_ok

theorem not_fails_newNames {nameOf : Json → Except Failure String}
    (h : ∀ j, ¬Fails (·.isPassing = true) (nameOf j)) (told : Registry Json) (known : List Totals) :
    ¬Fails (·.isPassing = true) (newNames nameOf told known) := by
  unfold newNames
  induction told.filter fun n => !known.any (·.id == n.1) with
  | nil => exact not_fails_ok
  | cons n rest ih =>
    rw [List.mapM_cons]
    refine not_fails_bind (not_fails_bind (h n.2) fun _ => not_fails_ok) fun _ => ?_
    exact not_fails_bind ih fun _ => not_fails_ok

/-- Tracks that cannot be put in will not be put in later. -/
theorem meets_takeIn_lasting (now : Timestamp) (ts : List RemoteTrack) :
    Meets (fun _ => True) (takeIn now ts) (fun _ _ => True) fun f _ => f.isPassing = false := by
  have hlasting : ∀ {α : Type} {r : Except Failure α}, ¬Fails (·.isPassing = true) r →
      Meets (fun _ : Database => True) (Action.ofExcept r) (fun _ _ => True)
        fun f _ => f.isPassing = false := by
    intro α r hr
    refine meets_ofExcept (fun _ _ _ _ => trivial) fun f hf _ _ => ?_
    refine Bool.not_eq_true _ ▸ fun hpassing => ?_
    exact hr ⟨f, hf, hpassing⟩
  unfold takeIn
  refine meets_get_bind fun d _ => ?_
  refine Meets.bind ((hlasting (not_fails_foldlM now _ d)).imp (fun _ _ => trivial) (fun _ _ h => h)
    fun _ _ h => h) fun taken => ?_
  refine Meets.bind (hlasting (not_fails_newNames (fun j => ?_) _ _)) fun albums => ?_
  · exact not_fails_bind (not_fails_text? j) fun _ => not_fails_ok
  refine Meets.bind (hlasting (not_fails_newNames (fun j => ?_) _ _)) fun artists => ?_
  · cases j with
    | text s => exact not_fails_ok
    | _ => exact fails_error_iff.not.2 (by simp [Failure.isPassing])
  exact Meets.bind (Q := fun _ _ => True) (meets_set fun _ _ => trivial) fun _ =>
    meets_pure fun _ _ => trivial

end Database

namespace Intake

variable {σ : Type} {o : Outside σ} {m : Monitor σ} {pace : IntakePace}

theorem meets_addTracks_lasting (s : TrackSource) (known : Registry RemoteTrack)
    (ids : List String) :
    Meets (fun _ : Intake σ => True) (addTracks o s known ids) (fun _ _ => True)
      fun f _ => f.isPassing = false := by
  refine meets_of_forall fun p _ => ?_
  unfold addTracks
  refine Meets.bind (Q := fun _ p' => p' = p) (keeps_now o) fun now => ?_
  have htake : Meets (· = p.world.database) (Database.takeIn now (knownAmong known ids))
      (fun _ _ => True) fun f _ => f.isPassing = false :=
    (Database.meets_takeIn_lasting now _).imp (fun _ _ => trivial) (fun _ _ h => h) fun _ _ h => h
  refine Meets.bind (Q := fun _ _ => True) ((meets_query htake).imp (fun _ h => h)
    (fun _ _ _ => trivial) ?_) ?_
  · rintro f _ ⟨_, hf, -⟩
    exact hf
  · rintro ⟨new, old⟩ p' -
    trivial

/-- **A source that is brought in line reports no errors**: chunks that fail end the work. -/
theorem errors_bringInLine (s : TrackSource) (remote : List RemoteTrack) :
    Yields (fun _ => True) (bringInLine o m pace s remote) fun r _ => r.errors = [] := by
  -- no outcome so far is one of a chunk that failed
  let P (ro ao : List (Outcome String Unit)) (_ : Intake σ) : Prop :=
    ro.filterMap (chunkError? .remove) = [] ∧ ao.filterMap (chunkError? .add) = []
  have hinner : ∀ ro ao, Inner (P ro ao) := fun _ _ _ _ h => h
  unfold bringInLine
  refine Meets.bind (Q := fun _ _ => True) (meets_modify fun _ _ => trivial) fun _ => ?_
  refine meets_get_bind fun p _ => ?_
  refine Meets.bind (Q := fun applied _ => applied.errors = []) ?_ fun applied => ?_
  · refine (meets_applyChunks (P := P) (E := fun _ _ => True)
      (w := writer o s (Database.latestById remote)) (m := watch m) ⟨pace.chunkSize, {}⟩
      (fun ro ao => ?_) (fun ro chunk => ?_) (fun ro ao chunk => ?_)
      fun _ _ _ _ _ => trivial).imp (fun _ _ => ⟨rfl, rfl⟩) ?_ fun _ _ h => h
    · obtain ⟨hreport, hcheck, hpause⟩ := keeps_watch (m := m) (P ro ao) (hinner ro ao)
      exact ⟨fun p => (hreport p).yields, hcheck.yields, fun x => (hpause x).yields⟩
    · change Meets (P ro []) (removeTracks s chunk) _ _
      refine meets_of_forall fun p hp => ?_
      refine (meets_removeTracks p s chunk).imp (fun _ h => h) ?_ fun _ _ => False.elim
      intro r _ _
      exact ⟨by rw [List.filterMap_append, hp.1]; rfl, hp.2⟩
    · change Meets (P ro ao) (addTracks o s (Database.latestById remote) chunk) _ _
      refine meets_of_forall fun p hp => ?_
      refine (meets_addTracks_lasting s (Database.latestById remote) chunk).imp
        (fun _ _ => trivial) ?_ ?_
      · intro r _ _
        exact ⟨hp.1, by rw [List.filterMap_append, hp.2]; rfl⟩
      · intro f _ hf
        rw [if_neg (by simp [hf])]
        trivial
    · rintro applied _ ⟨ro, ao, ⟨hro, hao⟩, rfl, -⟩
      unfold appliedOf
      rw [hro, hao]
      rfl
  · refine meets_get_bind fun q happlied => ?_
    refine meets_pure fun _ _ => ?_
    rw [happlied]
    rfl

end Intake
end Mixtape
