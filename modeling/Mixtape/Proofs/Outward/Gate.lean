import Mixtape.Proofs.Outward.Pass
import Mixtape.Proofs.Sync.Fingerprint

/-!
# Which copies are passed over

A pass passes a copy over when the fingerprint of the membership is the mark of the playlist. The
mark tells what the copy held right after the last pass that was completed. A pass that fails, or
that fails in part, may have changed the copy since, and does not touch the mark.

## Main definitions

* `OutwardRun items n w last` — a history of passes and of other changes that leads to the world `w`;
  `last` is what the copy held right after the last pass that was completed.
* `Interrupted.created`, `Interrupted.reverted` — two worlds a history leads to; on the way to the
  second a pass failed in part.

## Main results

* `OutwardRun.mark_eq` — **the mark is the fingerprint of what the copy held then.**
* `OutwardRun.passed_over_iff` — a copy that is passed over holds the membership exactly when it
  holds what it held then.
* `OutwardRun.passed_over_reverted` — a copy that is passed over and does not hold the membership.
-/

namespace Mixtape

open Action

variable {σ : Type}

/-- Everything that a pass that ends with this result was to write fits in the copy. -/
def FitsCopy (s : Settings) : Except Failure SyncOutcome → Prop
  | .ok out => desiredIds s out.playlist out.membership = out.membership.externalIds
  | .error _ => True

instance (s : Settings) : (r : Except Failure SyncOutcome) → Decidable (FitsCopy s r)
  | .ok out => inferInstanceAs
      (Decidable (desiredIds s out.playlist out.membership = out.membership.externalIds))
  | .error _ => inferInstanceAs (Decidable True)

/-- Whether a pass that ends with this result has brought the copy up to date. -/
def Completes : Except Failure SyncOutcome → Bool
  | .ok out => out.status ≠ .skipped ∧ out.status ≠ .incomplete
  | .error _ => false

/-- A history of one smart playlist and its outward copy. Passes, forced or not, come in any order
with changes of the database that leave the two columns of the copy, and with changes of what lies
outside. What the copy held right after the last pass that was completed is kept along. -/
inductive OutwardRun (items : σ → String → List String) (n : Int) :
    World σ → Option (List String) → Prop
  /-- Nothing was ever written to a copy. -/
  | start {w : World σ} (committed : w.database = w.saved)
      (unmarked : w.saved.syncedMark n = none) : OutwardRun items n w none
  /-- What lies outside changes. -/
  | outside {w : World σ} {last : Option (List String)} (run : OutwardRun items n w last)
      (outside : σ) : OutwardRun items n { w with outside } last
  /-- The library, the criteria or another playlist changes. -/
  | edit {w : World σ} {last : Option (List String)} (run : OutwardRun items n w last)
      (d : Database) (copy : d.copyOf n = w.saved.copyOf n)
      (mark : d.syncedMark n = w.saved.syncedMark n) :
      OutwardRun items n { w with database := d, saved := d } last
  /-- A pass. -/
  | pass {w : World σ} {last : Option (List String)} (run : OutwardRun items n w last)
      (s : Settings) {o : Outside σ} {m : Monitor σ} (honest : o.platform.Honest items)
      (quiet : m.Quiet items) (options : ApplyOptions) (force : Bool)
      {r : Except Failure SyncOutcome} {w' : World σ}
      (ends : (bringOutward s o m options n force).runOn w = (r, w')) (fits : FitsCopy s r) :
      OutwardRun items n w' (if Completes r then (w'.saved.copyOf n).map (items w'.outside) else last)

variable {items : σ → String → List String} {n : Int} {w : World σ} {last : Option (List String)}

namespace OutwardRun

/-- **The mark is the fingerprint of what the copy held right after the last pass that was
completed.** Between passes everything is committed. -/
theorem mark_eq (run : OutwardRun items n w last) :
    w.database = w.saved ∧ w.saved.syncedMark n = last.map fingerprint := by
  induction run with
  | start committed unmarked => exact ⟨committed, unmarked⟩
  | outside run outside ih => exact ih
  | edit run d copy mark ih => exact ⟨rfl, mark.trans ih.2⟩
  | @pass w last run s o m honest quiet options force r w' ends fits ih =>
    obtain ⟨hcommitted, hmark⟩ := ih
    have hpass := meets_bringOutward honest quiet s options n force hcommitted
    cases r with
    | error f =>
      obtain ⟨hsaved, hkept, -⟩ := hpass.of_error rfl ends
      exact ⟨hsaved, hkept.trans hmark⟩
    | ok out =>
      obtain ⟨hsaved, hprint, hout⟩ := hpass.of_ok rfl ends
      refine ⟨hsaved, ?_⟩
      cases hout with
      | skipped copy status remote noted held mark kept =>
        simp only [Completes, status]
        exact kept.1.trans hmark
      | incomplete status kept =>
        simp only [Completes, status]
        exact kept.1.trans hmark
      | complete copy status remote noted held kept =>
        have hcomplete : Completes (.ok out) = true := by simpa [Completes] using status
        rw [if_pos hcomplete, kept.2 copy rfl, kept.1, hprint]
        -- the copy holds what was desired, which is the whole membership
        rw [show desiredIds s out.playlist out.membership = out.membership.externalIds from fits]
          at held
        exact congrArg some (fingerprint_congr held.symm)

end OutwardRun

/-! ### A pass that fails in part -/

namespace Interrupted

theorem unlimited : ∀ n ∈ (none : Option Nat), 0 < n := nofun

/-- A smart playlist of the whole library. -/
def everything : PlaylistRow where
  id := 1
  name := "All"
  description := none
  criteria := ({ limit_pos := unlimited } : Criteria).toDocument
  isActive := true
  remoteId := none
  trackCount := .int 0
  fingerprint := none
  syncedFingerprint := none
  lastSyncedAt := none

/-- A database with liked tracks of these platform ids. -/
def withLiked (ids : List String) (d : Database) : Database :=
  { d with
    tracks := ids.mapIdx fun i id =>
      { id := i, externalId := id, title := id, artist := "", addedAt := ⟨0, 0⟩ }
    sources := ids.mapIdx fun i _ => ⟨i, .likedSongs, "", none⟩ }

/-- The library becomes one of liked tracks of these platform ids. -/
def relike (ids : List String) (w : World Surroundings) : World Surroundings :=
  { w with database := withLiked ids w.saved, saved := withLiked ids w.saved }

/-- The write after the next fails. -/
def limited (w : World Surroundings) : World Surroundings :=
  { w with
    outside := { w.outside with
      failingWrites := [(w.outside.writes + 2, .transient { message := "rate limited" })] } }

/-- A pass that writes one track at a time. -/
def brought (w : World Surroundings) : Except Failure SyncOutcome × World Surroundings :=
  (bringOutward {} Surroundings.outside Surroundings.monitor ⟨1, {}⟩ 1 false).runOn w

/-- One liked track, and nothing written yet. -/
def world : World Surroundings :=
  { database := withLiked ["a"] { playlists := [everything] }
    saved := withLiked ["a"] { playlists := [everything] }
    outside := { clock := ⟨0, 0⟩ } }

/-- The copy was created, and holds the one track. -/
def created : World Surroundings := (brought world).2

/-- Two more tracks were liked, and only one of them was written. -/
def partly : World Surroundings := (brought (limited (relike ["a", "b", "c"] created))).2

/-- The two tracks are liked no longer. -/
def reverted : World Surroundings := relike ["a"] partly

/-- What is seen of a pass: what became of the copy, the copy, the membership, and what the copy
holds now. -/
def seen : Except Failure SyncOutcome × World Surroundings →
    Option (SyncStatus × Json × List String × List String)
  | (.ok out, w) =>
    some (out.status, out.playlist.remoteId, out.membership.externalIds,
      w.outside.itemsOn (out.playlist.remoteId.text?.getD ""))
  | (.error _, _) => none

theorem exists_of_seen {x : Except Failure SyncOutcome × World Surroundings} {status : SyncStatus}
    {remote : Json} {ids held : List String} (h : seen x = some (status, remote, ids, held)) :
    ∃ out, x = (.ok out, x.2) ∧ out.status = status ∧ out.membership.externalIds = ids ∧
      out.playlist.remoteId = remote ∧ x.2.outside.itemsOn (remote.text?.getD "") = held := by
  rcases x with ⟨f | out, w⟩
  · cases h
  · simp only [seen, Option.some.injEq, Prod.mk.injEq] at h
    obtain ⟨hstatus, rfl, hids, hheld⟩ := h
    exact ⟨out, rfl, hstatus, hids, rfl, hheld⟩

theorem run_brought {w : World Surroundings} (h : ∃ last, OutwardRun Surroundings.itemsOn 1 w last)
    (fits : FitsCopy {} (brought w).1) :
    ∃ last, OutwardRun Surroundings.itemsOn 1 (brought w).2 last := by
  obtain ⟨last, run⟩ := h
  exact ⟨_, .pass run {} Surroundings.honest_platform Surroundings.quiet_monitor _ _ rfl fits⟩

theorem run_relike {w : World Surroundings} (h : ∃ last, OutwardRun Surroundings.itemsOn 1 w last)
    (ids : List String) : ∃ last, OutwardRun Surroundings.itemsOn 1 (relike ids w) last := by
  obtain ⟨last, run⟩ := h
  exact ⟨last, .edit run (withLiked ids w.saved) rfl rfl⟩

theorem run_limited {w : World Surroundings}
    (h : ∃ last, OutwardRun Surroundings.itemsOn 1 w last) :
    ∃ last, OutwardRun Surroundings.itemsOn 1 (limited w) last := by
  obtain ⟨last, run⟩ := h
  exact ⟨last, .outside run _⟩

theorem run_created : ∃ last, OutwardRun Surroundings.itemsOn 1 created last :=
  run_brought ⟨none, .start rfl rfl⟩ (by decide +kernel)

theorem run_reverted : ∃ last, OutwardRun Surroundings.itemsOn 1 reverted last :=
  run_relike (run_brought (run_limited (run_relike run_created ["a", "b", "c"]))
    (by decide +kernel)) ["a"]

end Interrupted

/-! ### Copies that are passed over -/

namespace OutwardRun

/-- **A copy that is passed over holds the membership exactly when it holds what it held right after
the last pass that was completed**, unless two collections have one fingerprint. -/
theorem passed_over_iff (run : OutwardRun items n w last) {s : Settings} {o : Outside σ}
    {m : Monitor σ} (honest : o.platform.Honest items) (quiet : m.Quiet items)
    {options : ApplyOptions} {force : Bool} {out : SyncOutcome} {w' : World σ}
    (ends : (bringOutward s o m options n force).runOn w = (.ok out, w'))
    (skipped : out.status = .skipped) :
    ∃ copy held, out.playlist.remoteId = .text copy ∧ last = some held ∧
      (Ambiguous held out.membership.externalIds ∨
        (SameMembers (items w'.outside copy) out.membership.externalIds ↔
          SameMembers (items w'.outside copy) held)) := by
  obtain ⟨hcommitted, hmark⟩ := run.mark_eq
  obtain ⟨-, hprint, hout⟩ :=
    (meets_bringOutward honest quiet s options n force hcommitted).of_ok rfl ends
  cases hout with
  | incomplete status => exact absurd (status.symm.trans skipped) (by decide)
  | complete copy status => exact absurd skipped status.1
  | skipped copy status remote noted heldSame mark kept =>
    rw [hmark] at mark
    obtain ⟨held, hlast, hheld⟩ := Option.map_eq_some_iff.1 mark
    refine ⟨copy, held, remote, hlast, ?_⟩
    have hone : fingerprint held = fingerprint out.membership.externalIds := hheld.trans hprint
    by_cases hsame : SameMembers held out.membership.externalIds
    · right
      constructor
      · exact fun h => h.trans hsame.symm
      · exact fun h => h.trans hsame
    · exact .inl ⟨hone, hsame⟩

open Interrupted

/-- The copy that was just created holds the membership, and is passed over. -/
theorem passed_over_created : ∃ last out w' copy held,
    OutwardRun Surroundings.itemsOn 1 created last ∧ brought created = (.ok out, w') ∧
    out.status = .skipped ∧ out.playlist.remoteId = .text copy ∧ last = some held ∧
      (Ambiguous held out.membership.externalIds ∨
        (SameMembers (w'.outside.itemsOn copy) out.membership.externalIds ↔
          SameMembers (w'.outside.itemsOn copy) held)) := by
  obtain ⟨last, run⟩ := run_created
  have hseen : seen (brought created) = some (.skipped, .text "created-1", ["a"], ["a"]) := by
    decide +kernel
  rcases hpass : brought created with ⟨f | out, w'⟩
  · rw [hpass] at hseen
    cases hseen
  · rw [hpass] at hseen
    simp only [seen, Option.some.injEq, Prod.mk.injEq] at hseen
    obtain ⟨copy, held, h⟩ := run.passed_over_iff Surroundings.honest_platform
      Surroundings.quiet_monitor hpass hseen.1
    exact ⟨last, out, w', copy, held, run, rfl, hseen.1, h⟩

/-- A copy that is passed over and does not hold the membership: it still holds the track of the
pass that failed in part. -/
theorem passed_over_reverted : ∃ last out w', OutwardRun Surroundings.itemsOn 1 reverted last ∧
    brought reverted = (.ok out, w') ∧ out.status = .skipped ∧
    out.playlist.remoteId = .text "created-1" ∧
    ¬SameMembers (w'.outside.itemsOn "created-1") out.membership.externalIds := by
  obtain ⟨last, run⟩ := run_reverted
  have hseen : seen (brought reverted) = some (.skipped, .text "created-1", ["a"], ["a", "b"]) := by
    decide +kernel
  rcases hpass : brought reverted with ⟨f | out, w'⟩
  · rw [hpass] at hseen
    cases hseen
  · rw [hpass] at hseen
    simp only [seen, Option.some.injEq, Prod.mk.injEq] at hseen
    obtain ⟨hstatus, hremote, hids, hitems⟩ := hseen
    refine ⟨last, out, w', run, rfl, hstatus, hremote, ?_⟩
    rw [hremote] at hitems
    change w'.outside.itemsOn "created-1" = ["a", "b"] at hitems
    rw [hitems, hids]
    exact fun h => absurd ((h "b").1 (by decide)) (by decide)

end OutwardRun

end Mixtape
