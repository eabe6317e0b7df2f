import Mixtape.Proofs.Evaluation.Total
import Mixtape.Proofs.Outward.Convergence
import Mathlib.Data.List.Perm.Subperm

/-!
# What the mark tells of a copy

After a pass that brought a copy up to date the mark is the fingerprint of the membership. The copy
holds the membership as far as it is desired. Criteria with a limit give a membership within it, and
all of it is desired; without a limit the membership is cut to the most tracks of a copy. So the
mark tells what the copy holds unless tracks were cut off.

## Main definitions

* `Membership.IsWithin cap m` — nothing is lost of a membership that is cut.

## Main results

* `Membership.isWithin_iff` — a membership without repetitions is within a cap exactly when it is no
  longer.
* `bringOutward_mark_iff` — **the mark is the fingerprint of what the copy holds exactly when
  nothing was cut off.**
* `bringOutward_mark_ne` — a mark that is not the fingerprint of what the copy holds.
-/

namespace Mixtape

open Action

/-! ### What is cut off -/

section Cut

variable {ids : List String} {cap : Int}

theorem upTo_sublist (cap : Int) (ids : List String) : (upTo cap ids).Sublist ids := by
  unfold upTo
  split <;> exact List.take_sublist _ _

theorem upTo_eq_self {k : Nat} (h : ids.length ≤ k) : upTo (k : Int) ids = ids := by
  rw [upTo, if_neg (by omega)]
  exact List.take_of_length_le (by simpa using h)

end Cut

/-- Nothing is lost of a membership that is cut: the ids beyond are also before. -/
def Membership.IsWithin (cap : Int) (m : Membership) : Prop :=
  ∀ id ∈ m.externalIds, id ∈ upTo cap m.externalIds

theorem Membership.isWithin_iff {m : Membership} {cap : Nat} (h : m.externalIds.Nodup) :
    m.IsWithin cap ↔ m.externalIds.length ≤ cap := by
  constructor
  · intro hwithin
    rw [IsWithin, upTo, if_neg (by omega)] at hwithin
    calc m.externalIds.length ≤ (m.externalIds.take (cap : Int).toNat).length :=
          (List.subperm_of_subset h hwithin).length_le
      _ ≤ cap := List.length_take_le _ _
  · intro hle id hid
    rwa [upTo_eq_self hle]

/-- A membership is within the limit of its criteria. -/
theorem length_externalIds_le {c : Criteria} {l : Library} {now : Timestamp} {m : Membership}
    (h : membership c l now = .ok m) {k : Nat} (hlimit : c.limit = some k) :
    m.externalIds.length ≤ k := by
  unfold membership at h
  cases hids : evaluate c l now with
  | error f => rw [hids] at h; cases h
  | ok ids =>
    rw [hids] at h
    cases h
    obtain ⟨ps, -, -, rfl⟩ := evaluate_eq_ok_iff.1 hids
    calc (l.externalIds _).length ≤ ((c.select (c.logic.join ps) l).filterMap Track.id).length :=
          List.length_filterMap_le _ _
      _ ≤ (c.select (c.logic.join ps) l).length := List.length_filterMap_le _ _
      _ ≤ k := by
        rw [Criteria.select, hlimit]
        exact List.length_take_le _ _

/-- **All of a membership is desired** exactly when its criteria have a limit, or it is within the
most tracks of a copy. -/
theorem sameMembers_desiredIds_iff {s : Settings} {p : SmartPlaylist} {l : Library}
    {now : Timestamp} {m : Membership} (h : membership p.criteria l now = .ok m) :
    SameMembers (desiredIds s p m) m.externalIds ↔
      p.criteria.limit.isSome = true ∨ m.IsWithin s.maxTracks := by
  unfold desiredIds
  cases hlimit : p.criteria.limit with
  | some k =>
    rw [Option.elim, upTo_eq_self (length_externalIds_le h hlimit)]
    exact iff_of_true (.refl _) (.inl rfl)
  | none =>
    simp only [Option.elim, Option.isSome_none, Bool.false_eq_true, false_or]
    exact ⟨fun hsame id => (hsame id).2,
      fun hwithin id => ⟨(upTo_sublist _ _).mem, hwithin id⟩⟩

/-! ### The mark -/

variable {σ : Type} {items : σ → String → List String} {s : Settings} {o : Outside σ}
  {m : Monitor σ} {options : ApplyOptions} {n : Int} {force : Bool} {w w' : World σ}
  {out : SyncOutcome}

/-- **The mark is the fingerprint of what the copy holds exactly when nothing was cut off**, unless
two collections have one fingerprint. -/
theorem bringOutward_mark_iff (honest : o.platform.Honest items) (quiet : m.Quiet items)
    (committed : w.database = w.saved)
    (ends : (bringOutward s o m options n force).runOn w = (.ok out, w'))
    (completed : out.status = .created ∨ out.status = .updated ∨ out.status = .unchanged) :
    ∃ copy mark, (Database.playlist n).runOn w'.saved = (.ok out.playlist, w'.saved) ∧
      out.playlist.remoteId = .text copy ∧ out.playlist.syncedFingerprint = .text mark ∧
      (mark = fingerprint (items w'.outside copy) ↔
        out.playlist.criteria.limit.isSome = true ∨ out.membership.IsWithin s.maxTracks ∨
          Ambiguous out.membership.externalIds (items w'.outside copy)) := by
  have hstatus : out.status ≠ .skipped ∧ out.status ≠ .incomplete := by
    rcases completed with h | h | h <;> rw [h] <;> decide
  obtain ⟨u, -, copy, prev, l, h⟩ :=
    exists_completed_of_ok honest quiet committed ends hstatus.1 hstatus.2
  have hsaved : w'.database = w'.saved :=
    ((meets_bringOutward honest quiet s options n force committed).of_ok rfl ends).1
  -- the copy holds what is desired
  have hheld : SameMembers (items w'.outside copy) (desiredIds s out.playlist out.membership) :=
    h.held ▸ sameMembers_broughtTo
  refine ⟨copy, _, hsaved ▸ h.marked.playlist, h.marked.remote, h.marked.mark, ?_⟩
  rw [fingerprint_of_membership h.marked.membership, ← or_assoc,
    ← sameMembers_desiredIds_iff h.marked.membership]
  constructor
  · intro hmark
    by_cases hsame : SameMembers out.membership.externalIds (items w'.outside copy)
    · exact .inl (hheld.symm.trans hsame.symm)
    · exact .inr ⟨hmark, hsame⟩
  · rintro (hdesired | hambiguous)
    · exact fingerprint_congr (hdesired.symm.trans hheld.symm)
    · exact hambiguous.1

open Interrupted

/-- A pass that cuts nothing off a copy that held something else. -/
theorem bringOutward_mark_uncut : ∃ out w' copy mark,
    brought Repeated.world = (.ok out, w') ∧ out.status = .updated ∧
    (Database.playlist 1).runOn w'.saved = (.ok out.playlist, w'.saved) ∧
    out.playlist.remoteId = .text copy ∧ out.playlist.syncedFingerprint = .text mark ∧
    (mark = fingerprint (w'.outside.itemsOn copy) ↔
      out.playlist.criteria.limit.isSome = true ∨ out.membership.IsWithin 10000 ∨
        Ambiguous out.membership.externalIds (w'.outside.itemsOn copy)) := by
  have hseen : seen (brought Repeated.world) =
      some (.updated, .text "copy", ["a", "b", "c"], ["b", "a", "b", "c"]) := by
    decide +kernel
  obtain ⟨out, hpass, hstatus, -⟩ := exists_of_seen hseen
  obtain ⟨copy, mark, h⟩ := bringOutward_mark_iff Surroundings.honest_platform
    Surroundings.quiet_monitor rfl hpass (.inr (.inl hstatus))
  exact ⟨out, _, copy, mark, hpass, hstatus, h⟩

/-- A first pass over two liked tracks, where a copy has one track at most. -/
def cappedPass : Except Failure SyncOutcome × World Surroundings :=
  (bringOutward { maxTracks := 1 } Surroundings.outside Surroundings.monitor ⟨1, {}⟩ 1 false).runOn
    (relike ["a", "b"] world)

/-- A mark that is not the fingerprint of what the copy holds: it is that of both tracks, and the
copy has one of them. -/
theorem bringOutward_mark_ne : ∃ out w' mark, cappedPass = (.ok out, w') ∧ out.status = .created ∧
    out.playlist.remoteId = .text "created-1" ∧ w'.saved.syncedMark 1 = some mark ∧
    mark ≠ fingerprint (w'.outside.itemsOn "created-1") := by
  have hseen : seen cappedPass = some (.created, .text "created-1", ["a", "b"], ["a"]) := by
    decide +kernel
  have hmark : cappedPass.2.saved.syncedMark 1 = some (fingerprint ["a", "b"]) := by
    decide +kernel
  have hne : fingerprint ["a", "b"] ≠ fingerprint ["a"] := by
    decide +kernel
  obtain ⟨out, hpass, hstatus, -, hremote, hheld⟩ := exists_of_seen hseen
  have hheld : cappedPass.2.outside.itemsOn "created-1" = ["a"] := hheld
  refine ⟨out, cappedPass.2, _, hpass, hstatus, hremote, hmark, ?_⟩
  rw [hheld]
  exact hne

end Mixtape
