import Mathlib.Data.List.Basic
import Mixtape.Proofs.Sync.Fingerprint
import Mixtape.Sync.Diff

/-!
# What a diff does

The additions of a diff are the desired items that are missing, its removals the items that are not
desired, so a collection that was changed by the whole diff holds what is desired. A collection that
was changed by a part of its diff only lacks the rest: that is what a second diff consists of.

## Main definitions

* `broughtTo desired current` — what a collection holds after its whole diff.

## Main results

* `mem_toAdd_computeDiff`, `mem_toRemove_computeDiff` — the members of the two parts.
* `change_computeDiff`, `sameMembers_broughtTo` — **a collection changed by its diff holds what is
  desired**, and `hasChanges_of_sameMembers` — a second diff finds nothing to do.
* `toAdd_computeDiff_changed`, `toRemove_computeDiff_changed` — **the diff of a collection that was
  changed by a part of its diff is the rest of it**, in order.
-/

namespace Mixtape

/-! ### The first occurrences of the items that are kept -/

theorem dedupAfter_filter {α : Type} [DecidableEq α] (q : α → Bool) (l : List α) :
    ∀ {seen seen' : List α}, (∀ x, q x = true → (x ∈ seen ↔ x ∈ seen')) →
      dedupAfter seen (l.filter q) = (dedupAfter seen' l).filter q := by
  induction l with
  | nil => exact fun _ => rfl
  | cons a rest ih =>
    intro seen seen' hseen
    by_cases ha : q a = true
    · rw [List.filter_cons_of_pos ha, dedupAfter, dedupAfter]
      by_cases hmem : a ∈ seen
      · rw [if_pos hmem, if_pos ((hseen a ha).1 hmem)]
        exact ih hseen
      · have hseen' : ∀ x, q x = true → (x ∈ a :: seen ↔ x ∈ a :: seen') := fun x hx => by
          rw [List.mem_cons, List.mem_cons, hseen x hx]
        rw [if_neg hmem, if_neg fun h => hmem ((hseen a ha).2 h), List.filter_cons_of_pos ha, ih hseen']
    · -- an item that is dropped may be noted as seen or not
      rw [List.filter_cons_of_neg ha, dedupAfter]
      split
      · exact ih hseen
      · rw [List.filter_cons_of_neg ha]
        refine ih fun x hx => ?_
        have hxa : x ≠ a := fun h => ha (h ▸ hx)
        rw [List.mem_cons, hseen x hx]
        simp [hxa]

theorem dedup_filter {α : Type} [DecidableEq α] (q : α → Bool) (l : List α) :
    dedup (l.filter q) = (dedup l).filter q := dedupAfter_filter q l fun _ _ => Iff.rfl

/-- The items stand in the order of their first occurrences. -/
theorem pairwise_dedup {α : Type} [DecidableEq α] (l : List α) :
    (dedup l).Pairwise fun a b => l.idxOf a < l.idxOf b := by
  have hafter : ∀ seen : List α, (dedupAfter seen l).Pairwise fun a b => l.idxOf a < l.idxOf b := by
    induction l with
    | nil => exact fun _ => List.Pairwise.nil
    | cons a rest ih =>
      intro seen
      -- an item other than the first one stands one place further back
      have hlater : ∀ {seen' : List α}, a ∈ seen' →
          (dedupAfter seen' rest).Pairwise fun b c => (a :: rest).idxOf b < (a :: rest).idxOf c := by
        intro seen' ha
        refine (ih seen').imp_of_mem fun {b c} hb hc hbc => ?_
        have hne : ∀ {x}, x ∈ dedupAfter seen' rest → a ≠ x := by
          rintro x hx rfl
          exact (mem_dedupAfter.1 hx).2 ha
        rw [List.idxOf_cons_ne _ (hne hb), List.idxOf_cons_ne _ (hne hc)]
        exact Nat.succ_lt_succ hbc
      unfold dedupAfter
      split
      · rename_i ha
        exact hlater ha
      · refine List.pairwise_cons.2 ⟨fun b hb => ?_, hlater List.mem_cons_self⟩
        have hne : a ≠ b := by
          rintro rfl
          exact (mem_dedupAfter.1 hb).2 List.mem_cons_self
        rw [List.idxOf_cons_self, List.idxOf_cons_ne _ hne]
        exact Nat.succ_pos _
  exact hafter []

/-- Items removed in two steps. -/
theorem filter_filter_contains (l a b : List String) :
    (l.filter (!a.contains ·)).filter (!b.contains ·) = l.filter (!(a ++ b).contains ·) := by
  rw [List.filter_filter]
  refine List.filter_congr fun x _ => ?_
  simp [Bool.and_comm]

variable {playlist : Option String} {desired current gone new : List String} {x : String}

/-! ### The parts of a diff -/

@[simp] theorem mem_toAdd_computeDiff :
    x ∈ (computeDiff playlist desired current).toAdd ↔ x ∈ desired ∧ x ∉ current := by
  simp [computeDiff]

@[simp] theorem mem_toRemove_computeDiff :
    x ∈ (computeDiff playlist desired current).toRemove ↔ x ∈ current ∧ x ∉ desired := by
  simp [computeDiff]

theorem nodup_toAdd_computeDiff : (computeDiff playlist desired current).toAdd.Nodup :=
  (nodup_dedup desired).filter _

theorem nodup_toRemove_computeDiff : (computeDiff playlist desired current).toRemove.Nodup :=
  (nodup_dedup current).filter _

theorem hasChanges_eq_false_iff {d : Diff} :
    d.hasChanges = false ↔ d.toAdd = [] ∧ d.toRemove = [] := by
  simp [Diff.hasChanges]

/-! ### A diff applied in part -/

/-- Once some of the missing items were added, the others are still missing, in the same order; items
that are not desired do not matter. -/
theorem toAdd_computeDiff_changed (hgone : ∀ x ∈ gone, x ∉ desired) :
    (computeDiff playlist desired (current.filter (!gone.contains ·) ++ new)).toAdd =
      (computeDiff playlist desired current).toAdd.filter (!new.contains ·) := by
  change (dedup desired).filter _ = ((dedup desired).filter _).filter _
  rw [List.filter_filter]
  refine List.filter_congr fun x hx => ?_
  have hkept : x ∉ gone := fun h => hgone x h (mem_dedup.1 hx)
  by_cases hcurrent : x ∈ current <;> by_cases hnew : x ∈ new <;> simp [hcurrent, hnew, hkept]

/-- Once some of the superfluous items were removed, the others are still superfluous, in the same
order; items that are desired do not matter. -/
theorem toRemove_computeDiff_changed (hnew : ∀ x ∈ new, x ∈ desired) :
    (computeDiff playlist desired (current.filter (!gone.contains ·) ++ new)).toRemove =
      (computeDiff playlist desired current).toRemove.filter (!gone.contains ·) := by
  have hdropped : new.filter (!(dedup desired).contains ·) = [] := by
    refine List.filter_eq_nil_iff.2 fun x hx => ?_
    simp [hnew x hx]
  change (dedup _).filter (!(dedup desired).contains ·) = ((dedup current).filter _).filter _
  calc (dedup (current.filter (!gone.contains ·) ++ new)).filter (!(dedup desired).contains ·)
      = dedup ((current.filter (!gone.contains ·)).filter (!(dedup desired).contains ·)) := by
        rw [← dedup_filter, List.filter_append, hdropped, List.append_nil]
    _ = ((dedup current).filter (!gone.contains ·)).filter (!(dedup desired).contains ·) := by
        rw [dedup_filter, dedup_filter]
    _ = ((dedup current).filter (!(dedup desired).contains ·)).filter (!gone.contains ·) := by
        rw [List.filter_filter, List.filter_filter]
        exact List.filter_congr fun x _ => Bool.and_comm ..

/-! ### A diff applied in full -/

/-- What a collection that held `current` holds once it was brought to what is desired: the items
that are desired, as they stood, and then the desired ones that were missing. -/
def broughtTo (desired current : List String) : List String :=
  current.filter desired.contains ++ (dedup desired).filter (!current.contains ·)

/-- **A collection changed by its diff holds what is desired.** -/
theorem change_computeDiff :
    current.filter (!(computeDiff playlist desired current).toRemove.contains ·) ++
      (computeDiff playlist desired current).toAdd = broughtTo desired current := by
  have hkept : current.filter (!(computeDiff playlist desired current).toRemove.contains ·) =
      current.filter desired.contains := by
    refine List.filter_congr fun x hx => ?_
    by_cases hdesired : x ∈ desired <;> simp [hx, hdesired]
  have hnew : (computeDiff playlist desired current).toAdd =
      (dedup desired).filter (!current.contains ·) := by
    simp [computeDiff]
  rw [hkept, hnew, broughtTo]

theorem sameMembers_broughtTo : SameMembers (broughtTo desired current) desired := by
  intro x
  by_cases hcurrent : x ∈ current <;> simp [broughtTo, hcurrent]

/-- The members of a collection changed by its diff. -/
theorem mem_change_computeDiff (d : Diff) (hd : d = computeDiff playlist desired current) :
    (x ∈ current ∧ x ∉ d.toRemove) ∨ x ∈ d.toAdd ↔ x ∈ desired := by
  have h : x ∈ broughtTo desired current ↔ x ∈ desired := sameMembers_broughtTo x
  subst hd
  rw [← @change_computeDiff playlist, List.mem_append, List.mem_filter] at h
  simpa only [List.contains_eq_mem, Bool.not_eq_true', decide_eq_false_iff_not] using h

/-- A collection that holds what is desired has nothing to do. -/
theorem hasChanges_of_sameMembers (h : SameMembers current desired) :
    (computeDiff playlist desired current).hasChanges = false := by
  refine hasChanges_eq_false_iff.2 ⟨?_, ?_⟩
  · refine List.eq_nil_iff_forall_not_mem.2 fun x hx => ?_
    rw [mem_toAdd_computeDiff, h x] at hx
    exact hx.2 hx.1
  · refine List.eq_nil_iff_forall_not_mem.2 fun x hx => ?_
    rw [mem_toRemove_computeDiff, h x] at hx
    exact hx.2 hx.1

end Mixtape
