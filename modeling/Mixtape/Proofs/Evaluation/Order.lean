import Mixtape.Evaluation.Order
import Mathlib.Data.List.Perm.Basic

/-!
# The order of tracks

Tracks come in order of their values in the direction asked for; those without a value come after
all others; and among equal ones the lower number comes first, whatever the direction. The sort
attains this in two steps, by number and then by value, because it is stable.

Where numbers tell tracks apart the order is strict, so the same tracks have one order only: it does
not matter how they were arranged before.

## Main definitions

* `Track.Precedes f d t u` — `t` comes before `u` when ordered by `f` in the direction `d`.

## Main results

* `sortTracks_perm` — sorting keeps the tracks.
* `pairwise_sortTracks` — **sorted tracks precede one another.**
* `sortTracks_eq_of_perm` — **the same tracks have one order only.**
-/

namespace Mixtape

/-! ### Values -/

namespace OrderKey

theorem isLe_total (a b : OrderKey) : a.isLe b = true ∨ b.isLe a = true := by
  cases a <;> cases b <;> simp only [isLe, decide_eq_true_eq, true_or, or_true]
  · exact Text.leText_total _ _
  · exact Int.le_total _ _
  · exact Magnitude.isLe_total _ _

theorem isLe_trans {a b c : OrderKey} (hab : a.isLe b = true) (hbc : b.isLe c = true) :
    a.isLe c = true := by
  cases a with
  | text s =>
    cases c with
    | text u =>
      cases b with
      | text t => exact Text.leText_trans _ _ _ hab hbc
      | number _ => cases hbc
      | size _ => cases hbc
    | number _ => rfl
    | size _ => rfl
  | number m =>
    cases b with
    | text _ => cases hab
    | number n =>
      cases c with
      | text _ => cases hbc
      | number k =>
        exact decide_eq_true (Int.le_trans (of_decide_eq_true hab) (of_decide_eq_true hbc))
      | size _ => rfl
    | size _ =>
      cases c with
      | text _ => cases hbc
      | number _ => cases hbc
      | size _ => rfl
  | size m =>
    cases b with
    | text _ => cases hab
    | number _ => cases hab
    | size n =>
      cases c with
      | text _ => cases hbc
      | number _ => cases hbc
      | size k => exact Magnitude.isLe_trans hab hbc

theorem isLe_antisymm {a b : OrderKey} (hab : a.isLe b = true) (hba : b.isLe a = true) : a = b := by
  cases a with
  | text s =>
    cases b with
    | text t => exact congrArg text (Text.leText_antisymm hab hba)
    | number _ => cases hba
    | size _ => cases hba
  | number m =>
    cases b with
    | text _ => cases hab
    | number n =>
      exact congrArg number (Int.le_antisymm (of_decide_eq_true hab) (of_decide_eq_true hba))
    | size _ => cases hba
  | size m =>
    cases b with
    | text _ => cases hab
    | number _ => cases hab
    | size n => exact congrArg size (Magnitude.isLe_antisymm hab hba)

end OrderKey

namespace Direction

theorem isLe_total (d : Direction) (a b : OrderKey) : d.isLe a b = true ∨ d.isLe b a = true := by
  cases d with
  | ascending => exact a.isLe_total b
  | descending => exact b.isLe_total a

theorem isLe_trans (d : Direction) (a b c : OrderKey) (hab : d.isLe a b = true)
    (hbc : d.isLe b c = true) : d.isLe a c = true := by
  cases d with
  | ascending => exact OrderKey.isLe_trans hab hbc
  | descending => exact OrderKey.isLe_trans hbc hab

theorem isLe_antisymm (d : Direction) {a b : OrderKey} (hab : d.isLe a b = true)
    (hba : d.isLe b a = true) : a = b := by
  cases d with
  | ascending => exact OrderKey.isLe_antisymm hab hba
  | descending => exact OrderKey.isLe_antisymm hba hab

end Direction

/-! ### Tracks -/

variable {f : OrderField} {d : Direction} {t u : Track} {ts us : List Track}

/-- The number of a track is below another's; a missing number counts as zero. -/
def Track.IsBelow (t u : Track) : Prop := t.id.getD 0 < u.id.getD 0

/-- A track comes before another. -/
inductive Track.Precedes (f : OrderField) (d : Direction) (t u : Track) : Prop
  /-- Only the first has a value. -/
  | valued {a : OrderKey} (first : t.orderKey f = some a) (second : u.orderKey f = none)
  /-- The values differ, and that of the first comes first. -/
  | earlier {a b : OrderKey} (first : t.orderKey f = some a) (second : u.orderKey f = some b)
      (le : d.isLe a b = true) (ne : a ≠ b)
  /-- The values are equal, or both are missing, and the number of the first is below the other. -/
  | below (same : t.orderKey f = u.orderKey f) (lt : t.IsBelow u)

/-- Of two tracks only one comes before the other. -/
theorem Track.Precedes.asymm (h : t.Precedes f d u) (h' : u.Precedes f d t) : False := by
  cases h with
  | valued ht hu =>
    cases h' with
    | valued hu' _ => simp [hu] at hu'
    | earlier hu' _ _ _ => simp [hu] at hu'
    | below hsame _ => simp [ht, hu] at hsame
  | earlier ht hu hle hne =>
    cases h' with
    | valued _ ht' => simp [ht] at ht'
    | earlier hu' ht' hle' _ =>
      obtain rfl := Option.some.inj (ht.symm.trans ht')
      obtain rfl := Option.some.inj (hu.symm.trans hu')
      exact hne (d.isLe_antisymm hle hle')
    | below hsame _ =>
      rw [ht, hu] at hsame
      exact hne (Option.some.inj hsame).symm
  | below hsame hlt =>
    cases h' with
    | valued hu ht => simp [ht, hu] at hsame
    | earlier hu ht _ hne =>
      rw [ht, hu] at hsame
      exact hne (Option.some.inj hsame).symm
    | below _ hlt' => exact Int.lt_asymm hlt hlt'

/-! ### Sorting -/

theorem leById_total (t u : Track) : leById t u = true ∨ leById u t = true := by
  simpa [leById] using Int.le_total _ _

theorem leById_trans (t u v : Track) (htu : leById t u = true) (huv : leById u v = true) :
    leById t v = true :=
  decide_eq_true (Int.le_trans (of_decide_eq_true htu) (of_decide_eq_true huv))

theorem mem_withKeys {x : OrderKey × Track} :
    x ∈ withKeys f ts ↔ x.2 ∈ ts ∧ x.2.orderKey f = some x.1 := by
  obtain ⟨k, t⟩ := x
  simp only [withKeys, List.mem_filterMap, Option.map_eq_some_iff, Prod.mk.injEq]
  constructor
  · rintro ⟨u, hu, _, hk, rfl, rfl⟩
    exact ⟨hu, hk⟩
  · rintro ⟨ht, hk⟩
    exact ⟨t, ht, k, hk, rfl, rfl⟩

/-- The tracks that have a value are told by it. -/
theorem map_snd_withKeys (f : OrderField) (ts : List Track) :
    (withKeys f ts).map Prod.snd = ts.filter fun t => (t.orderKey f).isSome := by
  induction ts with
  | nil => rfl
  | cons t rest ih =>
    cases hk : t.orderKey f with
    | none => simpa [withKeys, hk] using ih
    | some k => simpa [withKeys, hk] using ih

/-- Sorting keeps the tracks. -/
theorem sortTracks_perm (ts : List Track) (f : OrderField) (d : Direction) :
    (sortTracks ts f d).Perm ts := by
  have hvalued : ((sortBy (fun a b => d.isLe a.1 b.1) (withKeys f (sortBy leById ts))).map
      Prod.snd).Perm ((sortBy leById ts).filter fun t => (t.orderKey f).isSome) := by
    rw [← map_snd_withKeys]
    exact (sortBy_perm _ _).map _
  have hmissing : (fun t : Track => (t.orderKey f).isNone) = fun t => !(t.orderKey f).isSome := by
    funext t
    cases t.orderKey f <;> rfl
  unfold sortTracks
  dsimp only
  rw [hmissing]
  exact ((hvalued.append_right _).trans (List.filter_append_perm _ _)).trans (sortBy_perm leById ts)

theorem nodup_numbers_sortBy (h : (ts.map fun t => t.id.getD 0).Nodup) (le : Track → Track → Bool) :
    ((sortBy le ts).map fun t => t.id.getD 0).Nodup :=
  ((sortBy_perm le ts).map _).nodup_iff.2 h

/-- **Sorted tracks precede one another**, where their numbers tell them apart. -/
theorem pairwise_sortTracks (h : (ts.map fun t => t.id.getD 0).Nodup) (f : OrderField)
    (d : Direction) : (sortTracks ts f d).Pairwise (Track.Precedes f d) := by
  -- first by number
  have hbelow : (sortBy leById ts).Pairwise Track.IsBelow := by
    refine ((pairwise_sortBy leById_total leById_trans ts).and
      (List.pairwise_map.1 (nodup_numbers_sortBy h leById))).imp ?_
    exact fun ⟨hle, hne⟩ => Int.lt_iff_le_and_ne.2 ⟨of_decide_eq_true hle, hne⟩
  have hkeys : (withKeys f (sortBy leById ts)).Pairwise fun x y => x.2.IsBelow y.2 := by
    refine hbelow.filterMap _ fun t u htu x hx y hy => ?_
    obtain ⟨k, -, rfl⟩ := Option.map_eq_some_iff.1 hx
    obtain ⟨l, -, rfl⟩ := Option.map_eq_some_iff.1 hy
    exact htu
  -- then by value, which leaves those with one value in the order of their numbers
  have hvalues : (sortBy (fun x y => d.isLe x.1 y.1) (withKeys f (sortBy leById ts))).Pairwise
      fun x y => d.isLe x.1 y.1 = true ∧ (d.isLe y.1 x.1 = true → x.2.IsBelow y.2) :=
    pairwise_sortBy_stable (fun x y => d.isLe_total x.1 y.1)
      (fun x y z => d.isLe_trans x.1 y.1 z.1) hkeys
  have hvalued : ∀ x ∈ sortBy (fun x y : OrderKey × Track => d.isLe x.1 y.1)
      (withKeys f (sortBy leById ts)), x.2.orderKey f = some x.1 :=
    fun x hx => (mem_withKeys.1 (mem_sortBy.1 hx)).2
  refine List.pairwise_append.2 ⟨List.pairwise_map.2 ?_, ?_, ?_⟩
  · refine hvalues.imp_of_mem fun {x y} hx hy ⟨hle, hback⟩ => ?_
    by_cases hsame : x.1 = y.1
    · have hxy : x.2.orderKey f = y.2.orderKey f := by rw [hvalued x hx, hvalued y hy, hsame]
      exact .below hxy (hback (hsame ▸ hle))
    · exact .earlier (hvalued x hx) (hvalued y hy) hle hsame
  · refine (hbelow.filter _).imp_of_mem fun {t u} ht hu hlt => .below ?_ hlt
    rw [Option.isNone_iff_eq_none.1 (List.mem_filter.1 ht).2,
      Option.isNone_iff_eq_none.1 (List.mem_filter.1 hu).2]
  · intro t ht u hu
    obtain ⟨x, hx, rfl⟩ := List.mem_map.1 ht
    exact .valued (hvalued x hx) (Option.isNone_iff_eq_none.1 (List.mem_filter.1 hu).2)

/-- **The same tracks have one order only**, however they were arranged. -/
theorem sortTracks_eq_of_perm (h : (ts.map fun t => t.id.getD 0).Nodup) (perm : us.Perm ts)
    (f : OrderField) (d : Direction) : sortTracks us f d = sortTracks ts f d := by
  have hus : (us.map fun t => t.id.getD 0).Nodup := (perm.map _).nodup_iff.2 h
  have hperm : (sortTracks us f d).Perm (sortTracks ts f d) :=
    ((sortTracks_perm us f d).trans perm).trans (sortTracks_perm ts f d).symm
  refine hperm.eq_of_pairwise ?_ (pairwise_sortTracks hus f d) (pairwise_sortTracks h f d)
  exact fun t u _ _ htu hut => (htu.asymm hut).elim

end Mixtape
