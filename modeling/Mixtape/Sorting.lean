/-!
# Sorting

A stable sort: items that neither precede one another keep their order.

* `insertSorted` — puts an item before the first one it may precede.
* `sortBy` — the sorted list; `sortBy_perm` says it holds the same items, `pairwise_sortBy` that
  they stand in order, and `pairwise_sortBy_stable` that it is stable.
* `dedup` — the first occurrence of every item, in order.
-/

namespace Mixtape

variable {α : Type}

/-- Puts `a` before the first item it may precede. -/
def insertSorted (le : α → α → Bool) (a : α) : List α → List α
  | [] => [a]
  | b :: rest => if le a b then a :: b :: rest else b :: insertSorted le a rest

/-- The items in order; items that may both precede one another keep their order. -/
def sortBy (le : α → α → Bool) : List α → List α
  | [] => []
  | a :: rest => insertSorted le a (sortBy le rest)

@[simp] theorem sortBy_nil (le : α → α → Bool) : sortBy le [] = [] := rfl

theorem insertSorted_perm (le : α → α → Bool) (a : α) (l : List α) :
    (insertSorted le a l).Perm (a :: l) := by
  induction l with
  | nil => exact List.Perm.refl _
  | cons b rest ih =>
    unfold insertSorted
    split
    · exact List.Perm.refl _
    · exact (List.Perm.cons b ih).trans (List.Perm.swap a b rest)

theorem sortBy_perm (le : α → α → Bool) (l : List α) : (sortBy le l).Perm l := by
  induction l with
  | nil => exact List.Perm.refl _
  | cons a rest ih => exact (insertSorted_perm le a _).trans (List.Perm.cons a ih)

@[simp] theorem mem_sortBy {le : α → α → Bool} {a : α} {l : List α} :
    a ∈ sortBy le l ↔ a ∈ l := (sortBy_perm le l).mem_iff

@[simp] theorem length_sortBy (le : α → α → Bool) (l : List α) :
    (sortBy le l).length = l.length := (sortBy_perm le l).length_eq

/-- Items put in order by a total and transitive order stand in order. -/
theorem pairwise_insertSorted {le : α → α → Bool} (total : ∀ a b, le a b = true ∨ le b a = true)
    (trans : ∀ a b c, le a b = true → le b c = true → le a c = true) (a : α) {l : List α}
    (h : l.Pairwise (le · · = true)) : (insertSorted le a l).Pairwise (le · · = true) := by
  induction l with
  | nil => simp [insertSorted]
  | cons b rest ih =>
    obtain ⟨hb, hrest⟩ := List.pairwise_cons.1 h
    unfold insertSorted
    split
    · rename_i hab
      refine List.pairwise_cons.2 ⟨?_, h⟩
      intro c hc
      rcases List.mem_cons.1 hc with rfl | hc
      · exact hab
      · exact trans a b c hab (hb c hc)
    · rename_i hab
      refine List.pairwise_cons.2 ⟨?_, ih hrest⟩
      intro c hc
      rcases List.mem_cons.1 ((insertSorted_perm le a rest).mem_iff.1 hc) with rfl | hc
      · exact (total c b).resolve_left hab
      · exact hb c hc

theorem pairwise_sortBy {le : α → α → Bool} (total : ∀ a b, le a b = true ∨ le b a = true)
    (trans : ∀ a b c, le a b = true → le b c = true → le a c = true) (l : List α) :
    (sortBy le l).Pairwise (le · · = true) := by
  induction l with
  | nil => exact List.Pairwise.nil
  | cons a rest ih => exact pairwise_insertSorted total trans a ih

section Stable

variable {le : α → α → Bool} {R : α → α → Prop}

/-- An item put in its place comes before those it may change places with, and is related to them as
it was before. -/
theorem pairwise_insertSorted_stable (total : ∀ a b, le a b = true ∨ le b a = true)
    (trans : ∀ a b c, le a b = true → le b c = true → le a c = true) {a : α} {l : List α}
    (hl : l.Pairwise fun b c => le b c = true ∧ (le c b = true → R b c)) (ha : ∀ b ∈ l, R a b) :
    (insertSorted le a l).Pairwise fun b c => le b c = true ∧ (le c b = true → R b c) := by
  induction l with
  | nil => simp [insertSorted]
  | cons b rest ih =>
    obtain ⟨hb, hrest⟩ := List.pairwise_cons.1 hl
    unfold insertSorted
    split
    · rename_i hab
      refine List.pairwise_cons.2 ⟨fun c hc => ⟨?_, fun _ => ha c hc⟩, hl⟩
      rcases List.mem_cons.1 hc with rfl | hc
      · exact hab
      · exact trans a b c hab (hb c hc).1
    · rename_i hab
      refine List.pairwise_cons.2 ⟨fun c hc => ?_, ih hrest fun c hc => ha c (List.mem_cons_of_mem b hc)⟩
      rcases List.mem_cons.1 ((insertSorted_perm le a rest).mem_iff.1 hc) with rfl | hc
      · exact ⟨(total c b).resolve_left hab, fun h => absurd h hab⟩
      · exact hb c hc

/-- **The sort is stable**: items that may change places stay related as they were. -/
theorem pairwise_sortBy_stable (total : ∀ a b, le a b = true ∨ le b a = true)
    (trans : ∀ a b c, le a b = true → le b c = true → le a c = true) {l : List α}
    (h : l.Pairwise R) :
    (sortBy le l).Pairwise fun a b => le a b = true ∧ (le b a = true → R a b) := by
  induction l with
  | nil => exact List.Pairwise.nil
  | cons a rest ih =>
    obtain ⟨ha, hrest⟩ := List.pairwise_cons.1 h
    exact pairwise_insertSorted_stable total trans (ih hrest) fun b hb => ha b (mem_sortBy.1 hb)

end Stable

/-- The items not in `seen`, each at its first occurrence. -/
def dedupAfter [DecidableEq α] (seen : List α) : List α → List α
  | [] => []
  | a :: rest => if a ∈ seen then dedupAfter seen rest else a :: dedupAfter (a :: seen) rest

/-- The first occurrence of every item, in order. -/
def dedup [DecidableEq α] (l : List α) : List α := dedupAfter [] l

theorem mem_dedupAfter [DecidableEq α] {a : α} {seen l : List α} :
    a ∈ dedupAfter seen l ↔ a ∈ l ∧ a ∉ seen := by
  induction l generalizing seen with
  | nil => simp [dedupAfter]
  | cons b rest ih =>
    unfold dedupAfter
    split
    · rename_i hb
      rw [ih]
      constructor
      · exact fun ⟨h, hs⟩ => ⟨List.mem_cons_of_mem b h, hs⟩
      · rintro ⟨h, hs⟩
        rcases List.mem_cons.1 h with rfl | h
        · exact absurd hb hs
        · exact ⟨h, hs⟩
    · rename_i hb
      rw [List.mem_cons, ih]
      constructor
      · rintro (rfl | ⟨h, hs⟩)
        · exact ⟨List.mem_cons_self, hb⟩
        · exact ⟨List.mem_cons_of_mem b h, fun h' => hs (List.mem_cons_of_mem b h')⟩
      · rintro ⟨h, hs⟩
        by_cases hab : a = b
        · exact Or.inl hab
        · rcases List.mem_cons.1 h with h | h
          · exact absurd h hab
          · exact Or.inr ⟨h, fun h' => (List.mem_cons.1 h').elim hab hs⟩

@[simp] theorem mem_dedup [DecidableEq α] {a : α} {l : List α} : a ∈ dedup l ↔ a ∈ l := by
  simp [dedup, mem_dedupAfter]

theorem nodup_dedupAfter [DecidableEq α] (seen l : List α) : (dedupAfter seen l).Nodup := by
  induction l generalizing seen with
  | nil => simp [dedupAfter]
  | cons b rest ih =>
    unfold dedupAfter
    split
    · exact ih seen
    · refine List.nodup_cons.2 ⟨?_, ih _⟩
      simp [mem_dedupAfter]

/-- Which items are left out is a matter of what is in `seen`, not of how it is listed. -/
theorem dedupAfter_congr [DecidableEq α] {seen seen' l : List α} (h : ∀ a, a ∈ seen ↔ a ∈ seen') :
    dedupAfter seen l = dedupAfter seen' l := by
  induction l generalizing seen seen' with
  | nil => rfl
  | cons b rest ih =>
    unfold dedupAfter
    have hcons : ∀ a, a ∈ b :: seen ↔ a ∈ b :: seen' := by
      intro a
      rw [List.mem_cons, List.mem_cons, h a]
    simp only [h b, ih h, ih hcons]

theorem nodup_dedup [DecidableEq α] (l : List α) : (dedup l).Nodup := nodup_dedupAfter [] l

end Mixtape
