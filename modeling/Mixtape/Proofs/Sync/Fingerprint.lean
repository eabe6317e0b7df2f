import Mixtape.Sync.Fingerprint

/-!
# What a fingerprint tells of a collection

The text that is digested depends on the members of a collection alone, and it tells them apart: two
collections of plain ids have one text exactly when they have the same members.

## Main definitions

* `SameMembers a b` — `a` and `b` have the same members.
* `PlainId s` — `s` is not empty and holds no bar.
* `Ambiguous a b` — different collections with one fingerprint.
* `Collide a b` — one digest of two different texts.

## Main results

* `canonicalText_congr`, `fingerprint_congr` — the same members give the same fingerprint.
* `canonicalText_eq_iff` — **one text exactly for the same members.**
* `collide_of_ambiguous` — different collections of plain ids with one fingerprint are a collision
  of the digest.
* `fingerprint_canonical` — **fingerprints are canonical**: the members decide the text, and only a
  collision of the digest gives different members one fingerprint.
-/

namespace Mixtape

/-- Two collections have the same members. -/
def SameMembers (a b : List String) : Prop := ∀ x, x ∈ a ↔ x ∈ b

/-- An id that can be told from others in a row with bars: it is not empty and holds no bar. -/
def PlainId (s : String) : Prop := s ≠ "" ∧ '|' ∉ s.toList

/-- Different collections with one fingerprint. -/
def Ambiguous (a b : List String) : Prop := fingerprint a = fingerprint b ∧ ¬SameMembers a b

/-- Two collections whose texts differ and have one digest. -/
def Collide (a b : List String) : Prop :=
  canonicalText a ≠ canonicalText b ∧ fingerprint a = fingerprint b

namespace SameMembers

variable {a b c : List String}

theorem refl (a : List String) : SameMembers a a := fun _ => Iff.rfl

theorem symm (h : SameMembers a b) : SameMembers b a := fun x => (h x).symm

theorem trans (h : SameMembers a b) (h' : SameMembers b c) : SameMembers a c :=
  fun x => (h x).trans (h' x)

end SameMembers

/-! ### The members determine the text -/

/-- The sorted ids, each once, are the same for collections with the same members. -/
theorem sorted_congr {a b : List String} (h : SameMembers a b) :
    sortBy Text.leText (dedup a) = sortBy Text.leText (dedup b) := by
  have hperm : (sortBy Text.leText (dedup a)).Perm (sortBy Text.leText (dedup b)) := by
    refine (sortBy_perm _ _).trans (List.Perm.trans ?_ (sortBy_perm _ _).symm)
    refine (List.perm_ext_iff_of_nodup (nodup_dedup a) (nodup_dedup b)).2 ?_
    intro x
    rw [mem_dedup, mem_dedup, h x]
  refine hperm.eq_of_pairwise (fun x y _ _ => Text.leText_antisymm) ?_ ?_
  · exact pairwise_sortBy Text.leText_total Text.leText_trans _
  · exact pairwise_sortBy Text.leText_total Text.leText_trans _

theorem canonicalText_congr {a b : List String} (h : SameMembers a b) :
    canonicalText a = canonicalText b := by
  unfold canonicalText
  rw [sorted_congr h]

theorem fingerprint_congr {a b : List String} (h : SameMembers a b) :
    fingerprint a = fingerprint b := by
  unfold fingerprint
  rw [canonicalText_congr h]

/-! ### The text determines the members -/

/-- What stands before the first bar is determined by the row, and so is what stands after it. -/
theorem eq_of_append_bar : ∀ {s t : List Char} {r u : List Char}, '|' ∉ s → '|' ∉ t →
    s ++ '|' :: r = t ++ '|' :: u → s = t ∧ r = u := by
  intro s
  induction s with
  | nil =>
    intro t r u _ ht h
    cases t with
    | nil => exact ⟨rfl, (List.cons.inj h).2⟩
    | cons c t =>
      have hc := (List.cons.inj h).1
      exact absurd (hc ▸ List.mem_cons_self) ht
  | cons c s ih =>
    intro t r u hs ht h
    cases t with
    | nil =>
      have hc := (List.cons.inj h).1
      exact absurd (hc ▸ List.mem_cons_self) hs
    | cons d t =>
      obtain ⟨hcd, hrest⟩ := List.cons.inj h
      obtain ⟨hst, hru⟩ := ih (fun hm => hs (List.mem_cons_of_mem c hm))
        (fun hm => ht (List.mem_cons_of_mem d hm)) hrest
      exact ⟨by rw [hcd, hst], hru⟩

theorem toList_joinBars_cons (s t : String) (rest : List String) :
    (joinBars (s :: t :: rest)).toList = s.toList ++ '|' :: (joinBars (t :: rest)).toList := by
  rw [joinBars, String.toList_append, String.toList_append]
  · simp
  · simp

/-- A row of plain ids is empty only when there is none. -/
theorem joinBars_ne_empty {s : String} {rest : List String} (hs : PlainId s) :
    joinBars (s :: rest) ≠ "" := by
  cases rest with
  | nil => exact hs.1
  | cons t rest =>
    intro h
    have := congrArg String.toList h
    rw [toList_joinBars_cons] at this
    simp at this

/-- **Rows of plain ids can be read back.** -/
theorem joinBars_injective : ∀ {a b : List String}, (∀ s ∈ a, PlainId s) → (∀ s ∈ b, PlainId s) →
    joinBars a = joinBars b → a = b := by
  intro a
  induction a with
  | nil =>
    intro b _ hb h
    cases b with
    | nil => rfl
    | cons t b => exact absurd h.symm (joinBars_ne_empty (hb t List.mem_cons_self))
  | cons s a ih =>
    intro b ha hb h
    have hs : PlainId s := ha s List.mem_cons_self
    cases b with
    | nil => exact absurd h (joinBars_ne_empty hs)
    | cons t b =>
      have ht : PlainId t := hb t List.mem_cons_self
      have hrest : joinBars a = joinBars b → a = b :=
        ih (fun x hx => ha x (List.mem_cons_of_mem s hx)) fun x hx => hb x (List.mem_cons_of_mem t hx)
      cases a with
      | nil =>
        cases b with
        | nil =>
          change s = t at h
          rw [h]
        | cons u b =>
          -- the row on the right has a bar, the single id on the left has none
          have := congrArg String.toList h
          rw [toList_joinBars_cons] at this
          refine absurd ?_ hs.2
          change s.toList = _ at this
          rw [this]
          simp
      | cons v a =>
        cases b with
        | nil =>
          have := congrArg String.toList h
          rw [toList_joinBars_cons] at this
          refine absurd ?_ ht.2
          change _ = t.toList at this
          rw [← this]
          simp
        | cons u b =>
          have := congrArg String.toList h
          rw [toList_joinBars_cons, toList_joinBars_cons] at this
          obtain ⟨hst, hab⟩ := eq_of_append_bar hs.2 ht.2 this
          rw [String.toList_inj.1 hst, hrest (String.toList_inj.1 hab)]

/-- **One text exactly for the same members**, for collections of plain ids. -/
theorem canonicalText_eq_iff {a b : List String} (ha : ∀ s ∈ a, PlainId s)
    (hb : ∀ s ∈ b, PlainId s) : canonicalText a = canonicalText b ↔ SameMembers a b := by
  constructor
  · intro h
    have hsorted := joinBars_injective (a := sortBy Text.leText (dedup a))
      (b := sortBy Text.leText (dedup b)) (fun s hs => ha s (by simpa using hs))
      (fun s hs => hb s (by simpa using hs)) h
    intro x
    have : x ∈ sortBy Text.leText (dedup a) ↔ x ∈ sortBy Text.leText (dedup b) := by rw [hsorted]
    simpa using this
  · exact canonicalText_congr

/-- Different collections of plain ids with one fingerprint are a collision of the digest. -/
theorem collide_of_ambiguous {a b : List String} (ha : ∀ s ∈ a, PlainId s)
    (hb : ∀ s ∈ b, PlainId s) (h : Ambiguous a b) : Collide a b := by
  refine ⟨fun htext => ?_, h.1⟩
  exact h.2 ((canonicalText_eq_iff ha hb).1 htext)

/-- **Fingerprints are canonical** for collections of plain ids. One text is digested exactly for
the same members, so that their order and repetitions do not change the fingerprint; different
members have one fingerprint only where the digest takes two different texts to the same value. -/
theorem fingerprint_canonical {a b : List String} (ha : ∀ s ∈ a, PlainId s)
    (hb : ∀ s ∈ b, PlainId s) :
    (canonicalText a = canonicalText b ↔ SameMembers a b) ∧
      (SameMembers a b → fingerprint a = fingerprint b) ∧
      (¬SameMembers a b → fingerprint a = fingerprint b →
        canonicalText a ≠ canonicalText b ∧
          Text.sha256 (canonicalText a) = Text.sha256 (canonicalText b)) := by
  refine ⟨canonicalText_eq_iff ha hb, fingerprint_congr, ?_⟩
  intro hdiffer hsame
  have hcollide : Collide a b := collide_of_ambiguous ha hb ⟨hsame, hdiffer⟩
  exact ⟨hcollide.1, hsame⟩

/-- Two ids of which one begins the other, in either order and with one of them repeated, have one
text; it is neither that of the two run together nor that of no ids. -/
theorem fingerprint_canonical_prefixes :
    (canonicalText ["ab", "a", "ab"] = canonicalText ["a", "ab"] ∧
      fingerprint ["ab", "a", "ab"] = fingerprint ["a", "ab"]) ∧
    canonicalText ["a", "ab"] ≠ canonicalText ["aab"] ∧
    canonicalText ["a", "ab"] ≠ canonicalText [] := by
  have hthree : ∀ s ∈ ["ab", "a", "ab"], PlainId s := by
    unfold PlainId
    decide
  have htwo : ∀ s ∈ ["a", "ab"], PlainId s := by
    unfold PlainId
    decide
  have hone : ∀ s ∈ ["aab"], PlainId s := by
    unfold PlainId
    decide
  have hsame : SameMembers ["ab", "a", "ab"] ["a", "ab"] := by
    intro x
    simp only [List.mem_cons, List.not_mem_nil, or_false]
    grind
  refine ⟨?_, ?_, ?_⟩
  · obtain ⟨htext, hprint, -⟩ := fingerprint_canonical hthree htwo
    exact ⟨htext.2 hsame, hprint hsame⟩
  · obtain ⟨htext, -, -⟩ := fingerprint_canonical htwo hone
    intro h
    exact absurd ((htext.1 h "a").1 List.mem_cons_self) (by decide)
  · obtain ⟨htext, -, -⟩ := fingerprint_canonical htwo (b := []) (by simp)
    intro h
    exact List.not_mem_nil ((htext.1 h "a").1 List.mem_cons_self)

end Mixtape
