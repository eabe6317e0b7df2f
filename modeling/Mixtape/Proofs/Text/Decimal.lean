import Mathlib.Data.Nat.Digits.Lemmas
import Mixtape.Proofs.Text.Numeral

/-!
# Numbers in the digits of any script

The digits of every script stand next to one another, ten from each zero on. All of them are digits
in the wide sense and none of them is blank. So the blanks at the ends of a text can be told from the
number between them, and the number is read by its place values, whatever the scripts.

## Main definitions

* `Text.WritesNumber n s` — the text `s` writes the number `n` in decimal digits between blanks.

## Main results

* `Text.natOfDigits_eq_ofDigits` — the number that decimal digits write is that of their place values.
* `Text.exists_append_trimChars`, `Text.trimChars_append` — what is trimmed are blanks at the ends,
  and all of them.
* `Text.writesNumber_iff` — **a text is read as a number exactly if it writes that number.**
-/

namespace Mixtape
namespace Text

variable {c : Char} {cs : List Char} {n v : Nat}

/-! ### Decimal digits -/

/-- A code point with a place value stands that far behind one of the zeros. -/
theorem exists_zero_of_valueAmong {codes : List Nat} (h : valueAmong codes n = some v) :
    ∃ nought ∈ codes, v < 10 ∧ n = nought + v := by
  induction codes with
  | nil => cases h
  | cons nought rest ih =>
    unfold valueAmong at h
    split at h
    · obtain rfl := Option.some.inj h
      exact ⟨nought, List.mem_cons_self, by omega, by omega⟩
    · obtain ⟨nought', hmem, hv⟩ := ih h
      exact ⟨nought', List.mem_cons_of_mem _ hmem, hv⟩

/-- A class does not tell two code points apart if none of its bounds stands between them. -/
theorem withinBounds_congr {m : Nat} {bounds : List Nat} (h : ∀ b ∈ bounds, b ≤ m ↔ b ≤ n) :
    withinBounds bounds m = withinBounds bounds n := by
  induction bounds with
  | nil => rfl
  | cons bound rest ih =>
    obtain ⟨hbound, hrest⟩ := List.forall_mem_cons.1 h
    rw [withinBounds, withinBounds, ih hrest, decide_eq_decide.2 hbound]

/-- The zeros are digits in the wide sense and not blank, and no class begins or ends within the ten
code points from one on. -/
theorem withinBounds_of_zero : ∀ nought ∈ zeroCodes, withinBounds digitBounds nought = true ∧
    withinBounds blankBounds nought = false ∧
      ∀ b ∈ digitBounds ++ blankBounds, b ≤ nought ∨ nought + 9 < b := by
  decide +kernel

theorem isDigit_and_not_isBlank_of_isDecimal (h : isDecimal c = true) :
    isDigit c = true ∧ isBlank c = false := by
  obtain ⟨v, hv⟩ := Option.isSome_iff_exists.1 h
  obtain ⟨nought, hmem, hlt, hcode⟩ := exists_zero_of_valueAmong hv
  obtain ⟨hdigit, hblank, hbounds⟩ := withinBounds_of_zero nought hmem
  have hsame : ∀ b ∈ digitBounds ++ blankBounds, b ≤ c.toNat ↔ b ≤ nought := by
    intro b hb
    have := hbounds b hb
    omega
  unfold isDigit isBlank
  rw [withinBounds_congr fun b hb => hsame b (List.mem_append_left _ hb),
    withinBounds_congr fun b hb => hsame b (List.mem_append_right _ hb)]
  exact ⟨hdigit, hblank⟩

/-- **The number that decimal digits write is that of their place values.** -/
theorem natOfDigits_eq_ofDigits {places : List Nat} (h : cs.map digitValue? = places.map some)
    (acc : Nat) :
    natOfDigits acc cs = acc * 10 ^ places.length + Nat.ofDigits 10 places.reverse := by
  induction cs generalizing places acc with
  | nil =>
    obtain rfl : places = [] := by simpa using h.symm
    simp [natOfDigits]
  | cons c rest ih =>
    cases places with
    | nil => simp at h
    | cons place places =>
      simp only [List.map_cons, List.cons.injEq] at h
      obtain ⟨hplace, hplaces⟩ := h
      rw [natOfDigits, hplace, Option.getD_some, ih hplaces, List.reverse_cons, Nat.ofDigits_append,
        Nat.ofDigits_singleton, List.length_reverse, List.length_cons, pow_succ]
      ring

/-- Decimal digits have place values. -/
theorem exists_places_iff : (∀ c ∈ cs, isDecimal c = true) ↔
    ∃ places : List Nat, cs.map digitValue? = places.map some := by
  constructor
  · intro h
    refine ⟨cs.map fun c => (digitValue? c).getD 0, ?_⟩
    rw [List.map_map]
    refine List.map_congr_left fun c hc => ?_
    obtain ⟨v, hv⟩ := Option.isSome_iff_exists.1 (h c hc)
    simp [hv]
  · rintro ⟨places, h⟩ c hc
    have hmem : digitValue? c ∈ places.map some := h ▸ List.mem_map_of_mem hc
    obtain ⟨v, -, hv⟩ := List.mem_map.1 hmem
    rw [isDecimal, ← hv]
    rfl

/-- The digits of a number write it. -/
theorem natOfDigits_toString (n : Nat) : natOfDigits 0 (toString n).toList = n := by
  rw [natOfDigits_eq_ofDigitChars fun _ hc => isDigit_of_mem_toString hc, toList_toString,
    Nat.ofDigitChars_ten_toDigits]

/-- A number is told by its digits. -/
theorem toString_inj {m : Nat} (h : toString m = toString n) : m = n := by
  rw [← natOfDigits_toString m, h, natOfDigits_toString]

/-! ### What is trimmed -/

/-- What is trimmed from a list are blanks at its ends. -/
theorem exists_append_trimChars (cs : List Char) : ∃ before after,
    (∀ c ∈ before, isBlank c = true) ∧ (∀ c ∈ after, isBlank c = true) ∧
      cs = before ++ trimChars cs ++ after := by
  have hblank : ∀ ds : List Char, ∀ c ∈ ds.takeWhile isBlank, isBlank c = true :=
    fun ds c hc => List.mem_takeWhile_imp hc
  refine ⟨cs.takeWhile isBlank, ((cs.dropWhile isBlank).reverse.takeWhile isBlank).reverse,
    hblank cs, fun c hc => hblank _ c (List.mem_reverse.1 hc), ?_⟩
  have hend : cs.dropWhile isBlank =
      trimChars cs ++ ((cs.dropWhile isBlank).reverse.takeWhile isBlank).reverse := by
    unfold trimChars trimBy
    rw [← List.reverse_append, List.takeWhile_append_dropWhile, List.reverse_reverse]
  rw [List.append_assoc, ← hend, List.takeWhile_append_dropWhile]

/-- All blanks at the ends of a list are trimmed. -/
theorem trimChars_append {before after : List Char} (hbefore : ∀ c ∈ before, isBlank c = true)
    (hafter : ∀ c ∈ after, isBlank c = true) (hcs : ∀ c ∈ cs, isBlank c = false) (hne : cs ≠ []) :
    trimChars (before ++ cs ++ after) = cs := by
  -- a list that is no blank at one end keeps that end
  have hkeep : ∀ ds : List Char, ds ≠ [] → (∀ c ∈ ds, isBlank c = false) → ∀ rest,
      (ds ++ rest).dropWhile isBlank = ds ++ rest := by
    intro ds hds hall rest
    cases ds with
    | nil => exact absurd rfl hds
    | cons d ds =>
      rw [List.cons_append, List.dropWhile_cons, if_neg (by simp [hall d List.mem_cons_self])]
  unfold trimChars trimBy
  rw [List.append_assoc, List.dropWhile_append_of_pos hbefore, hkeep cs hne hcs after,
    List.reverse_append,
    List.dropWhile_append_of_pos fun c hc => hafter c (List.mem_reverse.1 hc)]
  have hreverse := hkeep cs.reverse (by simpa using hne)
    (fun c hc => hcs c (List.mem_reverse.1 hc)) []
  rw [List.append_nil] at hreverse
  rw [hreverse, List.reverse_reverse]

/-! ### Texts that write a number -/

/-- The text writes the number `n`: in decimal digits of any script, at most `maxDigits` of them,
with blanks around them. -/
inductive WritesNumber (n : Nat) : String → Prop
  /-- The digits stand between the blanks, and have these place values. -/
  | padded {before digits after : List Char} {places : List Nat}
      (blankBefore : ∀ c ∈ before, isBlank c = true) (blankAfter : ∀ c ∈ after, isBlank c = true)
      (given : digits ≠ []) (short : digits.length ≤ maxDigits)
      (decimal : digits.map digitValue? = places.map some)
      (value : Nat.ofDigits 10 places.reverse = n) :
      WritesNumber n (String.ofList (before ++ digits ++ after))

/-- A text of digits writes a number if they are decimal, and not too many. -/
theorem natOfDigits?_eq_ok_iff {s : String} : natOfDigits? s = .ok n ↔
    (∀ c ∈ s.toList, isDecimal c = true) ∧ s.toList ≠ [] ∧ s.toList.length ≤ maxDigits ∧
      natOfDigits 0 s.toList = n := by
  unfold natOfDigits?
  dsimp only
  constructor
  · intro h
    split at h
    · cases h
    · rename_i hshort
      split at h
      · cases h
      · rename_i hall
        simp only [Bool.or_eq_true, decide_eq_true_eq, not_or, Nat.not_lt] at hall
        have hwhole : s.toList.takeWhile isDecimal = s.toList :=
          (List.takeWhile_prefix _).eq_of_length (le_antisymm (List.takeWhile_prefix _).length_le hall.2)
        rw [hwhole] at hshort
        exact ⟨List.takeWhile_eq_self_iff.1 hwhole, by simpa using hall.1, Nat.not_lt.1 hshort,
          Except.ok.inj h⟩
  · rintro ⟨hall, hne, hshort, hvalue⟩
    rw [List.takeWhile_eq_self_iff.2 hall, if_neg (Nat.not_lt.2 hshort), hvalue,
      List.isEmpty_eq_false_iff.2 hne]
    simp

/-- **A text is read as a number exactly if it writes that number.** -/
theorem writesNumber_iff {s : String} : WritesNumber n s ↔
    isDigits (trim s) = true ∧ natOfDigits? (trim s) = .ok n := by
  constructor
  · rintro ⟨hbefore, hafter, hgiven, hshort, hdecimal, rfl⟩
    rename_i before digits after places
    have hall : ∀ c ∈ digits, isDecimal c = true := exists_places_iff.2 ⟨places, hdecimal⟩
    have htrim : (trim (String.ofList (before ++ digits ++ after))).toList = digits := by
      rw [trim, String.toList_ofList, String.toList_ofList]
      exact trimChars_append hbefore hafter
        (fun c hc => (isDigit_and_not_isBlank_of_isDecimal (hall c hc)).2) hgiven
    constructor
    · have hdigits : digits.all isDigit = true := List.all_eq_true.2 fun c hc =>
        (isDigit_and_not_isBlank_of_isDecimal (hall c hc)).1
      rw [isDigits, htrim, hdigits, List.isEmpty_eq_false_iff.2 hgiven]
      rfl
    · rw [natOfDigits?_eq_ok_iff, htrim]
      exact ⟨hall, hgiven, hshort, by rw [natOfDigits_eq_ofDigits hdecimal, zero_mul, zero_add]⟩
  · rintro ⟨-, hread⟩
    obtain ⟨hall, hne, hshort, hvalue⟩ := natOfDigits?_eq_ok_iff.1 hread
    obtain ⟨places, hplaces⟩ := exists_places_iff.1 hall
    obtain ⟨before, after, hbefore, hafter, hsplit⟩ := exists_append_trimChars s.toList
    have htext : s = String.ofList (before ++ (trim s).toList ++ after) := by
      rw [trim, String.toList_ofList, ← hsplit, String.ofList_toList]
    rw [htext]
    refine .padded hbefore hafter hne hshort hplaces ?_
    rw [← hvalue, natOfDigits_eq_ofDigits hplaces, zero_mul, zero_add]

/-- A number that is short enough to be written is written by its digits. -/
theorem writesNumber_toString (h : canWrite n = true) : WritesNumber n (toString n) := by
  rw [writesNumber_iff, trim_toString]
  exact ⟨isDigits_toString n, natOfDigits?_toString h⟩

end Text
end Mixtape
