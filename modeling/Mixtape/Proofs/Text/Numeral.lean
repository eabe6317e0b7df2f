import Mathlib.Data.List.TakeWhile
import Mathlib.Data.Nat.Digits.Defs
import Mixtape.Text.Digit

/-!
# Numerals are read back

A whole number is written with the ten digits between `0` and `9`. They are digits in the wide sense,
they have their place values, and none of them is blank; so what is read of a numeral is the number
that was written, blanks trimmed or not.

## Main results

* `Text.digitValue?_of_isDigit`, `Text.not_isBlank_of_isDigit` — what the ten digits are.
* `Text.trim_eq_self` — a text without blanks is trimmed to itself.
* `Text.natOfDigits?_toString` — **a number that is short enough to be written is read back.**
-/

namespace Mixtape
namespace Text

variable {c : Char} {cs : List Char} {n : Nat}

/-! ### The ten digits -/

theorem withinBounds_of_lt {bound : Nat} (bounds : List Nat) (h : n < bound) :
    withinBounds (bound :: bounds) n = false := by
  simp [withinBounds, h]

theorem toNat_of_isDigit (h : c.isDigit = true) : 48 ≤ c.toNat ∧ c.toNat < 58 := by
  obtain ⟨hlow, hhigh⟩ := Char.isDigit_iff_toNat.1 h
  exact ⟨hlow, Nat.lt_succ_of_le hhigh⟩

theorem isDigit_of_isDigit (h : c.isDigit = true) : isDigit c = true := by
  obtain ⟨hlow, hhigh⟩ := toNat_of_isDigit h
  -- the ten digits stand between the first two bounds
  unfold isDigit digitBounds
  rw [withinBounds, withinBounds_of_lt _ hhigh]
  simpa using hlow

theorem not_isBlank_of_isDigit (h : c.isDigit = true) : isBlank c = false := by
  obtain ⟨hlow, hhigh⟩ := toNat_of_isDigit h
  -- blanks stand below them, up to 33, and above them, from 133 on
  have hnext : c.toNat < 133 := by omega
  have hbelow : 9 ≤ c.toNat ∧ 14 ≤ c.toNat ∧ 28 ≤ c.toNat ∧ 33 ≤ c.toNat := by omega
  unfold isBlank blankBounds
  rw [withinBounds, withinBounds, withinBounds, withinBounds, withinBounds_of_lt _ hnext]
  simp [hbelow]

theorem digitValue?_of_isDigit (h : c.isDigit = true) :
    digitValue? c = some (c.toNat - '0'.toNat) := by
  unfold digitValue? zeroCodes valueAmong
  rw [if_pos (toNat_of_isDigit h)]
  rfl

theorem isDecimal_of_isDigit (h : c.isDigit = true) : isDecimal c = true := by
  unfold isDecimal
  rw [digitValue?_of_isDigit h]
  rfl

/-! ### Trimming -/

theorem trimChars_eq_self (h : ∀ c ∈ cs, isBlank c = false) : trimChars cs = cs := by
  have hdrop : ∀ ds : List Char, (∀ c ∈ ds, isBlank c = false) → ds.dropWhile isBlank = ds := by
    intro ds hds
    cases ds with
    | nil => rfl
    | cons d rest =>
      rw [List.dropWhile_cons, if_neg (by simp [hds d List.mem_cons_self])]
  unfold trimChars trimBy
  rw [hdrop cs h, hdrop cs.reverse fun c hc => h c (List.mem_reverse.1 hc), List.reverse_reverse]

/-- A text without blanks is trimmed to itself. -/
theorem trim_eq_self {s : String} (h : ∀ c ∈ s.toList, isBlank c = false) : trim s = s := by
  unfold trim
  rw [trimChars_eq_self h, String.ofList_toList]

/-! ### Numerals -/

/-- What the ten digits write is the number they stand for. -/
theorem natOfDigits_eq_ofDigitChars (h : ∀ c ∈ cs, c.isDigit = true) (acc : Nat) :
    natOfDigits acc cs = Nat.ofDigitChars 10 cs acc := by
  induction cs generalizing acc with
  | nil => rfl
  | cons c rest ih =>
    obtain ⟨hc, hrest⟩ := List.forall_mem_cons.1 h
    rw [natOfDigits, digitValue?_of_isDigit hc, Option.getD_some, ih hrest,
      Nat.ofDigitChars_cons, Nat.mul_comm]

theorem toList_toString (n : Nat) : (toString n).toList = Nat.toDigits 10 n := by
  rw [Nat.toString_eq_ofList_toDigits, String.toList_ofList]

theorem isDigit_of_mem_toString (hc : c ∈ (toString n).toList) : c.isDigit = true := by
  rw [toList_toString] at hc
  exact Nat.isDigit_of_mem_toDigits (by decide) (by decide) hc

theorem isDigits_toString (n : Nat) : isDigits (toString n) = true := by
  have hne : (toString n).toList ≠ [] := by
    rw [toList_toString]
    exact Nat.toDigits_ne_nil
  have hall : (toString n).toList.all isDigit = true :=
    List.all_eq_true.2 fun _ hc => isDigit_of_isDigit (isDigit_of_mem_toString hc)
  unfold isDigits
  rw [hall, List.isEmpty_eq_false_iff.2 hne]
  rfl

theorem trim_toString (n : Nat) : trim (toString n) = toString n :=
  trim_eq_self fun _ hc => not_isBlank_of_isDigit (isDigit_of_mem_toString hc)

/-- A number that is short enough to be written has at most `maxDigits` digits. -/
theorem length_toString_le (h : canWrite n = true) : (toString n).toList.length ≤ maxDigits := by
  have hpos : 0 < maxDigits := by decide
  unfold canWrite at h
  -- the bound is a power that nothing here should compute
  generalize maxDigits = k at h hpos ⊢
  rw [toList_toString]
  exact (Nat.length_toDigits_le_iff (by decide) hpos).2 (of_decide_eq_true h)

/-- **A number that is short enough to be written is read back.** -/
theorem natOfDigits?_toString (h : canWrite n = true) : natOfDigits? (toString n) = .ok n := by
  have hleading : (toString n).toList.takeWhile isDecimal = (toString n).toList :=
    List.takeWhile_eq_self_iff.2 fun _ hc => isDecimal_of_isDigit (isDigit_of_mem_toString hc)
  have hne : (toString n).toList.isEmpty = false := by
    rw [toList_toString, List.isEmpty_eq_false_iff]
    exact Nat.toDigits_ne_nil
  have hvalue : natOfDigits 0 (toString n).toList = n := by
    rw [natOfDigits_eq_ofDigitChars fun _ hc => isDigit_of_mem_toString hc, toList_toString]
    exact Nat.ofDigitChars_ten_toDigits
  unfold natOfDigits?
  dsimp only
  rw [hleading, if_neg (Nat.not_lt.2 (length_toString_le h)), hne, hvalue]
  simp

end Text
end Mixtape
