import Mixtape.Number.Binary64

/-!
# Magnitudes

The size of a number, exactly: a whole number of units of `2 ^ -1074`, or beyond all finite ones.
Sizes are compared without rounding, whichever way the numbers were written.

* `Magnitude` — the sizes.
* `Magnitude.isLe`, `Magnitude.isLt` — their order.
-/

namespace Mixtape

/-- The size of a number. -/
inductive Magnitude where
  /-- A whole number of units of `2 ^ -1074`. -/
  | finite (units : Int)
  /-- Below or above all finite numbers. -/
  | infinite (negative : Bool)
  deriving DecidableEq

namespace Magnitude

/-- The size of a whole number. -/
def ofInt (n : Int) : Magnitude := finite (n * Binary64.unitsPerOne)

/-- The size of a binary number, if it is a number. -/
def ofBinary64? : Binary64 → Option Magnitude
  | .finite negative units => some (finite (if negative then -(units : Int) else units))
  | .infinite negative => some (infinite negative)
  | .nan => none

/-- Zero. -/
def zero : Magnitude := finite 0

/-- Whether `a` is at most `b`. -/
def isLe : (a b : Magnitude) → Bool
  | finite m, finite n => decide (m ≤ n)
  | infinite true, _ => true
  | _, infinite negative => !negative
  | infinite false, finite _ => false

/-- Whether `a` is less than `b`. -/
def isLt (a b : Magnitude) : Bool := !b.isLe a

@[simp] theorem isLe_finite (m n : Int) : (finite m).isLe (finite n) = decide (m ≤ n) := rfl

@[simp] theorem isLt_finite (m n : Int) : (finite m).isLt (finite n) = decide (m < n) := by
  simp only [isLt, isLe_finite, ← decide_not, Int.not_le]

/-- Whole numbers of one size are equal. -/
theorem ofInt_inj {m n : Int} : ofInt m = ofInt n ↔ m = n := by
  have hhalf : Binary64.unitsPerHalf ≠ 0 := by
    unfold Binary64.unitsPerHalf
    -- the exponent is too great to compute with
    generalize 1073 = n
    exact Nat.ne_of_gt (Nat.two_pow_pos n)
  have hone : (Binary64.unitsPerOne : Int) ≠ 0 :=
    Int.natCast_ne_zero.2 (Nat.mul_ne_zero (by decide) hhalf)
  rw [ofInt, ofInt, finite.injEq]
  exact ⟨Int.eq_of_mul_eq_mul_right hone, fun h => h ▸ rfl⟩

/-- No natural number is below zero. -/
theorem zero_isLe_ofInt_nat (n : Nat) : zero.isLe (ofInt n) = true :=
  decide_eq_true
    (Int.mul_nonneg (Int.natCast_nonneg n) (Int.natCast_nonneg Binary64.unitsPerOne))

theorem isLe_refl (a : Magnitude) : a.isLe a = true := by
  cases a with
  | finite n => simp
  | infinite negative => cases negative <;> rfl

theorem isLe_total (a b : Magnitude) : a.isLe b = true ∨ b.isLe a = true := by
  cases a with
  | finite m =>
    cases b with
    | finite n => simpa using Int.le_total m n
    | infinite negative => cases negative <;> simp [isLe]
  | infinite negative =>
    cases b with
    | finite n => cases negative <;> simp [isLe]
    | infinite other => cases negative <;> cases other <;> simp [isLe]

theorem infinite_isLe_iff {a : Magnitude} : (infinite false).isLe a = true ↔ a = infinite false := by
  cases a with
  | finite n => simp [isLe]
  | infinite negative => cases negative <;> simp [isLe]

theorem isLe_infinite_iff {a : Magnitude} : a.isLe (infinite true) = true ↔ a = infinite true := by
  cases a with
  | finite n => simp [isLe]
  | infinite negative => cases negative <;> simp [isLe]

theorem isLe_trans {a b c : Magnitude} (hab : a.isLe b = true) (hbc : b.isLe c = true) :
    a.isLe c = true := by
  cases b with
  | finite n =>
    cases a with
    | infinite negative => cases negative <;> simp_all [isLe]
    | finite m =>
      cases c with
      | infinite negative => exact hbc
      | finite k => exact decide_eq_true (Int.le_trans (of_decide_eq_true hab) (of_decide_eq_true hbc))
  | infinite negative =>
    cases negative with
    | true =>
      rw [isLe_infinite_iff.1 hab]
      rfl
    | false =>
      rw [infinite_isLe_iff.1 hbc]
      cases a with
      | finite m => rfl
      | infinite other => cases other <;> rfl

theorem isLe_antisymm {a b : Magnitude} (hab : a.isLe b = true) (hba : b.isLe a = true) : a = b := by
  cases a with
  | finite m =>
    cases b with
    | finite n => exact congrArg finite (Int.le_antisymm (of_decide_eq_true hab) (of_decide_eq_true hba))
    | infinite negative => cases negative <;> simp [isLe] at hab hba
  | infinite negative =>
    cases negative with
    | true => exact (isLe_infinite_iff.1 hba).symm
    | false => exact (infinite_isLe_iff.1 hab).symm

end Magnitude

end Mixtape
