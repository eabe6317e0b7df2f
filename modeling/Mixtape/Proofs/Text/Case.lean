import Mixtape.Text.CaseFold
import Mixtape.Text.Lowercase

/-!
# Folding forgets lower case

Texts are told apart without regard to case in two ways: by their lower case, and by their folding.
Folding joins more of them, `ß` and `ss` for one, and none that have one lower case are told apart
by it. The reason is in the tables. A run of characters with a lower case is moved by folding as well,
to where nothing moves it again; or its lower case is moved back by folding to the run, which folding
leaves alone; or both fold to one sequence, which is seen character by character.

## Main definitions

* `Text.stays`, `Text.movesBy` — what a table of runs does to all code points of a range.
* `Text.foldCodes` — folding, on code points.
* `Text.FoldsAs` — a character that folds as another one does.
* `Text.foldsTogether`, `Text.foldsOneByOne` — the runs all of whose code points fold as what they are
  moved to, seen at once or one by one.

## Main results

* `Text.foldsTogether_or_foldsOneByOne` — lower case does not change how a code point folds.
* `Text.foldCase_lower` — **a text folds as its lower case.**
-/

namespace Mixtape
namespace Text

variable {n m low high step : Nat} {c : Char} {shifts : List Shift}

/-! ### Ranges of code points -/

/-- Whether runs leave the code points from `low` to `high` alone, of which one in `step` counts. -/
def stays (low high step : Nat) : List Shift → Bool
  | [] => true
  | (first, last, step', _) :: rest =>
    bif Nat.blt last low then stays low high step rest
    else bif Nat.blt high first then Nat.ble first last
    else step' == 2 && step == 2 && (low + first) % 2 == 1 && stays low high step rest

/-- Whether runs move the code points from `low` to `high`, of which one in `step` counts, by a
distance. -/
def movesBy (distance : Int) (low high step : Nat) : List Shift → Bool
  | [] => false
  | (first, last, step', distance') :: rest =>
    bif Nat.blt last low then movesBy distance low high step rest
    else Nat.ble first low && Nat.ble high last && (low - first) % step' == 0 &&
      step % step' == 0 && distance' == distance

/-- A code point from `low` to `high` that counts. -/
def Counts (low high step n : Nat) : Prop := low ≤ n ∧ n ≤ high ∧ (n - low) % step = 0

theorem shiftCode_of_stays (h : stays low high step shifts = true) (hn : Counts low high step n) :
    shiftCode shifts n = n := by
  obtain ⟨hlow, hhigh, hstep⟩ := hn
  induction shifts with
  | nil => rfl
  | cons run rest ih =>
    obtain ⟨first, last, step', distance⟩ := run
    simp only [stays, Bool.cond_eq_ite, Nat.blt_eq] at h
    unfold shiftCode
    by_cases hlast : last < n
    · -- the run has ended
      rw [if_pos hlast]
      split at h
      · exact ih h
      · split at h
        · rw [Nat.ble_eq] at h
          omega
        · simp only [Bool.and_eq_true] at h
          exact ih h.2
    · rw [if_neg hlast, if_neg]
      rintro ⟨hfirst, hstep'⟩
      split at h
      · omega
      · split at h
        · omega
        · -- every other code point counts, and none of the run
          simp only [Bool.and_eq_true, beq_iff_eq] at h
          obtain ⟨⟨⟨rfl, rfl⟩, hodd⟩, -⟩ := h
          omega

theorem shiftCode_of_movesBy {distance : Int} (h : movesBy distance low high step shifts = true)
    (hn : Counts low high step n) : shiftCode shifts n = (n + distance).toNat := by
  obtain ⟨hlow, hhigh, hstep⟩ := hn
  induction shifts with
  | nil => cases h
  | cons run rest ih =>
    obtain ⟨first, last, step', distance'⟩ := run
    simp only [movesBy, Bool.cond_eq_ite, Nat.blt_eq] at h
    unfold shiftCode
    split at h
    · rw [if_pos (by omega)]
      exact ih h
    · simp only [Bool.and_eq_true, Nat.ble_eq, beq_iff_eq] at h
      obtain ⟨⟨⟨⟨hfirst, hlast⟩, hmod⟩, hdvd⟩, rfl⟩ := h
      have hreached : (n - first) % step' = 0 := by
        have hsplit : n - first = (low - first) + (n - low) := by omega
        rw [hsplit]
        exact Nat.mod_eq_zero_of_dvd (Nat.dvd_add (Nat.dvd_of_mod_eq_zero hmod)
          (Nat.dvd_trans (Nat.dvd_of_mod_eq_zero hdvd) (Nat.dvd_of_mod_eq_zero hstep)))
      rw [if_neg (by omega), if_pos ⟨by omega, hreached⟩]

/-- What is moved is moved by one of the runs, in which it counts. -/
theorem exists_run_of_ne (h : shiftCode shifts n ≠ n) : ∃ run ∈ shifts,
    Counts run.1 run.2.1 run.2.2.1 n ∧ shiftCode shifts n = (n + run.2.2.2).toNat := by
  induction shifts with
  | nil => exact absurd rfl h
  | cons run rest ih =>
    obtain ⟨first, last, step', distance⟩ := run
    unfold shiftCode at h ⊢
    by_cases hlast : last < n
    · rw [if_pos hlast] at h ⊢
      obtain ⟨run, hrun, hcounts, hmoved⟩ := ih h
      exact ⟨run, List.mem_cons_of_mem _ hrun, hcounts, hmoved⟩
    · rw [if_neg hlast] at h ⊢
      split at h
      · rename_i hreached
        rw [if_pos hreached]
        exact ⟨_, List.mem_cons_self, ⟨hreached.1, Nat.le_of_not_lt hlast, hreached.2⟩, rfl⟩
      · exact absurd rfl h

/-! ### Folding of code points -/

theorem toNat_ofNat (h : n.isValidChar) : (Char.ofNat n).toNat = n := by
  rw [Char.ofNat, dif_pos h]
  rfl

/-- What a code point outside ASCII folds to. -/
def foldCodes (n : Nat) : List Nat :=
  match foldedSequences.lookup n with
  | some codes => codes
  | none => [shiftCode foldShifts n]

theorem lookup_eq_none_of_lt {sequences : List (Nat × List Nat)}
    (h : ∀ entry ∈ sequences, n < entry.1) : sequences.lookup n = none := by
  rw [List.lookup_eq_none_iff]
  intro entry hentry
  simpa using Nat.ne_of_lt (h entry hentry)

/-- All folding of code points below those of capitals is that of code points outside ASCII. -/
theorem foldChar_eq (h : 90 < c.toNat) : foldChar c = (foldCodes c.toNat).map Char.ofNat := by
  unfold foldChar foldCodes
  by_cases hascii : c.toNat < 128
  · -- the tables begin behind ASCII
    have hsequences : ∀ entry ∈ foldedSequences, 128 ≤ entry.1 := by decide +kernel
    have hcounts : Counts 91 127 1 c.toNat := ⟨h, by omega, Nat.mod_one _⟩
    have hstays : shiftCode foldShifts c.toNat = c.toNat :=
      shiftCode_of_stays (by decide +kernel) hcounts
    rw [if_pos hascii, if_neg (by omega),
      lookup_eq_none_of_lt fun entry hentry => Nat.lt_of_lt_of_le hascii (hsequences entry hentry)]
    simp [hstays, Char.ofNat_toNat]
  · rw [if_neg hascii]
    cases foldedSequences.lookup c.toNat <;> rfl

/-- No code point from `low` to `high` stands for a sequence. -/
def unlisted (low high : Nat) : Bool :=
  foldedSequences.all fun entry => Nat.blt entry.1 low || Nat.blt high entry.1

theorem foldCodes_of_unlisted (h : unlisted low high = true) (hlow : low ≤ n) (hhigh : n ≤ high) :
    foldCodes n = [shiftCode foldShifts n] := by
  have hnone : foldedSequences.lookup n = none := by
    rw [List.lookup_eq_none_iff]
    intro entry hentry
    have hout := List.all_eq_true.1 h entry hentry
    simp only [Bool.or_eq_true, Nat.blt_eq] at hout
    rw [bne_iff_ne]
    omega
  rw [foldCodes, hnone]

/-- Whether all code points from `low` to `high` are characters behind the capitals of ASCII. -/
def areBehind (low high : Nat) : Bool :=
  Nat.blt 90 low && (Nat.blt high 55296 || Nat.blt 57343 low && Nat.blt high 1114112)

/-- The character `m` stands behind the capitals of ASCII, and it folds as the code point `n`. -/
structure FoldsAs (n m : Nat) : Prop where
  /-- It stands behind the capitals. -/
  behind : 90 < m
  /-- It is a character. -/
  valid : m.isValidChar
  /-- Both fold alike. -/
  folds : foldCodes m = foldCodes n

theorem FoldsAs.of_areBehind (h : areBehind low high = true) (hlow : low ≤ m) (hhigh : m ≤ high)
    (folds : foldCodes m = foldCodes n) : FoldsAs n m := by
  simp only [areBehind, Bool.and_eq_true, Bool.or_eq_true, Nat.blt_eq] at h
  refine ⟨by omega, ?_, folds⟩
  rcases h.2 with hbelow | hbetween
  · exact .inl (by omega)
  · exact .inr ⟨by omega, by omega⟩

/-- Whether the code points of a run, moved to the range from `low'` to `high'`, fold as they did:
folding moves them as the run does and leaves the range alone, or it leaves them alone and moves the
range back. -/
def foldsTogether (run : Shift) (low' high' : Nat) : Bool :=
  areBehind low' high' && unlisted run.1 run.2.1 && unlisted low' high' &&
    (movesBy run.2.2.2 run.1 run.2.1 run.2.2.1 foldShifts &&
        stays low' high' run.2.2.1 foldShifts ||
      stays run.1 run.2.1 run.2.2.1 foldShifts &&
        movesBy (-run.2.2.2) low' high' run.2.2.1 foldShifts)

/-- Whether the code points of a run fold, each looked at by itself, as what they are moved to. -/
def foldsOneByOne (run : Shift) : Bool :=
  (List.range (run.2.1 + 1 - run.1)).all fun k => k % run.2.2.1 != 0 ||
    let moved := (run.1 + k + run.2.2.2).toNat
    areBehind moved moved && foldCodes moved == foldCodes (run.1 + k)

/-- **Lower case does not change how a code point folds**: no run does. -/
theorem foldsTogether_or_foldsOneByOne : lowerShifts.all (fun run =>
    foldsTogether run (run.1 + run.2.2.2).toNat (run.2.1 + run.2.2.2).toNat || foldsOneByOne run) =
      true := by
  decide +kernel

theorem foldsAs_of_foldsTogether {run : Shift}
    (h : foldsTogether run (run.1 + run.2.2.2).toNat (run.2.1 + run.2.2.2).toNat = true)
    (hn : Counts run.1 run.2.1 run.2.2.1 n) : FoldsAs n (n + run.2.2.2).toNat := by
  obtain ⟨low, high, step, distance⟩ := run
  simp only [foldsTogether, Bool.and_eq_true, Bool.or_eq_true] at h
  obtain ⟨⟨⟨hbehind, hhere⟩, hthere⟩, hshifts⟩ := h
  dsimp only at hn hbehind hhere hthere hshifts ⊢
  have hpos : 90 < ((low : Int) + distance).toNat := by
    simp only [areBehind, Bool.and_eq_true, Nat.blt_eq] at hbehind
    exact hbehind.1
  obtain ⟨hlow, hhigh, hstep⟩ := hn
  -- the distance is the same for all of them
  have hm : Counts ((low : Int) + distance).toNat ((high : Int) + distance).toNat step
      ((n : Int) + distance).toNat := by
    refine ⟨by omega, by omega, ?_⟩
    have hsame : ((n : Int) + distance).toNat - ((low : Int) + distance).toNat = n - low := by omega
    rw [hsame, hstep]
  refine .of_areBehind hbehind hm.1 hm.2.1 ?_
  rw [foldCodes_of_unlisted hthere hm.1 hm.2.1, foldCodes_of_unlisted hhere hlow hhigh]
  obtain ⟨hmoves, hstays⟩ | ⟨hstays, hmoves⟩ := hshifts
  · rw [shiftCode_of_stays hstays hm, shiftCode_of_movesBy hmoves ⟨hlow, hhigh, hstep⟩]
  · rw [shiftCode_of_stays hstays ⟨hlow, hhigh, hstep⟩, shiftCode_of_movesBy hmoves hm]
    congr 1
    omega

theorem foldsAs_of_foldsOneByOne {run : Shift} (h : foldsOneByOne run = true)
    (hn : Counts run.1 run.2.1 run.2.2.1 n) : FoldsAs n (n + run.2.2.2).toNat := by
  obtain ⟨hlow, hhigh, hstep⟩ := hn
  have hk := List.all_eq_true.1 h (n - run.1) (List.mem_range.2 (by omega))
  have hsplit : run.1 + (n - run.1) = n := by omega
  have hcast : (run.1 : Int) + ((n - run.1 : Nat) : Int) = n := by omega
  simp only [hstep, bne_self_eq_false, Bool.false_or, hsplit, hcast, Bool.and_eq_true,
    beq_iff_eq] at hk
  exact .of_areBehind hk.1 (Nat.le_refl _) (Nat.le_refl _) hk.2

/-! ### Folding of lower case -/

/-- A character folds as its lower case. -/
theorem flatMap_lowerChar (c : Char) : (lowerChar c).flatMap foldChar = foldChar c := by
  unfold lowerChar
  split
  · rename_i hascii
    split
    · rename_i hcapital
      -- the small letter behind the capital folds to itself
      have hvalid : (c.toNat + 32).isValidChar := .inl (by omega)
      have hsmall : (Char.ofNat (c.toNat + 32)).toNat = c.toNat + 32 := by
        exact toNat_ofNat hvalid
      rw [List.flatMap_singleton, foldChar, foldChar, hsmall, if_pos (by omega), if_neg (by omega),
        if_pos hascii, if_pos hcapital]
    · rw [List.flatMap_singleton]
  · rename_i hascii
    split
    · rename_i hdotted
      subst hdotted
      decide +kernel
    · rw [List.flatMap_singleton]
      by_cases hstays : shiftCode lowerShifts c.toNat = c.toNat
      · rw [hstays, Char.ofNat_toNat]
      · obtain ⟨run, hrun, hcounts, hmoved⟩ := exists_run_of_ne hstays
        have hfolds : FoldsAs c.toNat (shiftCode lowerShifts c.toNat) := by
          rw [hmoved]
          obtain h | h := Bool.or_eq_true _ _ ▸ List.all_eq_true.1 foldsTogether_or_foldsOneByOne
            run hrun
          · exact foldsAs_of_foldsTogether h hcounts
          · exact foldsAs_of_foldsOneByOne h hcounts
        have hcode : (Char.ofNat (shiftCode lowerShifts c.toNat)).toNat =
            shiftCode lowerShifts c.toNat := by
          exact toNat_ofNat hfolds.valid
        rw [foldChar_eq (by rw [hcode]; exact hfolds.behind), hcode, hfolds.folds,
          foldChar_eq (by omega)]

/-- The two small sigmas fold alike, so the place of a sigma does not matter. -/
theorem flatMap_lowerAfter (before cs : List Char) :
    (lowerAfter before cs).flatMap foldChar = cs.flatMap foldChar := by
  induction cs generalizing before with
  | nil => rfl
  | cons c rest ih =>
    rw [lowerAfter, List.flatMap_append, ih, List.flatMap_cons]
    congr 1
    split
    · rename_i hsigma
      subst hsigma
      split <;> decide +kernel
    · exact flatMap_lowerChar c

/-- **A text folds as its lower case.** -/
theorem foldCase_lower (s : String) : foldCase (lower s) = foldCase s := by
  rw [foldCase, lower, String.toList_ofList, flatMap_lowerAfter, foldCase]

/-- Texts with one lower case fold alike. -/
theorem foldCase_eq_of_lower_eq {s t : String} (h : lower s = lower t) :
    foldCase s = foldCase t := by
  rw [← foldCase_lower s, h, foldCase_lower]

end Text
end Mixtape
