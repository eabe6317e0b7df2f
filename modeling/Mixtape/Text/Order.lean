/-!
# The order of texts

Texts are ordered by the code points of their characters, a beginning before what it begins.

* `leChars` — the order on lists of characters.
* `leText`, `leTexts` — the order on texts and on lists of texts.
-/

namespace Mixtape.Text

/-- Whether `a` comes no later than `b`. -/
def leChars : (a b : List Char) → Bool
  | [], _ => true
  | _ :: _, [] => false
  | c :: a, d :: b => decide (c.toNat < d.toNat) || (c == d && leChars a b)

/-- Whether `s` comes no later than `t`. -/
def leText (s t : String) : Bool := leChars s.toList t.toList

/-- Whether the list `a` comes no later than `b`, the first difference deciding. -/
def leTexts : (a b : List String) → Bool
  | [], _ => true
  | _ :: _, [] => false
  | s :: a, t :: b => if s = t then leTexts a b else leText s t

@[simp] theorem leChars_nil (b : List Char) : leChars [] b = true := rfl

theorem leChars_refl : ∀ a : List Char, leChars a a = true
  | [] => rfl
  | c :: a => by simp [leChars, leChars_refl a]

theorem leChars_total : ∀ a b : List Char, leChars a b = true ∨ leChars b a = true
  | [], _ => Or.inl rfl
  | _ :: _, [] => Or.inr rfl
  | c :: a, d :: b => by
    by_cases h : c = d
    · subst h
      simpa [leChars] using leChars_total a b
    · have hne : c.toNat ≠ d.toNat := fun e => h (Char.toNat_inj.1 e)
      rcases Nat.lt_or_gt_of_ne hne with hlt | hgt
      · exact Or.inl (by simp [leChars, hlt])
      · exact Or.inr (by simp [leChars, hgt])

theorem leChars_antisymm : ∀ {a b : List Char}, leChars a b = true → leChars b a = true → a = b
  | [], [], _, _ => rfl
  | [], _ :: _, _, h => by simp [leChars] at h
  | _ :: _, [], h, _ => by simp [leChars] at h
  | c :: a, d :: b, hab, hba => by
    simp only [leChars, Bool.or_eq_true, decide_eq_true_eq, Bool.and_eq_true, beq_iff_eq] at hab hba
    rcases hab with hlt | ⟨rfl, hab⟩
    · rcases hba with hgt | ⟨rfl, -⟩ <;> omega
    · rcases hba with hgt | ⟨-, hba⟩
      · omega
      · rw [leChars_antisymm hab hba]

theorem leChars_trans : ∀ {a b c : List Char},
    leChars a b = true → leChars b c = true → leChars a c = true
  | [], _, _, _, _ => rfl
  | _ :: _, [], _, h, _ => by simp [leChars] at h
  | _ :: _, _ :: _, [], _, h => by simp [leChars] at h
  | x :: a, y :: b, z :: c, hab, hbc => by
    simp only [leChars, Bool.or_eq_true, decide_eq_true_eq, Bool.and_eq_true, beq_iff_eq]
      at hab hbc ⊢
    rcases hab with hxy | ⟨rfl, hab⟩
    · rcases hbc with hyz | ⟨rfl, -⟩
      · exact Or.inl (by omega)
      · exact Or.inl hxy
    · rcases hbc with hyz | ⟨rfl, hbc⟩
      · exact Or.inl hyz
      · exact Or.inr ⟨rfl, leChars_trans hab hbc⟩

theorem leText_total (s t : String) : leText s t = true ∨ leText t s = true :=
  leChars_total s.toList t.toList

theorem leText_trans (s t u : String) (hst : leText s t = true) (htu : leText t u = true) :
    leText s u = true := leChars_trans hst htu

theorem leText_antisymm {s t : String} (hst : leText s t = true) (hts : leText t s = true) :
    s = t := String.toList_inj.1 (leChars_antisymm hst hts)

end Mixtape.Text
