import Mixtape.Action

/-!
# What computations establish

A computation over a state is described by what holds before it, by what holds of its result and
the state it then reaches, and by what holds of its failure and the state it reaches then. What it
changed before it failed stays changed, so the last part matters as much as the second.

## Main definitions

* `Fails P r` — a checked value fails, in a way that has a property.
* `Action.Meets P x Q E` — from every state with `P`, the computation `x` ends in a result with `Q`
  or in a failure with `E`.
* `Action.Keeps I x` — `x` keeps `I`, whether it succeeds or fails.
* `Action.Yields P x Q` — the results of `x` have `Q`; nothing is said of its failures.
* `Action.noting`, `Action.beside` — a computation beside a note of failures, with or without its own.
* `Action.logging`, `Action.unlogged` — a computation beside a log, with or without an entry of its own.
* `Action.recording` — a computation beside a log, with entries that tell how it ended.
* `Action.Mirrors g y x` — on states of which only `g` is seen, `y` does what `x` does.

## Main results

* `Action.Meets.bind` — **one computation after another.**
* `Action.meets_attempt` — a failure handed back as a value.
* `Action.meets_logging` — **a logged computation ends as it would**, with one entry more.
* `Action.runOn_bind_eq_ok` — a run that succeeds, step by step.
-/

namespace Mixtape

/-! ### Checked values that fail -/

section Fails

variable {ε α β : Type} {P : ε → Prop} {r : Except ε α} {e : ε}

/-- Something fails, and in a way that has a property. -/
def Fails (P : ε → Prop) (r : Except ε α) : Prop := ∃ e, r = .error e ∧ P e

@[simp] theorem not_fails_ok {a : α} : ¬Fails P (.ok a) := by
  rintro ⟨e, h, -⟩
  cases h

@[simp] theorem fails_error_iff : Fails P (.error e : Except ε α) ↔ P e := by
  constructor
  · rintro ⟨_, h, hP⟩
    cases h
    exact hP
  · exact fun h => ⟨e, rfl, h⟩

/-- One step after another fails in the first, or in the second after the first has succeeded. -/
theorem fails_bind_iff {k : α → Except ε β} :
    Fails P (r >>= k) ↔ Fails P r ∨ ∃ a, r = .ok a ∧ Fails P (k a) := by
  cases r with
  | error e =>
    change Fails P (.error e) ↔ _
    simp
  | ok a =>
    change Fails P (k a) ↔ _
    simp

theorem not_fails_bind {k : α → Except ε β} (h : ¬Fails P r) (hk : ∀ a, ¬Fails P (k a)) :
    ¬Fails P (r >>= k) := by
  rw [fails_bind_iff]
  rintro (hr | ⟨a, -, ha⟩)
  · exact h hr
  · exact hk a ha

/-- What is said of the second step often does not depend on the result of the first. -/
theorem fails_then_iff {k : α → Except ε β} {Q : Prop} (h : ∀ a, Fails P (k a) ↔ Q) :
    Fails P (r >>= k) ↔ Fails P r ∨ (∃ a, r = .ok a) ∧ Q := by
  simp only [fails_bind_iff, h, exists_and_right]

theorem throw_bind_eq {k : α → Except ε β} : (throw e >>= k) = .error e := rfl

theorem fails_ite_iff {c : Prop} [Decidable c] {s : Except ε α} :
    Fails P (if c then r else s) ↔ c ∧ Fails P r ∨ ¬c ∧ Fails P s := by
  split <;> simp [*]

/-- A name is looked up, and it is a failure if there is none. -/
theorem fails_elim_iff {x : Option α} : Fails P (x.elim (.error e) .ok) ↔ x = none ∧ P e := by
  cases x <;> simp

theorem fails_mapError_iff {δ : Type} {Q : δ → Prop} {g : ε → δ} :
    Fails Q (r.mapError g) ↔ Fails (fun e => Q (g e)) r := by
  cases r with
  | error e => exact fails_error_iff.trans (fails_error_iff (P := fun e => Q (g e))).symm
  | ok a => exact iff_of_false not_fails_ok not_fails_ok

end Fails

/-! ### Computations -/

namespace Action

variable {σ τ α β : Type}

/-- From every state with `P`, a computation ends in a result with `Q` or in a failure with `E`. -/
def Meets (P : σ → Prop) (x : Action σ α) (Q : α → σ → Prop) (E : Failure → σ → Prop) : Prop :=
  ∀ s, P s → match x.runOn s with
    | (.ok a, t) => Q a t
    | (.error f, t) => E f t

/-- A computation keeps a property of the state, whether it succeeds or fails. -/
def Keeps (I : σ → Prop) (x : Action σ α) : Prop := Meets I x (fun _ => I) fun _ => I

/-- The results of a computation, and the states it reaches with them, have a property. -/
def Yields (P : σ → Prop) (x : Action σ α) (Q : α → σ → Prop) : Prop :=
  Meets P x Q fun _ _ => True

/-- A checked value computed from another: both checks have passed. -/
theorem exists_of_bind_eq_ok {ε : Type} {r : Except ε α} {f : α → Except ε β} {b : β}
    (h : (r >>= f) = .ok b) : ∃ a, r = .ok a ∧ f a = .ok b := by
  cases r with
  | error e => cases h
  | ok a => exact ⟨a, rfl, h⟩

/-- A pass that succeeds at each item. -/
theorem forM_eq_ok {f : α → Except Failure Unit} {l : List α} (h : ∀ a ∈ l, f a = .ok ()) :
    l.forM f = .ok () := by
  induction l with
  | nil => rfl
  | cons a l ih =>
    change (f a >>= fun _ => l.forM f) = _
    rw [h a List.mem_cons_self]
    exact ih fun b hb => h b (List.mem_cons_of_mem a hb)

variable {P P' I : σ → Prop} {x : Action σ α} {Q Q' : α → σ → Prop} {E E' : Failure → σ → Prop}

/-! ### Reading a description off, and weakening it -/

theorem Meets.of_ok (h : Meets P x Q E) {s t : σ} {a : α} (hs : P s)
    (hx : x.runOn s = (.ok a, t)) : Q a t := by
  have := h s hs
  rw [hx] at this
  exact this

theorem Meets.of_error (h : Meets P x Q E) {s t : σ} {f : Failure} (hs : P s)
    (hx : x.runOn s = (.error f, t)) : E f t := by
  have := h s hs
  rw [hx] at this
  exact this

theorem Meets.imp (h : Meets P x Q E) (hP : ∀ s, P' s → P s) (hQ : ∀ a s, Q a s → Q' a s)
    (hE : ∀ f s, E f s → E' f s) : Meets P' x Q' E' := by
  intro s hs
  have := h s (hP s hs)
  revert this
  rcases x.runOn s with ⟨_ | a, t⟩
  · exact hE _ t
  · exact hQ a t

/-- What a failure leaves may be told in other words. -/
theorem Meets.imp_error (h : Meets P x Q E) (hE : ∀ f s, E f s → E' f s) : Meets P x Q E' :=
  h.imp (fun _ => id) (fun _ _ => id) hE

theorem Meets.and (h : Meets P x Q E) (h' : Meets P x Q' E') :
    Meets P x (fun a s => Q a s ∧ Q' a s) fun f s => E f s ∧ E' f s := by
  intro s hs
  have h₁ := h s hs
  have h₂ := h' s hs
  revert h₁ h₂
  rcases x.runOn s with ⟨_ | a, t⟩ <;> exact fun h₁ h₂ => ⟨h₁, h₂⟩

/-- A computation ends as it does. -/
theorem meets_runOn (s : σ) : Meets (· = s) x (fun a t => x.runOn s = (.ok a, t))
    fun f t => x.runOn s = (.error f, t) := by
  rintro _ rfl
  split
  · assumption
  · assumption

/-- What holds before may be taken as it stands: the state is fixed and its property known. -/
theorem meets_of_forall (h : ∀ s, P s → Meets (· = s) x Q E) : Meets P x Q E :=
  fun s hs => h s hs s rfl

/-- A description holds from any one of the states it speaks of. -/
theorem Meets.at_state (h : Meets P x Q E) {s : σ} (hs : P s) : Meets (· = s) x Q E := by
  refine h.imp ?_ (fun _ _ => id) fun _ _ => id
  rintro _ rfl
  exact hs

/-- What is known apart from the state may be taken out. -/
theorem meets_of_and {A : Prop} (h : A → Meets P x Q E) : Meets (fun s => A ∧ P s) x Q E :=
  fun s hs => h hs.1 s hs.2

theorem meets_of_exists {γ : Type} {R : γ → σ → Prop} (h : ∀ c, Meets (R c) x Q E) :
    Meets (fun s => ∃ c, R c s) x Q E := by
  rintro s ⟨c, hs⟩
  exact h c s hs

theorem keeps_iff : Keeps I x ↔ ∀ s, I s → I (x.runOn s).2 := by
  constructor
  · intro h s hs
    have := h s hs
    revert this
    rcases x.runOn s with ⟨_ | a, t⟩ <;> exact id
  · intro h s hs
    have := h s hs
    revert this
    rcases x.runOn s with ⟨_ | a, t⟩ <;> exact id

theorem yields_iff :
    Yields P x Q ↔ ∀ s a t, P s → x.runOn s = (.ok a, t) → Q a t := by
  constructor
  · intro h s a t hs hx
    exact h.of_ok hs hx
  · intro h s hs
    rcases hx : x.runOn s with ⟨_ | a, t⟩
    · trivial
    · exact h s a t hs hx

theorem yields_true : Yields P x fun _ _ => True := yields_iff.2 fun _ _ _ _ _ => trivial

theorem Meets.yields (h : Meets P x Q E) : Yields P x Q :=
  h.imp_error fun _ _ _ => trivial

theorem Keeps.meets (h : Keeps I x) : Meets I x (fun _ => I) fun _ => I := h

/-- What a computation keeps still holds of its results. -/
theorem Keeps.yields (h : Keeps I x) : Yields I x fun _ => I := Meets.yields h

/-! ### The steps -/

theorem meets_pure {a : α} (h : ∀ s, P s → Q a s) : Meets P (pure a) Q E := h

theorem meets_throw {f : Failure} (h : ∀ s, P s → E f s) : Meets P (throw f : Action σ α) Q E := h

theorem meets_ofExcept {r : Except Failure α} (hok : ∀ a, r = .ok a → ∀ s, P s → Q a s)
    (herror : ∀ f, r = .error f → ∀ s, P s → E f s) : Meets P (ofExcept r) Q E := by
  intro s hs
  cases r with
  | ok a => exact hok a rfl s hs
  | error f => exact herror f rfl s hs

theorem meets_set {t : σ} {Q : PUnit → σ → Prop} (h : ∀ s, P s → Q ⟨⟩ t) :
    Meets P (set t : Action σ PUnit) Q E := h

theorem meets_modify {f : σ → σ} {Q : PUnit → σ → Prop} (h : ∀ s, P s → Q ⟨⟩ (f s)) :
    Meets P (modify f : Action σ PUnit) Q E := h

/-- **One computation after another.** What the first establishes is what the second starts from,
and a failure of either is a failure of both. -/
theorem Meets.bind {R : β → σ → Prop} {f : α → Action σ β} (h : Meets P x Q E)
    (hf : ∀ a, Meets (Q a) (f a) R E) : Meets P (x >>= f) R E := by
  intro s hs
  have := h s hs
  rw [runOn_bind]
  revert this
  rcases x.runOn s with ⟨_ | a, t⟩
  · exact id
  · exact hf a t

/-- A look at the state, with what is known of it, before a computation that depends on it. -/
theorem meets_get_bind {f : σ → Action σ α} (h : ∀ s, P s → Meets (· = s) (f s) Q E) :
    Meets P (get >>= f) Q E := by
  intro s hs
  rw [runOn_bind, runOn_get]
  exact h s hs s rfl

theorem meets_attempt {Q : Except Failure α → σ → Prop}
    (h : Meets P x (fun a => Q (.ok a)) fun f => Q (.error f)) : Meets P x.attempt Q E := by
  intro s hs
  have := h s hs
  rw [runOn_attempt]
  revert this
  rcases x.runOn s with ⟨_ | a, t⟩ <;> exact id

/-- What holds of an answer and the state: `Q` of a result, and `E` of a failure. -/
def Ends (Q : α → σ → Prop) (E : Failure → σ → Prop) : Except Failure α → σ → Prop
  | .ok a => Q a
  | .error f => E f

theorem Meets.attempt (h : Meets P x Q E) : Meets P x.attempt (Ends Q E) E' := meets_attempt h

theorem meets_within {part : σ → τ} {put : τ → σ → σ} {y : Action τ α} {P : σ → Prop}
    (h : ∀ s, P s →
      Meets (· = part s) y (fun a t => Q a (put t s)) fun f t => E f (put t s)) :
    Meets P (within part put y) Q E := by
  intro s hs
  have := h s hs (part s) rfl
  rw [runOn_within]
  revert this
  rcases y.runOn (part s) with ⟨_ | a, t⟩ <;> exact id

theorem meets_ite {c : Prop} [Decidable c] {y : Action σ α} (hx : c → Meets P x Q E)
    (hy : ¬c → Meets P y Q E) : Meets P (if c then x else y) Q E := by
  split
  · exact hx ‹c›
  · exact hy ‹¬c›

/-- A step that is taken only on a condition, before a computation that goes on either way. -/
theorem meets_when {c : Prop} [Decidable c] {y : Action σ Unit} {k : Unit → Action σ β}
    {J : σ → Prop} {R : β → σ → Prop} (hy : Meets P y (fun _ => J) E) (hskip : ∀ s, P s → J s)
    (hk : ∀ u, Meets J (k u) R E) : Meets P (if c then y >>= k else k ()) R E :=
  meets_ite (fun _ => hy.bind hk) fun _ => (hk ()).imp hskip (fun _ _ => id) fun _ _ => id

theorem Keeps.bind {f : α → Action σ β} (h : Keeps I x) (hf : ∀ a, Keeps I (f a)) :
    Keeps I (x >>= f) := Meets.bind h hf

/-- What keeps a property ends as it does, and the property holds then. -/
theorem Keeps.meets_runOn (h : Keeps I x) {s : σ} (hs : I s) :
    Meets (· = s) x (fun a t => x.runOn s = (.ok a, t) ∧ I t) fun _ => I :=
  ((Action.meets_runOn s).and (h.meets.at_state hs)).imp_error fun _ _ h => h.2

theorem keeps_pure (a : α) : Keeps I (pure a) := fun _ => id

theorem keeps_throw (f : Failure) : Keeps I (throw f : Action σ α) := fun _ => id

theorem keeps_ofExcept (r : Except Failure α) : Keeps I (ofExcept r) :=
  meets_ofExcept (fun _ _ _ => id) fun _ _ _ => id

theorem keeps_get : Keeps I (get : Action σ σ) := fun _ => id

theorem keeps_modify {f : σ → σ} (h : ∀ s, I s → I (f s)) : Keeps I (modify f : Action σ PUnit) := h

theorem Keeps.attempt (h : Keeps I x) : Keeps I x.attempt := meets_attempt h

theorem keeps_ite {c : Prop} [Decidable c] {y : Action σ α} (hx : Keeps I x) (hy : Keeps I y) :
    Keeps I (if c then x else y) := meets_ite (fun _ => hx) fun _ => hy

/-! ### Runs that succeed -/

section Runs

variable {s t : σ} {a : α} {b : β}

theorem runOn_bind_eq_ok {f : α → Action σ β} : (x >>= f).runOn s = (.ok b, t) ↔
    ∃ a u, x.runOn s = (.ok a, u) ∧ (f a).runOn u = (.ok b, t) := by
  rw [runOn_bind]
  rcases x.runOn s with ⟨_ | a, u⟩
  · simp
  · constructor
    · exact fun h => ⟨a, u, rfl, h⟩
    · rintro ⟨_, _, h, hf⟩
      cases h
      exact hf

theorem runOn_pure_eq_ok {a' : α} :
    (pure a : Action σ α).runOn s = (.ok a', t) ↔ a = a' ∧ s = t := by
  rw [runOn_pure, Prod.mk.injEq, Except.ok.injEq]

theorem runOn_ofExcept_eq_ok {r : Except Failure α} :
    (ofExcept r : Action σ α).runOn s = (.ok a, t) ↔ r = .ok a ∧ s = t := by
  rw [runOn_ofExcept, Prod.mk.injEq]

theorem runOn_within_eq_ok {part : σ → τ} {put : τ → σ → σ} {y : Action τ α} :
    (within part put y).runOn s = (.ok a, t) ↔
      ∃ u, y.runOn (part s) = (.ok a, u) ∧ t = put u s := by
  rw [runOn_within]
  rcases y.runOn (part s) with ⟨r, u⟩
  constructor
  · intro h
    cases h
    exact ⟨u, rfl, rfl⟩
  · rintro ⟨_, h, rfl⟩
    cases h
    rfl

theorem exists_of_isOk {r : Except Failure α × σ} (h : r.1.isOk = true) : ∃ a t, r = (.ok a, t) := by
  obtain ⟨_ | a, t⟩ := r
  · cases h
  · exact ⟨a, t, rfl⟩

/-- What cannot fail succeeds. -/
theorem Meets.exists_runOn (h : Meets P x Q fun _ _ => False) (hs : P s) :
    ∃ a t, x.runOn s = (.ok a, t) ∧ Q a t := by
  rcases hx : x.runOn s with ⟨f | a, t⟩
  · exact (h.of_error hs hx).elim
  · exact ⟨a, t, rfl, h.of_ok hs hx⟩

end Runs

/-! ### A note of failures -/

/-- A computation with a note that holds as long as nothing has failed. -/
def noting (x : Action σ α) : Action (σ × Bool) α :=
  .ofRun fun u => ((x.runOn u.1).1, (x.runOn u.1).2, u.2 && (x.runOn u.1).1.isOk)

/-- A computation that leaves the note, whether it fails or not. -/
def beside (x : Action σ α) : Action (σ × Bool) α := x.within Prod.fst fun t u => (t, u.2)

/-- If the note holds after a computation, it held before, and the computation has not failed. -/
theorem ok_of_noting {u t : σ × Bool} {r : Except Failure α} (h : x.noting.runOn u = (r, t))
    (hnote : t.2 = true) : u.2 = true ∧ ∃ a, r = .ok a ∧ x.runOn u.1 = (.ok a, t.1) := by
  unfold noting at h
  rw [runOn_ofRun] at h
  obtain ⟨rfl, rfl⟩ := Prod.mk.inj h
  obtain ⟨hbefore, hok⟩ := Bool.and_eq_true_iff.1 hnote
  refine ⟨hbefore, ?_⟩
  rcases hrun : x.runOn u.1 with ⟨f | a, t⟩
  · rw [hrun] at hok
    cases hok
  · exact ⟨a, rfl, rfl⟩

/-- The note holds after a computation that has not failed, if it held before. -/
theorem yields_noting : Yields (fun u : σ × Bool => u.2 = true) x.noting fun _ u => u.2 = true := by
  refine yields_iff.2 fun u a t hu h => ?_
  unfold noting at h
  rw [runOn_ofRun] at h
  obtain ⟨hrun, rfl⟩ := Prod.mk.inj h
  rw [hrun]
  exact Bool.and_eq_true_iff.2 ⟨hu, rfl⟩

theorem keeps_beside (note : Bool) : Keeps (fun u : σ × Bool => u.2 = note) x.beside :=
  keeps_iff.2 fun _ h => h

/-! ### A log -/

section Logging

variable {η : Type}

/-- The failure that a computation ended in. -/
def failure? : Except Failure α → Option Failure
  | .ok _ => none
  | .error f => some f

/-- A computation that leaves an entry in the log. -/
def logging (entry : Option Failure → η) (x : Action σ α) : Action (σ × List η) α :=
  .ofRun fun u => ((x.runOn u.1).1, (x.runOn u.1).2, u.2 ++ [entry (failure? (x.runOn u.1).1)])

/-- A computation that leaves the log. -/
def unlogged (x : Action σ α) : Action (σ × List η) α := x.within Prod.fst fun t u => (t, u.2)

variable {L : List η → Prop}

/-- **A logged computation ends as it would**, with one entry more. -/
theorem meets_logging (entry : Option Failure → η) (h : Meets P x Q E) :
    Meets (fun u => P u.1 ∧ L u.2) (x.logging entry)
      (fun a u => Q a u.1 ∧ ∃ log, L log ∧ u.2 = log ++ [entry none])
      fun f u => E f u.1 ∧ ∃ log, L log ∧ u.2 = log ++ [entry (some f)] := by
  rintro ⟨u, log⟩ ⟨hu, hlog⟩
  have := h u hu
  unfold logging
  rw [runOn_ofRun]
  revert this
  rcases x.runOn u with ⟨f | a, t⟩
  · exact fun hE => ⟨hE, log, hlog, rfl⟩
  · exact fun hQ => ⟨hQ, log, hlog, rfl⟩

theorem meets_unlogged (h : Meets P x Q E) :
    Meets (fun u => P u.1 ∧ L u.2) x.unlogged (fun a u => Q a u.1 ∧ L u.2)
      fun f u => E f u.1 ∧ L u.2 := by
  refine meets_within ?_
  rintro ⟨u, log⟩ ⟨hu, hlog⟩
  exact (h.at_state hu).imp (fun _ => id) (fun _ _ hQ => ⟨hQ, hlog⟩) fun _ _ hE => ⟨hE, hlog⟩

theorem keeps_unlogged : Keeps (fun u => L u.2) (x.unlogged : Action _ α) := keeps_iff.2 fun _ h => h

/-- A computation that leaves entries in the log according to how it ended. -/
def recording (entries : Except Failure α → List η) (x : Action σ α) : Action (σ × List η) α :=
  .ofRun fun u => ((x.runOn u.1).1, (x.runOn u.1).2, u.2 ++ entries (x.runOn u.1).1)

/-- Where every way to end has its entries, the log tells how it ended. -/
theorem meets_recording (entries : Except Failure α → List η) {Q : α → List η → Prop}
    {E : Failure → List η → Prop} (hok : ∀ log a, L log → Q a (log ++ entries (.ok a)))
    (herror : ∀ log f, L log → E f (log ++ entries (.error f))) :
    Meets (fun u => L u.2) (x.recording entries) (fun a u => Q a u.2) fun f u => E f u.2 := by
  rintro ⟨u, log⟩ hlog
  unfold recording
  rw [runOn_ofRun]
  rcases x.runOn u with ⟨f | a, t⟩
  · exact herror log f hlog
  · exact hok log a hlog

/-- With one entry for every way to end, the log gains the one that tells how it ended. -/
theorem meets_recorded (entry : Except Failure α → η) (log : List η) :
    Meets (fun u => u.2 = log) (x.recording fun r => [entry r])
      (fun a u => u.2 = log ++ [entry (.ok a)]) fun f u => u.2 = log ++ [entry (.error f)] := by
  refine meets_recording (L := (· = log)) (Q := fun a l => l = log ++ [entry (.ok a)])
    (E := fun f l => l = log ++ [entry (.error f)]) _ ?_ ?_
  · rintro _ a rfl
    rfl
  · rintro _ f rfl
    rfl

end Logging

/-! ### States that are seen in part -/

/-- Of a state of which only `g` is seen, the one computation does what the other does. -/
def Mirrors (g : τ → σ) (y : Action τ α) (x : Action σ α) : Prop :=
  ∀ t, x.runOn (g t) = ((y.runOn t).1, g (y.runOn t).2)

section Mirroring

variable {g : τ → σ} {y : Action τ α}

theorem mirrors_pure (a : α) : Mirrors g (pure a) (pure a) := fun _ => rfl

theorem mirrors_throw (f : Failure) : Mirrors g (throw f : Action τ α) (throw f) := fun _ => rfl

theorem mirrors_throw_bind (f : Failure) {e : β → Action τ α} {e' : β → Action σ α} :
    Mirrors g ((throw f : Action τ β) >>= e) ((throw f : Action σ β) >>= e') := fun _ => rfl

theorem mirrors_ofExcept (r : Except Failure α) : Mirrors g (ofExcept r) (ofExcept r) := fun _ => rfl

theorem mirrors_noting : Mirrors Prod.fst x.noting x := fun _ => rfl

theorem mirrors_beside : Mirrors Prod.fst x.beside x := fun _ => rfl

theorem mirrors_logging {η : Type} {entry : Option Failure → η} : Mirrors Prod.fst (x.logging entry) x :=
  fun _ => rfl

theorem mirrors_unlogged {η : Type} : Mirrors Prod.fst (x.unlogged : Action (σ × List η) α) x := fun _ => rfl

theorem mirrors_recording {η : Type} {entries : Except Failure α → List η} :
    Mirrors Prod.fst (x.recording entries) x := fun _ => rfl

theorem Mirrors.bind {f : α → Action σ β} {e : α → Action τ β} (h : Mirrors g y x)
    (hf : ∀ a, Mirrors g (e a) (f a)) : Mirrors g (y >>= e) (x >>= f) := by
  intro t
  rw [runOn_bind, runOn_bind, h t]
  rcases y.runOn t with ⟨_ | a, t'⟩
  · rfl
  · exact hf a t'

/-- What is read may differ as long as what is done with it does not. -/
theorem mirrors_get_bind {f : σ → Action σ α} {e : τ → Action τ α} (h : ∀ t, Mirrors g (e t) (f (g t))) :
    Mirrors g (get >>= e) (get >>= f) := fun t => h t t

theorem Mirrors.attempt (h : Mirrors g y x) : Mirrors g y.attempt x.attempt := by
  intro t
  rw [runOn_attempt, runOn_attempt, h t]

theorem mirrors_ite {c : Prop} [Decidable c] {x' : Action σ α} {y' : Action τ α} (h : Mirrors g y x)
    (h' : Mirrors g y' x') : Mirrors g (if c then y else y') (if c then x else x') := by
  split
  · exact h
  · exact h'

end Mirroring

end Action
end Mixtape
