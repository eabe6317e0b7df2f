import Mixtape.Proofs.Action
import Mixtape.World

/-!
# Work in the world

What holds of the world is told part by part: of the database as it is, of the database as it was
last committed, and of what lies outside. Work on one part keeps what holds of the others.

## Main definitions

* `Holding D S O` — the database has `D`, the committed one `S`, and what lies outside `O`.
* `World.seen g` — the world, if only `g` is seen of what lies outside.

## Main results

* `meets_query`, `meets_asking`, `meets_ask`, `meets_commit` — the steps, part by part.
* `mirrors_query`, `mirrors_ask`, `mirrors_unit` — the steps in a world that is seen in part.
* `meets_unit` — **a unit of work**: committed at its end, rolled back when it fails.
* `runOn_query_eq_ok`, `runOn_ask_eq_ok`, `runOn_unit_eq_ok` — the steps of a run that succeeds.
* `runOn_unit_bind_error`, `runOn_unit_bind_ok` — a unit whose first part fails, or succeeds.
-/

namespace Mixtape

open Action

variable {σ α : Type} {D S : Database → Prop} {O : σ → Prop}

/-- The database has `D`, the committed one has `S`, and what lies outside has `O`. -/
def Holding (D S : Database → Prop) (O : σ → Prop) (w : World σ) : Prop :=
  D w.database ∧ S w.saved ∧ O w.outside

/-- Work on the database keeps what holds of the rest, also when it fails. -/
theorem meets_query {x : Action Database α} {D' : α → Database → Prop}
    (h : Yields D x D') :
    Meets (Holding D S O) (World.query x) (fun a => Holding (D' a) S O)
      fun _ w => S w.saved ∧ O w.outside := by
  refine meets_within ?_
  rintro w ⟨hd, hs, ho⟩
  refine h.imp ?_ (fun a d hd' => ⟨hd', hs, ho⟩) fun _ _ _ => ⟨hs, ho⟩
  rintro _ rfl
  exact hd

/-- Work on the database that cannot fail. -/
theorem meets_query_of_certain {x : Action Database α} {D' : α → Database → Prop}
    (h : Meets D x D' fun _ _ => False) {E : Failure → World σ → Prop} :
    Meets (Holding D S O) (World.query x) (fun a => Holding (D' a) S O) E := by
  refine meets_within ?_
  rintro w ⟨hd, hs, ho⟩
  exact (h.at_state hd).imp (fun _ => id) (fun _ _ hd' => ⟨hd', hs, ho⟩) fun _ _ => False.elim

/-- Work outside keeps what holds of the database, also when it fails. -/
theorem meets_asking {x : Action σ α} {O' : α → σ → Prop} {E : Failure → σ → Prop}
    (h : Meets O x O' E) :
    Meets (Holding D S O) (World.ask x) (fun a => Holding D S (O' a)) fun f => Holding D S (E f) := by
  refine meets_within ?_
  rintro w ⟨hd, hs, ho⟩
  refine h.imp ?_ (fun a d ho' => ⟨hd, hs, ho'⟩) fun _ _ he => ⟨hd, hs, he⟩
  rintro _ rfl
  exact ho

/-- Work outside that ends a unit of work when it fails. -/
theorem meets_ask {x : Action σ α} {O' : α → σ → Prop} {E : Failure → σ → Prop}
    (h : Meets O x O' E) :
    Meets (Holding D S O) (World.ask x) (fun a => Holding D S (O' a))
      fun f w => S w.saved ∧ E f w.outside :=
  (meets_asking h).imp_error fun _ _ he => he.2

theorem meets_commit {E : Failure → World σ → Prop} :
    Meets (Holding D S O) World.commit (fun _ => Holding D D O) E :=
  meets_modify fun _ h => ⟨h.1, h.1, h.2.2⟩

theorem keeps_now {I : World σ → Prop} (o : Outside σ) : Keeps I (World.now o) :=
  Keeps.bind keeps_get fun _ => keeps_pure _

/-- The clock does not fail. -/
theorem meets_now {I : World σ → Prop} {E : Failure → World σ → Prop} (o : Outside σ) :
    Meets I (World.now o) (fun _ => I) E := fun _ h => h

/-- **A unit of work.** At its end the database is committed; when it fails, the database is what
was last committed. -/
theorem meets_unit {P : World σ → Prop} {x : Action (World σ) α} {Q : α → World σ → Prop}
    {E : Failure → World σ → Prop}
    (h : Meets P x (fun a w => Q a { w with saved := w.database }) fun f w => E f w.rollback) :
    Meets P (World.unit x) Q E := by
  intro w hw
  have := h w hw
  unfold World.unit restoring World.commit
  simp only [runOn_ofRun, runOn_bind]
  revert this
  rcases x.runOn w with ⟨_ | a, t⟩ <;> exact id

/-! ### Runs -/

variable {w w' : World σ} {a : α}

/-- A unit whose first part fails is undone back to the last commit. -/
theorem runOn_unit_bind_error {β : Type} {x : Action (World σ) β} {k : β → Action (World σ) α}
    {f : Failure} (h : x.runOn w = (.error f, w')) :
    (World.unit (x >>= k)).runOn w = (.error f, w'.rollback) := by
  unfold World.unit restoring
  simp only [runOn_ofRun, runOn_bind, h]

/-- A unit whose first part succeeds goes on from there. -/
theorem runOn_unit_bind_ok {β : Type} {x : Action (World σ) β} {k : β → Action (World σ) α} {b : β}
    (h : x.runOn w = (.ok b, w')) :
    (World.unit (x >>= k)).runOn w = (World.unit (k b)).runOn w' := by
  unfold World.unit restoring
  simp only [runOn_ofRun, runOn_bind, h]

theorem runOn_query_eq_ok {x : Action Database α} : (World.query x).runOn w = (.ok a, w') ↔
    ∃ d, x.runOn w.database = (.ok a, d) ∧ w' = { w with database := d } := runOn_within_eq_ok

theorem runOn_ask_eq_ok {x : Action σ α} : (World.ask x).runOn w = (.ok a, w') ↔
    ∃ u, x.runOn w.outside = (.ok a, u) ∧ w' = { w with outside := u } := runOn_within_eq_ok

@[simp] theorem runOn_now (o : Outside σ) (w : World σ) :
    (World.now o).runOn w = (.ok (o.now w.outside), w) := rfl

theorem runOn_unit_eq_ok {x : Action (World σ) α} : (World.unit x).runOn w = (.ok a, w') ↔
    ∃ v, x.runOn w = (.ok a, v) ∧ w' = { v with saved := v.database } := by
  unfold World.unit restoring World.commit
  simp only [runOn_ofRun, runOn_bind]
  rcases x.runOn w with ⟨_ | b, v⟩
  · simp
  · constructor
    · intro h
      cases h
      exact ⟨v, rfl, rfl⟩
    · rintro ⟨_, h, rfl⟩
      cases h
      rfl

/-- Whether a unit succeeds is settled by the work in it. -/
theorem fst_runOn_unit (x : Action (World σ) α) (w : World σ) :
    ((World.unit x).runOn w).1 = (x.runOn w).1 := by
  unfold World.unit restoring
  simp only [runOn_ofRun, runOn_bind]
  rcases x.runOn w with ⟨_ | a, v⟩ <;> rfl

/-- A unit that is one piece of work on the database. -/
theorem runOn_unit_query_eq_ok {x : Action Database α} :
    (World.unit (World.query x)).runOn w = (.ok a, w') ↔
      ∃ d, x.runOn w.database = (.ok a, d) ∧ w' = { w with database := d, saved := d } := by
  rw [runOn_unit_eq_ok]
  constructor
  · rintro ⟨v, hv, rfl⟩
    obtain ⟨d, hd, rfl⟩ := runOn_query_eq_ok.1 hv
    exact ⟨d, hd, rfl⟩
  · rintro ⟨d, hd, rfl⟩
    exact ⟨_, runOn_query_eq_ok.2 ⟨d, hd, rfl⟩, rfl⟩

/-- Wherever a unit of work ends, everything is committed. -/
theorem committed_unit {x : Action (World σ) α} {r : Except Failure α}
    (ends : (World.unit x).runOn w = (r, w')) : w'.database = w'.saved := by
  have hmeets : Meets (fun _ => True) (World.unit x) (fun _ w => w.database = w.saved)
      fun _ w => w.database = w.saved := by
    refine meets_unit fun w _ => ?_
    split <;> rfl
  cases r with
  | ok a => exact hmeets.of_ok trivial ends
  | error f => exact hmeets.of_error trivial ends

/-! ### Worlds that are seen in part -/

section Mirroring

variable {τ β : Type} {g : τ → σ}

/-- The world, if only a part is seen of what lies outside. -/
def World.seen (g : τ → σ) (w : World τ) : World σ := ⟨w.database, w.saved, g w.outside⟩

theorem mirrors_query (x : Action Database α) :
    Mirrors (World.seen g) (World.query x) (World.query x) := fun _ => rfl

theorem mirrors_ask {x : Action σ α} {y : Action τ α} (h : Mirrors g y x) :
    Mirrors (World.seen g) (World.ask y) (World.ask x) := by
  intro w
  simp only [World.ask, World.seen, runOn_within, h w.outside]

theorem mirrors_commit : Mirrors (World.seen g) World.commit World.commit := fun _ => rfl

theorem mirrors_now {o : Outside σ} {q : Outside τ} (h : ∀ t, o.now (g t) = q.now t) :
    Mirrors (World.seen g) (World.now q) (World.now o) := by
  intro w
  rw [runOn_now, runOn_now, ← h]
  rfl

theorem mirrors_unit {x : Action (World σ) α} {y : Action (World τ) α}
    (h : Mirrors (World.seen g) y x) : Mirrors (World.seen g) (World.unit y) (World.unit x) := by
  intro w
  unfold World.unit restoring World.commit
  simp only [runOn_ofRun, runOn_bind, h w]
  rcases y.runOn w with ⟨_ | a, w'⟩ <;> rfl

end Mirroring

end Mixtape
