import Mixtape.Number.Amount
import Mixtape.Sync.Progress

/-!
# Actions

A computation that changes a state and may fail. What it changed before it failed stays changed,
as with calls to a platform that cannot be taken back.

* `Action` — the computations over a state.
* `Action.attempt` — runs a computation and hands back its failure as a value.
* `Action.restoring` — undoes the changes of a computation that fails.
* `Action.within` — a computation on a part of the state.
* `Monitor` — how a long computation reports progress, pauses, and learns of cancellation.
-/

namespace Mixtape

/-- A computation over a state that may fail; the state after a failure is the state it had
reached. -/
abbrev Action (σ : Type) := ExceptT Failure (StateM σ)

namespace Action

variable {σ α : Type}

/-- Runs a computation: its result or failure, and the state it reaches. -/
def runOn (x : Action σ α) (s : σ) : Except Failure α × σ := (ExceptT.run x).run s

/-- A computation given by its result and the state it reaches. -/
def ofRun (f : σ → Except Failure α × σ) : Action σ α := ExceptT.mk f

/-- A checked value as a computation. -/
def ofExcept (r : Except Failure α) : Action σ α := ofRun fun s => (r, s)

/-- Runs a computation and hands back its failure as a value. -/
def attempt (x : Action σ α) : Action σ (Except Failure α) :=
  ofRun fun s => let (r, t) := x.runOn s; (.ok r, t)

/-- Runs a computation; after a failure the given part of the state is put back. -/
def restoring (restore : (before after : σ) → σ) (x : Action σ α) : Action σ α :=
  ofRun fun s =>
    match x.runOn s with
    | (.ok a, t) => (.ok a, t)
    | (.error f, t) => (.error f, restore s t)

/-- A computation on a part of the state. -/
def within {τ : Type} (part : σ → τ) (put : τ → σ → σ) (x : Action τ α) : Action σ α :=
  ofRun fun s => let (r, t) := x.runOn (part s); (r, put t s)

@[simp] theorem runOn_pure (a : α) (s : σ) : (pure a : Action σ α).runOn s = (.ok a, s) := rfl

@[simp] theorem runOn_throw (f : Failure) (s : σ) :
    (throw f : Action σ α).runOn s = (.error f, s) := rfl

@[simp] theorem runOn_ofRun (f : σ → Except Failure α × σ) (s : σ) :
    (ofRun f).runOn s = f s := rfl

@[simp] theorem runOn_ofExcept (r : Except Failure α) (s : σ) :
    (ofExcept r : Action σ α).runOn s = (r, s) := rfl

@[simp] theorem runOn_within {τ : Type} (part : σ → τ) (put : τ → σ → σ) (x : Action τ α) (s : σ) :
    (within part put x).runOn s = ((x.runOn (part s)).1, put (x.runOn (part s)).2 s) := rfl

@[simp] theorem runOn_get (s : σ) : (get : Action σ σ).runOn s = (.ok s, s) := rfl

@[simp] theorem runOn_set (s t : σ) : (set t : Action σ PUnit).runOn s = (.ok ⟨⟩, t) := rfl

@[simp] theorem runOn_modify (f : σ → σ) (s : σ) :
    (modify f : Action σ PUnit).runOn s = (.ok ⟨⟩, f s) := rfl

theorem runOn_bind {β : Type} (x : Action σ α) (f : α → Action σ β) (s : σ) :
    (x >>= f).runOn s =
      match x.runOn s with
      | (.ok a, t) => (f a).runOn t
      | (.error e, t) => (.error e, t) := by
  simp only [runOn, ExceptT.run_bind, StateT.run_bind]
  rcases (StateT.run (ExceptT.run x) s) with ⟨r, t⟩
  cases r <;> rfl

@[simp] theorem runOn_attempt (x : Action σ α) (s : σ) :
    x.attempt.runOn s = (.ok (x.runOn s).1, (x.runOn s).2) := rfl

end Action

/-- How a long computation reports progress, pauses, and learns of cancellation. -/
structure Monitor (σ : Type) where
  /-- Takes note of progress. -/
  report : Progress → Action σ Unit
  /-- Fails if cancellation was asked for. -/
  check : Action σ Unit
  /-- Pauses for a number of seconds. -/
  pause : Amount → Action σ Unit

namespace Monitor

variable {σ : Type}

/-- Reports how far a phase has come. -/
def tell (m : Monitor σ) (phase : String) (current total : Int) (message : String) :
    Action σ Unit :=
  m.report (.of phase current total message)

/-- A monitor of a part of the state. -/
def within {τ : Type} (part : σ → τ) (put : τ → σ → σ) (m : Monitor τ) : Monitor σ where
  report p := Action.within part put (m.report p)
  check := Action.within part put m.check
  pause seconds := Action.within part put (m.pause seconds)

/-- Pauses if the time is positive. -/
def pauseFor (m : Monitor σ) (seconds : Amount) : Action σ Unit :=
  if 0 < seconds.units then m.pause seconds else pure ()

end Monitor

end Mixtape
