import Mixtape.Proofs.Action
import Mixtape.Sync.Apply

/-!
# Diffs applied on states that are seen in part

Applying a diff sees of the state what its writer and its monitor answer, and no more. So a writer and a
monitor may keep something beside, a note or a log, and the work ends as it would without.

## Main definitions

* `Monitor.Mirrors g k m` — reports, checks and pauses answer alike, if only `g` is seen of the state.

## Main results

* `mirrors_runChunks`, `mirrors_processChunks` — chunk by chunk.
* `mirrors_diff_apply` — **a diff applied by calls that answer alike.**
-/

namespace Mixtape

open Action

/-- Reports, checks and pauses end alike, and change what is seen alike. -/
structure Monitor.Mirrors {σ τ : Type} (g : τ → σ) (k : Monitor τ) (m : Monitor σ) : Prop where
  /-- Progress is reported. -/
  report : ∀ p, Action.Mirrors g (k.report p) (m.report p)
  /-- Cancellation is looked for. -/
  check : Action.Mirrors g k.check m.check
  /-- The work pauses. -/
  pause : ∀ seconds, Action.Mirrors g (k.pause seconds) (m.pause seconds)

section Mirroring

variable {σ τ ι ρ : Type} {g : τ → σ} {k : Monitor τ} {m : Monitor σ} {pacing pacing' : Pacing}
  {hook : Nat → Nat → Action σ Unit} {hook' : Nat → Nat → Action τ Unit}
  {call : List ι → Action σ ρ} {call' : List ι → Action τ ρ}

theorem Monitor.Mirrors.pauseFor (h : k.Mirrors g m) (seconds : Amount) :
    Action.Mirrors g (k.pauseFor seconds) (m.pauseFor seconds) :=
  mirrors_ite (h.pause seconds) (mirrors_pure ())

theorem Monitor.Mirrors.chunkHook (h : k.Mirrors g m) (operation : ChunkOperation) (before : Nat)
    (total : Int) (index count : Nat) :
    Action.Mirrors g (chunkHook k operation before total index count)
      (chunkHook m operation before total index count) :=
  h.check.bind fun _ => h.report _

theorem mirrors_bounded {x : Action σ ρ} {y : Action τ ρ} (h : Action.Mirrors g y x) :
    Action.Mirrors g (pacing.bounded y) (pacing.bounded x) :=
  mirrors_ite h (mirrors_throw _)

/-- Chunks that are worked off alike have the same outcomes. -/
theorem mirrors_runChunks (h : k.Mirrors g m) (hhook : ∀ i n, Action.Mirrors g (hook' i n) (hook i n))
    (hcall : ∀ chunk,
      Action.Mirrors g (pacing'.bounded (call' chunk)) (pacing.bounded (call chunk)))
    (hdelay : pacing'.delay = pacing.delay) (isolate : List FailureKind) (total index : Nat)
    (chunks : List (List ι)) :
    Action.Mirrors g (runChunks k pacing' hook' isolate call' total index chunks)
      (runChunks m pacing hook isolate call total index chunks) := by
  induction chunks generalizing index with
  | nil => exact mirrors_pure []
  | cons chunk rest ih =>
    unfold runChunks
    rw [hdelay]
    refine (hhook index total).bind fun _ => ?_
    -- what follows a call is the same whether there is a pause before it or not
    refine mirrors_ite ((h.pauseFor _).bind ?rest) (?rest ())
    refine fun _ => (hcall chunk).attempt.bind fun result => ?_
    rcases result with f | r
    · exact mirrors_ite ((ih _).bind fun _ => mirrors_pure _) (mirrors_throw f)
    · exact (ih _).bind fun _ => mirrors_pure _

theorem mirrors_processChunks (h : k.Mirrors g m)
    (hhook : ∀ i n, Action.Mirrors g (hook' i n) (hook i n))
    (hcall : ∀ chunk,
      Action.Mirrors g (pacing'.bounded (call' chunk)) (pacing.bounded (call chunk)))
    (hdelay : pacing'.delay = pacing.delay) (isolate : List FailureKind) (items : List ι) (size : Int) :
    Action.Mirrors g (processChunks k pacing' hook' isolate call' items size)
      (processChunks m pacing hook isolate call items size) :=
  (mirrors_ofExcept _).bind fun _ => mirrors_runChunks h hhook hcall hdelay isolate _ _ _

variable {w : Writer σ} {v : Writer τ} {d : Diff}

/-- **A diff is applied alike by calls that answer alike.** -/
theorem mirrors_diff_apply (h : k.Mirrors g m)
    (hremove : ∀ chunk, Action.Mirrors g (pacing'.bounded (v.remove d.playlist chunk))
      (pacing.bounded (w.remove d.playlist chunk)))
    (hadd : ∀ chunk, Action.Mirrors g (pacing'.bounded (v.add d.playlist chunk))
      (pacing.bounded (w.add d.playlist chunk)))
    (hdelay : pacing'.delay = pacing.delay) (size : Int) :
    Action.Mirrors g (d.apply v k ⟨size, pacing'⟩) (d.apply w m ⟨size, pacing⟩) := by
  unfold Diff.apply
  dsimp only
  rw [hdelay]
  refine mirrors_ite (mirrors_pure _) ?_
  refine (mirrors_ofExcept _).bind fun total => ?_
  refine (mirrors_processChunks h (h.chunkHook .remove 0 total) hremove hdelay passingKinds _ size).bind
    fun removed => ?_
  -- what follows the removals is the same whether there is a pause after them or not
  refine mirrors_ite ((h.pauseFor _).bind ?additions) (?additions ())
  refine fun _ => (mirrors_processChunks h (h.chunkHook .add removed.length total) hadd hdelay
    passingKinds _ size).bind fun added => ?_
  exact (h.report _).bind fun _ => mirrors_pure _

end Mirroring

end Mixtape
