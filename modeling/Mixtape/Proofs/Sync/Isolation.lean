import Mixtape.Proofs.Sync.Trace

/-!
# Work in chunks, step by step

A list is cut into chunks, and for each chunk in turn the hook runs and the chunk is handed out. What the
hook fails with ends the work, whatever it is; what a call fails with ends it only if it is of no isolated
kind. So the work ends with the first failure that ends it, and nothing is done after that; or it comes to
its end, with one outcome for each chunk.

To say so the steps are listed beside the run, each with what it ended in. The run does not see the list. A
call that takes too long ends in `timeout`, as one does whose time has passed before it begins; its chunk was
handed out all the same.

## Main definitions

* `CutInto size items chunks` — the chunks of a list.
* `ChunkTurn`, `ChunkStep` — what is done in a step, and a step with its answer.
* `tracedChunks` — the work, beside the list of its steps.
* `ChunkRun isolate total index chunks log r` — work on chunks, one constructor for each way it goes on or
  ends.
* `Action.GoesThrough isolate total index chunks x` — a computation that goes one of these ways.
* `WorkedOff isolate chunks r log` — what the steps and the result of work on chunks look like.

## Main results

* `cutInto_chunksOf` — the chunks of a list are all full, but for the last.
* `mirrors_tracedChunks` — the work does not see the list.
* `goesThrough_runChunks` — **work in chunks goes one of the ways there are**, chunk by chunk.
* `ChunkRun.outcomes_of_ok`, `ChunkRun.ended_of_error` — what a run that returns tells, and what ends one
  that does not.
* `processChunks_isolates` — **chunks are handed out in order, and isolated failures are put down to
  theirs.**
-/

namespace Mixtape

open Action

/-! ### The chunks -/

section Chunks

variable {ι : Type} {size : Int} {items : List ι}

/-- Chunks that hold a list, in order, with `size` items each but for the last. -/
structure CutInto (size : Int) (items : List ι) (chunks : List (List ι)) : Prop where
  /-- Together they are the list. -/
  flatten : chunks.flatten = items
  /-- All but the last are full. -/
  full : ∀ chunk ∈ chunks.dropLast, (chunk.length : Int) = size
  /-- None is empty, and none has more items. -/
  bounded : ∀ chunk ∈ chunks, chunk ≠ [] ∧ (chunk.length : Int) ≤ size

/-- **The chunks of a list** hold its items in order, and all but the last are full. -/
theorem cutInto_chunksOf (hsize : IsChunkSize size) (items : List ι) :
    CutInto size items (chunksOf size.toNat items) where
  flatten := flatten_chunksOf hsize.toNat_pos items
  full chunk h := by
    rw [length_eq_of_mem_dropLast_chunksOf h]
    exact Int.toNat_of_nonneg (Int.le_of_lt hsize.1)
  bounded chunk h := by
    have hlength := length_le_of_mem_chunksOf h
    have hpositive := hsize.1
    exact ⟨ne_nil_of_mem_chunksOf hsize.toNat_pos h, by omega⟩

end Chunks

/-! ### The steps -/

/-- What is done in a step. -/
inductive ChunkTurn (ι : Type) where
  /-- The hook runs, before the chunk with place `index` of `total`. -/
  | hook (index total : Nat)
  /-- A chunk is handed out. -/
  | call (items : List ι)

/-- What is done for chunks, the first of which has place `index` of `total`: for each the hook runs, and
then the chunk is handed out. -/
def turns {ι : Type} (total : Nat) : (index : Nat) → List (List ι) → List (ChunkTurn ι)
  | _, [] => []
  | index, chunk :: rest => .hook index total :: .call chunk :: turns total (index + 1) rest

/-- A step, with what it ended in. -/
inductive ChunkStep (ι ρ : Type) where
  /-- The hook ran, before the chunk with place `index` of `total`. -/
  | hook (index total : Nat) (answer : Except Failure Unit)
  /-- A chunk was handed out. -/
  | call (items : List ι) (answer : Except Failure ρ)
  deriving DecidableEq

namespace ChunkStep

variable {ι ρ : Type}

/-- What was done. -/
def turn : ChunkStep ι ρ → ChunkTurn ι
  | hook index total _ => .hook index total
  | call items _ => .call items

/-- The chunk that was handed out, and the answer. -/
def call? : ChunkStep ι ρ → Option (List ι × Except Failure ρ)
  | hook _ _ _ => none
  | call items answer => some (items, answer)

/-- The failure that ends the work: every one of the hook, and that of a call if it is of no isolated
kind. -/
def ends? (isolate : List FailureKind) : ChunkStep ι ρ → Option Failure
  | hook _ _ answer => failure? answer
  | call _ answer => (failure? answer).filter fun f => !isolate.any (·.covers f)

variable {isolate : List FailureKind} {items : List ι} {answer : Except Failure ρ}

/-- A call does not end the work exactly if its failure, when it has one, is of an isolated kind. -/
theorem ends?_call_eq_none_iff : (call items answer).ends? isolate = none ↔
    ∀ f, answer = .error f → isolate.any (·.covers f) = true := by
  cases answer <;> simp [ends?, failure?]

theorem ends?_call_error {f : Failure} (h : isolate.any (·.covers f) = false) :
    (call items (.error f : Except Failure ρ)).ends? isolate = some f := by
  simp [ends?, failure?, h]

end ChunkStep

section Steps

variable {σ ι ρ : Type}

/-- The chunks that were handed out, in order, each with the answer. -/
def handedOut (log : List (ChunkStep ι ρ)) : List (List ι × Except Failure ρ) :=
  log.filterMap ChunkStep.call?

theorem handedOut_turn (index total : Nat) (hooked : Except Failure Unit) (items : List ι)
    (answer : Except Failure ρ) (log : List (ChunkStep ι ρ)) :
    handedOut (.hook index total hooked :: .call items answer :: log) =
      (items, answer) :: handedOut log := rfl

/-- The hook, listed when it has ended. -/
def tracedHook (hook : Nat → Nat → Action σ Unit) (index total : Nat) :
    Action (σ × List (ChunkStep ι ρ)) Unit :=
  (hook index total).recording fun answer => [.hook index total answer]

/-- A call within its time, listed when it has ended. -/
def tracedHandout (pacing : Pacing) (call : List ι → Action σ ρ) (chunk : List ι) :
    Action (σ × List (ChunkStep ι ρ)) ρ :=
  (pacing.bounded (call chunk)).recording fun answer => [.call chunk answer]

/-- A monitor that leaves the list. -/
def Monitor.besideSteps (m : Monitor σ) : Monitor (σ × List (ChunkStep ι ρ)) :=
  m.within Prod.fst fun t u => (t, u.2)

/-- The work on a list in chunks, beside the list of its steps. The calls keep their time before they are
listed, so the work sets them none. -/
def tracedChunks (m : Monitor σ) (pacing : Pacing) (hook : Nat → Nat → Action σ Unit)
    (isolate : List FailureKind) (call : List ι → Action σ ρ) (items : List ι) (size : Int) :
    Action (σ × List (ChunkStep ι ρ)) (List (Outcome ι ρ)) :=
  processChunks m.besideSteps { delay := pacing.delay } (tracedHook hook) isolate
    (tracedHandout pacing call) items size

variable {m : Monitor σ} {pacing : Pacing} {hook : Nat → Nat → Action σ Unit}
  {isolate : List FailureKind} {call : List ι → Action σ ρ} {items : List ι} {size : Int}

theorem mirrors_tracedHandout (chunk : List ι) : Action.Mirrors Prod.fst
    (tracedHandout pacing call chunk : Action (σ × List (ChunkStep ι ρ)) ρ)
    (pacing.bounded (call chunk)) := mirrors_recording

/-- **The work does not see the list.** -/
theorem mirrors_tracedChunks (m : Monitor σ) (pacing : Pacing) (hook : Nat → Nat → Action σ Unit)
    (isolate : List FailureKind) (call : List ι → Action σ ρ) (items : List ι) (size : Int) :
    Action.Mirrors Prod.fst (tracedChunks m pacing hook isolate call items size)
      (processChunks m pacing hook isolate call items size) := by
  have hm : (m.besideSteps : Monitor (σ × List (ChunkStep ι ρ))).Mirrors Prod.fst m :=
    ⟨fun _ => mirrors_unlogged, mirrors_unlogged, fun _ => mirrors_unlogged⟩
  have hcall : ∀ chunk, Action.Mirrors Prod.fst
      (Pacing.bounded { delay := pacing.delay }
        (tracedHandout pacing call chunk : Action (σ × List (ChunkStep ι ρ)) ρ))
      (pacing.bounded (call chunk)) := mirrors_tracedHandout
  exact mirrors_processChunks hm (fun _ _ => mirrors_recording) hcall rfl isolate items size

/-! ### The ways the work goes -/

/-- Work on chunks, the first of which has place `index` of `total`: its steps, and what it ends in. -/
inductive ChunkRun (isolate : List FailureKind) (total : Nat) :
    (index : Nat) → List (List ι) → List (ChunkStep ι ρ) → Except Failure (List (Outcome ι ρ)) → Prop
  /-- There are no more chunks. -/
  | finished (index : Nat) : ChunkRun isolate total index [] [] (.ok [])
  /-- The hook fails before a chunk. -/
  | stopped {index : Nat} {chunk : List ι} {rest : List (List ι)} (f : Failure) :
      ChunkRun isolate total index (chunk :: rest) [.hook index total (.error f)] (.error f)
  /-- The call for a chunk fails, and not in a way that is put down to it. -/
  | broken {index : Nat} {chunk : List ι} {rest : List (List ι)} {f : Failure}
      (ended : isolate.any (·.covers f) = false) :
      ChunkRun isolate total index (chunk :: rest)
        [.hook index total (.ok ()), .call chunk (.error f)] (.error f)
  /-- The call for a chunk succeeds, or its failure is put down to it, and the others follow. -/
  | goesOn {index : Nat} {chunk : List ι} {rest : List (List ι)} {answer : Except Failure ρ}
      {log : List (ChunkStep ι ρ)} {r : Except Failure (List (Outcome ι ρ))}
      (isolated : ∀ f, answer = .error f → isolate.any (·.covers f) = true)
      (others : ChunkRun isolate total (index + 1) rest log r) :
      ChunkRun isolate total index (chunk :: rest)
        (.hook index total (.ok ()) :: .call chunk answer :: log)
        (r.map fun os => ⟨index, chunk, answer⟩ :: os)

/-- A computation takes the steps of one of the ways there are, and ends as this way does. -/
def Action.GoesThrough (isolate : List FailureKind) (total index : Nat) (chunks : List (List ι))
    (x : Action (σ × List (ChunkStep ι ρ)) (List (Outcome ι ρ))) : Prop :=
  ∀ log, Meets (fun u => u.2 = log) x
    (fun os u => ∃ new, ChunkRun isolate total index chunks new (.ok os) ∧ u.2 = log ++ new)
    fun f u => ∃ new, ChunkRun isolate total index chunks new (.error f) ∧ u.2 = log ++ new

/-- After a call that does not end the work, the others are worked off. -/
theorem Action.GoesThrough.goesOn {total index : Nat} {chunk : List ι} {rest : List (List ι)}
    {answer : Except Failure ρ} {x : Action (σ × List (ChunkStep ι ρ)) (List (Outcome ι ρ))}
    (h : GoesThrough isolate total (index + 1) rest x)
    (isolated : ∀ f, answer = .error f → isolate.any (·.covers f) = true) (log : List (ChunkStep ι ρ)) :
    Meets (fun u => u.2 = log ++ [.hook index total (.ok ()), .call chunk answer])
      (x >>= fun others => pure (⟨index, chunk, answer⟩ :: others))
      (fun os u => ∃ new, ChunkRun isolate total index (chunk :: rest) new (.ok os) ∧ u.2 = log ++ new)
      fun f u => ∃ new, ChunkRun isolate total index (chunk :: rest) new (.error f) ∧ u.2 = log ++ new := by
  refine Meets.bind ((h _).imp_error ?_) fun others => meets_pure ?_
  · rintro f u ⟨new, hnew, hu⟩
    exact ⟨_, .goesOn isolated hnew, hu.trans (List.append_assoc ..)⟩
  · rintro u ⟨new, hnew, hu⟩
    exact ⟨_, .goesOn isolated hnew, hu.trans (List.append_assoc ..)⟩

/-- A pause that does not fail leaves the list as it is. -/
theorem meets_pauseFor_besideSteps
    (hpause : ∀ x, Meets (fun _ => True) (m.pause x) (fun _ _ => True) fun _ _ => False)
    (seconds : Amount) (log : List (ChunkStep ι ρ)) {E : Failure → σ × List (ChunkStep ι ρ) → Prop} :
    Meets (fun u => u.2 = log) (m.besideSteps.pauseFor seconds) (fun _ u => u.2 = log) E := by
  have hone : ∀ x, Meets (fun u => u.2 = log) (m.besideSteps.pause x) (fun _ u => u.2 = log) E :=
    fun x => (meets_unlogged (L := (· = log)) (hpause x)).imp (fun _ hu => ⟨trivial, hu⟩)
      (fun _ _ hu => hu.2) fun _ _ hu => hu.1.elim
  exact meets_pauseFor hone (fun _ => id) seconds

/-- **Work in chunks goes one of the ways there are**, where pauses do not fail. -/
theorem goesThrough_runChunks
    (hpause : ∀ x, Meets (fun _ => True) (m.pause x) (fun _ _ => True) fun _ _ => False)
    (total index : Nat) (chunks : List (List ι)) :
    GoesThrough isolate total index chunks
      (runChunks m.besideSteps { delay := pacing.delay } (tracedHook hook) isolate
        (tracedHandout pacing call) total index chunks) := by
  induction chunks generalizing index with
  | nil =>
    intro log
    refine meets_pure fun u hu => ⟨[], .finished index, ?_⟩
    rw [hu, List.append_nil]
  | cons chunk rest ih =>
    intro log
    unfold runChunks
    -- the hook
    refine Meets.bind (Q := fun _ u => u.2 = log ++ [.hook index total (.ok ())])
      ((meets_recorded _ log).imp (fun _ => id) (fun _ _ => id) ?_) fun _ => ?_
    · exact fun f u hu => ⟨_, .stopped f, hu⟩
    -- the pause
    refine meets_when (J := fun u => u.2 = log ++ [.hook index total (.ok ())])
      (meets_pauseFor_besideSteps hpause _ _) (fun _ => id) fun _ => ?_
    -- the call
    rw [bounded_of_timeLimit_none]
    refine Meets.bind (Q := fun r u => u.2 = log ++ [.hook index total (.ok ()), .call chunk r])
      (meets_attempt ?_) fun r => ?_
    · refine (meets_recorded _ _).imp (fun _ => id) ?_ ?_
      · exact fun a u hu => hu.trans (List.append_assoc ..)
      · exact fun f u hu => hu.trans (List.append_assoc ..)
    -- what becomes of the others
    cases r with
    | ok a => exact (ih (index + 1)).goesOn (fun f hf => by cases hf) log
    | error f =>
      refine meets_ite (fun hisolated => (ih (index + 1)).goesOn ?_ log) fun hended => ?_
      · intro f' hf
        cases hf
        exact hisolated
      · exact meets_throw fun u hu => ⟨_, .broken (Bool.eq_false_iff.2 hended), hu⟩

/-! ### What the steps tell -/

namespace ChunkRun

variable {total index : Nat} {chunks : List (List ι)} {log : List (ChunkStep ι ρ)}
  {r : Except Failure (List (Outcome ι ρ))}

/-- What was done is the beginning of what there is to be done. -/
theorem turns_prefix (h : ChunkRun isolate total index chunks log r) :
    log.map ChunkStep.turn <+: turns total index chunks := by
  induction h with
  | finished => exact List.prefix_rfl
  | stopped => exact List.prefix_append [_] _
  | broken => exact List.prefix_append [_, _] _
  | goesOn _ _ ih => exact (List.prefix_append_right_inj [_, _]).2 ih

/-- **Chunks are handed out in order**, each at most once. -/
theorem handedOut_prefix (h : ChunkRun isolate total index chunks log r) :
    (handedOut log).map Prod.fst <+: chunks := by
  induction h with
  | finished => exact List.prefix_rfl
  | stopped => exact List.nil_prefix
  | broken => exact List.prefix_append [_] _
  | goesOn _ _ ih => exact (List.prefix_append_right_inj [_]).2 ih

/-- **Work that returns has handed out every chunk**, none of its steps has ended it, and its outcomes tell
of the calls. -/
theorem outcomes_of_ok (h : ChunkRun isolate total index chunks log r) :
    ∀ os, r = .ok os → (handedOut log).map Prod.fst = chunks ∧
      os = (handedOut log).mapIdx (fun i c => ⟨index + i, c.1, c.2⟩) ∧
      ∀ step ∈ log, step.ends? isolate = none := by
  induction h with
  | finished =>
    rintro _ ⟨⟩
    exact ⟨rfl, rfl, nofun⟩
  | stopped => exact nofun
  | broken => exact nofun
  | @goesOn index chunk rest answer log r isolated _ ih =>
    intro os hos
    cases r with
    | error f => cases hos
    | ok others =>
      obtain rfl := Except.ok.inj hos
      obtain ⟨hhanded, hothers, hsteady⟩ := ih others rfl
      refine ⟨congrArg (chunk :: ·) hhanded, ?_, ?_⟩
      · -- the places of the others are counted from the one after this chunk
        have hplaces : (fun i (c : List ι × Except Failure ρ) =>
            (⟨index + 1 + i, c.1, c.2⟩ : Outcome ι ρ)) = fun i c => ⟨index + (i + 1), c.1, c.2⟩ := by
          funext i c
          rw [Nat.add_right_comm, Nat.add_assoc]
        rw [hothers, hplaces, handedOut_turn, List.mapIdx_cons]
        rfl
      · exact List.forall_mem_cons.2 ⟨rfl,
          List.forall_mem_cons.2 ⟨ChunkStep.ends?_call_eq_none_iff.2 isolated, hsteady⟩⟩

/-- **Work that fails was ended by its last step**, with the failure of that step, and by none before. -/
theorem ended_of_error (h : ChunkRun isolate total index chunks log r) :
    ∀ f, r = .error f → ∃ before last, log = before ++ [last] ∧ last.ends? isolate = some f ∧
      ∀ step ∈ before, step.ends? isolate = none := by
  induction h with
  | finished => exact nofun
  | stopped f =>
    rintro _ ⟨⟩
    exact ⟨[], _, rfl, rfl, nofun⟩
  | @broken index chunk rest f ended =>
    rintro _ ⟨⟩
    exact ⟨[.hook index total (.ok ())], _, rfl, ChunkStep.ends?_call_error ended,
      List.forall_mem_singleton.2 rfl⟩
  | @goesOn index chunk rest answer log r isolated _ ih =>
    intro f hf
    cases r with
    | ok others => cases hf
    | error f' =>
      obtain rfl := Except.error.inj hf
      obtain ⟨before, last, rfl, hlast, hbefore⟩ := ih f' rfl
      exact ⟨.hook index total (.ok ()) :: .call chunk answer :: before, last, rfl, hlast,
        List.forall_mem_cons.2 ⟨rfl,
          List.forall_mem_cons.2 ⟨ChunkStep.ends?_call_eq_none_iff.2 isolated, hbefore⟩⟩⟩

end ChunkRun

/-- An answer that is put down to its chunk: the call took too long, and calls that do are isolated, or it
failed in a way that is. -/
def PutDown (isolate : List FailureKind) (answer : Except Failure ρ) : Prop :=
  (∃ reason, answer = .error (.timeout reason)) ∧ isolate.any (·.covers (.timeout "")) = true ∨
    ∃ f, answer = .error f ∧ isolate.any (·.covers f) = true

/-- What the outcome of a chunk tells, where its call had an answer. -/
structure Outcome.Tells (o : Outcome ι ρ) (isolate : List FailureKind) (index : Nat) (chunk : List ι)
    (answer : Except Failure ρ) : Prop where
  /-- It has the place of the chunk. -/
  index : o.index = index
  /-- It has its items. -/
  items : o.items = chunk
  /-- It has the answer. -/
  result : o.result = answer
  /-- A failure is put down to the chunk exactly if the call was late or failed in an isolated way. -/
  failure : o.failure?.isSome = true ↔ PutDown isolate answer

/-- What work on chunks looks like that ends in `r`. -/
structure WorkedOff (isolate : List FailureKind) (chunks : List (List ι))
    (r : Except Failure (List (Outcome ι ρ))) (log : List (ChunkStep ι ρ)) : Prop where
  /-- The steps are the first of those there are: before each chunk the hook runs, with its place. -/
  course : log.map ChunkStep.turn <+: turns chunks.length 0 chunks
  /-- The chunks are handed out in order, each at most once. -/
  handed : (handedOut log).map Prod.fst <+: chunks
  /-- If the work returns, no step has ended it, every chunk was handed out, and there is one outcome for
  each. -/
  returned : ∀ os, r = .ok os → (∀ step ∈ log, step.ends? isolate = none) ∧
    os.length = chunks.length ∧ (handedOut log).length = chunks.length ∧
    ∀ i chunk, chunks[i]? = some chunk → ∃ answer, ∃ o : Outcome ι ρ,
      (handedOut log)[i]? = some (chunk, answer) ∧ os[i]? = some o ∧ o.Tells isolate i chunk answer
  /-- If it fails, its last step is the first that has ended it, and the failure is that of this step. -/
  raised : ∀ f, r = .error f → ∃ before last, log = before ++ [last] ∧ last.ends? isolate = some f ∧
    ∀ step ∈ before, step.ends? isolate = none

/-- Where no step has ended the work, a call that failed did so in an isolated way. -/
theorem isolated_of_mem_handedOut {log : List (ChunkStep ι ρ)} {chunk : List ι} {answer : Except Failure ρ}
    (hsteady : ∀ step ∈ log, step.ends? isolate = none) (h : (chunk, answer) ∈ handedOut log) :
    ∀ f, answer = .error f → isolate.any (·.covers f) = true := by
  obtain ⟨step, hstep, hcall⟩ := List.mem_filterMap.1 h
  cases step with
  | hook => cases hcall
  | call items answer' =>
    obtain ⟨rfl, rfl⟩ := Prod.mk.inj (Option.some.inj hcall)
    exact ChunkStep.ends?_call_eq_none_iff.1 (hsteady _ hstep)

/-- An answer that does not end the work is put down to its chunk if it is a failure. -/
theorem putDown_iff {answer : Except Failure ρ}
    (h : ∀ f, answer = .error f → isolate.any (·.covers f) = true) :
    PutDown isolate answer ↔ ∃ f, answer = .error f := by
  constructor
  · rintro (⟨⟨reason, hlate⟩, -⟩ | ⟨f, hf, -⟩)
    · exact ⟨_, hlate⟩
    · exact ⟨f, hf⟩
  · rintro ⟨f, hf⟩
    exact .inr ⟨f, hf, h f hf⟩

/-- **What work on chunks looks like**, whichever way it goes. -/
theorem ChunkRun.workedOff {chunks : List (List ι)} {log : List (ChunkStep ι ρ)}
    {r : Except Failure (List (Outcome ι ρ))} (h : ChunkRun isolate chunks.length 0 chunks log r) :
    WorkedOff isolate chunks r log where
  course := h.turns_prefix
  handed := h.handedOut_prefix
  raised := h.ended_of_error
  returned os hr := by
    obtain ⟨hhanded, rfl, hsteady⟩ := h.outcomes_of_ok os hr
    have hlength : (handedOut log).length = chunks.length := by rw [← hhanded, List.length_map]
    refine ⟨hsteady, by rw [List.length_mapIdx, hlength], hlength, fun i chunk hchunk => ?_⟩
    rw [← hhanded, List.getElem?_map, Option.map_eq_some_iff] at hchunk
    obtain ⟨⟨handed, answer⟩, hcall, rfl⟩ := hchunk
    have houtcome : ((handedOut log).mapIdx fun i c => (⟨0 + i, c.1, c.2⟩ : Outcome ι ρ))[i]? =
        some ⟨0 + i, handed, answer⟩ := by
      rw [List.getElem?_mapIdx, hcall]
      rfl
    refine ⟨answer, _, hcall, houtcome, Nat.zero_add i, rfl, rfl, ?_⟩
    rw [putDown_iff (isolated_of_mem_handedOut hsteady (List.mem_of_getElem? hcall))]
    cases answer <;> simp [Outcome.failure?]

/-! ### Work on a list -/

/-- Work on a list goes one of the ways there are for its chunks. -/
theorem exists_chunkRun (pauses : ∀ seconds s, ∃ t, (m.pause seconds).runOn s = (.ok (), t))
    (hsize : IsChunkSize size) (pacing : Pacing) (hook : Nat → Nat → Action σ Unit)
    (isolate : List FailureKind) (call : List ι → Action σ ρ) (items : List ι) (s : σ) :
    ∃ r t log, (tracedChunks m pacing hook isolate call items size).runOn (s, []) = (r, t, log) ∧
      ChunkRun isolate (chunksOf size.toNat items).length 0 (chunksOf size.toNat items) log r := by
  have hpause : ∀ x, Meets (fun _ => True) (m.pause x) (fun _ _ => True) fun _ _ => False := by
    intro x s _
    obtain ⟨t, hx⟩ := pauses x s
    rw [hx]
    trivial
  have hcut : (tracedChunks m pacing hook isolate call items size).runOn (s, []) =
      (runChunks m.besideSteps { delay := pacing.delay } (tracedHook hook) isolate
        (tracedHandout pacing call) (chunksOf size.toNat items).length 0
        (chunksOf size.toNat items)).runOn (s, []) := by
    rw [tracedChunks, processChunks, chunked_eq_ok_iff.2 ⟨hsize, rfl⟩]
    rfl
  rw [hcut]
  rcases hx : Action.runOn _ (s, []) with ⟨f | os, t, log⟩
  · obtain ⟨_, hrun, rfl⟩ := (goesThrough_runChunks hpause _ _ _ []).of_error rfl hx
    exact ⟨_, t, _, rfl, hrun⟩
  · obtain ⟨_, hrun, rfl⟩ := (goesThrough_runChunks hpause _ _ _ []).of_ok rfl hx
    exact ⟨_, t, _, rfl, hrun⟩

end Steps

/-! ### Calls told by their number -/

/-- Pauses that do nothing. -/
def unhurried : Monitor Nat := ⟨fun _ => pure (), pure (), fun _ => pure ()⟩

/-- Counts the items of a chunk, and the calls; the second call is late. -/
def countingUp (chunk : List Nat) : Action Nat Nat :=
  ofRun fun calls => (if calls = 1 then .error (.timeout "") else .ok chunk.length, calls + 1)

/-- A hook that fails before the fourth chunk, as if it were late. -/
def stoppingLate (index _total : Nat) : Action Nat Unit :=
  if index = 3 then throw (.timeout "stop") else pure ()

end Mixtape
