import Mixtape.Proofs.Sync.Chunks
import Mixtape.Proofs.Sync.Mirrors

/-!
# The course of the work on a diff

What applying a diff does outside can be told in advance: for each chunk cancellation is looked for,
progress is reported, a pause is made where a call went before, and the chunk is written; at the end
there is a last report. This is the course of the work. Nothing else is done, and what is done is done
in this order; the work goes on to the end of the course, or up to the first act that ends it.

To say so the acts are listed beside the run, each with the failure it ended in. The run does not see
the list. A call whose time has passed before it begins stands in the list as any other: it is made, and
is late.

## Main definitions

* `Call`, `Act`, `Done` — a call that changes a collection, an act, and an act that was done.
* `Diff.traced` — the work on a diff, beside the list of what was done.
* `callsOf`, `writesOf`, `looksOf`, `changesOf` — what a list tells.
* `Fulfils course log`, `Stops course f log` — the acts of a course were all done, or up to one that
  ended the work with `f`.
* `Action.Does course x Q` — a computation that does the acts of a course.
* `Diff.course` — the course of the work on a diff.

## Main results

* `mirrors_traced` — **the work does not see the list.**
* `Does.bind` — one course after another.
* `does_runChunks`, `does_traced` — **the work on a diff keeps to its course.**
* `traced_unchanged`, `traced_refused` — without changes, and with a size that is refused, nothing is
  done.
-/

namespace Mixtape

open Action

/-! ### Acts -/

/-- A call that changes a collection. -/
structure Call where
  /-- What it does. -/
  operation : ChunkOperation
  /-- The collection. -/
  playlist : Option String
  /-- The items it adds or removes. -/
  items : List String
  deriving DecidableEq

/-- The items of a collection after a call. -/
def Call.effect (c : Call) (items : List String) : List String :=
  match c.operation with
  | .add => items ++ c.items
  | .remove => items.filter (!c.items.contains ·)

/-- The call as the writer makes it. -/
def Writer.call {σ : Type} (w : Writer σ) (c : Call) : Action σ Unit :=
  match c.operation with
  | .add => w.add c.playlist c.items
  | .remove => w.remove c.playlist c.items

/-- What is done outside while a diff is applied. -/
inductive Act where
  /-- Cancellation is looked for. -/
  | look
  /-- Progress is reported. -/
  | tell (progress : Progress)
  /-- A pause is made. -/
  | rest (seconds : Amount)
  /-- The collection is changed. -/
  | write (call : Call)
  deriving DecidableEq

namespace Act

/-- Whether cancellation is looked for. -/
def isLook : Act → Bool
  | look => true
  | _ => false

/-- Whether a pause is made. -/
def isRest : Act → Bool
  | rest _ => true
  | _ => false

/-- The call that is made. -/
def call? : Act → Option Call
  | write c => some c
  | _ => none

/-- Whether cancellation is looked for, or a call is made. -/
def isLookOrWrite (a : Act) : Bool := a.isLook || a.call?.isSome

/-- Whether a pause is made, or a call. -/
def isRestOrWrite (a : Act) : Bool := a.isRest || a.call?.isSome

/-- The progress that is reported. -/
def progress? : Act → Option Progress
  | tell p => some p
  | _ => none

end Act

/-- An act that was done, with the failure it ended in. -/
structure Done where
  /-- The act. -/
  act : Act
  /-- The failure. -/
  failure : Option Failure
  deriving DecidableEq

namespace Done

/-- The failure that ends the work: every one but that of a call that may be made again. -/
def ends? (e : Done) : Option Failure :=
  if e.act.call?.isSome then e.failure.filter (!·.isPassing) else e.failure

/-- The answer to a look for cancellation. -/
def look? (e : Done) : Option (Option Failure) := if e.act.isLook then some e.failure else none

/-- The call that was made, and its answer. -/
def write? (e : Done) : Option (Call × Option Failure) := e.act.call?.map (·, e.failure)

/-- The call that has changed the collection. -/
def change? (e : Done) : Option Call := if e.failure.isNone then e.act.call? else none

end Done

section Logs

variable {log log' : List Done} {course course' : List Act} {e : Done} {f : Failure}

/-- The calls that were made, in order. -/
def callsOf (log : List Done) : List Call := log.filterMap (·.act.call?)

/-- The calls that were made, each with its answer. -/
def writesOf (log : List Done) : List (Call × Option Failure) := log.filterMap Done.write?

/-- The answers to the looks for cancellation. -/
def looksOf (log : List Done) : List (Option Failure) := log.filterMap Done.look?

/-- What a collection holds after the calls that have changed it. -/
def changesOf (log : List Done) (items : List String) : List String :=
  (log.filterMap Done.change?).foldl (fun items c => c.effect items) items

theorem callsOf_append : callsOf (log ++ log') = callsOf log ++ callsOf log' := List.filterMap_append

theorem writesOf_append : writesOf (log ++ log') = writesOf log ++ writesOf log' :=
  List.filterMap_append

theorem changesOf_append (items : List String) :
    changesOf (log ++ log') items = changesOf log' (changesOf log items) := by
  rw [changesOf, List.filterMap_append, List.foldl_append]
  rfl

theorem callsOf_eq_filterMap : callsOf log = (log.map (·.act)).filterMap Act.call? := by
  rw [List.filterMap_map]
  rfl

theorem map_fst_writesOf : (writesOf log).map Prod.fst = callsOf log := by
  simp only [writesOf, callsOf, Done.write?, List.map_filterMap, Option.map_map, Function.comp_def,
    Option.map_id']

theorem length_writesOf : (writesOf log).length = (callsOf log).length := by
  rw [← map_fst_writesOf, List.length_map]

/-! ### Logs that keep to a course -/

/-- The acts of a course were done, all of them, and none has ended the work. -/
structure Fulfils (course : List Act) (log : List Done) : Prop where
  /-- The acts are those of the course. -/
  acts : log.map (·.act) = course
  /-- None has ended the work. -/
  steady : ∀ e ∈ log, e.ends? = none

/-- The acts of a course were done, up to one that has ended the work with a failure. -/
structure Stops (course : List Act) (f : Failure) (log : List Done) : Prop where
  /-- The acts are the first ones of the course. -/
  acts : log.map (·.act) <+: course
  /-- The last one has ended the work, and none before it. -/
  broken : ∃ before e, log = before ++ [e] ∧ (∀ b ∈ before, b.ends? = none) ∧ e.ends? = some f

theorem fulfils_nil : Fulfils [] [] := ⟨rfl, nofun⟩

theorem fulfils_single (h : e.ends? = none) : Fulfils [e.act] [e] :=
  ⟨rfl, fun _ hmem => List.mem_singleton.1 hmem ▸ h⟩

theorem stops_single (h : e.ends? = some f) : Stops [e.act] f [e] :=
  ⟨List.prefix_rfl, [], e, rfl, nofun, h⟩

theorem Fulfils.append (h : Fulfils course log) (h' : Fulfils course' log') :
    Fulfils (course ++ course') (log ++ log') where
  acts := by rw [List.map_append, h.acts, h'.acts]
  steady e he := (List.mem_append.1 he).elim (h.steady e) (h'.steady e)

/-- Work that is ended stops the work of which it is the beginning. -/
theorem Stops.append (h : Stops course f log) (course' : List Act) : Stops (course ++ course') f log :=
  ⟨h.acts.trans (List.prefix_append course course'), h.broken⟩

theorem Fulfils.stops (h : Fulfils course log) (h' : Stops course' f log') :
    Stops (course ++ course') f (log ++ log') where
  acts := by
    rw [List.map_append, h.acts]
    exact (List.prefix_append_right_inj course).2 h'.acts
  broken := by
    obtain ⟨before, e, rfl, hbefore, he⟩ := h'.broken
    refine ⟨log ++ before, e, (List.append_assoc ..).symm, fun b hb => ?_, he⟩
    exact (List.mem_append.1 hb).elim (h.steady b) (hbefore b)

end Logs

/-! ### Computations that keep to a course -/

namespace Action

variable {σ α β : Type} {course course' : List Act} {x : Action (σ × List Done) α} {Q : α → Prop}
  {R : β → Prop}

/-- A computation does the acts of a course, and then its result has a property; or it does them up to
one that ends it. -/
def Does (course : List Act) (x : Action (σ × List Done) α) (Q : α → Prop) : Prop :=
  ∀ log, Meets (fun u => u.2 = log) x
    (fun a u => Q a ∧ ∃ new, Fulfils course new ∧ u.2 = log ++ new)
    fun f u => ∃ new, Stops course f new ∧ u.2 = log ++ new

theorem does_pure {a : α} (h : Q a) : Does [] (pure a : Action (σ × List Done) α) Q := by
  intro log
  refine meets_pure fun u hu => ⟨h, [], fulfils_nil, ?_⟩
  rw [hu, List.append_nil]

/-- **One course after another.** -/
theorem Does.bind {k : α → Action (σ × List Done) β} (h : Does course x Q)
    (hk : ∀ a, Q a → Does course' (k a) R) : Does (course ++ course') (x >>= k) R := by
  intro log
  refine Meets.bind ((h log).imp_error ?_) fun a => meets_of_and fun ha => meets_of_exists fun new =>
    meets_of_and fun hnew => (hk a ha (log ++ new)).imp (fun _ => id) ?_ ?_
  · rintro f u ⟨new, hstops, hu⟩
    exact ⟨new, hstops.append course', hu⟩
  · rintro b u ⟨hb, new', hnew', hu⟩
    exact ⟨hb, new ++ new', hnew.append hnew', hu.trans (List.append_assoc ..)⟩
  · rintro f u ⟨new', hstops, hu⟩
    exact ⟨new ++ new', hnew.stops hstops, hu.trans (List.append_assoc ..)⟩

/-- An act that ends the work when it fails. -/
theorem does_logging {act : Act} (hact : act.call? = none) (x : Action σ α) :
    Does [act] (x.logging (Done.mk act)) fun _ => True := by
  have hends : ∀ failure, (Done.mk act failure).ends? = failure := fun failure => by
    simp [Done.ends?, hact]
  rintro log ⟨s, log⟩ rfl
  unfold logging
  rw [runOn_ofRun]
  rcases x.runOn s with ⟨f | a, t⟩
  · exact ⟨_, stops_single (hends (some f)), rfl⟩
  · exact ⟨trivial, _, fulfils_single (hends none), rfl⟩

/-- A call whose answer decides whether the work goes on: it goes on after every one but a failure that
does not pass. -/
theorem does_attempt_bind {c : Call} {x : Action σ α} {k : Except Failure α → Action (σ × List Done) β}
    (hpassed : ∀ r, (∀ f, r = .error f → f.isPassing = true) → Does course (k r) R)
    (hbroken : ∀ f, f.isPassing = false → k (.error f) = throw f) :
    Does (.write c :: course) ((x.logging (Done.mk (.write c))).attempt >>= k) R := by
  intro log
  have hcall : Meets (fun u => u.2 = log) (x.logging (Done.mk (.write c))).attempt
      (fun r u => u.2 = log ++ [⟨.write c, failure? r⟩])
      fun f u => ∃ new, Stops (.write c :: course) f new ∧ u.2 = log ++ new := by
    rintro u rfl
    rfl
  have hgoes : ∀ r, (∀ f, r = .error f → f.isPassing = true) →
      (Done.mk (.write c) (failure? r)).ends? = none →
      Meets (fun u => u.2 = log ++ [⟨.write c, failure? r⟩]) (k r)
        (fun b u => R b ∧ ∃ new, Fulfils (.write c :: course) new ∧ u.2 = log ++ new)
        fun f u => ∃ new, Stops (.write c :: course) f new ∧ u.2 = log ++ new := by
    intro r hr hends
    refine (hpassed r hr _).imp (fun _ => id) ?_ ?_
    · rintro b u ⟨hb, new, hnew, hu⟩
      exact ⟨hb, _, (fulfils_single hends).append hnew, hu.trans (List.append_assoc ..)⟩
    · rintro f u ⟨new, hstops, hu⟩
      exact ⟨_, (fulfils_single hends).stops hstops, hu.trans (List.append_assoc ..)⟩
  refine Meets.bind hcall fun r => ?_
  rcases r with f | a
  · cases hpassing : f.isPassing with
    | true =>
      refine hgoes (.error f) ?_ (by simp [Done.ends?, Act.call?, failure?, hpassing])
      rintro f' h
      cases h
      exact hpassing
    | false =>
      rw [hbroken f hpassing]
      have hends : (Done.mk (.write c) (some f)).ends? = some f := by
        simp [Done.ends?, Act.call?, hpassing]
      exact meets_throw fun u hu => ⟨_, (stops_single hends).append course, hu⟩
  · exact hgoes (.ok a) nofun rfl

/-- A step that is taken only on a condition, before work that goes on either way. -/
theorem does_when {c : Prop} [Decidable c] {x : Action (σ × List Done) Unit}
    {k : Unit → Action (σ × List Done) β} (h : Does course x fun _ => True)
    (hk : ∀ u, Does course' (k u) R) :
    Does ((if c then course else []) ++ course') (if c then x >>= k else k ()) R := by
  split
  · exact h.bind fun u _ => hk u
  · exact hk ()

theorem does_ofExcept {r : Except Failure α} {a : α} (h : r = .ok a) :
    Does [] (ofExcept r : Action (σ × List Done) α) (· = a) := by
  subst h
  exact does_pure rfl

end Action

/-! ### The work, beside what was done -/

section Tracing

variable {σ : Type} {w : Writer σ} {m : Monitor σ} {d : Diff} {options : ApplyOptions}

/-- A monitor that lists what it does. -/
def Monitor.tracing (m : Monitor σ) : Monitor (σ × List Done) where
  report p := (m.report p).logging (Done.mk (.tell p))
  check := m.check.logging (Done.mk .look)
  pause seconds := (m.pause seconds).logging (Done.mk (.rest seconds))

/-- A call within its time, listed when it has ended. -/
def Writer.tracedCall (w : Writer σ) (pacing : Pacing) (c : Call) : Action (σ × List Done) Unit :=
  (pacing.bounded (w.call c)).logging (Done.mk (.write c))

/-- A writer whose calls are within their time, and are listed. -/
def Writer.tracing (w : Writer σ) (pacing : Pacing) : Writer (σ × List Done) where
  add playlist items := w.tracedCall pacing ⟨.add, playlist, items⟩
  remove playlist items := w.tracedCall pacing ⟨.remove, playlist, items⟩

/-- The work on a diff, beside the list of what was done. The writer keeps the time of its calls. -/
def Diff.traced (d : Diff) (w : Writer σ) (m : Monitor σ) (options : ApplyOptions) :
    Action (σ × List Done) Applied :=
  d.apply (w.tracing options.pacing) m.tracing ⟨options.chunkSize, { delay := options.pacing.delay }⟩

@[simp] theorem bounded_of_timeLimit_none {α : Type} {delay : Amount} (x : Action σ α) :
    Pacing.bounded { delay := delay } x = x := rfl

theorem Monitor.mirrors_tracing (m : Monitor σ) : m.tracing.Mirrors Prod.fst m where
  report _ := mirrors_logging
  check := mirrors_logging
  pause _ := mirrors_logging

/-- **The work does not see the list.** -/
theorem mirrors_traced (d : Diff) (w : Writer σ) (m : Monitor σ) (options : ApplyOptions) :
    Action.Mirrors Prod.fst (d.traced w m options) (d.apply w m options) := by
  obtain ⟨size, pacing⟩ := options
  have hcall : ∀ c, Action.Mirrors Prod.fst (w.tracedCall pacing c) (pacing.bounded (w.call c)) :=
    fun _ => mirrors_logging
  have hremove : ∀ chunk, Action.Mirrors Prod.fst
      (Pacing.bounded { delay := pacing.delay } ((w.tracing pacing).remove d.playlist chunk))
      (pacing.bounded (w.remove d.playlist chunk)) := fun chunk => hcall ⟨.remove, d.playlist, chunk⟩
  have hadd : ∀ chunk, Action.Mirrors Prod.fst
      (Pacing.bounded { delay := pacing.delay } ((w.tracing pacing).add d.playlist chunk))
      (pacing.bounded (w.add d.playlist chunk)) := fun chunk => hcall ⟨.add, d.playlist, chunk⟩
  exact mirrors_diff_apply m.mirrors_tracing hremove hadd rfl size

/-- Without changes nothing is done. -/
theorem traced_unchanged (h : d.hasChanges = false) (s : σ) :
    (d.traced w m options).runOn (s, []) = (.ok {}, s, []) := by
  rw [Diff.traced, Diff.apply, h]
  rfl

/-- With a size that is refused nothing is done, and the work fails if there is any. -/
theorem traced_refused (hchanges : d.hasChanges = true) (hsize : ¬IsChunkSize options.chunkSize)
    (s : σ) : ∃ f, (d.traced w m options).runOn (s, []) = (.error f, s, []) := by
  rw [Diff.traced, Diff.apply, hchanges]
  simp only [Bool.not_true, Bool.false_eq_true, if_false]
  rw [runOn_bind, runOn_ofExcept]
  cases d.callEstimate options.chunkSize with
  | error f => exact ⟨f, rfl⟩
  | ok total =>
    simp only [processChunks, runOn_bind, runOn_ofExcept]
    cases hchunks : chunked d.toRemove options.chunkSize with
    | error f => exact ⟨f, rfl⟩
    | ok chunks => exact absurd (chunked_eq_ok_iff.1 hchunks).1 hsize

end Tracing

/-! ### The course of the work -/

/-- The pause that is made, if the time is positive. -/
def pauses (seconds : Amount) : List Act := if 0 < seconds.units then [.rest seconds] else []

/-- What is done for the chunks of one direction, the first of which has place `index` of `count`, when
`before` calls of `total` were made in the other direction. -/
def chunkCourse (operation : ChunkOperation) (playlist : Option String) (delay : Amount) (before : Nat)
    (total : Int) (count : Nat) : (index : Nat) → List (List String) → List Act
  | _, [] => []
  | index, chunk :: others =>
    .look :: .tell (.of "apply" ((before + index : Nat) : Int) total
        (operation.name ++ " chunk " ++ toString (index + 1) ++ "/" ++ toString count)) ::
      ((if 0 < index then pauses delay else []) ++
        .write ⟨operation, playlist, chunk⟩ ::
          chunkCourse operation playlist delay before total count (index + 1) others)

/-- **The course of the work on a diff**: its removals, a pause if there are additions too, its additions,
and a last report. -/
def Diff.course (d : Diff) (size : Int) (delay : Amount) : List Act :=
  let removals := chunksOf size.toNat d.toRemove
  let additions := chunksOf size.toNat d.toAdd
  let total : Int := removals.length + additions.length
  chunkCourse .remove d.playlist delay 0 total removals.length 0 removals ++
    ((if !removals.isEmpty && !additions.isEmpty then pauses delay else []) ++
      (chunkCourse .add d.playlist delay removals.length total additions.length 0 additions ++
        [.tell (.of "apply" total total "applied")]))

section Working

variable {σ : Type} {w : Writer σ} {m : Monitor σ} {d : Diff} {options : ApplyOptions}

theorem does_pauseFor (seconds : Amount) :
    Does (pauses seconds) (m.tracing.pauseFor seconds) fun _ => True := by
  unfold pauses Monitor.pauseFor
  split
  · exact does_logging rfl _
  · exact does_pure trivial

theorem does_chunkHook (operation : ChunkOperation) (before : Nat) (total : Int) (index count : Nat) :
    Does [.look, .tell (.of "apply" ((before + index : Nat) : Int) total
        (operation.name ++ " chunk " ++ toString (index + 1) ++ "/" ++ toString count))]
      (chunkHook m.tracing operation before total index count) fun _ => True :=
  (does_logging rfl _).bind fun _ _ => does_logging rfl _

/-- **The work on chunks keeps to its course**, with one outcome for each chunk. -/
theorem does_runChunks {call : List String → Action (σ × List Done) Unit} {operation : ChunkOperation}
    {playlist : Option String} {delay : Amount}
    (hcall : ∀ chunk, call chunk = w.tracedCall options.pacing ⟨operation, playlist, chunk⟩)
    (before : Nat) (total : Int) (count : Nat) (chunks : List (List String)) (index : Nat) :
    Does (chunkCourse operation playlist delay before total count index chunks)
      (runChunks m.tracing { delay := delay } (chunkHook m.tracing operation before total) passingKinds
        call count index chunks)
      fun os => os.length = chunks.length := by
  induction chunks generalizing index with
  | nil => exact does_pure rfl
  | cons chunk others ih =>
    -- whatever the outcome of this chunk, the work on the others follows
    have hothers : ∀ o : Outcome String Unit,
        Does (chunkCourse operation playlist delay before total count (index + 1) others)
          (runChunks m.tracing { delay := delay } (chunkHook m.tracing operation before total)
            passingKinds call count (index + 1) others >>= fun os => pure (o :: os))
          fun os => os.length = (chunk :: others).length := by
      intro o
      have := (ih (index + 1)).bind (R := fun os => os.length = (chunk :: others).length)
        fun os hos => does_pure (a := o :: os) (congrArg (· + 1) hos)
      rwa [List.append_nil] at this
    unfold runChunks chunkCourse
    refine (does_chunkHook operation before total index count).bind fun _ _ => ?_
    refine does_when (does_pauseFor delay) fun _ => ?_
    rw [bounded_of_timeLimit_none, hcall]
    refine does_attempt_bind (fun r hr => ?_) fun f hf => ?_
    · rcases r with f | a
      · dsimp only
        rw [any_passingKinds, hr f rfl]
        exact hothers _
      · exact hothers _
    · dsimp only
      rw [any_passingKinds, hf]
      rfl

theorem does_processChunks {call : List String → Action (σ × List Done) Unit}
    {operation : ChunkOperation} {playlist : Option String} {delay : Amount} {size : Int}
    (hcall : ∀ chunk, call chunk = w.tracedCall options.pacing ⟨operation, playlist, chunk⟩)
    (before : Nat) (total : Int) (hsize : IsChunkSize size) (items : List String) :
    Does (chunkCourse operation playlist delay before total (chunksOf size.toNat items).length 0
        (chunksOf size.toNat items))
      (processChunks m.tracing { delay := delay } (chunkHook m.tracing operation before total)
        passingKinds call items size)
      fun os => os.length = (chunksOf size.toNat items).length := by
  refine (does_ofExcept (chunked_eq_ok_iff.2 ⟨hsize, rfl⟩)).bind ?_
  rintro chunks rfl
  exact does_runChunks hcall before total _ _ 0

/-- A list is empty exactly if it has no chunks. -/
theorem isEmpty_chunksOf (size : Nat) (items : List String) :
    (chunksOf size items).isEmpty = items.isEmpty := by
  cases items with
  | nil => rfl
  | cons a rest => rfl

/-- **The work on a diff keeps to its course.** -/
theorem does_traced (hchanges : d.hasChanges = true) (hsize : IsChunkSize options.chunkSize) :
    Does (d.course options.chunkSize options.pacing.delay) (d.traced w m options) fun _ => True := by
  unfold Diff.traced Diff.course Diff.apply
  rw [hchanges]
  refine (does_ofExcept (callEstimate_eq hsize d)).bind ?_
  rintro total rfl
  refine (does_processChunks (fun _ => rfl) 0 _ hsize d.toRemove).bind fun removed hremoved => ?_
  have hempty : removed.isEmpty = (chunksOf options.chunkSize.toNat d.toRemove).isEmpty := by
    rw [Bool.eq_iff_iff, List.isEmpty_iff_length_eq_zero, List.isEmpty_iff_length_eq_zero, hremoved]
  rw [hempty, ← isEmpty_chunksOf options.chunkSize.toNat d.toAdd]
  refine does_when (does_pauseFor _) fun _ => ?_
  rw [hremoved]
  refine (does_processChunks (fun _ => rfl) _ _ hsize d.toAdd).bind fun added hadded => ?_
  rw [hadded]
  exact (does_logging rfl _).bind fun _ _ => does_pure trivial

end Working

end Mixtape
