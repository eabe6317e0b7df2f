import Mathlib.Data.List.Perm.Basic
import Mixtape.Proofs.Jobs.Books

/-!
# What happens to jobs

Whatever is asked of a runner, and whichever task goes on, one of five things happens to the jobs:
the jobs stay as they are apart from their progress, a job is taken, a task waits at a gate, a job
ends, or a task that was aborted before it began is dropped. Every property of runs is read off from
these.

## Main definitions

* `JobSystem.Event`, `JobSystem.Event.apply` — what can happen, and what it does.
* `JobSystem.asking`, `JobSystem.Enqueued` — what the store is asked about a new job, and what an enqueue comes to.
* `JobSystem.cores` — the tasks that have not ended.
* `JobSystem.Change q s s'` — the five cases; `q` is the target a job may be taken for.

## Main results

* `enqueue_cases` — **an enqueue joins, is refused, fails, is handed a recorded job, or takes a new one.**
* `settle_eq_after` — running every task that can go on is running one after another.
* `touches_release`, `touches_abort`, `change_enqueue`, … — **what events do that run no task.**
-/

namespace Mixtape

/-- What tells tasks apart: the runner, the job, and whether the work has begun. -/
def Task.core {σ : Type} (t : Task σ) : Nat × String × Bool := (t.runner, t.id, t.begun)

namespace JobSystem

variable {σ : Type} {store : JobStore σ} {s s' s'' : JobSystem σ} {id target : String}

/-! ### Events -/

/-- One task that can go on does so. -/
def turn (store : JobStore σ) (n : Nat) (s : JobSystem σ) : JobSystem σ :=
  match s.ready[n]? with
  | none => s
  | some t => runTask store t { s with ready := s.ready.eraseIdx n }

/-- A turn with no task does nothing. -/
theorem turn_of_none {n : Nat} (ht : s.ready[n]? = none) : s.turn store n = s := by
  unfold turn
  rw [ht]

/-- A task whose turn it is runs, and is no longer in line. -/
theorem turn_of_some {n : Nat} {t : Task σ} (ht : s.ready[n]? = some t) :
    s.turn store n = runTask store t { s with ready := s.ready.eraseIdx n } := by
  unfold turn
  rw [ht]

/-- What can happen. -/
inductive Event (σ : Type) where
  /-- A job is enqueued. -/
  | enqueue (policy : ConflictPolicy) (order : Order σ)
  /-- Cancellation is asked for. -/
  | cancel (id : String)
  /-- The task of a job is aborted. -/
  | abort (id : String)
  /-- A gate is opened. -/
  | release (gate : String)
  /-- The runner is shut down. -/
  | shutdown
  /-- A job that may have ended tells how far it has come. -/
  | report (id : String) (progress : Progress)
  /-- The state the jobs work in changes, and the store with it. -/
  | outside (shared : σ)
  /-- One of the tasks that can go on does so. -/
  | turn (n : Nat)

/-- What an event does. -/
def Event.apply (store : JobStore σ) : Event σ → JobSystem σ → JobSystem σ
  | .enqueue policy order, s => (JobSystem.enqueue store policy order s).2
  | .cancel id, s => (s.cancel id).2
  | .abort id, s => (s.abort id).2
  | .release gate, s => s.release gate
  | .shutdown, s => s.shutdown
  | .report id progress, s => s.progress 0 id progress
  | .outside shared, s => { s with shared }
  | .turn n, s => s.turn store n

/-- The target that a job is enqueued for. -/
def Event.target? : Event σ → Option String
  | .enqueue _ order => some order.target
  | _ => none

/-- The system after events. -/
def after (store : JobStore σ) (events : List (Event σ)) (s : JobSystem σ) : JobSystem σ :=
  events.foldl (fun s e => e.apply store s) s

/-! ### What an enqueue comes to -/

/-- What the store is asked about a new job: a key that counts is claimed for it, and otherwise it is
recorded. -/
def asking (store : JobStore σ) (j : Job) : Action σ (Job × Bool) :=
  if (MemoryJobs.keyOf j).isSome then store.claim j
  else do
    store.save j
    return (j, true)

theorem asking_of_key (store : JobStore σ) {key : String} {j : Job} (h : MemoryJobs.keyOf j = some key) :
    asking store j = store.claim j := by
  unfold asking
  rw [h]
  exact if_pos rfl

/-- What an enqueue comes to: the id or the refusal that is handed back, and the system. -/
inductive Enqueued (store : JobStore σ) (policy : ConflictPolicy) (o : Order σ) (s : JobSystem σ)
    (r : Nat) : Except Failure String × JobSystem σ → Prop
  /-- The target is busy, and the caller joins. -/
  | joins (held : String) (busy : s.activeFor o.target r = some held) (join : policy = .join) :
      Enqueued store policy o s r (.ok held, s)
  /-- The target is busy, and the caller is refused. -/
  | refused (held : String) (busy : s.activeFor o.target r = some held) (reject : policy = .reject) :
      Enqueued store policy o s r (.error (.conflict o.target held), s)
  /-- The store fails. -/
  | fails (free : s.activeFor o.target r = none) (f : Failure) (t : σ)
      (asked : (asking store (o.job (jobId (s.made + 1)) (store.now s.shared))).runOn s.shared =
        (.error f, t)) :
      Enqueued store policy o s r (.error f, { s with made := s.made + 1, shared := t })
  /-- The key is taken. -/
  | hands (free : s.activeFor o.target r = none) (stored : Job) (t : σ)
      (asked : (asking store (o.job (jobId (s.made + 1)) (store.now s.shared))).runOn s.shared =
        (.ok (stored, false), t)) :
      Enqueued store policy o s r (.ok stored.id,
        updateRunner { s with made := s.made + 1, shared := t } r fun n =>
          { n with jobs := n.jobs.putNew stored.id stored })
  /-- The job is taken to work. -/
  | takes (free : s.activeFor o.target r = none) (stored : Job) (t : σ)
      (asked : (asking store (o.job (jobId (s.made + 1)) (store.now s.shared))).runOn s.shared =
        (.ok (stored, true), t)) :
      Enqueued store policy o s r (.ok stored.id, begin { s with made := s.made + 1, shared := t }
        (o.job (jobId (s.made + 1)) (store.now s.shared)) o.work r)

/-- **An enqueue joins, is refused, fails, is handed a recorded job, or takes a new one.** -/
theorem enqueue_cases (store : JobStore σ) (policy : ConflictPolicy) (o : Order σ)
    (s : JobSystem σ) (r : Nat := s.current) :
    Enqueued store policy o s r (enqueue store policy o s r) := by
  unfold enqueue
  split
  · rename_i held hbusy
    cases policy with
    | join => exact .joins held hbusy rfl
    | reject => exact .refused held hbusy rfl
  · rename_i hfree
    dsimp only
    split
    · rename_i hkey
      obtain ⟨key, hkey⟩ := Option.isSome_iff_exists.1 hkey
      rw [← asking_of_key store hkey]
      split
      · rename_i hasked
        exact .fails hfree _ _ hasked
      · rename_i stored t hasked
        exact .takes hfree stored t hasked
      · rename_i stored t hasked
        exact .hands hfree stored t hasked
    · rename_i hkey
      have hsave : ∀ {r t}, (store.save (o.job (jobId (s.made + 1)) (store.now s.shared))).runOn
          s.shared = (r, t) →
          (asking store (o.job (jobId (s.made + 1)) (store.now s.shared))).runOn s.shared =
            (r.map fun _ => (o.job (jobId (s.made + 1)) (store.now s.shared), true), t) := by
        intro r t hrun
        unfold asking
        rw [if_neg hkey, Action.runOn_bind, hrun]
        cases r with
        | error f => rfl
        | ok u => rfl
      split
      · rename_i hasked
        exact .fails hfree _ _ (hsave hasked)
      · rename_i hasked
        exact .takes hfree (o.job _ _) _ (hsave hasked)

/-! ### Tasks that go on one after another -/

/-- The system with other tasks that can go on. -/
def withReady (s : JobSystem σ) (ready : List (Task σ)) : JobSystem σ := { s with ready }

variable {r : List (Task σ)} {n : Nat}

theorem runner_withReady : (s.withReady r).runner n = s.runner n := rfl

theorem step_withReady (f : Job → Timestamp → Job) :
    (s.withReady r).step store n id f = (s.step store n id f).withReady r := by
  unfold JobSystem.step
  rw [runner_withReady]
  cases (s.runner n).jobs.find? id with
  | none => rfl
  | some j => rfl

theorem finish_withReady (f : Job → Timestamp → Job) :
    (s.withReady r).finish store n id f = (s.finish store n id f).withReady r := by
  unfold finish
  rw [step_withReady]
  rfl

theorem progress_withReady (p : Progress) :
    (s.withReady r).progress n id p = (s.progress n id p).withReady r := by
  unfold JobSystem.progress
  rw [runner_withReady]
  cases (s.runner n).jobs.find? id with
  | none => rfl
  | some j => cases h : j.status.isTerminal <;> simp only [h] <;> rfl

theorem noteGate_withReady (gate : String) :
    (s.withReady r).noteGate gate = (s.noteGate gate).withReady r := by
  unfold noteGate
  change (if s.gates.contains gate then _ else _) = _
  split
  · rfl
  · rfl

/-- A task that runs does not look at those that can go on. -/
theorem advance_withReady : ∀ (work : Work σ) (s : JobSystem σ),
    advance store n id work (s.withReady r) = (advance store n id work s).withReady r := by
  intro work
  induction work with
  | done result => exact fun s => finish_withReady _
  | fail f => exact fun s => finish_withReady _
  | report p next ih =>
    intro s
    unfold advance
    rw [progress_withReady]
    exact ih _
  | check next ih =>
    intro s
    unfold advance
    change (if s.isCancelled n id then _ else _) = _
    split
    · exact finish_withReady _
    · exact ih s
  | poll next ih => exact fun s => ih _ s
  | await gate next ih =>
    intro s
    unfold advance
    rw [noteGate_withReady]
    change (if (s.noteGate gate).isOpen gate then _ else _) = _
    dsimp only
    split
    · exact ih _
    · rfl
  | read next ih => exact fun s => ih _ s
  | write state next ih => exact fun s => ih { s with shared := state }

theorem runTask_withReady (t : Task σ) :
    runTask store t (s.withReady r) = (runTask store t s).withReady r := by
  unfold runTask
  split
  · split
    · exact finish_withReady _
    · exact advance_withReady _ s
  · split
    · rfl
    · rw [step_withReady]
      exact advance_withReady _ _

/-- **Running every task that can go on is running one after another.** -/
theorem settle_eq_after (s : JobSystem σ) :
    s.settle store = s.after store (List.replicate s.ready.length (.turn 0)) := by
  have hturns : ∀ (ready : List (Task σ)) (s : JobSystem σ),
      ready.foldl (fun s t => runTask store t s) (s.withReady []) =
        (s.withReady ready).after store (List.replicate ready.length (.turn 0)) := by
    intro ready
    induction ready with
    | nil => exact fun s => rfl
    | cons t rest ih =>
      intro s
      have hfirst : (s.withReady (t :: rest)).turn store 0 =
          (runTask store t s).withReady rest := runTask_withReady (s := s) (r := rest) t
      rw [List.foldl_cons, runTask_withReady, ih, List.length_cons, List.replicate_succ]
      unfold after
      rw [List.foldl_cons]
      change _ = List.foldl _ ((s.withReady (t :: rest)).turn store 0) _
      rw [hfirst]
  exact hturns s.ready s

/-! ### Tasks -/

/-- The tasks that have not ended. -/
def live (s : JobSystem σ) : List (Task σ) := s.ready ++ s.blocked

/-- What tells the tasks apart that have not ended. -/
def cores (s : JobSystem σ) : List (Nat × String × Bool) := s.live.map Task.core

theorem mem_cores {t : Task σ} (h : t ∈ s.live) : t.core ∈ s.cores := List.mem_map_of_mem h

/-- A task that can go on has not ended. -/
theorem mem_live {n : Nat} {t : Task σ} (h : s.ready[n]? = some t) : t ∈ s.live :=
  List.mem_append_left _ (List.mem_of_getElem? h)

/-- A task that is left when one goes on was there before. -/
theorem mem_live_of_eraseIdx {n : Nat} {u : Task σ}
    (h : u ∈ live { s with ready := s.ready.eraseIdx n }) : u ∈ s.live :=
  (List.mem_append.1 h).elim (fun h => List.mem_append_left _ (List.mem_of_mem_eraseIdx h))
    (List.mem_append_right _)

/-- When a task comes to wait, the others were there before. -/
theorem eq_or_mem_of_blocked {t u : Task σ} (h : u ∈ live { s with blocked := s.blocked ++ [t] }) :
    u = t ∨ u ∈ s.live := by
  rcases List.mem_append.1 h with h | h
  · exact .inr (List.mem_append_left _ h)
  · rcases List.mem_append.1 h with h | h
    · exact .inr (List.mem_append_right _ h)
    · exact .inl (List.mem_singleton.1 h)

/-- When a job is taken, the tasks but its own were there before. -/
theorem eq_or_mem_of_begin {j : Job} {work : Work σ} {r : Nat} {u : Task σ}
    (h : u ∈ (s.begin j work r).live) : u = { runner := r, id := j.id, work } ∨ u ∈ s.live := by
  rcases List.mem_append.1 h with h | h
  · rcases List.mem_append.1 h with h | h
    · exact .inr (List.mem_append_left _ h)
    · exact .inl (List.mem_singleton.1 h)
  · exact .inr (List.mem_append_right _ h)

/-- The tasks apart from one that goes on. -/
theorem cores_eraseIdx {n : Nat} {t : Task σ} (h : s.ready[n]? = some t) :
    s.cores.Perm (t.core :: cores { s with ready := s.ready.eraseIdx n }) := by
  obtain ⟨hn, rfl⟩ := List.getElem?_eq_some_iff.1 h
  exact (((List.getElem_cons_eraseIdx_perm hn).append_right s.blocked).map Task.core).symm

/-- Tasks that are woken up stay the same tasks. -/
theorem cores_wake (wakes : Task σ → Bool) (s : JobSystem σ) : (s.wake wakes).cores.Perm s.cores := by
  have hsplit : ((s.blocked.filter wakes).map Task.core ++
      (s.blocked.filter (!wakes ·)).map Task.core).Perm (s.blocked.map Task.core) := by
    rw [← List.map_append]
    exact (List.filter_append_perm wakes s.blocked).map _
  unfold cores live wake
  simp only [List.map_append, List.map_map, List.append_assoc]
  exact hsplit.append_left _

/-! ### The five cases -/

/-- The jobs stay as they are, apart from their progress. -/
structure Touches (s s' : JobSystem σ) : Prop where
  /-- There is one runner. -/
  single : s'.Single
  /-- Records change by their progress. -/
  recorded : ∀ i j, s.books.recorded i = some j → ∃ p, s'.books.recorded i = some (j.withProgress p)
  /-- Other records are filed under their ids. -/
  keyed : ∀ i j', s'.books.recorded i = some j' →
    j'.id = i ∨ ∃ j p, s.books.recorded i = some j ∧ j' = j.withProgress p
  /-- The same jobs can be asked to cancel. -/
  isHeard : s'.books.isHeard = s.books.isHeard
  /-- The same jobs are at work. -/
  holder : s'.books.holder = s.books.holder
  /-- The same tasks have not ended. -/
  cores : s'.cores.Perm s.cores
  /-- Ids that were given out stay so. -/
  made : s.books.made ≤ s'.books.made

/-- A job is taken, and its task is made ready. -/
structure Takes (s s' : JobSystem σ) (j : Job) : Prop where
  /-- There is one runner. -/
  single : s'.Single
  /-- The job gets the next id. -/
  id : j.id = jobId (s.books.made + 1)
  /-- The job waits for its task to begin. -/
  status : j.status = .waiting
  /-- No job was at work for the target. -/
  free : s.books.holder j.target = none
  /-- The job is filed under all records. -/
  books : s'.books =
    { recorded := Function.update s.books.recorded j.id (some j)
      isHeard := Function.update s.books.isHeard j.id true
      holder := Function.update s.books.holder j.target (some j.id)
      made := s.books.made + 1 }
  /-- Its task has not begun. -/
  cores : s'.cores.Perm ((0, j.id, false) :: s.cores)

namespace Takes

variable {j : Job} {i : String}

theorem recorded_self (h : Takes s s' j) : s'.books.recorded j.id = some j := by
  rw [h.books]
  exact Function.update_self ..

theorem recorded_of_ne (h : Takes s s' j) (hi : i ≠ j.id) :
    s'.books.recorded i = s.books.recorded i := by
  rw [h.books]
  exact Function.update_of_ne hi ..

theorem isHeard_self (h : Takes s s' j) : s'.books.isHeard j.id = true := by
  rw [h.books]
  exact Function.update_self ..

theorem isHeard_of_ne (h : Takes s s' j) (hi : i ≠ j.id) :
    s'.books.isHeard i = s.books.isHeard i := by
  rw [h.books]
  exact Function.update_of_ne hi ..

theorem holder_self (h : Takes s s' j) : s'.books.holder j.target = some j.id := by
  rw [h.books]
  exact Function.update_self ..

theorem holder_of_ne (h : Takes s s' j) (hne : target ≠ j.target) :
    s'.books.holder target = s.books.holder target := by
  rw [h.books]
  exact Function.update_of_ne hne ..

theorem made_eq (h : Takes s s' j) : s'.books.made = s.books.made + 1 := by rw [h.books]

end Takes

/-- What happens to the jobs. Here `q` is the target that a job may be taken for. -/
inductive Change (q : Option String) (s s' : JobSystem σ) : Prop
  /-- The jobs stay as they are, apart from their progress. -/
  | touches (h : Touches s s')
  /-- A job is taken. -/
  | takes (j : Job) (target : q = some j.target) (h : Takes s s' j)
  /-- A task that was aborted before it began is dropped, and nothing else happens. -/
  | loses (t : Task σ) (live : t ∈ s.live) (begun : t.begun = false) (aborted : t.aborted = true)
      (single : s'.Single) (cores : s.cores.Perm (t.core :: s'.cores)) (books : s'.books = s.books)
  /-- A task waits at a gate. -/
  | parks (t : Task σ) (live : t ∈ s.live) (target : String) (s₀ : JobSystem σ)
      (cores : s.cores.Perm (t.core :: s₀.cores)) (books : s₀.books = s.books)
      (held : s.books.holder target = some t.id) (h : Parks s₀ s' t.id target)
  /-- A job ends. -/
  | ends (t : Task σ) (live : t ∈ s.live) (acted : t.begun = true ∨ t.aborted = false)
      (target : String) (s₀ : JobSystem σ) (cores : s.cores.Perm (t.core :: s₀.cores))
      (books : s₀.books = s.books) (held : s.books.holder target = some t.id)
      (h : Ends s₀ s' t.id target)

theorem Touches.refl (h : s.Single) : Touches s s where
  single := h
  recorded _ j hj := ⟨j.progress, hj⟩
  keyed _ j' hj := .inr ⟨j', j'.progress, hj, rfl⟩
  isHeard := rfl
  holder := rfl
  cores := .refl _
  made := Nat.le_refl _

theorem Touches.trans (h : Touches s s') (h' : Touches s' s'') : Touches s s'' where
  single := h'.single
  recorded i j hj := by
    obtain ⟨p, hp⟩ := h.recorded i j hj
    obtain ⟨p', hp'⟩ := h'.recorded i _ hp
    exact ⟨p', hp'⟩
  keyed i j'' hj := by
    rcases h'.keyed i j'' hj with hid | ⟨j', p', hj', rfl⟩
    · exact .inl hid
    · rcases h.keyed i j' hj' with hid | ⟨j, p, hfirst, rfl⟩
      · exact .inl hid
      · exact .inr ⟨j, p', hfirst, rfl⟩
  isHeard := h'.isHeard.trans h.isHeard
  holder := h'.holder.trans h.holder
  cores := h'.cores.trans h.cores
  made := Nat.le_trans h.made h'.made

/-- What leaves the books, and the tasks apart from their order, leaves the jobs. -/
theorem touches_of_books (h : s'.Single) (hbooks : s'.books = { s.books with made := s'.made })
    (hmade : s.made ≤ s'.made) (hcores : s'.cores.Perm s.cores) : Touches s s' where
  single := h
  recorded _ j hj := ⟨j.progress, by rw [hbooks]; exact hj⟩
  keyed _ j hj := .inr ⟨j, j.progress, by rw [hbooks] at hj; exact hj, rfl⟩
  isHeard := by rw [hbooks]
  holder := by rw [hbooks]
  cores := hcores
  made := hmade

theorem single_congr (h : s.Single) (hrunners : s'.runners = s.runners) : s'.Single := by
  unfold Single
  rw [hrunners]
  exact h

theorem touches_of_runners (h : s.Single) (hrunners : s'.runners = s.runners)
    (hmade : s.made ≤ s'.made) (hcores : s'.cores.Perm s.cores) : Touches s s' := by
  refine touches_of_books (single_congr h hrunners) ?_ hmade hcores
  unfold books JobSystem.runner
  rw [hrunners]

/-! ### What events do -/

theorem touches_noteGate (h : s.Single) (gate : String) : Touches s (s.noteGate gate) := by
  unfold noteGate
  split
  · exact .refl h
  · exact touches_of_runners h rfl (Nat.le_refl _) (.refl _)

theorem touches_release (h : s.Single) (gate : String) : Touches s (s.release gate) := by
  have hnoted := touches_noteGate h gate
  refine hnoted.trans (touches_of_runners hnoted.single rfl (Nat.le_refl _) ?_)
  exact cores_wake _ { s.noteGate gate with opened := (s.noteGate gate).opened ++ [gate] }

theorem touches_releases : ∀ (gates : List String) (s : JobSystem σ), s.Single →
    Touches s (gates.foldl (fun s gate => s.release gate) s) := by
  intro gates
  induction gates with
  | nil => exact fun s h => .refl h
  | cons gate gates ih =>
    intro s h
    have hfirst := touches_release h gate
    exact hfirst.trans (ih _ hfirst.single)

/-- What is changed of cancellation flags leaves the jobs, if the same jobs have one. -/
theorem touches_contexts (h : s.Single) (f : Registry Bool → Registry Bool)
    (hf : ∀ i, ((f (s.runner 0).contexts).find? i).isSome =
      ((s.runner 0).contexts.find? i).isSome) :
    Touches s (s.updateRunner 0 fun n => { n with contexts := f n.contexts }) := by
  refine touches_of_books (h.updateRunner _) ?_ (Nat.le_refl _) (.refl _)
  unfold books
  rw [runner_updateRunner h]
  simp only [hf]

theorem touches_cancel (h : s.Single) (id : String) : Touches s (s.cancel id).2 := by
  unfold cancel
  rw [h.current]
  split
  · exact .refl h
  · refine touches_contexts h (·.put id true) fun i => ?_
    by_cases hi : i = id
    · subst hi
      rw [Registry.find?_put_self, ‹(s.runner 0).contexts.find? i = some _›]
      rfl
    · rw [Registry.find?_put_of_ne hi]

theorem find?_map_isSome (r : Registry Bool) (i : String) :
    (Registry.find? i (r.map fun c => (c.1, true))).isSome = (r.find? i).isSome := by
  induction r with
  | nil => rfl
  | cons c r ih =>
    rw [List.map_cons]
    by_cases hc : c.1 = i
    · simp [Registry.find?, hc]
    · simpa [Registry.find?, hc] using ih

theorem touches_shutdown (h : s.Single) : Touches s s.shutdown := by
  unfold shutdown
  rw [h.current]
  have hflags := touches_contexts h (·.map fun c => (c.1, true)) (find?_map_isSome _)
  refine hflags.trans (Touches.trans ?_ (touches_releases _ _ hflags.single))
  exact touches_of_runners hflags.single rfl (Nat.le_refl _) (.refl _)

theorem touches_abort (h : s.Single) (id : String) : Touches s (s.abort id).2 := by
  unfold abort
  dsimp only
  split
  · exact .refl h
  · refine touches_of_runners h rfl (Nat.le_refl _) ((cores_wake _ _).trans (.of_eq ?_))
    -- a mark does not tell tasks apart
    unfold cores live
    rw [← List.map_append, List.map_map]
    refine List.map_congr_left fun t _ => ?_
    unfold Function.comp Task.core
    dsimp only
    split
    · rfl
    · rfl

theorem touches_progress (h : s.Single) (id : String) (p : Progress) :
    Touches s (s.progress 0 id p) := by
  by_cases hlive : ∃ j, s.books.recorded id = some j ∧ j.status.isTerminal = false
  · obtain ⟨j, hj, hlive⟩ := hlive
    rw [progress_of_live (r := 0) hj hlive]
    have hbooks := books_progressed id (j := j) h p
    refine ⟨h.updateRunner _, fun i k hk => ?_, fun i k hk => ?_, ?_, ?_, .refl _, Nat.le_refl _⟩
    · rw [hbooks]
      by_cases hi : i = id
      · subst hi
        obtain rfl := Option.some.inj (hj.symm.trans hk)
        exact ⟨p, Function.update_self ..⟩
      · exact ⟨k.progress, (Function.update_of_ne hi ..).trans hk⟩
    · rw [hbooks] at hk
      by_cases hi : i = id
      · subst hi
        have hk' := (Function.update_self ..).symm.trans hk
        exact .inr ⟨j, p, hj, (Option.some.inj hk').symm⟩
      · exact .inr ⟨k, k.progress, (Function.update_of_ne hi ..).symm.trans hk, rfl⟩
    · rw [hbooks]
    · rw [hbooks]
  · rw [progress_of_ended (r := 0) (fun j hj => ?_) p]
    · exact .refl h
    · exact Bool.not_eq_false _ ▸ fun hf => hlive ⟨j, hj, hf⟩

/-- A record of a job that was not known is filed. -/
theorem touches_putNew (h : s.Single) (j : Job) :
    Touches s (s.updateRunner s.current fun n => { n with jobs := n.jobs.putNew j.id j }) := by
  rw [h.current]
  cases hknown : (s.runner 0).jobs.find? j.id with
  | some k =>
    refine touches_of_books (h.updateRunner _) ?_ (Nat.le_refl _) (.refl _)
    unfold books Registry.putNew
    rw [runner_updateRunner h]
    dsimp only
    rw [hknown]
  | none =>
    have hbooks : (s.updateRunner 0 fun n => { n with jobs := n.jobs.putNew j.id j }).books =
        { s.books with recorded := Function.update s.books.recorded j.id (some j) } := by
      unfold books Registry.putNew
      rw [runner_updateRunner h]
      dsimp only
      rw [hknown]
      exact congrArg (Books.mk · _ _ _) (Registry.find?_put j.id j (s.runner 0).jobs)
    refine ⟨h.updateRunner _, fun i k hk => ?_, fun i k hk => ?_, ?_, ?_, .refl _, Nat.le_refl _⟩
    · have hi : i ≠ j.id := by
        rintro rfl
        exact Option.some_ne_none k (hk.symm.trans hknown)
      rw [hbooks]
      exact ⟨k.progress, (Function.update_of_ne hi ..).trans hk⟩
    · rw [hbooks] at hk
      by_cases hi : i = j.id
      · subst hi
        have hk' : Function.update s.books.recorded j.id (some j) j.id = some k := hk
        rw [Function.update_self] at hk'
        exact .inl (congrArg Job.id (Option.some.inj hk')).symm
      · exact .inr ⟨k, k.progress, (Function.update_of_ne hi ..).symm.trans hk, rfl⟩
    · rw [hbooks]
    · rw [hbooks]

/-- A job is filed under all records, and its task is made ready. -/
theorem takes_begin (s' : JobSystem σ) (j : Job) (h : s.Single) (hmade : s'.made = s.made + 1)
    (hrunners : s'.runners = s.runners) (hcores : s'.cores = s.cores) (hid : j.id = jobId (s.made + 1))
    (hstatus : j.status = .waiting) (hfree : s.books.holder j.target = none) (work : Work σ) :
    Takes s (s'.begin j work) j := by
  have hsingle := single_congr h hrunners
  have hrunner : (s'.begin j work).runner 0 =
      { jobs := (s.runner 0).jobs.put j.id j
        contexts := (s.runner 0).contexts.put j.id false
        tasks := (s.runner 0).tasks.put j.id ()
        active := (s.runner 0).active.put j.target j.id } := by
    unfold begin
    rw [hsingle.current]
    refine (runner_updateRunner hsingle _).trans ?_
    unfold JobSystem.runner
    rw [hrunners]
  have hheard : (fun i => ((s.runner 0).contexts.put j.id false |>.find? i).isSome) =
      Function.update s.books.isHeard j.id true := by
    funext i
    rw [congrFun (Registry.find?_put j.id false (s.runner 0).contexts) i]
    by_cases hi : i = j.id
    · subst hi
      simp
    · rw [Function.update_of_ne hi, Function.update_of_ne hi]
      rfl
  have hbegun : (s'.begin j work).Single := by
    unfold begin
    rw [hsingle.current]
    exact hsingle.updateRunner _
  refine ⟨hbegun, hid, hstatus, hfree, ?_, ?_⟩
  · have hholder := Registry.find?_put j.target j.id (s.runner 0).active
    have hrecorded := Registry.find?_put j.id j (s.runner 0).jobs
    unfold books
    rw [hrunner]
    dsimp only
    rw [hrecorded, hheard, hholder]
    exact congrArg (Books.mk _ _ _) hmade
  · have hbegin : (s'.begin j work).cores =
        (s'.ready ++ [({ runner := s'.current, id := j.id, work } : Task σ)] ++
          s'.blocked).map Task.core := rfl
    rw [hbegin, hsingle.current, ← hcores, List.append_assoc]
    exact List.perm_middle.map Task.core

theorem change_enqueue (h : s.Single) (policy : ConflictPolicy) (o : Order σ) :
    Change (some o.target) s (enqueue store policy o s).2 := by
  -- the system after the store was asked
  have hasked : ∀ t : σ, Touches s { s with made := s.made + 1, shared := t } := fun t =>
    touches_of_runners h rfl (Nat.le_succ _) (.refl _)
  have hc := enqueue_cases store policy o s
  generalize enqueue store policy o s = result at hc ⊢
  cases hc with
  | joins held busy join => exact .touches (.refl h)
  | refused held busy reject => exact .touches (.refl h)
  | fails free f t asked => exact .touches (hasked t)
  | hands free stored t asked =>
    exact .touches ((hasked t).trans (touches_putNew (hasked t).single stored))
  | takes free stored t asked =>
    have hfree : s.books.holder o.target = none := by
      unfold activeFor at free
      rw [h.current] at free
      exact free
    exact .takes _ rfl (takes_begin { s with made := s.made + 1, shared := t } (o.job _ _) h rfl rfl
      rfl rfl rfl hfree o.work)

end JobSystem

end Mixtape
