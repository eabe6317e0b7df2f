import Mixtape.Proofs.Jobs.Change

/-!
# What a run of a task comes to

A task that runs goes through its work step by step, until the work waits at a gate or ends. What such
a run comes to can be told from the work alone: nothing as long as it waits, and otherwise a result or
a failure, with which the job is closed. So a property of systems is followed through a run once it is
known to be carried through the steps on the way; what is left is how a run stops.

What is asked of runners meanwhile, apart from new jobs, is calm: it changes no record, announces
nothing, and leaves the tasks the same.

## Main definitions

* `Work.Within R work u` — from the state `u`, a work writes states along `R`.
* `Work.ending`, `Task.ending` — what a run comes to.
* `JobSystem.closing` — the last step of a job's life, for a result or a failure.
* `JobSystem.Carried` — a property is carried through the steps on the way.
* `JobSystem.Calm s s'` — no record is changed and nothing is announced.

## Main results

* `advance_of`, `turn_of` — **a property that is carried along holds of what a run comes to.**
* `advance_cases` — **a task that runs waits at a gate, or its job ends.**
* `cores_turn` — what a run leaves of its task.
* `calm_release`, `calm_cancel`, `calm_shutdown`, `calm_abort` — what is asked of runners is calm.
-/

namespace Mixtape

variable {σ : Type}

/-- From a state, a work writes only states that are related to the one before, whatever it finds when
it goes on after a wait. -/
def Work.Within (R : σ → σ → Prop) : Work σ → σ → Prop
  | .done _, _ => True
  | .fail _, _ => True
  | .report _ next, u => next.Within R u
  | .check next, u => next.Within R u
  | .poll next, u => ∀ cancelled, (next cancelled).Within R u
  | .await _ next, _ => ∀ t, next.Within R t
  | .read next, u => (next u).Within R u
  | .write t next, u => R u t ∧ next.Within R t

/-- Every work writes some states. -/
theorem Work.within_true (work : Work σ) (u : σ) : work.Within (fun _ _ => True) u := by
  induction work generalizing u with
  | done result => trivial
  | fail f => trivial
  | report p next ih => exact ih u
  | check next ih => exact ih u
  | poll next ih => exact fun cancelled => ih cancelled u
  | await gate next ih => exact ih
  | read next ih => exact ih u u
  | write t next ih => exact ⟨trivial, ih t⟩

/-- What a run of a work comes to for a job of a runner: nothing if it waits at a gate, or else its
result or its failure. -/
def Work.ending (r : Nat) (id : String) :
    Work σ → JobSystem σ → Option (Except Failure ResultRecord)
  | .done result, _ => some (.ok result)
  | .fail f, _ => some (.error f)
  | .report p next, s => next.ending r id (s.progress r id p)
  | .check next, s =>
    if s.isCancelled r id then some (.error .cancelled) else next.ending r id s
  | .poll next, s => (next (s.isCancelled r id)).ending r id s
  | .await gate next, s =>
    let s := s.noteGate gate
    if s.isOpen gate then next.ending r id s else none
  | .read next, s => (next s.shared).ending r id s
  | .write state next, s => next.ending r id { s with shared := state }

/-- What a run of a task comes to. A task that was aborted comes to a failure if it has begun, and is
dropped otherwise. -/
def Task.ending (store : JobStore σ) (t : Task σ) (s : JobSystem σ) :
    Option (Except Failure ResultRecord) :=
  if t.begun then
    if t.aborted then some (.error .cancelled) else t.work.ending t.runner t.id s
  else if t.aborted then none
  else t.work.ending t.runner t.id (s.step store t.runner t.id Job.start)

namespace JobSystem

variable {store : JobStore σ} {s s' s'' : JobSystem σ} {r : Nat} {id : String}

/-- The last step of a job's life: it is completed with the result of its work, or failed with the
failure. -/
def closing : Except Failure ResultRecord → Job → Timestamp → Job
  | .ok result, j, now => j.complete result now
  | .error f, j, now => failing f j now

theorem endsLife_closing (ending : Except Failure ResultRecord) : EndsLife (closing ending) := by
  cases ending with
  | ok result => exact endsLife_complete result
  | error f => exact endsLife_failing f

/-! ### Following a run -/

/-- A property is carried through the steps of a run that lie on the way: progress is reported, a gate
is named, and the state is written along `R`. -/
structure Carried (R : σ → σ → Prop) (r : Nat) (id : String) (I : JobSystem σ → Prop) : Prop where
  /-- Progress is reported. -/
  progress : ∀ {s} (p : Progress), I s → I (s.progress r id p)
  /-- A gate is named. -/
  noteGate : ∀ {s} (gate : String), I s → I (s.noteGate gate)
  /-- The state is written. -/
  write : ∀ {s t}, R s.shared t → I s → I { s with shared := t }

/-- The task of a work that waits at a gate. -/
def parked (r : Nat) (id gate : String) (next : Work σ) : Task σ :=
  { runner := r, id, begun := true, gate := some gate, work := next }

theorem shared_progress (s : JobSystem σ) (r : Nat) (id : String) (p : Progress) :
    (s.progress r id p).shared = s.shared := by
  unfold JobSystem.progress
  split
  · rfl
  · split <;> rfl

/-- **A property that is carried along holds of what a run comes to.** -/
theorem advance_of (store : JobStore σ) {R : σ → σ → Prop} {I : JobSystem σ → Prop}
    {E : Option (Except Failure ResultRecord) → JobSystem σ → Prop} (hI : Carried R r id I)
    (hpark : ∀ s gate next, (∀ t, next.Within R t) → I s →
      E none { s with blocked := s.blocked ++ [parked r id gate next] })
    (hfinish : ∀ s ending, I s → E (some ending) (s.finish store r id (closing ending))) :
    ∀ (work : Work σ) (s : JobSystem σ), work.Within R s.shared → I s →
      E (work.ending r id s) (advance store r id work s) := by
  intro work
  induction work with
  | done result =>
    intro s _ h
    exact hfinish s (.ok result) h
  | fail f =>
    intro s _ h
    exact hfinish s (.error f) h
  | report p next ih =>
    intro s hwork h
    refine ih _ ?_ (hI.progress p h)
    rw [shared_progress]
    exact hwork
  | check next ih =>
    intro s hwork h
    unfold advance Work.ending
    split
    · exact hfinish s (.error .cancelled) h
    · exact ih s hwork h
  | poll next ih =>
    intro s hwork h
    exact ih _ s (hwork _) h
  | await gate next ih =>
    intro s hwork h
    have hnoted := hI.noteGate gate h
    unfold advance Work.ending
    dsimp only
    split
    · exact ih _ (hwork _) hnoted
    · exact hpark _ gate next hwork hnoted
  | read next ih =>
    intro s hwork h
    exact ih _ s hwork h
  | write state next ih =>
    intro s hwork h
    exact ih _ hwork.2 (hI.write hwork.1 h)

/-- **A task that runs waits at a gate, or its job ends.** -/
theorem advance_cases {s₀ : JobSystem σ} {target : String} (hheld : s₀.books.holder target = some id)
    (work : Work σ) (h : Along s₀ s id target (· = .active)) (hblocked : s.blocked = s₀.blocked) :
    Parks s₀ (advance store 0 id work s) id target ∨
      Ends s₀ (advance store 0 id work s) id target := by
  have hI : Carried (fun _ _ => True) 0 id fun v =>
      Along s₀ v id target (· = .active) ∧ v.blocked = s₀.blocked := by
    refine ⟨fun p h => ⟨h.1.progress p, (blocked_progress ..).trans h.2⟩, fun {v} gate h => ?_,
      fun _ h => ⟨h.1.congr rfl rfl rfl, h.2⟩⟩
    unfold noteGate
    split
    · exact h
    · exact ⟨h.1.congr rfl rfl rfl, h.2⟩
  refine advance_of store (E := fun _ v => Parks s₀ v id target ∨ Ends s₀ v id target) hI ?_ ?_ work s
    (work.within_true _) ⟨h, hblocked⟩
  · exact fun v gate next _ h =>
      .inl ⟨h.1.congr rfl rfl rfl, gate, next, congrArg (· ++ [parked 0 id gate next]) h.2⟩
  · exact fun v ending h => .inr (ends_finish h.1 h.2 hheld (endsLife_closing ending))

/-- **A property that is carried along holds of what a turn comes to.** A task that has begun is followed
from the system without it, and one that has not from where its job is started. -/
theorem turn_of {R : σ → σ → Prop} {I : JobSystem σ → Prop}
    {E : Option (Except Failure ResultRecord) → JobSystem σ → Prop} {n : Nat} {t : Task σ}
    (ht : s.ready[n]? = some t) {s₀ : JobSystem σ} (hs₀ : s₀ = { s with ready := s.ready.eraseIdx n })
    (hI : Carried R t.runner t.id I) (hwork : ∀ u, t.work.Within R u)
    (hgoes : t.begun = true → I s₀)
    (hstarts : t.begun = false → t.aborted = false → I (s₀.step store t.runner t.id Job.start))
    (hdrops : t.begun = false → t.aborted = true → E none s₀)
    (hpark : ∀ s gate next, (∀ u, next.Within R u) → I s →
      E none { s with blocked := s.blocked ++ [parked t.runner t.id gate next] })
    (hfinish : ∀ s ending, I s →
      E (some ending) (s.finish store t.runner t.id (closing ending))) :
    E (t.ending store s₀) (s.turn store n) := by
  have hturn : s.turn store n = runTask store t s₀ := hs₀ ▸ turn_of_some ht
  have hrun := advance_of store hI hpark hfinish t.work
  rw [hturn]
  unfold runTask Task.ending
  by_cases hbegun : t.begun = true
  · rw [if_pos hbegun, if_pos hbegun]
    split
    · exact hfinish s₀ (.error .cancelled) (hgoes hbegun)
    · exact hrun s₀ (hwork _) (hgoes hbegun)
  · rw [if_neg hbegun, if_neg hbegun]
    have hbegun : t.begun = false := by simpa using hbegun
    by_cases haborted : t.aborted = true
    · rw [if_pos haborted, if_pos haborted]
      exact hdrops hbegun haborted
    · rw [if_neg haborted, if_neg haborted]
      exact hrun _ (hwork _) (hstarts hbegun (by simpa using haborted))

/-! ### Records -/

variable {r' : Nat} {i : String} {j : Job} {f : Runner → Runner}

/-- What changes no records of jobs. -/
theorem record_of_jobs (hf : ∀ n, (f n).jobs = n.jobs) (r' : Nat) (i : String) :
    (s.updateRunner r f).record r' i = s.record r' i := by
  unfold record
  rcases runner_updateRunner_cases s r r' f with heq | ⟨-, heq⟩
  · rw [heq]
  · rw [heq, hf]

/-- A record is filed, and no other is changed. -/
theorem record_put (hr : r < s.runners.length) (hf : ∀ n, (f n).jobs = n.jobs.put id j) (r' : Nat)
    (i : String) : (s.updateRunner r f).record r' i =
      if r' = r ∧ i = id then some j else s.record r' i := by
  unfold record
  split
  · rename_i heq
    obtain ⟨rfl, rfl⟩ := heq
    rw [runner_updateRunner_self hr, hf]
    exact Registry.find?_put_self ..
  · rename_i hne
    rcases runner_updateRunner_cases s r r' f with heq | ⟨rfl, heq⟩
    · rw [heq]
    · rw [heq, hf]
      exact Registry.find?_put_of_ne (fun hi => hne ⟨rfl, hi⟩) ..

/-- A record that is there is not changed when one is filed only if it is new. -/
theorem record_putNew {k : Job} (hk : s.record r' i = some k)
    (hf : ∀ n, (f n).jobs = n.jobs.putNew id j) : (s.updateRunner r f).record r' i = some k := by
  unfold record at hk ⊢
  rcases runner_updateRunner_cases s r r' f with heq | ⟨rfl, heq⟩
  · rw [heq]
    exact hk
  · rw [heq, hf]
    exact Registry.find?_putNew_of_some hk ..

/-- Nothing is filed for a job of which there is a record. -/
theorem record_putNew_of_known {k : Job} (hk : s.record r id = some k)
    (hf : ∀ n, (f n).jobs = n.jobs.putNew id j) (r' : Nat) (i : String) :
    (s.updateRunner r f).record r' i = s.record r' i := by
  unfold record at hk ⊢
  rcases runner_updateRunner_cases s r r' f with heq | ⟨rfl, heq⟩
  · rw [heq]
  · rw [heq, hf]
    unfold Registry.putNew
    rw [hk]

/-- A record is filed for a job of which there is none. -/
theorem record_putNew_of_new (hr : r < s.runners.length) (hnone : s.record r id = none)
    (hf : ∀ n, (f n).jobs = n.jobs.putNew id j) (r' : Nat) (i : String) :
    (s.updateRunner r f).record r' i = if r' = r ∧ i = id then some j else s.record r' i := by
  rw [← record_put hr (f := fun n => { n with jobs := n.jobs.put id j }) (fun _ => rfl) r' i]
  unfold record at hnone ⊢
  by_cases hr' : r = r'
  · subst hr'
    rw [runner_updateRunner_self hr, runner_updateRunner_self hr, hf]
    unfold Registry.putNew
    rw [hnone]
  · rw [runner_updateRunner_of_ne hr', runner_updateRunner_of_ne hr']

theorem record_congr (hrunners : s'.runners = s.runners) (r' : Nat) (i : String) :
    s'.record r' i = s.record r' i := by
  unfold record JobSystem.runner
  rw [hrunners]

/-- A runner with a record is there. -/
theorem lt_of_record (h : s.record r id = some j) : r < s.runners.length := by
  by_contra hlen
  unfold record JobSystem.runner at h
  rw [List.getD_eq_getElem?_getD, List.getElem?_eq_none (Nat.le_of_not_lt hlen)] at h
  cases h

/-- Progress adds and removes no records. -/
theorem record_progress_eq_none {p : Progress} :
    (s.progress r id p).record r' i = none ↔ s.record r' i = none := by
  unfold JobSystem.progress
  split
  · rfl
  · rename_i j hj
    split
    · rfl
    · have hput : ∀ k : Job, ((s.updateRunner r fun n =>
          { n with jobs := n.jobs.put id k }).announce k).record r' i =
            if r' = r ∧ i = id then some k else s.record r' i := fun k => by
        refine record_put (lt_of_record hj) ?_ r' i
        exact fun _ => rfl
      rw [hput]
      split
      · rename_i heq
        obtain ⟨rfl, rfl⟩ := heq
        change (s.runner r').jobs.find? i = some j at hj
        simp [record, hj]
      · rfl

/-- The record of a job is changed, and no other is. -/
theorem record_transition (store : JobStore σ) (hr : r < s.runners.length) (j : Job) (r' : Nat)
    (i : String) :
    (s.transition store r j).record r' i =
      if r' = r ∧ i = j.id then some j else s.record r' i := by
  refine record_put hr ?_ r' i
  exact fun _ => rfl

theorem record_cleanUp (s : JobSystem σ) (r : Nat) (id : String) (r' : Nat) (i : String) :
    (s.cleanUp r id).record r' i = s.record r' i := by
  refine record_of_jobs ?_ r' i
  exact fun _ => rfl

/-! ### What a run leaves of its task -/

theorem live_step (store : JobStore σ) (s : JobSystem σ) (r : Nat) (id : String)
    (g : Job → Timestamp → Job) : (s.step store r id g).live = s.live ∧
      (s.step store r id g).made = s.made ∧
      (s.step store r id g).runners.length = s.runners.length := by
  unfold JobSystem.step
  split
  · exact ⟨rfl, rfl, rfl⟩
  · exact ⟨rfl, rfl, List.length_modify ..⟩

theorem live_progress (s : JobSystem σ) (r : Nat) (id : String) (p : Progress) :
    (s.progress r id p).live = s.live ∧ (s.progress r id p).made = s.made ∧
      (s.progress r id p).runners.length = s.runners.length := by
  unfold JobSystem.progress
  split
  · exact ⟨rfl, rfl, rfl⟩
  · split
    · exact ⟨rfl, rfl, rfl⟩
    · exact ⟨rfl, rfl, List.length_modify ..⟩

/-- What is left of a task that ran. -/
inductive Left (R : σ → σ → Prop) (t : Task σ) :
    Option (Except Failure ResultRecord) → List (Task σ) → Prop
  /-- The task is dropped. -/
  | dropped (begun : t.begun = false) (aborted : t.aborted = true) : Left R t none []
  /-- The task waits at a gate. -/
  | parks (gate : String) (next : Work σ) (within : ∀ u, next.Within R u) :
    Left R t none [parked t.runner t.id gate next]
  /-- The task has ended. -/
  | ends (ending : Except Failure ResultRecord) : Left R t (some ending) []

/-- **What a turn leaves of the task that ran**; the other tasks are as they were. -/
theorem left_turn (store : JobStore σ) {R : σ → σ → Prop} {n : Nat} {t : Task σ}
    (ht : s.ready[n]? = some t) {s₀ : JobSystem σ} (hs₀ : s₀ = { s with ready := s.ready.eraseIdx n })
    (hwork : ∀ u, t.work.Within R u) : ∃ left, Left R t (t.ending store s₀) left ∧
      (s.turn store n).live = s₀.live ++ left ∧ (s.turn store n).made = s.made ∧
      (s.turn store n).runners.length = s.runners.length := by
  -- on the way all tasks stay where they are
  let I (v : JobSystem σ) : Prop :=
    v.live = s₀.live ∧ v.made = s.made ∧ v.runners.length = s.runners.length
  have hfirst : I s₀ := ⟨rfl, by rw [hs₀], by rw [hs₀]⟩
  have hsteps : ∀ {v w : JobSystem σ}, I v →
      (w.live = v.live ∧ w.made = v.made ∧ w.runners.length = v.runners.length) → I w :=
    fun hv hw => ⟨hw.1.trans hv.1, hw.2.1.trans hv.2.1, hw.2.2.trans hv.2.2⟩
  have hI : Carried R t.runner t.id I := by
    refine ⟨fun p h => hsteps h (live_progress ..), fun {v} gate h => hsteps h ?_, fun _ h => h⟩
    unfold noteGate
    split <;> exact ⟨rfl, rfl, rfl⟩
  refine turn_of (I := I) (E := fun ending v => ∃ left, Left R t ending left ∧
    v.live = s₀.live ++ left ∧ v.made = s.made ∧ v.runners.length = s.runners.length) ht hs₀ hI hwork
    (fun _ => hfirst) ?_ ?_ ?_ ?_
  · intro _ _
    exact hsteps hfirst (live_step ..)
  · intro hbegun haborted
    exact ⟨[], .dropped hbegun haborted, (List.append_nil _).symm, hfirst.2⟩
  · intro v gate next hnext hv
    refine ⟨_, .parks gate next hnext, ?_, hv.2⟩
    rw [← hv.1]
    exact (List.append_assoc ..).symm
  · intro v ending hv
    obtain ⟨hlive, hmade, hrunners⟩ := hsteps hv (live_step store v t.runner t.id (closing ending))
    exact ⟨[], .ends ending, hlive.trans (List.append_nil _).symm, hmade,
      (List.length_modify ..).trans hrunners⟩

/-- What is left of a task is a task of the same job, which has begun. -/
theorem Left.of_mem {R : σ → σ → Prop} {t u : Task σ} {ending : Option (Except Failure ResultRecord)}
    {left : List (Task σ)} (h : Left R t ending left) (hu : u ∈ left) :
    u.core = (t.runner, t.id, true) ∧ ∀ v, u.work.Within R v := by
  cases h with
  | dropped begun aborted => cases hu
  | parks gate next within =>
    obtain rfl := List.mem_singleton.1 hu
    exact ⟨rfl, within⟩
  | ends ending => cases hu

theorem Left.length_le_one {R : σ → σ → Prop} {t : Task σ}
    {ending : Option (Except Failure ResultRecord)} {left : List (Task σ)}
    (h : Left R t ending left) : left.length ≤ 1 := by
  cases h with
  | dropped begun aborted => exact Nat.zero_le _
  | parks gate next within => exact Nat.le_refl _
  | ends ending => exact Nat.zero_le _

/-- A job that is taken has one more task, which has not begun. -/
theorem cores_begin (s : JobSystem σ) (j : Job) (work : Work σ) (r : Nat) :
    (s.begin j work r).cores.Perm ((r, j.id, false) :: s.cores) := by
  have hlive : (s.begin j work r).live =
      s.ready ++ { runner := r, id := j.id, work } :: s.blocked := List.append_assoc ..
  unfold cores
  rw [hlive]
  exact List.perm_middle.map Task.core

/-! ### What is asked of runners -/

/-- No record is changed, nothing is announced, and the tasks stay the same. -/
structure Calm (s s' : JobSystem σ) : Prop where
  /-- The state is as it was. -/
  shared : s'.shared = s.shared
  /-- Nothing is announced. -/
  announced : s'.announced = s.announced
  /-- No record is changed. -/
  record : ∀ r i, s'.record r i = s.record r i
  /-- No runner is added. -/
  runners : s'.runners.length = s.runners.length
  /-- No id is given out. -/
  made : s'.made = s.made
  /-- The tasks that have not ended are the same. -/
  cores : s'.cores.Perm s.cores
  /-- They have the works that they had. -/
  works : ∀ t' ∈ s'.live, ∃ t ∈ s.live, t'.runner = t.runner ∧ t'.id = t.id ∧ t'.work = t.work

theorem same_tasks {ts : List (Task σ)} :
    ∀ t' ∈ ts, ∃ t ∈ ts, t'.runner = t.runner ∧ t'.id = t.id ∧ t'.work = t.work :=
  fun t ht => ⟨t, ht, rfl, rfl, rfl⟩

theorem Calm.refl (s : JobSystem σ) : Calm s s :=
  ⟨rfl, rfl, fun _ _ => rfl, rfl, rfl, .refl _, same_tasks⟩

theorem Calm.trans (h : Calm s s') (h' : Calm s' s'') : Calm s s'' where
  shared := h'.shared.trans h.shared
  announced := h'.announced.trans h.announced
  record r i := (h'.record r i).trans (h.record r i)
  runners := h'.runners.trans h.runners
  made := h'.made.trans h.made
  cores := h'.cores.trans h.cores
  works t'' ht'' := by
    obtain ⟨t', ht', hrunner', hid', hwork'⟩ := h'.works t'' ht''
    obtain ⟨t, ht, hrunner, hid, hwork⟩ := h.works t' ht'
    exact ⟨t, ht, hrunner'.trans hrunner, hid'.trans hid, hwork'.trans hwork⟩

/-- What changes no records of a runner is calm. -/
theorem calm_updateRunner (hf : ∀ n, (f n).jobs = n.jobs) : Calm s (s.updateRunner r f) where
  shared := rfl
  announced := rfl
  record := record_of_jobs hf
  runners := List.length_modify ..
  made := rfl
  cores := .refl _
  works := same_tasks

theorem calm_noteGate (s : JobSystem σ) (gate : String) : Calm s (s.noteGate gate) := by
  unfold noteGate
  split
  · exact .refl s
  · exact ⟨rfl, rfl, record_congr rfl, rfl, rfl, .refl _, same_tasks⟩

theorem calm_wake (wakes : Task σ → Bool) (s : JobSystem σ) : Calm s (s.wake wakes) := by
  refine ⟨rfl, rfl, record_congr rfl, rfl, rfl, cores_wake wakes s, fun u hu => ?_⟩
  rcases List.mem_append.1 hu with hu | hu
  · rcases List.mem_append.1 hu with hu | hu
    · exact ⟨u, List.mem_append_left _ hu, rfl, rfl, rfl⟩
    · obtain ⟨t, ht, rfl⟩ := List.mem_map.1 hu
      exact ⟨t, List.mem_append_right _ (List.mem_of_mem_filter ht), rfl, rfl, rfl⟩
  · exact ⟨u, List.mem_append_right _ (List.mem_of_mem_filter hu), rfl, rfl, rfl⟩

theorem calm_release (s : JobSystem σ) (gate : String) : Calm s (s.release gate) := by
  have hopened : Calm (s.noteGate gate)
      { s.noteGate gate with opened := (s.noteGate gate).opened ++ [gate] } :=
    ⟨rfl, rfl, record_congr rfl, rfl, rfl, .refl _, same_tasks⟩
  exact ((calm_noteGate s gate).trans hopened).trans (calm_wake ..)

theorem calm_releases (gates : List String) (s : JobSystem σ) :
    Calm s (gates.foldl (fun s gate => s.release gate) s) := by
  induction gates generalizing s with
  | nil => exact .refl s
  | cons gate gates ih => exact (calm_release s gate).trans (ih _)

theorem calm_cancel (s : JobSystem σ) (id : String) (r : Nat) : Calm s (s.cancel id r).2 := by
  unfold cancel
  split
  · exact .refl s
  · exact calm_updateRunner fun _ => rfl

theorem calm_shutdown (s : JobSystem σ) (r : Nat) : Calm s (s.shutdown r) := by
  have hflags : Calm s (s.updateRunner r fun n =>
      { n with contexts := n.contexts.map fun c => (c.1, true) }) :=
    calm_updateRunner fun _ => rfl
  have hopened : ∀ v : JobSystem σ, Calm v { v with allOpen := true } := fun v =>
    ⟨rfl, rfl, record_congr rfl, rfl, rfl, .refl _, same_tasks⟩
  exact (hflags.trans (hopened _)).trans (calm_releases ..)

theorem calm_abort (s : JobSystem σ) (id : String) (r : Nat) : Calm s (s.abort id r).2 := by
  unfold abort
  dsimp only
  split
  · exact .refl s
  · refine Calm.trans ?_ (calm_wake ..)
    refine ⟨rfl, rfl, record_congr rfl, rfl, rfl, .of_eq ?_, fun u hu => ?_⟩
    · -- a mark does not tell tasks apart
      unfold cores live
      rw [← List.map_append, List.map_map]
      refine List.map_congr_left fun t _ => ?_
      unfold Function.comp Task.core
      dsimp only
      split <;> rfl
    · unfold live at hu
      rw [← List.map_append] at hu
      obtain ⟨t, ht, rfl⟩ := List.mem_map.1 hu
      refine ⟨t, ht, ?_⟩
      split <;> exact ⟨rfl, rfl, rfl⟩

end JobSystem

end Mixtape
