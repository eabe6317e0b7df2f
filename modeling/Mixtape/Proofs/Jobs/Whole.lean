import Mixtape.Proofs.Jobs.Fleet
import Mixtape.Proofs.Jobs.Release

/-!
# Works that run in one piece

The work of a computation never waits: when its turn comes, it runs from its beginning to its end, and its
job is closed with what the computation came to. Until then its task stays in line as it was enqueued,
whatever happens.

## Main definitions

* `JobSystem.opening` — the system in which the work of a task begins.
* `JobSystem.reporting` — a job tells its reports.
* `JobSystem.Filed s r id` — a runner has a record of a job.
* `JobSystem.Pending s id work` — the task of a job has not begun.

## Main results

* `turn_of_ofRun` — what the turn of a computation comes to.
* `get_turn_of_ofRun` — **the job is closed with what its computation came to.**
* `pending_after` — **until its turn a task is as it was enqueued.**
-/

namespace Mixtape
namespace JobSystem

variable {σ : Type} {store : JobStore σ} {s s' : JobSystem σ} {r k : Nat} {id : String} {t : Task σ}
  {run : Bool → σ → (Except Failure SyncResult × List Progress) × σ}
  {result : Except Failure SyncResult} {told : List Progress} {u : σ}

/-! ### The turn of a computation -/

/-- The system in which the work of a task begins: the task is no longer in line, and its job is started. -/
def opening (store : JobStore σ) (s : JobSystem σ) (k : Nat) (t : Task σ) : JobSystem σ :=
  ({ s with ready := s.ready.eraseIdx k } : JobSystem σ).step store t.runner t.id Job.start

/-- A job tells its reports, one by one. -/
def reporting (s : JobSystem σ) (r : Nat) (id : String) (ps : List Progress) : JobSystem σ :=
  ps.foldl (fun s p => s.progress r id p) s

/-- What every report keeps is kept by all. -/
theorem reporting_induction {P : JobSystem σ → Prop} (h : ∀ s p, P s → P (s.progress r id p))
    (ps : List Progress) (hs : P s) : P (s.reporting r id ps) := by
  induction ps generalizing s with
  | nil => exact hs
  | cons p ps ih => exact ih (h s p hs)

theorem advance_reports (ps : List Progress) (next : Work σ) (s : JobSystem σ) :
    advance store r id (Work.reports ps next) s = advance store r id next (s.reporting r id ps) := by
  induction ps generalizing s with
  | nil => rfl
  | cons p ps ih => exact ih (s.progress r id p)

theorem advance_ofResult (result : Except Failure SyncResult) (s : JobSystem σ) :
    advance store r id (Work.ofResult result) s =
      s.finish store r id (closing (result.map SyncResult.record)) := by
  cases result <;> rfl

/-- A computation runs in one piece. -/
theorem advance_ofRun (h : run (s.isCancelled r id) s.shared = ((result, told), u)) :
    advance store r id (.ofRun run) s = (reporting { s with shared := u } r id told).finish store r id
      (closing (result.map SyncResult.record)) := by
  rw [← advance_ofResult, ← advance_reports]
  unfold Work.ofRun
  rw [advance, advance, h]
  rfl

/-- **What the turn of a computation comes to.** -/
theorem turn_of_ofRun (ht : s.ready[k]? = some t) (hbegun : t.begun = false)
    (haborted : t.aborted = false) (hwork : t.work = .ofRun run)
    (hrun : run ((s.opening store k t).isCancelled t.runner t.id) (s.opening store k t).shared =
      ((result, told), u)) :
    s.turn store k =
      (reporting { s.opening store k t with shared := u } t.runner t.id told).finish store t.runner t.id
        (closing (result.map SyncResult.record)) := by
  rw [turn_of_some ht]
  unfold runTask
  rw [hbegun, haborted, hwork]
  exact advance_ofRun hrun

/-! ### The record of the job -/

/-- There is a record of a job under its id. -/
def Filed (s : JobSystem σ) (r : Nat) (id : String) : Prop := ∃ j, s.record r id = some j ∧ j.id = id

/-- A step of a job's life is recorded. -/
theorem record_step (store : JobStore σ) (hfiled : s.Filed r id) {g : Job → Timestamp → Job}
    (hg : ∀ j now, (g j now).id = j.id) :
    ∃ j, j.id = id ∧ (s.step store r id g).record r id = some (g j (store.now s.shared)) := by
  obtain ⟨j, hj, hid⟩ := hfiled
  refine ⟨j, hid, ?_⟩
  rw [step_of_record hj, record_transition store (lt_of_record hj)]
  exact if_pos ⟨rfl, ((hg _ _).trans hid).symm⟩

theorem filed_progress (h : s.Filed r id) (p : Progress) : (s.progress r id p).Filed r id := by
  obtain ⟨j, hj, hid⟩ := h
  by_cases hended : j.status.isTerminal = true
  · have hsame : s.progress r id p = s := by
      refine progress_of_ended (fun j' hj' => ?_) p
      obtain rfl := Option.some.inj (hj.symm.trans hj')
      exact hended
    rw [hsame]
    exact ⟨j, hj, hid⟩
  · rw [progress_of_live hj (by simpa using hended)]
    refine ⟨j.withProgress p, ?_, hid⟩
    exact (record_put (lt_of_record hj) (fun _ => rfl) r id).trans (if_pos ⟨rfl, rfl⟩)

theorem filed_opening (h : s.Filed t.runner t.id) (k : Nat) :
    (s.opening store k t).Filed t.runner t.id := by
  have hline : ({ s with ready := s.ready.eraseIdx k } : JobSystem σ).Filed t.runner t.id := h
  obtain ⟨j, hid, hj⟩ := record_step store hline (g := Job.start) fun _ _ => rfl
  exact ⟨_, hj, hid⟩

/-- **The job is closed with what its computation came to.** -/
theorem get_turn_of_ofRun (hs : s.Coherent) (ht : s.ready[k]? = some t) (hbegun : t.begun = false)
    (haborted : t.aborted = false) (hwork : t.work = .ofRun run)
    (hrun : run ((s.opening store k t).isCancelled t.runner t.id) (s.opening store k t).shared =
      ((result, told), u)) :
    ∃ j now, (s.turn store k).get store t.id =
      .ok (some (closing (result.map SyncResult.record) j now)) := by
  have hlive : t ∈ s.live := mem_live ht
  obtain ⟨hrunner, -, j, hj, -, -⟩ := hs.work _ (mem_cores hlive)
  change t.runner = 0 at hrunner
  have hfiled : s.Filed t.runner t.id := ⟨j, hrunner ▸ hj, hs.keyed _ _ hj⟩
  -- the record is there until the job is closed
  have hopen : Filed { s.opening store k t with shared := u } t.runner t.id := filed_opening hfiled k
  have htold := reporting_induction (P := fun v => v.Filed t.runner t.id)
    (fun _ p h => filed_progress h p) told hopen
  obtain ⟨j', -, hj'⟩ := record_step store htold
    (endsLife_closing (result.map SyncResult.record)).id
  obtain ⟨now, hclosed⟩ : ∃ now, (s.turn store k).books.recorded t.id =
      some (closing (result.map SyncResult.record) j' now) := by
    rw [turn_of_ofRun ht hbegun haborted hwork hrun]
    rw [hrunner] at hj' ⊢
    exact ⟨_, (record_cleanUp ..).trans hj'⟩
  exact ⟨j', now, get_eq (coherent_of_change hs (change_turn hs k)).single hclosed⟩

/-! ### Tasks that have not begun -/

/-- A computation leaves no task. -/
theorem live_turn_of_ofRun (ht : s.ready[k]? = some t) (hbegun : t.begun = false)
    (hwork : t.work = .ofRun run) :
    (s.turn store k).live = ({ s with ready := s.ready.eraseIdx k } : JobSystem σ).live := by
  by_cases haborted : t.aborted = true
  · rw [turn_of_some ht]
    unfold runTask
    rw [hbegun, haborted]
    rfl
  have haborted : t.aborted = false := by simpa using haborted
  rcases hrun : run ((s.opening store k t).isCancelled t.runner t.id) (s.opening store k t).shared
    with ⟨⟨result, told⟩, u⟩
  rw [turn_of_ofRun ht hbegun haborted hwork hrun]
  refine (live_step store _ _ _ _).1.trans ?_
  refine reporting_induction (P := fun v => v.live = _)
    (fun v p h => (live_progress v _ _ p).1.trans h) told ?_
  exact (live_step store _ _ _ _).1

/-- The task of a job, as long as it has one, has not begun, and its work is that which the job was
enqueued with. -/
structure Pending (s : JobSystem σ) (id : String) (work : Work σ) : Prop where
  /-- The id was given out. -/
  given : s.Given id
  /-- The task is as it was enqueued. -/
  tasks : ∀ t ∈ s.live, t.id = id → t.begun = false ∧ t.work = work

theorem pending_of_calm {work : Work σ} (h : s.Pending id work) (hc : Calm s s') :
    s'.Pending id work := by
  refine ⟨h.given.mono hc.made.ge, fun t ht hid => ?_⟩
  obtain ⟨t₀, ht₀, -, hid₀, hwork⟩ := hc.works t ht
  refine ⟨?_, hwork ▸ (h.tasks t₀ ht₀ (hid₀ ▸ hid)).2⟩
  -- whether a task has begun is told by its core
  obtain ⟨t₁, ht₁, hcore⟩ := List.mem_map.1 (hc.cores.mem_iff.1 (mem_cores ht))
  obtain ⟨-, hid₁, hbegun⟩ : t₁.runner = t.runner ∧ t₁.id = t.id ∧ t₁.begun = t.begun := by
    simpa [Task.core] using hcore
  exact hbegun ▸ (h.tasks t₁ ht₁ (hid₁.trans hid)).1

/-- Nothing is handed back of a job without a key. -/
theorem asking_of_no_key {o : Order σ} (hkey : o.key = none) {now : Timestamp} {stored : Job}
    {isNew : Bool} {v : σ} (h : (asking store (o.job id now)).runOn u = (.ok (stored, isNew), v)) :
    isNew = true ∧ stored.id = id := by
  have hnone : MemoryJobs.keyOf (o.job id now) = none := by simp [MemoryJobs.keyOf, Order.job, hkey]
  unfold asking at h
  rw [hnone, if_neg (by simp)] at h
  obtain ⟨_, _, -, hpure⟩ := Action.runOn_bind_eq_ok.1 h
  cases hpure
  exact ⟨rfl, rfl⟩

/-- **The task of a job that is taken has not begun.** -/
theorem pending_of_taken (hs : s.Coherent) {policy : ConflictPolicy} {o : Order σ} (hkey : o.key = none)
    (hfree : s.activeFor o.target = none) (htaken : (enqueue store policy o s).1 = .ok id) :
    (enqueue store policy o s).2.Pending id o.work := by
  have hc := enqueue_cases store policy o s
  generalize enqueue store policy o s = result at hc htaken ⊢
  cases hc with
  | joins held busy join => cases hfree.symm.trans busy
  | refused held busy reject => cases htaken
  | fails free f t asked => cases htaken
  | hands free stored t asked => cases (asking_of_no_key hkey asked).1
  | takes free stored t asked =>
    obtain rfl : stored.id = id := Except.ok.inj htaken
    rw [(asking_of_no_key hkey asked).2]
    refine ⟨⟨_, Nat.le_refl _, rfl⟩, fun v hv hid => ?_⟩
    -- the other tasks belong to jobs whose ids were given out before
    have hother : ∀ v ∈ s.live, v.id ≠ jobId (s.made + 1) := fun v hv heq =>
      not_given_next s (heq ▸ hs.given (mem_cores hv))
    rcases eq_or_mem_of_begin hv with rfl | hv
    · exact ⟨rfl, rfl⟩
    · exact absurd hid (hother v hv)

/-- **Whatever happens, the task of a computation stays as it was enqueued**, or it runs and is gone. -/
theorem pending_apply (store : JobStore σ) (h : s.Pending id (.ofRun run)) (e : Event σ) :
    (e.apply store s).Pending id (.ofRun run) := by
  cases e with
  | enqueue policy o =>
    change (enqueue store policy o s).2.Pending id _
    have hc := enqueue_cases store policy o s
    generalize enqueue store policy o s = result at hc ⊢
    have hgiven : ∀ {s' : JobSystem σ}, s'.made = s.made + 1 → s'.Given id := fun hmade =>
      h.given.mono (hmade ▸ Nat.le_succ _)
    cases hc with
    | joins held busy join => exact h
    | refused held busy reject => exact h
    | fails free f t asked => exact ⟨hgiven rfl, h.tasks⟩
    | hands free stored t asked => exact ⟨hgiven rfl, h.tasks⟩
    | takes free stored t asked =>
      refine ⟨hgiven rfl, fun v hv hid => ?_⟩
      rcases eq_or_mem_of_begin hv with rfl | hv
      · -- the new job has another id
        obtain rfl : jobId (s.made + 1) = id := hid
        exact absurd h.given (not_given_next s)
      · exact h.tasks v hv hid
  | cancel i => exact pending_of_calm h (calm_cancel s i _)
  | abort i => exact pending_of_calm h (calm_abort s i _)
  | release gate => exact pending_of_calm h (calm_release s gate)
  | shutdown => exact pending_of_calm h (calm_shutdown s _)
  | report i p =>
    obtain ⟨hlive, hmade, -⟩ := live_progress s 0 i p
    exact ⟨h.given.mono hmade.ge, fun t ht => h.tasks t (hlive ▸ ht)⟩
  | outside shared => exact ⟨h.given, h.tasks⟩
  | turn n =>
    change (s.turn store n).Pending id _
    cases ht : s.ready[n]? with
    | none =>
      rw [turn_of_none ht]
      exact h
    | some t =>
      obtain ⟨left, hleft, hlive, hmade, -⟩ := left_turn store ht rfl t.work.within_true
      refine ⟨h.given.mono hmade.ge, fun v hv hid => ?_⟩
      by_cases hself : t.id = id
      · -- this is the task, and it is gone
        obtain ⟨hbegun, hwork⟩ := h.tasks t (mem_live ht) hself
        rw [live_turn_of_ofRun ht hbegun hwork] at hv
        exact h.tasks v (mem_live_of_eraseIdx hv) hid
      · rw [hlive] at hv
        rcases List.mem_append.1 hv with hv | hv
        · exact h.tasks v (mem_live_of_eraseIdx hv) hid
        · exact absurd ((congrArg (·.2.1) (hleft.of_mem hv).1).symm.trans hid) hself

/-- **Until its turn a task is as it was enqueued.** -/
theorem pending_after (store : JobStore σ) (events : List (Event σ)) (h : s.Pending id (.ofRun run)) :
    (s.after store events).Pending id (.ofRun run) := by
  induction events generalizing s with
  | nil => exact h
  | cons e events ih => exact ih (pending_apply store h e)

end JobSystem
end Mixtape
