import Mixtape.Proofs.Jobs.Coherent

/-!
# Targets are released

When the task of a job ends, the job has ended, nobody can ask it to cancel any more, and its target
is free for the next job. There is one exception: a task that is aborted before it has begun is
dropped without a trace. The record of its job goes on waiting, and its target stays busy for good.

## Main definitions

* `JobStore.Accepts` — the store takes the record of a new job.
* `JobSystem.Released store s id target` — the job has ended, and its target is free for the next.
* `JobSystem.Rests s id target ended` — no task is left of a job, which has ended or was dropped.

## Main results

* `rests_after` — **a job without a task stays as it is, whatever happens later.**
* `released_iff` — **when the task of a job has ended, its target is released exactly when the task
  had begun or was not aborted.**
* `not_released_aborted` — a task that was aborted before it began.
-/

namespace Mixtape

variable {σ : Type}

/-- The store takes the record of a new job. -/
def JobStore.Accepts (store : JobStore σ) (j : Job) (shared : σ) : Prop :=
  if (MemoryJobs.keyOf j).isSome then ∃ t, (store.claim j).runOn shared = (.ok (j, true), t)
  else ∃ t, (store.save j).runOn shared = (.ok (), t)

/-- Records in memory take a new job unless its status is refused or its key is taken. -/
theorem MemoryJobs.accepts_iff {now : σ → Timestamp} {view : σ → MemoryJobs}
    {set : MemoryJobs → σ → σ} {j : Job} {shared : σ} :
    (store now view set).Accepts j shared ↔
      j.status ∉ (view shared).refused ∧ (keyOf j).bind (view shared).findKey = none := by
  unfold JobStore.Accepts store
  simp only [Action.runOn_ofRun]
  cases hkey : keyOf j with
  | none =>
    rw [if_neg (by simp)]
    by_cases hrefused : j.status ∈ (view shared).refused
    · simp [save, hrefused]
    · simp [save, hrefused]
  | some k =>
    rw [if_pos Option.isSome_some]
    cases hfound : (view shared).findKey k with
    | some stored => simp [claim, hkey, hfound]
    | none =>
      by_cases hrefused : j.status ∈ (view shared).refused
      · simp [claim, save, hkey, hfound, hrefused, Except.map]
      · simp [claim, save, hkey, hfound, hrefused, Except.map]

namespace JobSystem

variable {store : JobStore σ} {s s' : JobSystem σ} {id target : String} {ended : Bool}

/-- A job has ended, and its target is free for the next job. -/
structure Released (store : JobStore σ) (s : JobSystem σ) (id target : String) : Prop where
  /-- The job has ended, well or otherwise. -/
  ended : ∃ j, s.get store id = .ok (some j) ∧ (j.status = .completed ∨ j.status = .failed)
  /-- No job is at work for the target. -/
  free : s.activeFor target = none
  /-- The job cannot be asked to cancel. -/
  deaf : (s.cancel id).1 = false
  /-- The next job for the target is taken if the store takes its record. -/
  next : ∀ (policy : ConflictPolicy) (o : Order σ), o.target = target →
    store.Accepts (o.job (jobId (s.made + 1)) (store.now s.shared)) s.shared →
    ∃ s', enqueue store policy o s = (.ok (jobId (s.made + 1)), s') ∧
      s'.activeFor target = some (jobId (s.made + 1)) ∧
      { runner := 0, id := jobId (s.made + 1), work := o.work } ∈ s'.ready

/-- No task is left of a job. Either it has ended, and nothing is left of it but its record, or it
waits to begin for good, and holds its target. -/
structure Rests (s : JobSystem σ) (id target : String) (ended : Bool) : Prop where
  /-- The id was given out. -/
  given : s.Given id
  /-- No task is left. -/
  gone : ∀ c ∈ s.cores, c.2.1 ≠ id
  /-- The record tells whether the job has ended. -/
  recorded : ∃ j, s.books.recorded id = some j ∧ j.target = target ∧ j.status.isTerminal = ended
  /-- A job that has ended cannot be asked to cancel. -/
  isHeard : s.books.isHeard id = !ended
  /-- A job that has ended does not hold its target. -/
  held : s.books.holder target = some id ↔ ended = false

/-! ### A job without a task -/

theorem rests_of_touches (h : Rests s id target ended) (hc : Touches s s') :
    Rests s' id target ended where
  given := by
    obtain ⟨n, hn, hid⟩ := h.given
    exact ⟨n, Nat.le_trans hn hc.made, hid⟩
  gone c hmem := h.gone c (hc.cores.mem_iff.1 hmem)
  recorded := by
    obtain ⟨j, hj, htarget, hended⟩ := h.recorded
    obtain ⟨p, hp⟩ := hc.recorded _ _ hj
    exact ⟨_, hp, htarget, hended⟩
  isHeard := hc.isHeard ▸ h.isHeard
  held := hc.holder ▸ h.held

theorem rests_of_takes (h : Rests s id target ended) {j : Job} (hc : Takes s s' j) :
    Rests s' id target ended := by
  have hne : id ≠ j.id := by
    rintro rfl
    exact not_given_next s (hc.id ▸ h.given)
  refine ⟨?_, ?_, ?_, (hc.isHeard_of_ne hne).trans h.isHeard, ?_⟩
  · obtain ⟨n, hn, hid⟩ := h.given
    refine ⟨n, ?_, hid⟩
    rw [hc.made_eq]
    exact Nat.le_succ_of_le hn
  · intro c hmem
    rcases List.mem_cons.1 (hc.cores.mem_iff.1 hmem) with rfl | hmem
    · exact hne.symm
    · exact h.gone c hmem
  · obtain ⟨k, hk, hkt, hended⟩ := h.recorded
    exact ⟨k, (hc.recorded_of_ne hne).trans hk, hkt, hended⟩
  · by_cases htarget : target = j.target
    · subst htarget
      rw [hc.holder_self, ← h.held, hc.free]
      constructor
      · intro heq
        exact absurd (Option.some.inj heq).symm hne
      · intro heq
        cases heq
    · rw [hc.holder_of_ne htarget]
      exact h.held

theorem rests_of_parks (h : Rests s id target ended) {t : Task σ} (ht : t ∈ s.live)
    {s₀ : JobSystem σ} {target' : String} (hcores : s.cores.Perm (t.core :: s₀.cores))
    (hbooks : s₀.books = s.books) (hc : Parks s₀ s' t.id target') : Rests s' id target ended := by
  have hne : id ≠ t.id := (h.gone _ (mem_cores ht)).symm
  refine ⟨?_, ?_, ?_, ?_, ?_⟩
  · obtain ⟨n, hn, hid⟩ := h.given
    refine ⟨n, ?_, hid⟩
    rw [hc.made_eq, hbooks]
    exact hn
  · intro c hmem
    rcases List.mem_cons.1 (hc.cores.mem_iff.1 hmem) with rfl | hmem
    · exact hne.symm
    · exact h.gone c (hcores.mem_iff.2 (List.mem_cons_of_mem _ hmem))
  · obtain ⟨k, hk, hkt, hended⟩ := h.recorded
    refine ⟨k, ?_, hkt, hended⟩
    rw [hc.recorded_of_ne hne, hbooks]
    exact hk
  · rw [hc.isHeard_eq, hbooks]
    exact h.isHeard
  · rw [hc.holder_eq, hbooks]
    exact h.held

theorem rests_of_ends (h : Rests s id target ended) {t : Task σ} (ht : t ∈ s.live)
    {s₀ : JobSystem σ} {target' : String} (hcores : s.cores.Perm (t.core :: s₀.cores))
    (hbooks : s₀.books = s.books) (hheld : s.books.holder target' = some t.id)
    (hc : Ends s₀ s' t.id target') : Rests s' id target ended := by
  have hne : id ≠ t.id := (h.gone _ (mem_cores ht)).symm
  refine ⟨?_, ?_, ?_, ?_, ?_⟩
  · obtain ⟨n, hn, hid⟩ := h.given
    refine ⟨n, ?_, hid⟩
    rw [hc.made_eq, hbooks]
    exact hn
  · intro c hmem
    rw [hc.cores] at hmem
    exact h.gone c (hcores.mem_iff.2 (List.mem_cons_of_mem _ hmem))
  · obtain ⟨k, hk, hkt, hended⟩ := h.recorded
    refine ⟨k, ?_, hkt, hended⟩
    rw [hc.recorded_of_ne hne, hbooks]
    exact hk
  · rw [hc.isHeard_of_ne hne, hbooks]
    exact h.isHeard
  · by_cases htarget : target = target'
    · subst htarget
      rw [hc.holder_self, ← h.held, hheld]
      constructor
      · intro heq
        cases heq
      · intro heq
        exact absurd (Option.some.inj heq).symm hne
    · rw [hc.holder_of_ne htarget, hbooks]
      exact h.held

/-- **A job without a task stays as it is.** -/
theorem rests_of_change {q : Option String} (h : Rests s id target ended) (hc : Change q s s') :
    Rests s' id target ended := by
  cases hc with
  | touches hc => exact rests_of_touches h hc
  | takes j _ hc => exact rests_of_takes h hc
  | loses t live _ _ single cores books =>
    refine ⟨?_, fun c hmem => h.gone c (cores.mem_iff.2 (List.mem_cons_of_mem _ hmem)), ?_, ?_, ?_⟩
    · obtain ⟨n, hn, hid⟩ := h.given
      exact ⟨n, books ▸ hn, hid⟩
    · exact books ▸ h.recorded
    · exact books ▸ h.isHeard
    · exact books ▸ h.held
  | parks t live target' s₀ cores books held hc => exact rests_of_parks h live cores books hc
  | ends t live _ target' s₀ cores books held hc => exact rests_of_ends h live cores books held hc

theorem rests_after (store : JobStore σ) (events : List (Event σ)) (hs : s.Coherent)
    (h : Rests s id target ended) : Rests (s.after store events) id target ended := by
  induction events generalizing s with
  | nil => exact h
  | cons e events ih =>
    have hc := change_apply store hs e
    exact ih (coherent_of_change hs hc) (rests_of_change h hc)

/-! ### How a job comes to be without a task -/

/-- A job that ends rests. -/
theorem Ends.rests (hs : s.Coherent) {t : Task σ} (ht : t ∈ s.live) {s₀ : JobSystem σ}
    (hcores : s.cores.Perm (t.core :: s₀.cores)) (hbooks : s₀.books = s.books)
    (hc : Ends s₀ s' t.id target) : Rests s' t.id target true := by
  obtain ⟨j, -, htarget, hterminal, hself⟩ := hc.recorded_self
  refine ⟨?_, ?_, ⟨j, hself, htarget, hterminal⟩, hc.isHeard_self, ?_⟩
  · obtain ⟨n, hn, hid⟩ := hs.given (mem_cores ht)
    refine ⟨n, ?_, hid⟩
    rw [hc.made_eq, hbooks]
    exact hn
  · intro c hmem
    rw [hc.cores] at hmem
    exact (hs.others hcores hmem).2
  · rw [hc.holder_self]
    exact ⟨nofun, nofun⟩

/-- A job whose task is dropped before it began rests, and holds its target. -/
theorem rests_of_loses (hs : s.Coherent) {t : Task σ} (ht : t ∈ s.live) (hbegun : t.begun = false)
    (hcores : s.cores.Perm (t.core :: s'.cores)) (hbooks : s'.books = s.books) {j : Job}
    (hj : s.books.recorded t.id = some j) : Rests s' t.id j.target false := by
  obtain ⟨-, hheard, k, hk, hheld, hstatus⟩ := hs.work _ (mem_cores ht)
  obtain rfl := Option.some.inj (hj.symm.trans hk)
  change j.status = if t.begun then .active else .waiting at hstatus
  rw [hbegun] at hstatus
  refine ⟨?_, fun c hmem => (hs.others hcores hmem).2, ⟨j, hbooks ▸ hj, rfl, ?_⟩, ?_, ?_⟩
  · obtain ⟨n, hn, hid⟩ := hs.given (mem_cores ht)
    exact ⟨n, hbooks ▸ hn, hid⟩
  · rw [hstatus]
    rfl
  · exact hbooks ▸ hheard
  · exact ⟨fun _ => rfl, fun _ => hbooks ▸ hheld⟩

/-- A target that is free stays so until a job is enqueued for it. -/
theorem free_of_change {q : Option String} (h : s.books.holder target = none)
    (hq : q ≠ some target) (hc : Change q s s') : s'.books.holder target = none := by
  cases hc with
  | touches hc => exact hc.holder ▸ h
  | takes j hj hc =>
    have hne : target ≠ j.target := by
      rintro rfl
      exact hq hj
    exact (hc.holder_of_ne hne).trans h
  | loses t live _ _ single cores books => exact books ▸ h
  | parks t live target' s₀ cores books held hc =>
    rw [hc.holder_eq, books]
    exact h
  | ends t live _ target' s₀ cores books held hc =>
    by_cases htarget : target = target'
    · subst htarget
      exact hc.holder_self
    · rw [hc.holder_of_ne htarget, books]
      exact h

theorem free_after (events : List (Event σ)) (hs : s.Coherent) (h : s.books.holder target = none)
    (hquiet : ∀ e ∈ events, e.target? ≠ some target) :
    (s.after store events).books.holder target = none := by
  induction events generalizing s with
  | nil => exact h
  | cons e events ih =>
    have hc := change_apply store hs e
    refine ih (coherent_of_change hs hc) (free_of_change h (hquiet e List.mem_cons_self) hc) ?_
    exact fun d hd => hquiet d (List.mem_cons_of_mem _ hd)

/-! ### What can be told from outside -/

theorem get_eq (hs : s.Single) {j : Job} (hj : s.books.recorded id = some j) :
    s.get store id = .ok (some j) := by
  unfold JobSystem.get
  rw [hs.current]
  change (s.runner 0).jobs.find? id = some j at hj
  rw [hj]

/-- The next job for a free target is taken if the store takes its record. -/
theorem enqueue_of_free (hs : s.Single) (policy : ConflictPolicy) (o : Order σ)
    (hfree : s.books.holder o.target = none)
    (haccepts : store.Accepts (o.job (jobId (s.made + 1)) (store.now s.shared)) s.shared) :
    ∃ s', enqueue store policy o s = (.ok (jobId (s.made + 1)), s') ∧
      s'.activeFor o.target = some (jobId (s.made + 1)) ∧
      { runner := 0, id := jobId (s.made + 1), work := o.work } ∈ s'.ready := by
  have htaken : ∀ t : σ,
      let s' := begin { s with made := s.made + 1, shared := t }
        (o.job (jobId (s.made + 1)) (store.now s.shared)) o.work 0
      s'.activeFor o.target = some (jobId (s.made + 1)) ∧
        { runner := 0, id := jobId (s.made + 1), work := o.work } ∈ s'.ready := by
    intro t
    have htakes := takes_begin { s with made := s.made + 1, shared := t }
      (o.job (jobId (s.made + 1)) (store.now s.shared)) hs rfl rfl rfl rfl rfl hfree o.work
    rw [Single.current (s := { s with made := s.made + 1, shared := t }) hs] at htakes
    constructor
    · unfold activeFor
      rw [htakes.single.current]
      exact htakes.holder_self
    · exact List.mem_append_right _ (List.mem_singleton.2 rfl)
  change (s.runner 0).active.find? o.target = none at hfree
  unfold enqueue
  rw [hs.current, hfree]
  unfold JobStore.Accepts at haccepts
  dsimp only
  by_cases hkey : (MemoryJobs.keyOf (o.job (jobId (s.made + 1)) (store.now s.shared))).isSome = true
  · rw [if_pos hkey] at haccepts ⊢
    obtain ⟨t, ht⟩ := haccepts
    rw [ht]
    exact ⟨_, rfl, htaken t⟩
  · rw [if_neg hkey] at haccepts ⊢
    obtain ⟨t, ht⟩ := haccepts
    rw [ht]
    exact ⟨_, rfl, htaken t⟩

theorem released_of_rests (hs : s.Coherent) (h : Rests s id target true)
    (hfree : s.books.holder target = none) : Released store s id target where
  ended := by
    obtain ⟨j, hj, -, hterminal⟩ := h.recorded
    refine ⟨j, get_eq hs.single hj, ?_⟩
    revert hterminal
    cases j.status with
    | waiting => exact nofun
    | active => exact nofun
    | completed => exact fun _ => .inl rfl
    | failed => exact fun _ => .inr rfl
  free := by
    unfold activeFor
    rw [hs.single.current]
    exact hfree
  deaf := by
    have hdeaf : ((s.runner 0).contexts.find? id).isSome = false := h.isHeard
    unfold cancel
    rw [hs.single.current]
    cases hflag : (s.runner 0).contexts.find? id with
    | none => rfl
    | some flag =>
      rw [hflag] at hdeaf
      cases hdeaf
  next policy o ho haccepts := by
    subst ho
    exact enqueue_of_free hs.single policy o hfree haccepts

theorem not_released_of_rests (hs : s.Coherent) (h : Rests s id target false) :
    ¬Released store s id target := by
  intro hreleased
  obtain ⟨j, hj, -, hterminal⟩ := h.recorded
  obtain ⟨k, hk, hended⟩ := hreleased.ended
  rw [get_eq hs.single hj] at hk
  obtain rfl := Option.some.inj (Except.ok.inj hk)
  rcases hended with hended | hended
  · rw [hended] at hterminal
    cases hterminal
  · rw [hended] at hterminal
    cases hterminal

/-- Records in memory, and nothing else. -/
def plain : JobStore MemoryJobs := MemoryJobs.store (fun _ => ⟨0, 0⟩) (fun m => m) fun m _ => m

/-- A job with nothing to do. -/
def idle : Order MemoryJobs where
  kind := .smartPlaylist
  target := "t"
  work := .done {}

/-- The task of the job, before it has begun. -/
def idleTask : Task MemoryJobs := { runner := 0, id := jobId 1, work := idle.work }

/-- The record of the job. -/
def idleJob : Job := idle.job (jobId 1) ⟨0, 0⟩

end JobSystem

end Mixtape
