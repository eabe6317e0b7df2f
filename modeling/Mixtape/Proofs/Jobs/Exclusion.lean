import Mathlib.Data.Set.Basic
import Mixtape.Proofs.Jobs.Coherent
import Mixtape.Proofs.Jobs.Running

/-!
# One job for each target

The jobs in flight are those with a task, those that can be asked to cancel, and those at work for a
target, and these are the same jobs. Each is at work for its own target, so no two jobs for one target
are in flight, and their works cannot overlap: from the moment its job is taken until it ends, no work
of another job for the target is there to begin. To enqueue a job is one event: the
runner holds a lock while it asks the store, and what else happens meanwhile leaves a free target free.

A runner's tasks and cancellation flags are filed and removed together, whatever is asked of it. That
the flags agree with the busy targets, and that a job whose work has begun has no task left that could
begin, is read off from the five things that can happen.

## Main definitions

* `Runner.Paired n` — tasks and cancellation flags are those of the same jobs.
* `JobSystem.InStep s` — the jobs with a cancellation flag are those at work for a target.
* `JobSystem.begun store events s` — the jobs whose work begins in events, in order.
* `JobSystem.Exclusive s` — one job for each target.

## Main results

* `paired_apply`, `inStep_of_change`, `spent_of_change` — **what one event preserves.**
* `exclusive_after` — **one job for each target, and no work begins twice.**
-/

namespace Mixtape

namespace Registry

variable {α : Type}

/-- The keys that have a value. -/
def keySet (r : Registry α) : Set String := {key | (r.find? key).isSome}

/-- The values that a key has. -/
def valueSet (r : Registry α) : Set α := {value | ∃ key, r.find? key = some value}

theorem isSome_find?_put (key i : String) (value : α) (r : Registry α) :
    ((r.put key value).find? i).isSome = (decide (i = key) || (r.find? i).isSome) := by
  by_cases hi : i = key
  · subst hi
    simp
  · rw [find?_put_of_ne hi]
    simp [hi]

theorem isSome_find?_erase (key i : String) (r : Registry α) :
    ((r.erase key).find? i).isSome = (!decide (i = key) && (r.find? i).isSome) := by
  by_cases hi : i = key
  · subst hi
    simp
  · rw [find?_erase_of_ne hi]
    simp [hi]

end Registry

/-- Tasks and cancellation flags are those of the same jobs. -/
def Runner.Paired (n : Runner) : Prop := n.tasks.keySet = n.contexts.keySet

theorem Runner.paired_iff {n : Runner} :
    n.Paired ↔ ∀ i, (n.tasks.find? i).isSome = (n.contexts.find? i).isSome := by
  refine Set.ext_iff.trans (forall_congr' fun i => ?_)
  exact Bool.eq_iff_iff.symm

namespace JobSystem

variable {σ : Type} {store : JobStore σ} {s s' : JobSystem σ} {id target : String}

/-! ### Tasks and cancellation flags -/

/-- Every runner's tasks and cancellation flags are those of the same jobs. -/
def Paired (s : JobSystem σ) : Prop := ∀ r, (s.runner r).Paired

theorem Paired.updateRunner (h : s.Paired) (r : Nat) {f : Runner → Runner}
    (hf : (f (s.runner r)).Paired) : (s.updateRunner r f).Paired := by
  intro r'
  rcases runner_updateRunner_cases s r r' f with heq | ⟨rfl, heq⟩
  · rw [heq]
    exact h r'
  · rw [heq]
    exact hf

theorem paired_transition (h : s.Paired) (r : Nat) (j : Job) : (s.transition store r j).Paired :=
  h.updateRunner r (h r)

theorem paired_step (h : s.Paired) (r : Nat) (f : Job → Timestamp → Job) :
    (s.step store r id f).Paired := by
  unfold JobSystem.step
  split
  · exact h
  · exact paired_transition h r _

theorem paired_progress (h : s.Paired) (r : Nat) (p : Progress) : (s.progress r id p).Paired := by
  unfold JobSystem.progress
  split
  · exact h
  · split
    · exact h
    · exact h.updateRunner r (h r)

/-- What is removed of a job that has ended is removed of both. -/
theorem paired_cleanUp (h : s.Paired) (r : Nat) : (s.cleanUp r id).Paired := by
  refine h.updateRunner r (Runner.paired_iff.2 fun i => ?_)
  rw [Registry.isSome_find?_erase, Registry.isSome_find?_erase, Runner.paired_iff.1 (h r) i]

theorem paired_finish (h : s.Paired) (r : Nat) (f : Job → Timestamp → Job) :
    (s.finish store r id f).Paired :=
  paired_cleanUp (paired_step h r f) r

theorem paired_noteGate (h : s.Paired) (gate : String) : (s.noteGate gate).Paired := by
  unfold noteGate
  split
  · exact h
  · exact h

theorem carried_paired (r : Nat) (id : String) :
    Carried (σ := σ) (fun _ _ => True) r id Paired where
  progress p h := paired_progress h r p
  noteGate gate h := paired_noteGate h gate
  write _ h := h

/-- A task that goes on leaves tasks and cancellation flags, or removes both of its job. -/
theorem paired_turn (h : s.Paired) (n : Nat) : (s.turn store n).Paired := by
  cases ht : s.ready[n]? with
  | none =>
    rw [turn_of_none ht]
    exact h
  | some t =>
    -- the line of tasks has no say in it
    have hwithout : Paired { s with ready := s.ready.eraseIdx n } := h
    refine turn_of (E := fun _ v => v.Paired) ht rfl (carried_paired t.runner t.id)
      t.work.within_true (fun _ => hwithout) ?_ (fun _ _ => hwithout) (fun _ _ _ _ hv => hv) ?_
    · exact fun _ _ => paired_step hwithout t.runner Job.start
    · exact fun _ ending hv => paired_finish hv t.runner (closing ending)

/-- A job that is taken gets both. -/
theorem paired_begin (h : s.Paired) (j : Job) (work : Work σ) : (s.begin j work).Paired := by
  refine h.updateRunner s.current (Runner.paired_iff.2 fun i => ?_)
  rw [Registry.isSome_find?_put, Registry.isSome_find?_put,
    Runner.paired_iff.1 (h s.current) i]

theorem paired_enqueue (h : s.Paired) (policy : ConflictPolicy) (o : Order σ) :
    (enqueue store policy o s).2.Paired := by
  have hc := enqueue_cases store policy o s
  generalize enqueue store policy o s = result at hc ⊢
  cases hc with
  | joins held busy join => exact h
  | refused held busy reject => exact h
  | fails free f t asked => exact h
  | hands free stored t asked => exact h.updateRunner _ (h _)
  | takes free stored t asked =>
    exact paired_begin (s := { s with made := s.made + 1, shared := t }) h _ o.work

/-- A flag is set only where there is one. -/
theorem paired_cancel (h : s.Paired) (id : String) : (s.cancel id).2.Paired := by
  unfold cancel
  split
  · exact h
  · rename_i flag hflag
    refine h.updateRunner s.current (Runner.paired_iff.2 fun i => ?_)
    rw [Registry.isSome_find?_put, Runner.paired_iff.1 (h s.current) i]
    by_cases hi : i = id
    · subst hi
      rw [hflag]
      simp
    · simp [hi]

theorem paired_releases : ∀ (gates : List String) (s : JobSystem σ), s.Paired →
    (gates.foldl (fun s gate => s.release gate) s).Paired := by
  intro gates
  induction gates with
  | nil => exact fun s h => h
  | cons gate gates ih => exact fun s h => ih _ (paired_noteGate h gate)

theorem paired_shutdown (h : s.Paired) : s.shutdown.Paired := by
  refine paired_releases _ _ (h.updateRunner s.current (Runner.paired_iff.2 fun i => ?_))
  rw [find?_map_isSome, Runner.paired_iff.1 (h s.current) i]

theorem paired_abort (h : s.Paired) (id : String) : (s.abort id).2.Paired := by
  unfold abort
  dsimp only
  split
  · exact h
  · exact h

/-- **Tasks and cancellation flags stay those of the same jobs.** -/
theorem paired_apply (store : JobStore σ) (h : s.Paired) (e : Event σ) :
    (e.apply store s).Paired := by
  cases e with
  | enqueue policy order => exact paired_enqueue h policy order
  | cancel id => exact paired_cancel h id
  | abort id => exact paired_abort h id
  | release gate => exact paired_noteGate h gate
  | shutdown => exact paired_shutdown h
  | report id p => exact paired_progress h 0 p
  | outside shared => exact h
  | turn n => exact paired_turn h n

/-! ### Cancellation flags and busy targets -/

/-- The jobs that can be asked to cancel are those at work for a target. -/
def InStep (s : JobSystem σ) : Prop :=
  ∀ id, s.books.isHeard id = true ↔ ∃ target, s.books.holder target = some id

/-- A job that is taken gets a flag and its target, which was free. -/
theorem inStep_of_takes (h : s.InStep) {j : Job} (hc : Takes s s' j) : s'.InStep := by
  intro id
  by_cases hid : id = j.id
  · subst hid
    exact iff_of_true hc.isHeard_self ⟨j.target, hc.holder_self⟩
  · rw [hc.isHeard_of_ne hid, h id]
    refine exists_congr fun target => ?_
    by_cases htarget : target = j.target
    · subst htarget
      rw [hc.free, hc.holder_self]
      refine iff_of_false nofun fun heq => hid (Option.some.inj heq).symm
    · rw [hc.holder_of_ne htarget]

/-- A job that ends loses its flag and the one target it was at work for. -/
theorem inStep_of_ends (hs : s.Coherent) (h : s.InStep) {s₀ : JobSystem σ}
    (hbooks : s₀.books = s.books) (hheld : s.books.holder target = some id)
    (hc : Ends s₀ s' id target) : s'.InStep := by
  intro i
  by_cases hi : i = id
  · subst hi
    rw [hc.isHeard_self]
    refine iff_of_false nofun ?_
    rintro ⟨target', htarget'⟩
    by_cases hne : target' = target
    · subst hne
      rw [hc.holder_self] at htarget'
      cases htarget'
    · rw [hc.holder_of_ne hne, hbooks] at htarget'
      exact hne (hs.target_unique hheld htarget')
  · rw [hc.isHeard_of_ne hi, hbooks, h i]
    refine exists_congr fun target' => ?_
    by_cases hne : target' = target
    · subst hne
      rw [hheld, hc.holder_self]
      refine iff_of_false (fun heq => hi (Option.some.inj heq).symm) nofun
    · rw [hc.holder_of_ne hne, hbooks]

/-- **Flags and busy targets stay those of the same jobs.** -/
theorem inStep_of_change {q : Option String} (hs : s.Coherent) (h : s.InStep) (hc : Change q s s') :
    s'.InStep := by
  cases hc with
  | touches hc =>
    intro i
    rw [hc.isHeard, hc.holder]
    exact h i
  | takes j _ hc => exact inStep_of_takes h hc
  | loses t _ _ _ _ _ books =>
    intro i
    rw [books]
    exact h i
  | parks t _ target s₀ _ books _ hc =>
    intro i
    rw [hc.isHeard_eq, hc.holder_eq, books]
    exact h i
  | ends t _ _ target s₀ _ books held hc => exact inStep_of_ends hs h books held hc

/-! ### Works that begin -/

/-- The job whose work begins in an event: the task of the job goes on for the first time, and was not
aborted. -/
def Event.begins (s : JobSystem σ) : Event σ → Option String
  | .turn n => (s.ready[n]?.filter fun t => !t.begun && !t.aborted).map Task.id
  | _ => none

/-- The jobs whose work begins in events, in order. -/
def begun (store : JobStore σ) : List (Event σ) → JobSystem σ → List String
  | [], _ => []
  | e :: events, s => (e.begins s).toList ++ begun store events (e.apply store s)

/-- The id was given out, and no task of the job is left whose work could begin. -/
structure Spent (s : JobSystem σ) (id : String) : Prop where
  /-- The id was given out. -/
  given : s.Given id
  /-- A task of the job has begun. -/
  noneLeft : ∀ c ∈ s.cores, c.2.1 = id → c.2.2 = true

theorem begins_eq_some {e : Event σ} (h : e.begins s = some id) :
    ∃ n t, e = .turn n ∧ s.ready[n]? = some t ∧ t.id = id ∧ t.begun = false ∧ t.aborted = false := by
  cases e with
  | turn n =>
    obtain ⟨t, ht, hid⟩ := Option.map_eq_some_iff.1 h
    obtain ⟨ht, hfirst⟩ := Option.filter_eq_some_iff.1 ht
    simp only [Bool.and_eq_true, Bool.not_eq_true'] at hfirst
    exact ⟨n, t, rfl, ht, hid, hfirst.1, hfirst.2⟩
  | _ => cases h

/-- A job whose work has begun does not begin. -/
theorem Spent.begins_ne {e : Event σ} (h : s.Spent id) : e.begins s ≠ some id := by
  intro hbegins
  obtain ⟨n, t, rfl, ht, hid, hbegun, -⟩ := begins_eq_some hbegins
  have := h.noneLeft _ (mem_cores (mem_live ht)) hid
  exact absurd (hbegun.symm.trans this) Bool.false_ne_true

/-- **A job whose work has begun has no task again that could begin.** -/
theorem spent_of_change {q : Option String} (h : s.Spent id) (hc : Change q s s') :
    s'.Spent id := by
  obtain ⟨⟨m, hm, hgiven⟩, hbegun⟩ := h
  cases hc with
  | touches hc =>
    exact ⟨⟨m, Nat.le_trans hm hc.made, hgiven⟩, fun c hmem => hbegun c (hc.cores.mem_iff.1 hmem)⟩
  | takes j _ hc =>
    refine ⟨⟨m, hc.made_eq ▸ Nat.le_succ_of_le hm, hgiven⟩, fun c hmem hid => ?_⟩
    rcases List.mem_cons.1 (hc.cores.mem_iff.1 hmem) with rfl | hmem
    · exact absurd ⟨m, hm, hc.id.symm.trans (hid.trans hgiven)⟩ (not_given_next s)
    · exact hbegun c hmem hid
  | loses t _ _ _ _ cores books =>
    exact ⟨⟨m, books ▸ hm, hgiven⟩,
      fun c hmem => hbegun c (cores.mem_iff.2 (List.mem_cons_of_mem _ hmem))⟩
  | parks t _ target s₀ cores books _ hc =>
    refine ⟨⟨m, (hc.made_eq.trans (congrArg Books.made books)) ▸ hm, hgiven⟩, fun c hmem hid => ?_⟩
    rcases List.mem_cons.1 (hc.cores.mem_iff.1 hmem) with rfl | hmem
    · rfl
    · exact hbegun c (cores.mem_iff.2 (List.mem_cons_of_mem _ hmem)) hid
  | ends t _ _ target s₀ cores books _ hc =>
    refine ⟨⟨m, (hc.made_eq.trans (congrArg Books.made books)) ▸ hm, hgiven⟩, fun c hmem hid => ?_⟩
    rw [hc.cores] at hmem
    exact hbegun c (cores.mem_iff.2 (List.mem_cons_of_mem _ hmem)) hid

/-- A job whose work begins has no task left that could begin. -/
theorem spent_of_begins (store : JobStore σ) (hs : s.Coherent) {e : Event σ}
    (h : e.begins s = some id) : (e.apply store s).Spent id := by
  obtain ⟨n, t, rfl, ht, rfl, hbegun, haborted⟩ := begins_eq_some h
  have hlive : t ∈ s.live := mem_live ht
  obtain ⟨s₀, target, hcores, hbooks, -, hcase⟩ := turn_cases store hs ht
  obtain ⟨m, hm, hgiven⟩ := hs.given (mem_cores hlive)
  rw [← hbooks] at hm
  change (s.turn store n).Spent t.id
  rcases hcase with ⟨-, haborted', -⟩ | ⟨-, hparks | hends⟩
  · exact absurd (haborted.symm.trans haborted') Bool.false_ne_true
  · refine ⟨⟨m, hparks.made_eq ▸ hm, hgiven⟩, fun c hmem hid => ?_⟩
    rcases List.mem_cons.1 (hparks.cores.mem_iff.1 hmem) with rfl | hmem
    · rfl
    · exact absurd hid (hs.others hcores hmem).2
  · refine ⟨⟨m, hends.made_eq ▸ hm, hgiven⟩, fun c hmem hid => ?_⟩
    rw [hends.cores] at hmem
    exact absurd hid (hs.others hcores hmem).2

/-- A job whose work has begun does not begin in later events. -/
theorem Spent.notMem_begun (store : JobStore σ) (events : List (Event σ)) (hs : s.Coherent)
    (h : s.Spent id) : id ∉ begun store events s := by
  induction events generalizing s with
  | nil => exact List.not_mem_nil
  | cons e events ih =>
    have hc := change_apply store hs e
    have hrest := ih (coherent_of_change hs hc) (spent_of_change h hc)
    intro hmem
    rcases List.mem_append.1 hmem with hfirst | hlater
    · exact h.begins_ne (Option.mem_toList.1 hfirst)
    · exact hrest hlater

/-- **No work begins twice.** -/
theorem nodup_begun (store : JobStore σ) (events : List (Event σ)) (hs : s.Coherent) :
    (begun store events s).Nodup := by
  induction events generalizing s with
  | nil => exact .nil
  | cons e events ih =>
    have hs' := coherent_of_change hs (change_apply store hs e)
    unfold begun
    cases hbegins : e.begins s with
    | none => exact ih hs'
    | some id =>
      have hspent := spent_of_begins store hs hbegins
      exact List.nodup_cons.2 ⟨hspent.notMem_begun store events hs', ih hs'⟩

/-! ### One job for each target -/

/-- The target of a job that the runner knows. -/
def targetOf (s : JobSystem σ) (id : String) : Option String :=
  ((s.runner s.current).jobs.find? id).map Job.target

/-- One job for each target. -/
structure Exclusive (s : JobSystem σ) : Prop where
  /-- The jobs with a task are those that can be asked to cancel. -/
  tasks : (s.runner s.current).tasks.keySet = (s.runner s.current).contexts.keySet
  /-- The jobs that can be asked to cancel are those at work for a target. -/
  contexts : (s.runner s.current).contexts.keySet = (s.runner s.current).active.valueSet
  /-- A job is at work for its own target. -/
  filed : ∀ target id, s.activeFor target = some id → s.targetOf id = some target
  /-- No two jobs in flight have one target. -/
  alone : ∀ id ∈ (s.runner s.current).tasks.keySet, ∀ id' ∈ (s.runner s.current).tasks.keySet,
    s.targetOf id = s.targetOf id' → id = id'
  /-- Every task that has not ended belongs to a job in flight. -/
  inFlight : ∀ t ∈ s.live, t.id ∈ (s.runner s.current).tasks.keySet
  /-- No two tasks that have not ended have one target: their works do not overlap. -/
  apart : ∀ t ∈ s.live, ∀ u ∈ s.live, s.targetOf t.id = s.targetOf u.id → t = u

theorem Coherent.targetOf_of_holder (h : s.Coherent) (hheld : s.books.holder target = some id) :
    s.targetOf id = some target := by
  obtain ⟨-, j, hj, rfl⟩ := h.held target id hheld
  change (s.runner 0).jobs.find? id = some j at hj
  unfold targetOf
  rw [h.single.current, hj]
  rfl

/-- A job at work for a target is the only one. -/
theorem exclusive_of_inStep (hs : s.Coherent) (hp : s.Paired) (h : s.InStep) : s.Exclusive := by
  have hcurrent := hs.single.current
  have hcontexts : (s.runner s.current).contexts.keySet = (s.runner s.current).active.valueSet := by
    rw [hcurrent]
    exact Set.ext h
  have htasks : (s.runner s.current).tasks.keySet = (s.runner s.current).contexts.keySet :=
    hp _
  have hheld : ∀ id ∈ (s.runner s.current).tasks.keySet, ∃ target,
      s.books.holder target = some id := by
    intro id hid
    rw [htasks, hcontexts, hcurrent] at hid
    exact hid
  have halone : ∀ id ∈ (s.runner s.current).tasks.keySet,
      ∀ id' ∈ (s.runner s.current).tasks.keySet, s.targetOf id = s.targetOf id' → id = id' := by
    intro id hid id' hid' heq
    obtain ⟨target, htarget⟩ := hheld id hid
    obtain ⟨target', htarget'⟩ := hheld id' hid'
    rw [hs.targetOf_of_holder htarget, hs.targetOf_of_holder htarget'] at heq
    obtain rfl := Option.some.inj heq
    exact Option.some.inj (htarget.symm.trans htarget')
  have hflight : ∀ t ∈ s.live, t.id ∈ (s.runner s.current).tasks.keySet := by
    intro t ht
    rw [htasks, hcurrent]
    exact (hs.work _ (mem_cores ht)).2.1
  refine ⟨htasks, hcontexts, fun target id hactive => ?_, halone, hflight, fun t ht u hu heq => ?_⟩
  · unfold activeFor at hactive
    rw [hcurrent] at hactive
    exact hs.targetOf_of_holder hactive
  · exact hs.task_unique ht hu (halone t.id (hflight t ht) u.id (hflight u hu) heq)

/-- **One job for each target, and no work begins twice.** -/
theorem exclusive_after (store : JobStore σ) (shared : σ) (events : List (Event σ)) :
    (after store events { shared }).Exclusive ∧ (begun store events { shared }).Nodup := by
  have hrun : ∀ (events : List (Event σ)) (s : JobSystem σ), s.Coherent → s.Paired → s.InStep →
      (after store events s).Exclusive := by
    intro events
    induction events with
    | nil => exact fun s hs hp h => exclusive_of_inStep hs hp h
    | cons e events ih =>
      intro s hs hp h
      have hc := change_apply store hs e
      exact ih _ (coherent_of_change hs hc) (paired_apply store hp e) (inStep_of_change hs h hc)
  refine ⟨hrun events _ (coherent_start shared) (fun r => ?_) ?_,
    nodup_begun store events (coherent_start shared)⟩
  · cases r with
    | zero => rfl
    | succ r => rfl
  · exact fun id => iff_of_false nofun nofun

end JobSystem

end Mixtape
