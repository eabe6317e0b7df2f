import Mixtape.Proofs.Jobs.Coherent
import Mixtape.Proofs.Jobs.Filing
import Mixtape.Proofs.Jobs.Running

/-!
# Runners over one store

Several runners can work over one store, one after another or side by side. Whatever happens to them,
what the store keeps stays so: a record that is written is that of a job whose task has not ended, and it
has the id and the key that the job was taken with.

## Main definitions

* `Work.Spares F work u` — from the state `u`, a work leaves the records of jobs.
* `JobSystem.Occurrence` — what can happen to the runners over one store.
* `JobSystem.Kept store F P G` — `P` is kept when jobs with `G` are recorded.
* `JobSystem.Steady F P G s` — the state has `P`, and the jobs whose tasks have not ended have `G`.
* `JobSystem.Onward G s s'` — what runners know they go on to know.

## Main results

* `steady_turn` — **what a task preserves that goes on.**
* `steady_apply` — **what one occurrence preserves.**
-/

namespace Mixtape

variable {σ : Type}

/-- From a state, a work leaves the records of jobs, whatever it finds when it goes on after a wait. -/
def Work.Spares (F : Filing σ) : Work σ → σ → Prop
  | .done _, _ => True
  | .fail _, _ => True
  | .report _ next, u => next.Spares F u
  | .check next, u => next.Spares F u
  | .poll next, u => ∀ cancelled, (next cancelled).Spares F u
  | .await _ next, _ => ∀ t, next.Spares F t
  | .read next, u => (next u).Spares F u
  | .write t next, u => F.Leaves u t ∧ next.Spares F t

theorem Work.spares_iff {F : Filing σ} {work : Work σ} {u : σ} :
    work.Spares F u ↔ work.Within F.Leaves u := by
  induction work generalizing u with
  | done result => exact .rfl
  | fail f => exact .rfl
  | report p next ih => exact ih
  | check next ih => exact ih
  | poll next ih => exact forall_congr' fun cancelled => ih cancelled
  | await gate next ih => exact forall_congr' fun t => ih
  | read next ih => exact ih u
  | write t next ih => exact and_congr_right fun _ => ih

namespace JobSystem

variable {store : JobStore σ} {F : Filing σ} {s s' : JobSystem σ} {id : String}

/-! ### Histories over one store -/

/-- What can happen to the runners over one store. -/
inductive Occurrence (σ : Type) where
  /-- Something happens to the last runner. -/
  | event (e : Event σ)
  /-- A job of some runner tells how far it has come. -/
  | report (r : Nat) (id : String) (progress : Progress)
  /-- A new runner takes jobs from now on, and the tasks of the others go on. -/
  | restart
  /-- The runners are lost with their tasks, and a new one takes jobs. -/
  | crash

/-- What an occurrence does. -/
def Occurrence.apply (store : JobStore σ) : Occurrence σ → JobSystem σ → JobSystem σ
  | .event e, s => e.apply store s
  | .report r id p, s => s.progress r id p
  | .restart, s => s.restart
  | .crash, s => { s.restart with ready := [], blocked := [] }

/-- The work of jobs, and what else changes the state, leaves the records of jobs. -/
def Occurrence.Spares (F : Filing σ) (u : σ) : Occurrence σ → Prop
  | .event (.enqueue _ o) => ∀ t, o.work.Spares F t
  | .event (.outside t) => F.Leaves u t
  | _ => True

/-! ### Systems that go on as they should -/

/-- A runner knows a job whose id was given out, and `G` holds of its id and key. -/
structure Backs (G : String → Option String → Prop) (s : JobSystem σ) (r : Nat) (id : String) :
    Prop where
  /-- The id was given out. -/
  given : s.Given id
  /-- The record of the job has its id, and `G`. -/
  known : ∃ j, (s.runner r).jobs.find? id = some j ∧ j.id = id ∧ G j.id j.key

/-- The state has `P`, and every task that has not ended has a record with `G` and a work that leaves
the records. Jobs with ids that were not given out have `G`. -/
structure Steady (F : Filing σ) (P : σ → Prop) (G : String → Option String → Prop)
    (s : JobSystem σ) : Prop where
  /-- The state has `P`. -/
  state : P s.shared
  /-- A runner takes new jobs. -/
  staffed : 0 < s.runners.length
  /-- Jobs that are still to come have `G`. -/
  fresh : ∀ n, s.made < n → ∀ key, G (jobId n) key
  /-- A task belongs to a job with `G`. -/
  backs : ∀ t ∈ s.live, Backs G s t.runner t.id
  /-- Works leave the records. -/
  spares : ∀ t ∈ s.live, ∀ u, t.work.Spares F u

/-- `P` is kept by works, and when jobs with `G` are recorded. -/
structure Kept (store : JobStore σ) (F : Filing σ) (P : σ → Prop)
    (G : String → Option String → Prop) : Prop where
  /-- Works keep `P`. -/
  leaves : ∀ {u t}, F.Leaves u t → P u → P t
  /-- Records of jobs with `G` keep `P`. -/
  save : ∀ {u} {j : Job}, P u → G j.id j.key → P ((store.save j).runOn u).2
  /-- Claims of jobs with `G` keep `P`. -/
  claim : ∀ {u} {j : Job}, P u → G j.id j.key → P ((store.claim j).runOn u).2

/-- What runners know they go on to know. -/
structure Onward (G : String → Option String → Prop) (s s' : JobSystem σ) : Prop where
  /-- Ids that were given out stay so. -/
  made : s.made ≤ s'.made
  /-- Runners are not removed. -/
  runners : s.runners.length ≤ s'.runners.length
  /-- A runner goes on to know a job. -/
  backs : ∀ {r id}, Backs G s r id → Backs G s' r id

variable {P : σ → Prop} {G : String → Option String → Prop} {r : Nat}

/-- To ask the store about a job with `G` keeps `P`. -/
theorem Kept.asking (hk : Kept store F P G) {u : σ} {j : Job} (h : P u) (hj : G j.id j.key) :
    P ((asking store j).runOn u).2 := by
  unfold JobSystem.asking
  split
  · exact hk.claim h hj
  · have hsaved := hk.save h hj
    rw [Action.runOn_bind]
    revert hsaved
    rcases (store.save j).runOn u with ⟨_ | _, t⟩
    · exact id
    · exact id

theorem Onward.refl (s : JobSystem σ) : Onward G s s := ⟨Nat.le_refl _, Nat.le_refl _, id⟩

theorem Onward.trans {s'' : JobSystem σ} (h : Onward G s s') (h' : Onward G s' s'') :
    Onward G s s'' :=
  ⟨Nat.le_trans h.made h'.made, Nat.le_trans h.runners h'.runners, fun hid => h'.backs (h.backs hid)⟩

theorem onward_of_runners (hrunners : s'.runners = s.runners) (hmade : s.made ≤ s'.made) :
    Onward G s s' where
  made := hmade
  runners := Nat.le_of_eq (congrArg List.length hrunners.symm)
  backs := by
    rintro r id ⟨⟨n, hn, hid⟩, hknown⟩
    refine ⟨⟨n, Nat.le_trans hn hmade, hid⟩, ?_⟩
    unfold JobSystem.runner at hknown ⊢
    rwa [hrunners]

theorem onward_of_calm (hc : Calm s s') : Onward G s s' where
  made := Nat.le_of_eq hc.made.symm
  runners := Nat.le_of_eq hc.runners.symm
  backs := by
    rintro r id ⟨⟨n, hn, hid⟩, j, hj, hknown⟩
    exact ⟨⟨n, Nat.le_trans hn (Nat.le_of_eq hc.made.symm), hid⟩, j, (hc.record r id).trans hj, hknown⟩

/-- With the same tasks or fewer, a system stays steady. -/
theorem Steady.mono (h : Steady F P G s) (hon : Onward G s s') (hstate : P s'.shared)
    (hlive : ∀ t' ∈ s'.live, ∃ t ∈ s.live, t'.runner = t.runner ∧ t'.id = t.id ∧ t'.work = t.work) :
    Steady F P G s' where
  state := hstate
  staffed := Nat.lt_of_lt_of_le h.staffed hon.runners
  fresh n hn := h.fresh n (Nat.lt_of_le_of_lt hon.made hn)
  backs t' ht' := by
    obtain ⟨t, ht, hrunner, hid, -⟩ := hlive t' ht'
    rw [hrunner, hid]
    exact hon.backs (h.backs t ht)
  spares t' ht' := by
    obtain ⟨t, ht, -, -, hwork⟩ := hlive t' ht'
    rw [hwork]
    exact h.spares t ht

/-- What is asked of runners keeps a system steady. -/
theorem Steady.calm (h : Steady F P G s) (hc : Calm s s') : Steady F P G s' := by
  exact h.mono (onward_of_calm hc) (hc.shared.symm ▸ h.state) hc.works

/-- With one more task, whose job has `G`, a system stays steady. -/
theorem Steady.add (h : Steady F P G s) (hon : Onward G s s') (hstate : P s'.shared) (t : Task σ)
    (ht : Backs G s' t.runner t.id) (hwork : ∀ u, t.work.Spares F u)
    (hlive : ∀ u ∈ s'.live, u = t ∨ u ∈ s.live) : Steady F P G s' where
  state := hstate
  staffed := Nat.lt_of_lt_of_le h.staffed hon.runners
  fresh n hn := h.fresh n (Nat.lt_of_le_of_lt hon.made hn)
  backs u hu := by
    rcases hlive u hu with rfl | hu
    · exact ht
    · exact hon.backs (h.backs u hu)
  spares u hu := by
    rcases hlive u hu with rfl | hu
    · exact hwork
    · exact h.spares u hu

/-! ### Records of runners -/

/-- A runner that knows a job is there. -/
theorem Backs.lt (h : Backs G s r id) : r < s.runners.length := by
  obtain ⟨-, j, hj, -⟩ := h
  by_contra hlen
  unfold JobSystem.runner at hj
  rw [List.getD_eq_getElem?_getD, List.getElem?_eq_none (Nat.le_of_not_lt hlen)] at hj
  cases hj

/-- A runner goes on to know its jobs if its changed records do. -/
theorem onward_updateRunner {f : Runner → Runner} (hf : ∀ {id j},
      (s.runner r).jobs.find? id = some j → j.id = id → G j.id j.key →
      ∃ j', (f (s.runner r)).jobs.find? id = some j' ∧ j'.id = id ∧ G j'.id j'.key) :
    Onward G s (s.updateRunner r f) where
  made := Nat.le_refl _
  runners := Nat.le_of_eq (List.length_modify ..).symm
  backs := by
    intro r' id hid
    have hlen := hid.lt
    obtain ⟨hgiven, j, hj, hid, hG⟩ := hid
    refine ⟨hgiven, ?_⟩
    by_cases hr : r = r'
    · subst hr
      rw [runner_updateRunner_self hlen]
      exact hf hj hid hG
    · rw [runner_updateRunner_of_ne hr]
      exact ⟨j, hj, hid, hG⟩

/-- What changes no records of jobs. -/
theorem onward_of_jobs {f : Runner → Runner} (hf : ∀ n, (f n).jobs = n.jobs) :
    Onward G s (s.updateRunner r f) := by
  refine onward_updateRunner fun {i j} hj hid hG => ⟨j, ?_, hid, hG⟩
  rw [hf]
  exact hj

/-- A record with `G` may be filed under its id. -/
theorem onward_put {j : Job} (hj : G j.id j.key) {f : Runner → Runner}
    (hf : ∀ n, (f n).jobs = n.jobs.put j.id j) : Onward G s (s.updateRunner r f) := by
  refine onward_updateRunner fun {i k} hk hid hG => ?_
  rw [hf]
  by_cases hi : i = j.id
  · subst hi
    exact ⟨j, Registry.find?_put_self .., rfl, hj⟩
  · exact ⟨k, (Registry.find?_put_of_ne hi ..).trans hk, hid, hG⟩

/-- A step of a job's life that keeps its id and its key. -/
def KeepsKey (f : Job → Timestamp → Job) : Prop :=
  ∀ j now, (f j now).id = j.id ∧ (f j now).key = j.key

theorem keepsKey_failing (f : Failure) : KeepsKey (failing f) := by
  cases f <;> exact fun _ _ => ⟨rfl, rfl⟩

theorem onward_progress (s : JobSystem σ) (r : Nat) (id : String) (p : Progress) :
    Onward G s (s.progress r id p) := by
  unfold JobSystem.progress
  split
  · exact .refl s
  · rename_i j hj
    split
    · exact .refl s
    · have hput : Onward G s (s.updateRunner r fun n =>
          { n with jobs := n.jobs.put id (j.withProgress p) }) := by
        refine onward_updateRunner fun {i k} hk hid hG => ?_
        by_cases hi : i = id
        · subst hi
          obtain rfl := Option.some.inj (hj.symm.trans hk)
          exact ⟨_, Registry.find?_put_self .., hid, hG⟩
        · exact ⟨k, (Registry.find?_put_of_ne hi ..).trans hk, hid, hG⟩
      exact hput.trans (onward_of_runners rfl (Nat.le_refl _))

/-! ### What tasks preserve -/

theorem steady_progress (h : Steady F P G s) (r : Nat) (id : String) (p : Progress) :
    Steady F P G (s.progress r id p) := by
  refine h.mono (onward_progress s r id p) (shared_progress s r id p ▸ h.state) ?_
  rw [(live_progress s r id p).1]
  exact same_tasks

section Tasks

variable (hk : Kept store F P G)
include hk

/-- A step of a job's life. -/
theorem steady_step (h : Steady F P G s) (hid : Backs G s r id) {f : Job → Timestamp → Job}
    (hf : KeepsKey f) : Steady F P G (s.step store r id f) ∧ Backs G (s.step store r id f) r id := by
  obtain ⟨j, hj, -, hG⟩ := hid.known
  unfold JobSystem.step
  rw [hj]
  obtain ⟨hfid, hfkey⟩ := hf j (store.now s.shared)
  have hG' : G (f j (store.now s.shared)).id (f j (store.now s.shared)).key := by
    rw [hfid, hfkey]
    exact hG
  have hon : Onward G s (s.transition store r (f j (store.now s.shared))) :=
    (onward_put (r := r) hG' fun _ => rfl).trans (onward_of_runners rfl (Nat.le_refl _))
  exact ⟨h.mono hon (hk.save h.state hG') same_tasks, hon.backs hid⟩

/-- A job that ends. -/
theorem steady_finish (h : Steady F P G s) (hid : Backs G s r id) {f : Job → Timestamp → Job}
    (hf : KeepsKey f) : Steady F P G (s.finish store r id f) := by
  have hstep := (steady_step hk h hid hf).1
  exact hstep.mono (onward_of_jobs fun _ => rfl) hstep.state same_tasks

/-- **A task that goes on.** -/
theorem steady_turn (h : Steady F P G s) (n : Nat) : Steady F P G (s.turn store n) := by
  cases ht : s.ready[n]? with
  | none =>
    rw [turn_of_none ht]
    exact h
  | some t =>
    have hlive : t ∈ s.live := mem_live ht
    -- the system without the task
    have hon : Onward G s { s with ready := s.ready.eraseIdx n } :=
      onward_of_runners rfl (Nat.le_refl _)
    have hid := hon.backs (h.backs t hlive)
    have hrest : Steady F P G { s with ready := s.ready.eraseIdx n } := by
      exact h.mono hon h.state fun u hu => ⟨u, mem_live_of_eraseIdx hu, rfl, rfl, rfl⟩
    refine turn_of (R := F.Leaves)
      (I := fun v => Steady F P G v ∧ Backs G v t.runner t.id) (E := fun _ v => Steady F P G v)
      ht rfl ?_ (fun u => Work.spares_iff.1 (h.spares t hlive u)) (fun _ => ⟨hrest, hid⟩) ?_ ?_ ?_ ?_
    · refine ⟨?_, ?_, ?_⟩
      · rintro v p ⟨hv, hid⟩
        exact ⟨steady_progress hv _ _ p, (onward_progress v _ _ p).backs hid⟩
      · rintro v gate ⟨hv, hid⟩
        have hc := calm_noteGate v gate
        exact ⟨hv.calm hc, (onward_of_calm hc).backs hid⟩
      · rintro v u hu ⟨hv, hid⟩
        have hon : Onward G v { v with shared := u } := onward_of_runners rfl (Nat.le_refl _)
        exact ⟨hv.mono hon (hk.leaves hu hv.state) same_tasks, hon.backs hid⟩
    · intro _ _
      exact steady_step hk hrest hid (f := Job.start) fun _ _ => ⟨rfl, rfl⟩
    · exact fun _ _ => hrest
    · rintro v gate next hnext ⟨hv, hid⟩
      have hon : Onward G v { v with blocked := v.blocked ++ [parked t.runner t.id gate next] } :=
        onward_of_runners rfl (Nat.le_refl _)
      exact hv.add hon hv.state (parked t.runner t.id gate next) (hon.backs hid)
        (fun u => Work.spares_iff.2 (hnext u)) fun u hu => eq_or_mem_of_blocked hu
    · rintro v ending ⟨hv, hid⟩
      refine steady_finish hk hv hid ?_
      cases ending with
      | ok result => exact fun _ _ => ⟨rfl, rfl⟩
      | error f => exact keepsKey_failing f

end Tasks

/-! ### What occurrences preserve -/

/-- A job with `G` is taken to work. -/
theorem steady_begin (h : Steady F P G s) {j : Job} (hgiven : s.Given j.id) (hj : G j.id j.key)
    {work : Work σ} (hwork : ∀ u, work.Spares F u) (hr : r < s.runners.length) :
    Steady F P G (s.begin j work r) := by
  have hput : Onward G s (s.updateRunner r fun n =>
      { jobs := n.jobs.put j.id j
        contexts := n.contexts.put j.id false
        tasks := n.tasks.put j.id ()
        active := n.active.put j.target j.id }) := onward_put hj fun _ => rfl
  have hrecord : (s.begin j work r).record r j.id = some j := by
    refine (record_put hr ?_ r j.id).trans (if_pos ⟨rfl, rfl⟩)
    exact fun _ => rfl
  exact h.add (hput.trans (onward_of_runners rfl (Nat.le_refl _))) h.state
    { runner := r, id := j.id, work } ⟨hgiven, j, hrecord, rfl, hj⟩ hwork
    fun u hu => eq_or_mem_of_begin hu

/-- Whatever an enqueue comes to. -/
theorem steady_enqueue (hk : Kept store F P G) (h : Steady F P G s) (policy : ConflictPolicy)
    {o : Order σ} (hwork : ∀ u, o.work.Spares F u) (hr : r < s.runners.length) :
    Steady F P G (enqueue store policy o s r).2 := by
  have hG : G (jobId (s.made + 1)) o.key := h.fresh _ (Nat.lt_succ_self _) o.key
  -- the system after the store was asked
  have hasked : ∀ {a t}, (asking store (o.job (jobId (s.made + 1)) (store.now s.shared))).runOn
      s.shared = (a, t) → Steady F P G { s with made := s.made + 1, shared := t } := by
    intro a t hrun
    have := hk.asking (j := o.job (jobId (s.made + 1)) (store.now s.shared)) h.state hG
    rw [hrun] at this
    exact h.mono (onward_of_runners rfl (Nat.le_succ _)) this same_tasks
  have hc := enqueue_cases store policy o s r
  generalize enqueue store policy o s r = result at hc ⊢
  cases hc with
  | joins held busy join => exact h
  | refused held busy reject => exact h
  | fails free f t asked => exact hasked asked
  | hands free stored t asked =>
    have hsteady := hasked asked
    refine hsteady.mono (onward_updateRunner fun {i k} hk hid hkG => ?_) hsteady.state same_tasks
    exact ⟨k, Registry.find?_putNew_of_some hk stored.id stored, hid, hkG⟩
  | takes free stored t asked =>
    exact steady_begin (hasked asked) ⟨_, Nat.le_refl _, rfl⟩ hG hwork hr

/-- A new runner knows no jobs, and the others know those they knew. -/
theorem onward_restart (s : JobSystem σ) : Onward G s s.restart where
  made := Nat.le_refl _
  runners := by
    unfold restart
    rw [List.length_append]
    exact Nat.le_add_right ..
  backs := by
    intro r id hid
    refine ⟨hid.given, ?_⟩
    have hrunner : s.restart.runner r = s.runner r := by
      change (s.runners ++ [({} : Runner)]).getD r {} = s.runners.getD r {}
      rw [List.getD_eq_getElem?_getD, List.getD_eq_getElem?_getD, List.getElem?_append_left hid.lt]
    rw [hrunner]
    exact hid.known

/-- **What one occurrence preserves.** -/
theorem steady_apply (hk : Kept store F P G) (h : Steady F P G s) {c : Occurrence σ}
    (hc : c.Spares F s.shared) : Steady F P G (c.apply store s) := by
  cases c with
  | event e =>
    cases e with
    | enqueue policy o => exact steady_enqueue hk h policy hc (Nat.sub_lt h.staffed Nat.one_pos)
    | cancel id => exact h.calm (calm_cancel s id _)
    | abort id => exact h.calm (calm_abort s id _)
    | release gate => exact h.calm (calm_release s gate)
    | shutdown => exact h.calm (calm_shutdown s _)
    | report id p => exact steady_progress h 0 id p
    | outside shared =>
      exact h.mono (onward_of_runners rfl (Nat.le_refl _)) (hk.leaves hc h.state) same_tasks
    | turn n => exact steady_turn hk h n
  | report r id p => exact steady_progress h r id p
  | restart => exact h.mono (onward_restart s) h.state same_tasks
  | crash =>
    refine h.mono ((onward_restart s).trans (onward_of_runners rfl (Nat.le_refl _))) h.state ?_
    exact fun u hu => by cases hu

end JobSystem

end Mixtape
