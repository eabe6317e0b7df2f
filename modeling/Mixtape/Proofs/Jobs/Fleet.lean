import Mixtape.Proofs.Jobs.Exclusion
import Mixtape.Proofs.Jobs.Steady

/-!
# Runners side by side

Any number of runners may work over one store at the same time: each is asked for jobs of its own, and
their tasks go on in any order. What a move of one of them does to the tasks is one of three things: the
tasks stay the same, one is added for a job with a new id, or one goes on and is left waiting or not at
all. So no job ever has two tasks, and no work begins twice, whichever runner it belongs to.

An enqueue is one move: nothing else happens between its question to the store and its task, since the
store answers at once.

## Main definitions

* `JobSystem.Move`, `JobSystem.moved` — what can happen to runners side by side, and what it leads to.
* `JobSystem.Admits store R moves s` — works and the outside change the state along `R`, and jobs are
  enqueued with runners that are there.
* `JobSystem.Passage s s'` — what a move does to the tasks.
* `JobSystem.begunIn store moves s` — the jobs whose work begins in moves, in order.

## Main results

* `passage_apply` — **what a move does to the tasks.**
* `nodup_begunIn` — **no work begins twice.**
* `steady_moved` — **what the store keeps stays so.**
-/

namespace Mixtape
namespace JobSystem

variable {σ : Type} {store : JobStore σ} {R : σ → σ → Prop} {s s' : JobSystem σ} {id : String}
  {r : Nat}

/-! ### Moves -/

/-- What can happen to runners side by side. A runner is given by its number. -/
inductive Move (σ : Type) where
  /-- A job is enqueued with a runner. -/
  | enqueue (r : Nat) (policy : ConflictPolicy) (order : Order σ)
  /-- A runner is asked to cancel a job. -/
  | cancel (r : Nat) (id : String)
  /-- The task of a job of a runner is aborted. -/
  | abort (r : Nat) (id : String)
  /-- A runner is shut down. -/
  | shutdown (r : Nat)
  /-- A job of a runner that may have ended tells how far it has come. -/
  | report (r : Nat) (id : String) (progress : Progress)
  /-- A gate is opened. -/
  | release (gate : String)
  /-- The state the jobs work in changes, and the store with it. -/
  | outside (shared : σ)
  /-- One of the tasks that can go on does so. -/
  | turn (n : Nat)
  /-- A new runner is there, and the others go on. -/
  | restart

/-- What a move does. -/
def Move.apply (store : JobStore σ) : Move σ → JobSystem σ → JobSystem σ
  | .enqueue r policy o, s => (JobSystem.enqueue store policy o s r).2
  | .cancel r id, s => (s.cancel id r).2
  | .abort r id, s => (s.abort id r).2
  | .shutdown r, s => s.shutdown r
  | .report r id p, s => s.progress r id p
  | .release gate, s => s.release gate
  | .outside shared, s => { s with shared }
  | .turn n, s => s.turn store n
  | .restart, s => s.restart

/-- The system after moves. -/
def moved (store : JobStore σ) (moves : List (Move σ)) (s : JobSystem σ) : JobSystem σ :=
  moves.foldl (fun s m => m.apply store s) s

/-- A job is enqueued with a runner that is there and a work that writes along `R`, and the outside
changes the state along `R`. -/
def Move.Within (R : σ → σ → Prop) (s : JobSystem σ) : Move σ → Prop
  | .enqueue r _ o => r < s.runners.length ∧ ∀ u, o.work.Within R u
  | .outside shared => R s.shared shared
  | _ => True

/-- Every move of a history is within `R`. -/
def Admits (store : JobStore σ) (R : σ → σ → Prop) : List (Move σ) → JobSystem σ → Prop
  | [], _ => True
  | m :: moves, s => m.Within R s ∧ Admits store R moves (m.apply store s)

/-- A new runner has no records. -/
theorem record_restart (s : JobSystem σ) (r : Nat) (id : String) :
    s.restart.record r id = s.record r id := by
  have hrunner : s.restart.runner r = s.runner r := by
    change (s.runners ++ [({} : Runner)]).getD r {} = s.runners.getD r {}
    rw [List.getD_eq_getElem?_getD, List.getD_eq_getElem?_getD, List.getElem?_append]
    split
    · rfl
    · rename_i hlen
      rw [List.getElem?_eq_none (Nat.le_of_not_lt hlen)]
      cases r - s.runners.length <;> rfl
  unfold record
  rw [hrunner]

/-! ### What a move does to the tasks -/

/-- What a move does to the tasks. -/
inductive Passage (s s' : JobSystem σ) : Prop
  /-- The tasks stay the same. -/
  | same (made : s.made ≤ s'.made) (cores : s'.cores.Perm s.cores)
  /-- A task is added for a job with a new id. -/
  | takes (r : Nat) (made : s'.made = s.made + 1)
      (cores : s'.cores.Perm ((r, jobId (s.made + 1), false) :: s.cores))
  /-- A task goes on, and is left waiting or not at all. -/
  | goes (t : Task σ) (rest left : List (Nat × String × Bool)) (made : s'.made = s.made)
      (before : s.cores.Perm (t.core :: rest)) (after : s'.cores.Perm (rest ++ left))
      (begun : ∀ c ∈ left, c = (t.runner, t.id, true))
      (once : left.length ≤ 1)

theorem Passage.of_calm (hc : Calm s s') : Passage s s' := .same (Nat.le_of_eq hc.made.symm) hc.cores

theorem passage_turn (store : JobStore σ) {n : Nat} {t : Task σ} (ht : s.ready[n]? = some t) :
    ∃ rest left, (s.turn store n).made = s.made ∧ s.cores.Perm (t.core :: rest) ∧
      (s.turn store n).cores.Perm (rest ++ left) ∧
      (∀ c ∈ left, c = (t.runner, t.id, true)) ∧ left.length ≤ 1 := by
  obtain ⟨left, hleft, hlive, hmade, -⟩ := left_turn store ht rfl t.work.within_true
  refine ⟨_, left.map Task.core, hmade, cores_eraseIdx ht, .of_eq ?_, ?_, ?_⟩
  · unfold cores
    rw [hlive, List.map_append]
  · intro c hc
    obtain ⟨u, hu, rfl⟩ := List.mem_map.1 hc
    exact (hleft.of_mem hu).1
  · rw [List.length_map]
    exact hleft.length_le_one

/-- **What a move does to the tasks.** -/
theorem passage_apply (store : JobStore σ) (s : JobSystem σ) (m : Move σ) :
    Passage s (m.apply store s) := by
  cases m with
  | enqueue r policy o =>
    change Passage s (enqueue store policy o s r).2
    have hc := enqueue_cases store policy o s r
    generalize enqueue store policy o s r = result at hc ⊢
    cases hc with
    | joins held busy join => exact .same (Nat.le_refl _) (.refl _)
    | refused held busy reject => exact .same (Nat.le_refl _) (.refl _)
    | fails free f t asked => exact .same (Nat.le_succ _) (.refl _)
    | hands free stored t asked => exact .same (Nat.le_succ _) (.refl _)
    | takes free stored t asked =>
      exact .takes r rfl (cores_begin { s with made := s.made + 1, shared := t } _ o.work r)
  | cancel r id => exact .of_calm (calm_cancel s id r)
  | abort r id => exact .of_calm (calm_abort s id r)
  | shutdown r => exact .of_calm (calm_shutdown s r)
  | report r id p =>
    obtain ⟨hlive, hmade, -⟩ := live_progress s r id p
    exact .same (Nat.le_of_eq hmade.symm) (.of_eq (congrArg (List.map Task.core) hlive))
  | release gate => exact .of_calm (calm_release s gate)
  | outside shared => exact .same (Nat.le_refl _) (.refl _)
  | turn n =>
    cases ht : s.ready[n]? with
    | none =>
      have hturn : (Move.turn n).apply store s = s := turn_of_none ht
      rw [hturn]
      exact .same (Nat.le_refl _) (.refl _)
    | some t =>
      obtain ⟨rest, left, hmade, hbefore, hafter, hbegun, honce⟩ := passage_turn store ht
      exact .goes t rest left hmade hbefore hafter hbegun honce
  | restart => exact .same (Nat.le_refl _) (.refl _)

/-- **Works stay within `R`.** -/
theorem works_move (store : JobStore σ) (h : ∀ t ∈ s.live, ∀ u, t.work.Within R u) {m : Move σ}
    (hm : m.Within R s) : ∀ t ∈ (m.apply store s).live, ∀ u, t.work.Within R u := by
  have hcalm : ∀ {v : JobSystem σ}, Calm s v → ∀ t ∈ v.live, ∀ u, t.work.Within R u := by
    intro v hc t ht
    obtain ⟨t₀, ht₀, -, -, hwork⟩ := hc.works t ht
    exact hwork ▸ h t₀ ht₀
  cases m with
  | enqueue r policy o =>
    change ∀ t ∈ (enqueue store policy o s r).2.live, _
    have hc := enqueue_cases store policy o s r
    generalize enqueue store policy o s r = result at hc ⊢
    cases hc with
    | joins held busy join => exact h
    | refused held busy reject => exact h
    | fails free f t asked => exact h
    | hands free stored t asked => exact h
    | takes free stored t asked =>
      intro t ht
      rcases eq_or_mem_of_begin ht with rfl | ht
      · exact hm.2
      · exact h t ht
  | cancel r id => exact hcalm (calm_cancel s id r)
  | abort r id => exact hcalm (calm_abort s id r)
  | shutdown r => exact hcalm (calm_shutdown s r)
  | report r id p =>
    change ∀ t ∈ (s.progress r id p).live, _
    rw [(live_progress s r id p).1]
    exact h
  | release gate => exact hcalm (calm_release s gate)
  | outside shared => exact h
  | turn n =>
    change ∀ t ∈ (s.turn store n).live, _
    cases ht : s.ready[n]? with
    | none =>
      rw [turn_of_none ht]
      exact h
    | some t =>
      have hwork := h t (mem_live ht)
      obtain ⟨left, hleft, hlive, -⟩ := left_turn store ht rfl hwork
      intro v hv
      rw [hlive] at hv
      rcases List.mem_append.1 hv with hv | hv
      · exact h v (mem_live_of_eraseIdx hv)
      · exact (hleft.of_mem hv).2
  | restart => exact h

/-- No job has two tasks, and their ids were given out. -/
structure Distinct (s : JobSystem σ) : Prop where
  /-- No job has two tasks. -/
  ids : (s.cores.map (·.2.1)).Nodup
  /-- The ids of tasks were given out. -/
  given : ∀ c ∈ s.cores, s.Given c.2.1

theorem Given.mono (h : s.Given id) (hmade : s.made ≤ s'.made) : s'.Given id := by
  obtain ⟨n, hn, hid⟩ := h
  exact ⟨n, Nat.le_trans hn hmade, hid⟩

/-- The other tasks belong to other jobs. -/
theorem Distinct.others (h : s.Distinct) {t : Task σ} {rest : List (Nat × String × Bool)}
    (hcores : s.cores.Perm (t.core :: rest)) : t.id ∉ rest.map (·.2.1) ∧ (rest.map (·.2.1)).Nodup := by
  have hids := (hcores.map (·.2.1)).nodup_iff.1 h.ids
  rw [List.map_cons, List.nodup_cons] at hids
  exact hids

/-- **No job comes to have two tasks.** -/
theorem distinct_of_passage (h : s.Distinct) (hp : Passage s s') : s'.Distinct := by
  cases hp with
  | same made cores =>
    exact ⟨(cores.map _).nodup_iff.2 h.ids, fun c hc => (h.given c (cores.mem_iff.1 hc)).mono made⟩
  | takes r made cores =>
    refine ⟨?_, fun c hc => ?_⟩
    · rw [(cores.map _).nodup_iff, List.map_cons, List.nodup_cons]
      refine ⟨fun hmem => ?_, h.ids⟩
      obtain ⟨c, hc, hid⟩ := List.mem_map.1 hmem
      have hgiven := h.given c hc
      rw [hid] at hgiven
      exact not_given_next s hgiven
    · rcases List.mem_cons.1 (cores.mem_iff.1 hc) with rfl | hc
      · exact ⟨_, made.ge, rfl⟩
      · exact (h.given c hc).mono (by omega)
  | goes t rest left made before after begun once =>
    obtain ⟨hother, hrest⟩ := h.others before
    refine ⟨?_, fun c hc => ?_⟩
    · rw [(after.map _).nodup_iff, List.map_append]
      match left, once, begun with
      | [], _, _ => simpa using hrest
      | [c], _, begun =>
        obtain rfl := begun c (List.mem_singleton_self _)
        rw [List.map_singleton, List.nodup_append_comm, List.singleton_append, List.nodup_cons]
        exact ⟨hother, hrest⟩
    · rcases List.mem_append.1 (after.mem_iff.1 hc) with hc | hc
      · exact (h.given c (before.mem_iff.2 (List.mem_cons_of_mem _ hc))).mono made.ge
      · obtain rfl := begun c hc
        exact (h.given t.core (before.mem_iff.2 List.mem_cons_self)).mono made.ge

/-! ### Works that begin -/

/-- The job whose work begins in a move. -/
def Move.begins (s : JobSystem σ) : Move σ → Option String
  | .turn n => (Event.turn n : Event σ).begins s
  | _ => none

/-- The jobs whose work begins in moves, in order. -/
def begunIn (store : JobStore σ) : List (Move σ) → JobSystem σ → List String
  | [], _ => []
  | m :: moves, s => (m.begins s).toList ++ begunIn store moves (m.apply store s)

/-- A job whose work has begun has no task again that could begin. -/
theorem spent_of_passage (h : s.Spent id) (hp : Passage s s') : s'.Spent id := by
  obtain ⟨hgiven, hleft⟩ := h
  cases hp with
  | same made cores => exact ⟨hgiven.mono made, fun c hc => hleft c (cores.mem_iff.1 hc)⟩
  | takes r made cores =>
    refine ⟨hgiven.mono (by omega), fun c hc hid => ?_⟩
    rcases List.mem_cons.1 (cores.mem_iff.1 hc) with rfl | hc
    · obtain rfl : jobId (s.made + 1) = id := hid
      exact absurd hgiven (not_given_next s)
    · exact hleft c hc hid
  | goes t rest left made before after begun once =>
    refine ⟨hgiven.mono made.ge, fun c hc hid => ?_⟩
    rcases List.mem_append.1 (after.mem_iff.1 hc) with hc | hc
    · exact hleft c (before.mem_iff.2 (List.mem_cons_of_mem _ hc)) hid
    · exact congrArg (·.2.2) (begun c hc)

theorem Move.begins_eq_some {m : Move σ} (h : m.begins s = some id) :
    ∃ n t, m = .turn n ∧ s.ready[n]? = some t ∧ t.id = id ∧ t.begun = false := by
  cases m with
  | turn n =>
    obtain ⟨k, t, hk, ht, hid, hbegun, -⟩ := JobSystem.begins_eq_some (e := .turn n) h
    obtain rfl := Event.turn.inj hk
    exact ⟨n, t, rfl, ht, hid, hbegun⟩
  | _ => cases h

/-- A job whose work begins has no task left that could begin. -/
theorem Distinct.spent (store : JobStore σ) (hs : s.Distinct) {m : Move σ} (h : m.begins s = some id) :
    (m.apply store s).Spent id := by
  obtain ⟨n, t, rfl, ht, rfl, -⟩ := Move.begins_eq_some h
  obtain ⟨rest, left, hmade, hbefore, hafter, hbegun, -⟩ := passage_turn store ht
  change (s.turn store n).Spent t.id
  refine ⟨(hs.given t.core (hbefore.mem_iff.2 List.mem_cons_self)).mono hmade.ge, fun c hc hid => ?_⟩
  rcases List.mem_append.1 (hafter.mem_iff.1 hc) with hc | hc
  · exact absurd (hid ▸ List.mem_map_of_mem hc) (hs.others hbefore).1
  · exact congrArg (·.2.2) (hbegun c hc)

/-- A job whose work has begun does not begin. -/
theorem Spent.begins_move_ne {m : Move σ} (h : s.Spent id) : m.begins s ≠ some id := by
  intro hbegins
  obtain ⟨n, t, rfl, ht, rfl, hbegun⟩ := Move.begins_eq_some hbegins
  have := h.noneLeft _ (mem_cores (mem_live ht)) rfl
  exact absurd (hbegun.symm.trans this) Bool.false_ne_true

theorem Spent.notMem_begunIn (store : JobStore σ) (moves : List (Move σ)) (h : s.Spent id) :
    id ∉ begunIn store moves s := by
  induction moves generalizing s with
  | nil => exact List.not_mem_nil
  | cons m moves ih =>
    have hrest := ih (spent_of_passage h (passage_apply store s m))
    intro hmem
    rcases List.mem_append.1 hmem with hfirst | hlater
    · exact h.begins_move_ne (Option.mem_toList.1 hfirst)
    · exact hrest hlater

/-- **No work begins twice**, whichever runner it belongs to. -/
theorem nodup_begunIn (store : JobStore σ) (moves : List (Move σ)) (hs : s.Distinct) :
    (begunIn store moves s).Nodup := by
  induction moves generalizing s with
  | nil => exact .nil
  | cons m moves ih =>
    have hrest := ih (distinct_of_passage hs (passage_apply store s m))
    unfold begunIn
    cases hbegins : m.begins s with
    | none => exact hrest
    | some id =>
      exact List.nodup_cons.2 ⟨(hs.spent store hbegins).notMem_begunIn store moves, hrest⟩

/-! ### What the store keeps -/

variable {F : Filing σ} {P : σ → Prop} {G : String → Option String → Prop}

/-- **What one move preserves.** -/
theorem steady_move (hk : Kept store F P G) (h : Steady F P G s) {m : Move σ}
    (hm : m.Within F.Leaves s) : Steady F P G (m.apply store s) := by
  cases m with
  | enqueue r policy o =>
    exact steady_enqueue hk h policy (fun u => Work.spares_iff.2 (hm.2 u)) hm.1
  | cancel r id => exact h.calm (calm_cancel s id r)
  | abort r id => exact h.calm (calm_abort s id r)
  | shutdown r => exact h.calm (calm_shutdown s r)
  | report r id p => exact steady_progress h r id p
  | release gate => exact h.calm (calm_release s gate)
  | outside shared =>
    exact h.mono (onward_of_runners rfl (Nat.le_refl _)) (hk.leaves hm h.state) same_tasks
  | turn n => exact steady_turn hk h n
  | restart => exact h.mono (onward_restart s) h.state same_tasks

/-- **What the store keeps stays so.** -/
theorem steady_moved (hk : Kept store F P G) {moves : List (Move σ)} (h : Steady F P G s)
    (hm : Admits store F.Leaves moves s) : Steady F P G (s.moved store moves) := by
  induction moves generalizing s with
  | nil => exact h
  | cons m moves ih => exact ih (steady_move hk h hm.1) hm.2

end JobSystem

end Mixtape
