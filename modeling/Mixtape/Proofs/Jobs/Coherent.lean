import Mathlib.Data.List.Nodup
import Mixtape.Proofs.Jobs.Running

/-!
# Tasks, records and busy targets fit together

A task that has not ended belongs to a job that can be asked to cancel, that is at work for its
target, and whose record has not ended. What is at work for a target is a job for it, so no target
is held twice. The five cases of what can happen keep this, and while it holds, every event does one
of the five.

## Main definitions

* `JobSystem.Coherent s` — tasks, records and busy targets fit together.

## Main results

* `turn_cases` — **what becomes of a task that goes on.**
* `change_apply` — **every event does one of the five.**
* `coherent_of_change`, `coherent_after` — **what fits together stays so.**
-/

namespace Mixtape
namespace JobSystem

variable {σ : Type} {store : JobStore σ} {s s' : JobSystem σ} {id target : String}

/-- An id was given out. -/
def Given (s : JobSystem σ) (id : String) : Prop := ∃ n ≤ s.books.made, id = jobId n

/-- Tasks, records and busy targets fit together. -/
structure Coherent (s : JobSystem σ) : Prop where
  /-- There is one runner. -/
  single : s.Single
  /-- Records are filed under their ids. -/
  keyed : ∀ i j, s.books.recorded i = some j → j.id = i
  /-- No job has two tasks. -/
  ids : (s.cores.map (·.2.1)).Nodup
  /-- A task belongs to a job at work, which has not ended. -/
  work : ∀ c ∈ s.cores, c.1 = 0 ∧ s.books.isHeard c.2.1 = true ∧ ∃ j,
    s.books.recorded c.2.1 = some j ∧ s.books.holder j.target = some c.2.1 ∧
      j.status = if c.2.2 then .active else .waiting
  /-- What is at work for a target is a job for it. -/
  held : ∀ target id, s.books.holder target = some id →
    s.Given id ∧ ∃ j, s.books.recorded id = some j ∧ j.target = target

/-- A task that goes on does so with the record of its job. -/
theorem along_self (h : s.Single) {j : Job} {P : JobStatus → Prop} (hj : s.books.recorded id = some j)
    (hid : j.id = id) (hP : P j.status) : Along s s id j.target P where
  single := h
  ready := rfl
  books := ⟨j, hid, rfl, hP, by rw [Function.update_eq_self_iff.2 hj.symm]⟩

/-- **A task that can go on is dropped if it was aborted before it began; otherwise it waits at a gate,
or its job ends.** Here `s₀` is the system without the task. -/
theorem turn_cases (store : JobStore σ) (h : s.Coherent) {n : Nat} {t : Task σ}
    (ht : s.ready[n]? = some t) : ∃ (s₀ : JobSystem σ) (target : String),
      s.cores.Perm (t.core :: s₀.cores) ∧ s₀.books = s.books ∧
      s.books.holder target = some t.id ∧
      (t.begun = false ∧ t.aborted = true ∧ s₀.Single ∧ s.turn store n = s₀ ∨
        (t.begun = true ∨ t.aborted = false) ∧
          (Parks s₀ (s.turn store n) t.id target ∨ Ends s₀ (s.turn store n) t.id target)) := by
  have hlive : t ∈ s.live := mem_live ht
  obtain ⟨hrunner, hheard, j, hj, hheld, hstatus⟩ := h.work _ (mem_cores hlive)
  have hcores := cores_eraseIdx ht
  have hturn : s.turn store n = runTask store t { s with ready := s.ready.eraseIdx n } :=
    turn_of_some ht
  change t.runner = 0 at hrunner
  change s.books.recorded t.id = some j at hj
  change s.books.holder j.target = some t.id at hheld
  change j.status = if t.begun then .active else .waiting at hstatus
  -- the system without the task, which is not yet back
  generalize hs₀ : { s with ready := s.ready.eraseIdx n } = s₀ at hcores hturn
  have hsingle : s₀.Single := hs₀ ▸ h.single
  have hbooks : s₀.books = s.books := hs₀ ▸ rfl
  refine ⟨s₀, j.target, hcores, hbooks, hheld, ?_⟩
  rw [← hbooks] at hj hheld
  have hid := h.keyed t.id j (hbooks ▸ hj)
  rw [hturn]
  unfold runTask
  rw [hrunner]
  split
  · rename_i hbegun
    rw [if_pos hbegun] at hstatus
    have halong := along_self (P := (· = .active)) hsingle hj hid hstatus
    refine .inr ⟨.inl hbegun, ?_⟩
    split
    · exact .inr (ends_finish halong rfl hheld (endsLife_failing .cancelled))
    · exact advance_cases hheld _ halong rfl
  · rename_i hbegun
    have halong := along_self (P := fun _ => True) hsingle hj hid trivial
    split
    · rename_i haborted
      exact .inl ⟨by simpa using hbegun, haborted, hsingle, rfl⟩
    · rename_i haborted
      refine .inr ⟨.inr (by simpa using haborted), ?_⟩
      rw [step_of_record (r := 0) hj]
      exact advance_cases hheld _ (halong.transition store hid rfl rfl) rfl

theorem change_turn (h : s.Coherent) (n : Nat) : Change none s (s.turn store n) := by
  cases ht : s.ready[n]? with
  | none =>
    rw [turn_of_none ht]
    exact .touches (.refl h.single)
  | some t =>
    have hlive : t ∈ s.live := mem_live ht
    obtain ⟨s₀, target, hcores, hbooks, hheld, hcase⟩ := turn_cases store h ht
    rcases hcase with ⟨hbegun, haborted, hsingle, hturn⟩ | ⟨hacted, hparks | hends⟩
    · rw [hturn]
      exact .loses t hlive hbegun haborted hsingle hcores hbooks
    · exact .parks t hlive target s₀ hcores hbooks hheld hparks
    · exact .ends t hlive hacted target s₀ hcores hbooks hheld hends

/-- **Every event does one of the five.** -/
theorem change_apply (store : JobStore σ) (h : s.Coherent) (e : Event σ) : Change e.target? s (e.apply store s) := by
  cases e with
  | enqueue policy order => exact change_enqueue h.single policy order
  | cancel id => exact .touches (touches_cancel h.single id)
  | abort id => exact .touches (touches_abort h.single id)
  | release gate => exact .touches (touches_release h.single gate)
  | shutdown => exact .touches (touches_shutdown h.single)
  | report id p => exact .touches (touches_progress h.single id p)
  | outside shared => exact .touches (touches_of_runners h.single rfl (Nat.le_refl _) (.refl _))
  | turn n => exact change_turn h n

/-! ### What fits together stays so -/

/-- A job is at work for one target. -/
theorem Coherent.target_unique (h : s.Coherent) {target' : String}
    (hid : s.books.holder target = some id) (hid' : s.books.holder target' = some id) :
    target' = target := by
  obtain ⟨-, j, hj, rfl⟩ := h.held target id hid
  obtain ⟨-, j', hj', rfl⟩ := h.held target' id hid'
  rw [Option.some.inj (hj.symm.trans hj')]

/-- The ids of tasks were given out. -/
theorem Coherent.given (h : s.Coherent) {c : Nat × String × Bool} (hc : c ∈ s.cores) :
    s.Given c.2.1 := by
  obtain ⟨-, -, j, -, hheld, -⟩ := h.work c hc
  exact (h.held _ _ hheld).1

theorem not_given_next (s : JobSystem σ) : ¬s.Given (jobId (s.books.made + 1)) := by
  rintro ⟨n, hn, hid⟩
  have := jobId_injective hid
  omega

/-- The tasks apart from one belong to other jobs. -/
theorem Coherent.others (h : s.Coherent) {c d : Nat × String × Bool}
    {rest : List (Nat × String × Bool)} (hcores : s.cores.Perm (c :: rest)) (hd : d ∈ rest) :
    d ∈ s.cores ∧ d.2.1 ≠ c.2.1 := by
  have hids := (hcores.map (·.2.1)).nodup_iff.1 h.ids
  rw [List.map_cons, List.nodup_cons] at hids
  refine ⟨hcores.mem_iff.2 (List.mem_cons_of_mem _ hd), fun heq => hids.1 ?_⟩
  exact heq ▸ List.mem_map_of_mem hd

/-- A job has one task. -/
theorem Coherent.task_unique (h : s.Coherent) {t u : Task σ} (ht : t ∈ s.live) (hu : u ∈ s.live)
    (hid : t.id = u.id) : t = u := by
  have hids : (s.live.map (·.id)).Nodup := by
    have := h.ids
    unfold cores at this
    rwa [List.map_map] at this
  exact List.inj_on_of_nodup_map hids ht hu hid

theorem coherent_of_touches (h : s.Coherent) (hc : Touches s s') : s'.Coherent where
  single := hc.single
  keyed i j hj := by
    rcases hc.keyed i j hj with hid | ⟨k, p, hk, rfl⟩
    · exact hid
    · exact h.keyed i k hk
  ids := (hc.cores.map _).nodup_iff.2 h.ids
  work c hmem := by
    obtain ⟨hrunner, hheard, j, hj, hheld, hstatus⟩ := h.work c (hc.cores.mem_iff.1 hmem)
    obtain ⟨p, hp⟩ := hc.recorded _ _ hj
    refine ⟨hrunner, ?_, _, hp, ?_, hstatus⟩
    · rw [hc.isHeard]
      exact hheard
    · rw [hc.holder]
      exact hheld
  held target id hid := by
    rw [hc.holder] at hid
    obtain ⟨⟨n, hn, hgiven⟩, j, hj, htarget⟩ := h.held target id hid
    obtain ⟨p, hp⟩ := hc.recorded _ _ hj
    exact ⟨⟨n, Nat.le_trans hn hc.made, hgiven⟩, _, hp, htarget⟩

theorem coherent_of_takes (h : s.Coherent) {j : Job} (hc : Takes s s' j) : s'.Coherent := by
  have hnew : ¬s.Given j.id := hc.id ▸ not_given_next s
  have hne : ∀ {i}, s.Given i → i ≠ j.id := fun hi heq => hnew (heq ▸ hi)
  refine ⟨hc.single, ?_, ?_, ?_, ?_⟩
  · intro i k hk
    by_cases hi : i = j.id
    · subst hi
      rw [Option.some.inj (hc.recorded_self.symm.trans hk)]
    · exact h.keyed i k ((hc.recorded_of_ne hi).symm.trans hk)
  · rw [(hc.cores.map _).nodup_iff, List.map_cons, List.nodup_cons]
    refine ⟨fun hmem => ?_, h.ids⟩
    obtain ⟨c, hcm, hcid⟩ := List.mem_map.1 hmem
    exact hne (h.given hcm) hcid
  · intro c hmem
    rcases List.mem_cons.1 (hc.cores.mem_iff.1 hmem) with rfl | hmem
    · exact ⟨rfl, hc.isHeard_self, j, hc.recorded_self, hc.holder_self, hc.status⟩
    · obtain ⟨hrunner, hheard, k, hk, hheld, hstatus⟩ := h.work c hmem
      have hid := hne (h.given hmem)
      -- the target of the new job was free, so this one has another
      have htarget : k.target ≠ j.target := by
        intro heq
        rw [heq, hc.free] at hheld
        cases hheld
      exact ⟨hrunner, (hc.isHeard_of_ne hid).trans hheard, k, (hc.recorded_of_ne hid).trans hk,
        (hc.holder_of_ne htarget).trans hheld, hstatus⟩
  · intro target id hid
    have hmade := hc.made_eq
    by_cases htarget : target = j.target
    · subst htarget
      obtain rfl := Option.some.inj (hc.holder_self.symm.trans hid)
      exact ⟨⟨_, hmade ▸ Nat.le_refl _, hc.id⟩, j, hc.recorded_self, rfl⟩
    · obtain ⟨⟨n, hn, hgiven⟩, k, hk, hkt⟩ :=
        h.held target id ((hc.holder_of_ne htarget).symm.trans hid)
      refine ⟨⟨n, by omega, hgiven⟩, k, ?_, hkt⟩
      exact (hc.recorded_of_ne (hne ⟨n, hn, hgiven⟩)).trans hk

theorem coherent_of_loses (h : s.Coherent) {t : Task σ} (hsingle : s'.Single)
    (hcores : s.cores.Perm (t.core :: s'.cores)) (hbooks : s'.books = s.books) : s'.Coherent where
  single := hsingle
  keyed := hbooks ▸ h.keyed
  ids := by
    have hids := (hcores.map (·.2.1)).nodup_iff.1 h.ids
    rw [List.map_cons, List.nodup_cons] at hids
    exact hids.2
  work c hc := by
    rw [hbooks]
    exact h.work c (h.others hcores hc).1
  held target id hid := by
    rw [hbooks] at hid ⊢
    obtain ⟨⟨n, hn, hgiven⟩, hj⟩ := h.held target id hid
    exact ⟨⟨n, hbooks ▸ hn, hgiven⟩, hj⟩

theorem Parks.cores {s₀ : JobSystem σ} (h : Parks s₀ s id target) :
    s.cores.Perm ((0, id, true) :: s₀.cores) := by
  obtain ⟨gate, work, hblocked⟩ := h.blocked
  have hlive : s.live.Perm
      ({ runner := 0, id, begun := true, gate := some gate, work } :: s₀.live) := by
    unfold live
    rw [h.ready, hblocked, ← List.append_assoc]
    exact List.perm_append_singleton _ _
  exact hlive.map Task.core

theorem Ends.cores {s₀ : JobSystem σ} (h : Ends s₀ s id target) : s.cores = s₀.cores := by
  unfold JobSystem.cores live
  rw [h.ready, h.blocked]

theorem coherent_of_parks (h : s.Coherent) {t : Task σ} (ht : t ∈ s.live) {s₀ : JobSystem σ}
    (hcores : s.cores.Perm (t.core :: s₀.cores)) (hbooks : s₀.books = s.books)
    (hheld : s.books.holder target = some t.id) (hc : Parks s₀ s' t.id target) : s'.Coherent := by
  obtain ⟨j, hid, htarget, hstatus, hself⟩ := hc.recorded_self
  have hothers : ∀ {i}, i ≠ t.id → s'.books.recorded i = s.books.recorded i :=
    fun hi => hbooks ▸ hc.recorded_of_ne hi
  have hheard : s'.books.isHeard = s.books.isHeard := hbooks ▸ hc.isHeard_eq
  have hholder : s'.books.holder = s.books.holder := hbooks ▸ hc.holder_eq
  have hmade : s'.books.made = s.books.made := hbooks ▸ hc.made_eq
  refine ⟨hc.single, ?_, ?_, ?_, ?_⟩
  · intro i k hk
    by_cases hi : i = t.id
    · subst hi
      obtain rfl := Option.some.inj (hself.symm.trans hk)
      exact hid
    · exact h.keyed i k ((hothers hi).symm.trans hk)
  · -- the task that waits has the id of the one that went on
    have hids := (hcores.map (·.2.1)).nodup_iff.1 h.ids
    exact (hc.cores.map (·.2.1)).nodup_iff.2 hids
  · intro c hmem
    rw [hheard, hholder]
    rcases List.mem_cons.1 (hc.cores.mem_iff.1 hmem) with rfl | hmem
    · exact ⟨rfl, (h.work _ (mem_cores ht)).2.1, j, hself, htarget ▸ hheld, hstatus⟩
    · obtain ⟨hc', hne⟩ := h.others hcores hmem
      obtain ⟨hrunner, hheard', k, hk, hheld', hstatus'⟩ := h.work c hc'
      exact ⟨hrunner, hheard', k, (hothers hne).trans hk, hheld', hstatus'⟩
  · intro target' i hi
    rw [hholder] at hi
    obtain ⟨⟨n, hn, hgiven⟩, k, hk, hkt⟩ := h.held target' i hi
    refine ⟨⟨n, hmade ▸ hn, hgiven⟩, ?_⟩
    by_cases hit : i = t.id
    · subst hit
      exact ⟨j, hself, htarget.trans (h.target_unique hheld hi).symm⟩
    · exact ⟨k, (hothers hit).trans hk, hkt⟩

theorem coherent_of_ends (h : s.Coherent) {t : Task σ} {s₀ : JobSystem σ}
    (hcores : s.cores.Perm (t.core :: s₀.cores)) (hbooks : s₀.books = s.books)
    (hheld : s.books.holder target = some t.id) (hc : Ends s₀ s' t.id target) : s'.Coherent := by
  obtain ⟨j, hid, -, -, hself⟩ := hc.recorded_self
  have hothers : ∀ {i}, i ≠ t.id → s'.books.recorded i = s.books.recorded i :=
    fun hi => hbooks ▸ hc.recorded_of_ne hi
  have hheard : ∀ {i}, i ≠ t.id → s'.books.isHeard i = s.books.isHeard i :=
    fun hi => hbooks ▸ hc.isHeard_of_ne hi
  have hholder : ∀ {target'}, target' ≠ target → s'.books.holder target' = s.books.holder target' :=
    fun hne => hbooks ▸ hc.holder_of_ne hne
  have hmade : s'.books.made = s.books.made := hbooks ▸ hc.made_eq
  refine ⟨hc.single, ?_, ?_, ?_, ?_⟩
  · intro i k hk
    by_cases hi : i = t.id
    · subst hi
      obtain rfl := Option.some.inj (hself.symm.trans hk)
      exact hid
    · exact h.keyed i k ((hothers hi).symm.trans hk)
  · have hids := (hcores.map (·.2.1)).nodup_iff.1 h.ids
    rw [List.map_cons, List.nodup_cons] at hids
    rw [hc.cores]
    exact hids.2
  · intro c hmem
    rw [hc.cores] at hmem
    obtain ⟨hc', hne⟩ := h.others hcores hmem
    obtain ⟨hrunner, hheard', k, hk, hheld', hstatus'⟩ := h.work c hc'
    have hkt : k.target ≠ target := by
      intro heq
      rw [heq, hheld] at hheld'
      exact hne (Option.some.inj hheld').symm
    exact ⟨hrunner, (hheard hne).trans hheard', k, (hothers hne).trans hk,
      (hholder hkt).trans hheld', hstatus'⟩
  · intro target' i hi
    have hne : target' ≠ target := by
      rintro rfl
      rw [hc.holder_self] at hi
      cases hi
    rw [hholder hne] at hi
    obtain ⟨⟨n, hn, hgiven⟩, k, hk, hkt⟩ := h.held target' i hi
    have hit : i ≠ t.id := by
      rintro rfl
      exact hne (h.target_unique hheld hi)
    exact ⟨⟨n, hmade ▸ hn, hgiven⟩, k, (hothers hit).trans hk, hkt⟩

/-- **What fits together stays so.** -/
theorem coherent_of_change {q : Option String} (h : s.Coherent) (hc : Change q s s') :
    s'.Coherent := by
  cases hc with
  | touches hc => exact coherent_of_touches h hc
  | takes j target hc => exact coherent_of_takes h hc
  | loses t live begun aborted single cores books => exact coherent_of_loses h single cores books
  | parks t live target s₀ cores books held hc =>
    exact coherent_of_parks h live cores books held hc
  | ends t live acted target s₀ cores books held hc =>
    exact coherent_of_ends h cores books held hc

/-- A runner without jobs. -/
theorem coherent_start (shared : σ) : Coherent ({ shared } : JobSystem σ) where
  single := rfl
  keyed i j hj := by cases hj
  ids := .nil
  work c hc := by cases hc
  held target i hi := by cases hi

/-- **After all events tasks, records and busy targets fit together.** -/
theorem coherent_after (store : JobStore σ) (events : List (Event σ)) (h : s.Coherent) :
    (s.after store events).Coherent := by
  induction events generalizing s with
  | nil => exact h
  | cons e events ih => exact ih (coherent_of_change h (change_apply store h e))

end JobSystem
end Mixtape
