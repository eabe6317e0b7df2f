import Mixtape.Proofs.Jobs.Fleet
import Mixtape.Proofs.Jobs.Keys

/-!
# A refused enqueue leaves nothing behind

An enqueue is refused for one of two reasons: the target is busy and conflicts are rejected, or the
store fails when it is asked about the job. Either way the runners are left as they were, with their
jobs, flags, tasks and busy targets, no task is made, and nothing is announced. What the store made
of the question is its own matter, and the id that was given out is not given out again.

So the refusal is no lasting one. Whatever happens in between, as soon as the target is free and the
store answers, the same enqueue is taken: its work is started, unless the key has been claimed in
the meantime, and then the job of the key is handed back.

## Main definitions

* `JobStore.Discerns store Claimed` — the store tells keys that are claimed from others.
* `JobSystem.Refused` — why an enqueue is refused.
* `JobSystem.Untouched s s'` — the runners and their tasks are as they were.
* `JobSystem.Starts o r j s s'` — a job is taken to work.

## Main results

* `MemoryJobs.discerns_store`, `Studio.discerns_databaseJobs` — both stores tell claimed keys from
  others.
* `length_runners_le_moved` — runners are not removed.
* `enqueue_atomic` — **a refused enqueue leaves nothing behind**, and is taken later.
-/

namespace Mixtape

open Action

/-! ### Stores that tell claimed keys from others -/

/-- A store tells the keys that are claimed from others: a claim that succeeds records the job if
its key was not claimed, and hands back another job if it was. A claim may always fail. -/
structure JobStore.Discerns {σ : Type} (store : JobStore σ) (Claimed : σ → String → Prop) : Prop where
  /-- A job is recorded, under its own id, only if its key was not claimed. -/
  fresh : ∀ {u t key} {j stored : Job}, MemoryJobs.keyOf j = some key →
    (store.claim j).runOn u = (.ok (stored, true), t) → ¬Claimed u key ∧ stored.id = j.id
  /-- Another job is handed back only if the key was claimed. -/
  known : ∀ {u t key} {j stored : Job}, MemoryJobs.keyOf j = some key →
    (store.claim j).runOn u = (.ok (stored, false), t) → Claimed u key

/-- A key is claimed in memory when a job is found under it. -/
theorem MemoryJobs.discerns_store {σ : Type} (now : σ → Timestamp) (view : σ → MemoryJobs)
    (set : MemoryJobs → σ → σ) :
    (store now view set).Discerns fun u key => ((view u).findKey key).isSome = true where
  fresh {u t key j stored} hkey h := by
    obtain ⟨f, hf, -⟩ | ⟨r, m, hr, hclaim⟩ := claim_of_runOn h
    · cases hf
    · cases hr
      obtain ⟨-, hfalse, -⟩ | ⟨hfree, hnew, -⟩ := claim_eq_ok hclaim
      · cases hfalse
      · rw [hkey, Option.bind_some] at hfree
        refine ⟨?_, congrArg (·.1.id) hnew⟩
        rw [hfree]
        exact Bool.false_ne_true
  known {u t key j stored} hkey h := by
    obtain ⟨f, hf, -⟩ | ⟨r, m, hr, hclaim⟩ := claim_of_runOn h
    · cases hf
    · cases hr
      obtain ⟨hfound, -, -⟩ | ⟨-, hnew, -⟩ := claim_eq_ok hclaim
      · rw [hkey, Option.bind_some] at hfound
        rw [hfound]
        rfl
      · cases hnew

/-- What a claim in the database tells of the key. -/
theorem Database.yields_claimJob_key {d : Database} {now : Timestamp} {j : Job} {key : String}
    (hkey : MemoryJobs.keyOf j = some key) : Yields (· = d) (claimJob now j) fun r _ =>
      (r.2 = true → (d.jobUnder? key).isSome = false ∧ r.1.id = j.id) ∧
      (r.2 = false → (d.jobUnder? key).isSome = true) := by
  obtain ⟨hkey, -⟩ := MemoryJobs.keyOf_eq_some.1 hkey
  unfold claimJob
  rw [hkey]
  dsimp only
  refine meets_get_bind fun e he => ?_
  subst he
  cases hfound : e.jobUnder? key with
  | some recorded =>
    refine meets_pure fun _ _ => ⟨?_, fun _ => rfl⟩
    intro h
    cases h
  | none =>
    refine Meets.bind (Q := fun _ _ => True)
      (meets_ofExcept (fun _ _ _ _ => trivial) fun _ _ _ _ => trivial) fun stored => ?_
    refine Meets.bind (Q := fun _ _ => True)
      (meets_ofExcept (fun _ _ _ _ => trivial) fun _ _ _ _ => trivial) fun _ => ?_
    refine Meets.bind (Q := fun _ _ => True) (meets_set fun _ _ => trivial) fun _ => ?_
    refine meets_pure fun _ _ => ⟨fun _ => ⟨rfl, rfl⟩, ?_⟩
    intro h
    cases h

/-- A key is claimed in the database when a job is recorded under it. -/
theorem Studio.discerns_databaseJobs :
    databaseJobs.Discerns fun u key => (u.database.jobUnder? key).isSome = true := by
  have hasked : ∀ {u t : Studio} {key} {j : Job} {r : Job × Bool}, MemoryJobs.keyOf j = some key →
      (databaseJobs.claim j).runOn u = (.ok r, t) →
        (r.2 = true → (u.database.jobUnder? key).isSome = false ∧ r.1.id = j.id) ∧
        (r.2 = false → (u.database.jobUnder? key).isSome = true) := by
    intro u t key j r hkey h
    obtain ⟨d, hd, -⟩ := runOn_claim_eq_ok.1 h
    exact (Database.yields_claimJob_key hkey).of_ok rfl hd
  constructor
  · intro u t key j stored hkey h
    obtain ⟨hfree, hid⟩ := (hasked hkey h).1 rfl
    exact ⟨by rw [hfree]; exact Bool.false_ne_true, hid⟩
  · intro u t key j stored hkey h
    exact (hasked hkey h).2 rfl

namespace JobSystem

variable {σ : Type} {store : JobStore σ} {Claimed : σ → String → Prop} {s s' u : JobSystem σ}
  {policy : ConflictPolicy} {o : Order σ} {r : Nat} {f : Failure}

/-! ### What a refusal is and what it leaves -/

/-- Why an enqueue is refused. -/
inductive Refused (store : JobStore σ) (policy : ConflictPolicy) (o : Order σ) (s : JobSystem σ)
    (r : Nat) : Failure → Prop
  /-- The target is busy, and conflicts are rejected. -/
  | busy (held : String) (busy : s.activeFor o.target r = some held) (reject : policy = .reject) :
    Refused store policy o s r (.conflict o.target held)
  /-- The target is free, and the store fails when it is asked about the job. -/
  | down (free : s.activeFor o.target r = none) (f : Failure) (t : σ)
      (asked : (asking store (o.job (jobId (s.made + 1)) (store.now s.shared))).runOn s.shared =
        (.error f, t)) :
    Refused store policy o s r f

/-- The runners, their tasks, the gates and what was announced are as they were. Only the number of
ids that were given out and the state that the store is part of may be others. -/
def Untouched (s s' : JobSystem σ) : Prop := s' = { s with made := s'.made, shared := s'.shared }

/-- **A refused enqueue leaves the runners as they were.** -/
theorem untouched_of_error (h : enqueue store policy o s r = (.error f, s')) :
    Refused store policy o s r f ∧ Untouched s s' := by
  have hc := enqueue_cases store policy o s r
  rw [h] at hc
  cases hc with
  | refused held busy reject => exact ⟨.busy held busy reject, rfl⟩
  | fails free _ t asked => exact ⟨.down free f t asked, rfl⟩

/-! ### The same enqueue later -/

/-- Runners are not removed by a move. -/
theorem length_runners_le_apply (store : JobStore σ) (s : JobSystem σ) (m : Move σ) :
    s.runners.length ≤ (m.apply store s).runners.length := by
  cases m with
  | enqueue r policy o =>
    change _ ≤ (enqueue store policy o s r).2.runners.length
    have hc := enqueue_cases store policy o s r
    generalize enqueue store policy o s r = result at hc ⊢
    cases hc with
    | joins held busy join => exact Nat.le_refl _
    | refused held busy reject => exact Nat.le_refl _
    | fails free f t asked => exact Nat.le_refl _
    | hands free stored t asked => exact (List.length_modify ..).ge
    | takes free stored t asked => exact (List.length_modify ..).ge
  | cancel r id => exact (calm_cancel s id r).runners.ge
  | abort r id => exact (calm_abort s id r).runners.ge
  | shutdown r => exact (calm_shutdown s r).runners.ge
  | report r id p =>
    have hon : Onward (fun _ _ => True) s (s.progress r id p) := onward_progress s r id p
    exact hon.runners
  | release gate => exact (calm_release s gate).runners.ge
  | outside shared => exact Nat.le_refl _
  | turn n =>
    change _ ≤ (s.turn store n).runners.length
    cases ht : s.ready[n]? with
    | none => rw [turn_of_none ht]
    | some t =>
      obtain ⟨left, -, -, -, hlength⟩ := left_turn store ht rfl t.work.within_true
      exact hlength.ge
  | restart =>
    have hon : Onward (fun _ _ => True) s s.restart := onward_restart s
    exact hon.runners

/-- **Runners are not removed**, whatever happens. -/
theorem length_runners_le_moved (store : JobStore σ) (moves : List (Move σ)) (s : JobSystem σ) :
    s.runners.length ≤ (s.moved store moves).runners.length := by
  induction moves generalizing s with
  | nil => exact Nat.le_refl _
  | cons m moves ih =>
    have hfirst := length_runners_le_apply store s m
    exact Nat.le_trans hfirst (ih (m.apply store s))

/-- A job is taken to work: its task is the last that can go on, it is announced, and its runner
files it under all four records. -/
structure Starts (o : Order σ) (r : Nat) (j : Job) (s s' : JobSystem σ) : Prop where
  /-- Its task can go on. -/
  ready : s'.ready = s.ready ++ [{ runner := r, id := j.id, work := o.work }]
  /-- The tasks that wait at gates are as they were. -/
  blocked : s'.blocked = s.blocked
  /-- The job is announced. -/
  announced : s'.announced = s.announced ++ [j]
  /-- The runner knows the job, can be asked to cancel it, has a task for it and is busy with its
  target. -/
  filed : s'.runner r =
    { jobs := (s.runner r).jobs.put j.id j
      contexts := (s.runner r).contexts.put j.id false
      tasks := (s.runner r).tasks.put j.id ()
      active := (s.runner r).active.put j.target j.id }
  /-- The other runners are as they were. -/
  others : ∀ r', r ≠ r' → s'.runner r' = s.runner r'
  /-- The work begins when the task has its turn. -/
  begins : (Move.turn s.ready.length).begins s' = some j.id

theorem starts_begin (hr : r < s.runners.length) (n : Nat) (t : σ) (o : Order σ) (j : Job) :
    Starts o r j s (begin { s with made := n, shared := t } j o.work r) where
  ready := rfl
  blocked := rfl
  announced := rfl
  filed := runner_updateRunner_self (s := { s with made := n, shared := t }) hr _
  others _ hne := runner_updateRunner_of_ne (s := { s with made := n, shared := t }) hne _
  begins := by simp [Move.begins, Event.begins, begin, announce, updateRunner]

/-- The store answers when it is asked about the job of an order. -/
def Answers (store : JobStore σ) (o : Order σ) (s : JobSystem σ) : Prop :=
  ∃ a t, (asking store (o.job (jobId (s.made + 1)) (store.now s.shared))).runOn s.shared = (.ok a, t)

/-- An order has a key that counts, and it is claimed. -/
def Order.IsClaimed (o : Order σ) (Claimed : σ → String → Prop) (u : σ) : Prop :=
  ∃ key, o.key = some key ∧ key ≠ "" ∧ Claimed u key

theorem Order.isClaimed_iff {v : σ} {id : String} {now : Timestamp} : o.IsClaimed Claimed v ↔
    ∃ key, MemoryJobs.keyOf (o.job id now) = some key ∧ Claimed v key := by
  simp only [MemoryJobs.keyOf_eq_some, and_assoc]
  rfl

/-- **What the answer of the store tells.** The job is recorded under its id unless its key was
claimed, and if it was, another is handed back. -/
theorem of_asking (hstore : store.Discerns Claimed) {j stored : Job} {recorded : Bool} {v t : σ}
    (h : (asking store j).runOn v = (.ok (stored, recorded), t)) :
    (recorded = true → stored.id = j.id) ∧
      (recorded = false ↔ ∃ key, MemoryJobs.keyOf j = some key ∧ Claimed v key) := by
  cases hkey : MemoryJobs.keyOf j with
  | none =>
    unfold asking at h
    rw [hkey, if_neg (by simp)] at h
    obtain ⟨_, _, _, h⟩ := runOn_bind_eq_ok.1 h
    cases h
    exact ⟨fun _ => rfl, by simp⟩
  | some key =>
    rw [asking_of_key store hkey] at h
    cases recorded with
    | true =>
      obtain ⟨hfree, hid⟩ := hstore.fresh hkey h
      exact ⟨fun _ => hid, by simpa using hfree⟩
    | false =>
      have hclaimed : Claimed v key := hstore.known hkey h
      exact ⟨nofun, by simpa using hclaimed⟩

/-- **An enqueue for a free target is taken if the store answers**: its work is started unless the
key was claimed, and then no work is. -/
theorem exists_enqueue_eq_ok (hstore : store.Discerns Claimed) (hr : r < u.runners.length)
    (hfree : u.activeFor o.target r = none) (hanswers : Answers store o u) :
    ∃ id u', enqueue store policy o u r = (.ok id, u') ∧
      (¬o.IsClaimed Claimed u.shared → id = jobId (u.made + 1) ∧
        Starts o r (o.job (jobId (u.made + 1)) (store.now u.shared)) u u') ∧
      (o.IsClaimed Claimed u.shared → Quiet u u') := by
  obtain ⟨a, t, hasked⟩ := hanswers
  have hc := enqueue_cases store policy o u r
  generalize enqueue store policy o u r = result at hc
  cases hc with
  | joins held busy join => cases hfree.symm.trans busy
  | refused held busy reject => cases hfree.symm.trans busy
  | fails free f t' asked => cases hasked.symm.trans asked
  | hands free stored t' asked =>
    have hclaimed : o.IsClaimed Claimed u.shared :=
      Order.isClaimed_iff.2 ((of_asking hstore asked).2.1 rfl)
    exact ⟨stored.id, _, rfl, fun hfree => absurd hclaimed hfree, fun _ => quiet_hands ..⟩
  | takes free stored t' asked =>
    obtain ⟨hid, hclaimed⟩ := of_asking hstore asked
    refine ⟨stored.id, _, rfl, fun _ => ⟨hid rfl, starts_begin hr _ t' o _⟩, fun h => ?_⟩
    exact absurd (hclaimed.2 (Order.isClaimed_iff.1 h)) nofun

/-- **A refused enqueue leaves nothing behind, and is taken later.** It is refused since the target
is busy or the store fails, and the runners, their tasks and what was announced are as they were. As
soon as the target is free and the store answers, whatever has happened in between, the same enqueue
succeeds: it starts the work unless the key has been claimed by then, and then starts none. -/
theorem enqueue_atomic (hstore : store.Discerns Claimed) (hr : r < s.runners.length)
    (h : enqueue store policy o s r = (.error f, s')) :
    Refused store policy o s r f ∧ Untouched s s' ∧
      ∀ later u, u = s'.moved store later → u.activeFor o.target r = none → Answers store o u →
        ∃ id u', enqueue store policy o u r = (.ok id, u') ∧
          (¬o.IsClaimed Claimed u.shared → id = jobId (u.made + 1) ∧
            Starts o r (o.job (jobId (u.made + 1)) (store.now u.shared)) u u') ∧
          (o.IsClaimed Claimed u.shared → Quiet u u') := by
  obtain ⟨hrefused, huntouched⟩ := untouched_of_error h
  refine ⟨hrefused, huntouched, ?_⟩
  rintro later u rfl hfree hanswers
  have hlength : s.runners.length = s'.runners.length := by rw [huntouched]
  refine exists_enqueue_eq_ok hstore ?_ hfree hanswers
  exact Nat.lt_of_lt_of_le (hlength ▸ hr) (length_runners_le_moved store later s')

/-- Two runners over a store that refuses new jobs. -/
def refusing : JobSystem MemoryJobs :=
  { shared := { refused := [.waiting] }, runners := [{}, {}] }

/-- A job is at work. -/
def working : JobSystem MemoryJobs := (enqueue plain .reject idle { shared := {} }).2

/-- A store that refuses new jobs takes the job once it does not, and a job for a busy target is
taken once the other has ended. A job whose key another runner has claimed in the meantime is not
started. -/
theorem enqueue_atomic_recovering :
    (∃ s', enqueue plain .reject idle refusing 0 = (.error (.misuse "store down"), s') ∧
      Untouched refusing s' ∧ ∃ u u', u = s'.moved plain [.outside {}] ∧
        enqueue plain .reject idle u 0 = (.ok (jobId 2), u') ∧
        Starts idle 0 (idle.job (jobId 2) ⟨0, 0⟩) u u') ∧
    (enqueue plain .reject idle working 0 = (.error (.conflict "t" (jobId 1)), working) ∧
      ∃ u u', u = working.moved plain [.turn 0] ∧
        enqueue plain .reject idle u 0 = (.ok (jobId 2), u') ∧
        Starts idle 0 (idle.job (jobId 2) ⟨0, 0⟩) u u') ∧
    ∃ o s' u u', o = joining "alice" (.done {}) ∧
      enqueue plain .reject o refusing 0 = (.error (.misuse "store down"), s') ∧
      u = s'.moved plain [.outside {}, .enqueue 1 .reject o] ∧
      enqueue plain .reject o u 0 = (.ok (jobId 2), u') ∧ Quiet u u' := by
  have hplain : plain.Discerns fun m key => (m.findKey key).isSome = true :=
    MemoryJobs.discerns_store _ _ _
  -- the job has no key, so that nothing can be claimed
  have hunkeyed : ∀ m, ¬idle.IsClaimed (fun m key => (m.findKey key).isSome = true) m := by
    rintro m ⟨key, hkey, -⟩
    cases hkey
  refine ⟨?_, ?_, ?_⟩
  · have hdown : enqueue plain .reject idle refusing 0 =
        (.error (.misuse "store down"), (enqueue plain .reject idle refusing 0).2) := rfl
    obtain ⟨-, huntouched, hlater⟩ := enqueue_atomic hplain (by decide) hdown
    obtain ⟨id, u', hu, hstarts, -⟩ := hlater [.outside {}] _ rfl rfl ⟨_, _, rfl⟩
    obtain ⟨rfl, htaken⟩ := hstarts (hunkeyed _)
    exact ⟨_, hdown, huntouched, _, u', rfl, hu, htaken⟩
  · have hbusy : enqueue plain .reject idle working 0 =
        (.error (.conflict "t" (jobId 1)), working) := rfl
    obtain ⟨-, -, hlater⟩ := enqueue_atomic hplain (by decide) hbusy
    obtain ⟨id, u', hu, hstarts, -⟩ := hlater [.turn 0] _ rfl rfl ⟨_, _, rfl⟩
    obtain ⟨rfl, htaken⟩ := hstarts (hunkeyed _)
    exact ⟨hbusy, _, u', rfl, hu, htaken⟩
  · have hdown : enqueue plain .reject (joining "alice" (.done {})) refusing 0 =
        (.error (.misuse "store down"),
          (enqueue plain .reject (joining "alice" (.done {})) refusing 0).2) := rfl
    obtain ⟨-, -, hlater⟩ := enqueue_atomic hplain (by decide) hdown
    obtain ⟨id, u', hu, -, hquiet⟩ := hlater
      [.outside {}, .enqueue 1 .reject (joining "alice" (.done {}))] _ rfl rfl ⟨_, _, rfl⟩
    have hid : Except.ok (jobId 2) = Except.ok id := congrArg Prod.fst hu
    obtain rfl := Except.ok.inj hid
    exact ⟨_, _, _, u', rfl, hdown, rfl, hu, hquiet ⟨"onboarding:alice", rfl, by decide, rfl⟩⟩

end JobSystem

end Mixtape
