import Mixtape.Proofs.Jobs.Release
import Mixtape.Proofs.Jobs.Steady

/-!
# The job of a key

A key belongs to the job that was first recorded under it, whatever happens to the runners over one
store: jobs are enqueued, end, or are lost with their runner, and later runners know the key from the
store. Yet a busy target is looked at before the key. So whoever enqueues a job with the key again is
handed the job of the key exactly when the target is free, or when the job at work for the target, which
the caller joins, is that very job.

## Main definitions

* `JobSystem.Recorded store F key id s` — in a history that has led to `s`, the job `id` was recorded
  under the key.
* `JobSystem.Quiet s s'` — no work was started.

## Main results

* `Recorded.filed` — **a job recorded under a key stays filed under it.**
* `hands_back_iff` — **when the job of a key is handed back.**
* `not_hands_back_busy` — a key whose job has ended, and another job at work for the target.
-/

namespace Mixtape
namespace JobSystem

variable {σ : Type} {store : JobStore σ} {F : Filing σ} {s : JobSystem σ} {id key : String}

/-- A history over a store that was in order has led to a system. -/
inductive Course (store : JobStore σ) (F : Filing σ) : JobSystem σ → Prop
  /-- A runner without jobs. -/
  | start (shared : σ) (sound : F.Sound shared) : Course store F { shared }
  /-- Something happens. -/
  | next {s : JobSystem σ} (course : Course store F s) (c : Occurrence σ)
      (spares : c.Spares F s.shared) : Course store F (c.apply store s)

/-- No work was started: no task was made, nothing was announced, and the records of work in flight
are as they were. -/
structure Quiet (s s' : JobSystem σ) : Prop where
  /-- The same tasks can go on. -/
  ready : s'.ready = s.ready
  /-- The same tasks wait at gates. -/
  blocked : s'.blocked = s.blocked
  /-- Nothing was announced. -/
  announced : s'.announced = s.announced
  /-- The same jobs have tasks. -/
  tasks : ∀ r, (s'.runner r).tasks = (s.runner r).tasks
  /-- The same jobs can be asked to cancel. -/
  contexts : ∀ r, (s'.runner r).contexts = (s.runner r).contexts
  /-- The same jobs are at work. -/
  active : ∀ r, (s'.runner r).active = (s.runner r).active

/-- In a history that has led to a system, a job was recorded under a key. -/
inductive Recorded (store : JobStore σ) (F : Filing σ) (key id : String) : JobSystem σ → Prop
  /-- The store came with the job; its id is not given out again. -/
  | held (shared : σ) (sound : F.Sound shared) (filed : F.Filed shared key id)
      (old : ∀ n, id ≠ jobId n) : Recorded store F key id { shared }
  /-- The job was enqueued with the key, and its work was started. -/
  | taken {s : JobSystem σ} (course : Course store F s) (policy : ConflictPolicy) (o : Order σ)
      (spares : ∀ t, o.work.Spares F t) (keyed : o.key = some key) (counts : key ≠ "")
      (handed : (enqueue store policy o s).1 = .ok id)
      (started : ¬Quiet s (enqueue store policy o s).2) :
      Recorded store F key id (enqueue store policy o s).2
  /-- Something happens later. -/
  | next {s : JobSystem σ} (recorded : Recorded store F key id s) (c : Occurrence σ)
      (spares : c.Spares F s.shared) : Recorded store F key id (c.apply store s)

/-! ### A job recorded under a key stays filed under it -/

/-- Being in order is kept. -/
theorem kept_sound (hF : store.Files F) : Kept store F F.Sound fun _ _ => True where
  leaves h := h.sound
  save h _ := hF.sound_save _ h
  claim h _ := hF.sound_claim _ h

/-- A job stays filed when jobs are recorded, if its own records keep the key. -/
theorem kept_filed (hF : store.Files F) (key id : String) :
    Kept store F (F.Filed · key id) fun i k => i = id → k = some key where
  leaves h := h.filed
  save h hj := hF.filed_save h hj
  claim h hj := hF.filed_claim h hj

theorem Course.steady (hF : store.Files F) (h : Course store F s) :
    Steady F F.Sound (fun _ _ => True) s := by
  induction h with
  | start shared sound => exact ⟨sound, Nat.one_pos, fun _ _ _ => trivial, nofun, nofun⟩
  | next course c spares ih => exact steady_apply (kept_sound hF) ih spares

theorem Quiet.refl (s : JobSystem σ) : Quiet s s :=
  ⟨rfl, rfl, rfl, fun _ => rfl, fun _ => rfl, fun _ => rfl⟩

/-- To hand back a job starts no work. -/
theorem quiet_hands (s : JobSystem σ) (n : Nat) (t : σ) (j : Job) (r : Nat) :
    Quiet s (updateRunner { s with made := n, shared := t } r fun n =>
      { n with jobs := n.jobs.putNew j.id j }) := by
  refine ⟨rfl, rfl, rfl, fun r' => ?_, fun r' => ?_, fun r' => ?_⟩
  all_goals
    rcases runner_updateRunner_cases { s with made := n, shared := t } r r'
      (fun n => { n with jobs := n.jobs.putNew j.id j }) with heq | ⟨-, heq⟩
    · rw [heq]
      rfl
    · rw [heq]
      rfl

/-- A job that is taken with a key is filed under it. -/
theorem steady_of_taken (hF : store.Files F) (h : Steady F F.Sound (fun _ _ => True) s) {r : Nat}
    (hr : r < s.runners.length) {o : Order σ} (hspares : ∀ t, o.work.Spares F t)
    (hkey : o.key = some key) (hcounts : key ≠ "") {stored : Job} {t : σ}
    (hasked : (asking store (o.job (jobId (s.made + 1)) (store.now s.shared))).runOn s.shared =
      (.ok (stored, true), t)) :
    stored.id = jobId (s.made + 1) ∧
      Steady F (F.Filed · key stored.id) (fun i k => i = stored.id → k = some key)
        (begin { s with made := s.made + 1, shared := t }
          (o.job (jobId (s.made + 1)) (store.now s.shared)) o.work r) := by
  have hkey' : MemoryJobs.keyOf (o.job (jobId (s.made + 1)) (store.now s.shared)) = some key :=
    MemoryJobs.keyOf_eq_some.2 ⟨hkey, hcounts⟩
  rw [asking_of_key store hkey'] at hasked
  obtain ⟨hid, hfiled⟩ := hF.recorded h.state hkey' hasked
  have hid : stored.id = jobId (s.made + 1) := hid
  have hfresh : ¬s.Given stored.id := hid ▸ not_given_next s
  refine ⟨hid, steady_begin ?_ ⟨_, Nat.le_refl _, rfl⟩ (fun _ => hkey) hspares hr⟩
  -- no other job has the new id
  refine ⟨?_, h.staffed, fun n hn k heq => ?_, fun u hu => ?_, h.spares⟩
  · rw [hid]
    exact hfiled
  · have := jobId_injective (heq.trans hid)
    change s.made + 1 < n at hn
    omega
  · obtain ⟨⟨n, hn, hgiven⟩, j, hj, hjid, -⟩ := h.backs u hu
    refine ⟨⟨n, Nat.le_succ_of_le hn, hgiven⟩, j, hj, hjid, fun heq => ?_⟩
    exact absurd ⟨n, hn, heq.symm.trans (hjid.trans hgiven)⟩ hfresh

/-- **A job recorded under a key stays filed under it**, and its own records keep the key. -/
theorem Recorded.steady (hF : store.Files F) (h : Recorded store F key id s) :
    Steady F (F.Filed · key id) (fun i k => i = id → k = some key) s := by
  induction h with
  | held shared sound filed old =>
    exact ⟨filed, Nat.one_pos, fun n _ _ heq => absurd heq.symm (old n), nofun, nofun⟩
  | next recorded c spares ih => exact steady_apply (kept_filed hF key id) ih spares
  | @taken s course policy o spares keyed counts handed started =>
    have h := course.steady hF
    have hc := enqueue_cases store policy o s
    generalize enqueue store policy o s = result at hc handed started ⊢
    cases hc with
    | joins held busy join => exact absurd (Quiet.refl s) started
    | refused held busy reject => cases handed
    | fails free f t asked => cases handed
    | hands free stored t asked => exact absurd (quiet_hands s _ t stored s.current) started
    | takes free stored t asked =>
      obtain rfl : stored.id = id := Except.ok.inj handed
      have hcurrent : s.current < s.runners.length := Nat.sub_lt h.staffed Nat.one_pos
      exact (steady_of_taken hF h hcurrent spares keyed counts asked).2

theorem Recorded.filed (hF : store.Files F) (h : Recorded store F key id s) :
    F.Filed s.shared key id := (h.steady hF).state

/-! ### When the job of a key is handed back -/

/-- **Whoever enqueues a job with the key of a recorded job is handed that job, and starts no work,
exactly when the target is free or that job is at work for it and is joined.** -/
theorem hands_back_iff (hF : store.Files F) (h : Recorded store F key id s)
    (policy : ConflictPolicy) {o : Order σ} (hkey : o.key = some key) :
    ((enqueue store policy o s).1 = .ok id ∧ Quiet s (enqueue store policy o s).2) ↔
      s.activeFor o.target = none ∨ policy = .join ∧ s.activeFor o.target = some id := by
  have hfiled := h.filed hF
  have hasking := asking_of_key store (j := o.job (jobId (s.made + 1)) (store.now s.shared))
    (MemoryJobs.keyOf_eq_some.2 ⟨hkey, hF.counts hfiled⟩)
  obtain ⟨stored, u, htaken, hid⟩ :=
    hF.taken (j := o.job (jobId (s.made + 1)) (store.now s.shared)) hfiled hkey
  rw [← hasking] at htaken
  have hc := enqueue_cases store policy o s
  generalize enqueue store policy o s = result at hc ⊢
  cases hc with
  | joins held busy join =>
    rw [busy, Except.ok.injEq, Option.some.injEq]
    exact ⟨fun hheld => .inr ⟨join, hheld.1⟩,
      fun hheld => ⟨(hheld.resolve_left nofun).2, Quiet.refl s⟩⟩
  | refused held busy reject =>
    rw [busy, reject]
    exact iff_of_false (fun hhanded => nomatch hhanded.1) (by simp)
  | fails free f t asked =>
    rw [htaken] at asked
    cases asked
  | hands free stored' t asked =>
    rw [htaken] at asked
    cases asked
    exact iff_of_true ⟨congrArg Except.ok hid, quiet_hands s _ _ stored _⟩ (.inl free)
  | takes free stored' t asked =>
    rw [htaken] at asked
    cases asked

/-- What records in memory tell of keys. -/
def plainFiling : Filing MemoryJobs := MemoryJobs.filing fun m => m

/-- Someone joins: every account has a key of its own, and all have one target. -/
def joining (account : String) (work : Work MemoryJobs) : Order MemoryJobs where
  kind := .onboarding
  target := "onboarding"
  work := work
  key := some ("onboarding:" ++ account)

/-- The job of one account has ended. -/
def joined : JobSystem MemoryJobs :=
  after plain [.enqueue .join (joining "alice" (.done {})), .turn 0] { shared := {} }

/-- The job of one account has ended, and that of another waits at a gate. -/
def joiningNext : JobSystem MemoryJobs :=
  after plain [.enqueue .join (joining "bob" (.await "g" (.done {}))), .turn 0] joined

theorem recorded_joined : Recorded plain plainFiling "onboarding:alice" (jobId 1) joined := by
  have htaken : Recorded plain plainFiling "onboarding:alice" (jobId 1)
      (enqueue plain .join (joining "alice" (.done {})) { shared := {} }).2 := by
    refine .taken (.start {} ?_) .join (joining "alice" (.done {})) ?_ ?_ ?_ ?_ ?_
    · exact MemoryJobs.sound_empty
    · exact fun _ => trivial
    · rfl
    · decide
    · rfl
    · exact fun hquiet => by cases hquiet.announced
  exact htaken.next (.event (.turn 0)) trivial

/-- A new runner over the store hands back the job of the account. -/
theorem hands_back_restarted :
    (enqueue plain .reject (joining "alice" (.done {})) joined.restart).1 = .ok (jobId 1) ∧
      Quiet joined.restart (enqueue plain .reject (joining "alice" (.done {})) joined.restart).2 :=
  (hands_back_iff (MemoryJobs.files_store fun _ _ => rfl)
    (.next recorded_joined .restart trivial) .reject rfl).2 (.inl rfl)

/-- The job of the account was recorded, but another account's is at work for the target: whoever joins
is handed that one, and otherwise is refused. -/
theorem not_hands_back_busy :
    Recorded plain plainFiling "onboarding:alice" (jobId 1) joiningNext ∧
      (enqueue plain .join (joining "alice" (.done {})) joiningNext).1 = .ok (jobId 2) ∧
      (enqueue plain .reject (joining "alice" (.done {})) joiningNext).1 =
        .error (.conflict "onboarding" (jobId 2)) := by
  refine ⟨?_, rfl, rfl⟩
  refine .next (.next recorded_joined
    (.event (.enqueue .join (joining "bob" (.await "g" (.done {}))))) ?_) (.event (.turn 0)) trivial
  exact fun _ _ => trivial

end JobSystem

end Mixtape
