import Mathlib.Logic.Function.Basic
import Mixtape.Jobs.Runner

/-!
# The books of a runner

What a runner keeps is told by three look-ups: the record of a job, whether a job can still be asked
to cancel, and the job at work for a target. Each step that a runner takes changes them at one place.
A task that runs changes the record of its own job until it waits at a gate or the job ends, and when
the job ends nothing is left of it but its record.

## Main definitions

* `JobSystem.books` — the look-ups, and how many ids were given out.
* `JobSystem.Along s₀ s id target P` — since `s₀` only the record of a job was changed.
* `JobSystem.Parks`, `JobSystem.Ends` — a task waits at a gate; a job has ended.

## Main results

* `jobId_injective` — no id is given out twice.
* `ends_finish` — **a job that ends is removed from everything but the records.**
-/

namespace Mixtape

namespace Registry

variable {α : Type}

theorem find?_put (key : String) (value : α) (r : Registry α) :
    (fun k => (r.put key value).find? k) = Function.update (fun k => r.find? k) key (some value) := by
  funext k
  by_cases h : k = key
  · subst h
    rw [find?_put_self, Function.update_self]
  · rw [find?_put_of_ne h, Function.update_of_ne h]

theorem find?_erase (key : String) (r : Registry α) :
    (fun k => (r.erase key).find? k) = Function.update (fun k => r.find? k) key none := by
  funext k
  by_cases h : k = key
  · subst h
    rw [find?_erase_self, Function.update_self]
  · rw [find?_erase_of_ne h, Function.update_of_ne h]

end Registry

namespace JobSystem

variable {σ : Type} {store : JobStore σ} {s s₀ : JobSystem σ} {r : Nat} {id target : String} {j : Job}

/-- No id is given out twice. -/
theorem jobId_injective {m n : Nat} (h : jobId m = jobId n) : m = n := by
  have htext : toString m = toString n := (String.append_right_inj _).1 h
  have hdigits : Nat.toDigits 10 m = Nat.toDigits 10 n := by
    simpa [Nat.repr] using congrArg String.toList htext
  have hvalue := congrArg (Nat.ofDigitChars 10 · 0) hdigits
  simpa using hvalue

/-- A runner's record of a job. -/
def record (s : JobSystem σ) (r : Nat) (id : String) : Option Job := (s.runner r).jobs.find? id

/-- Progress is told of a job that has not ended, and taken into its record. -/
theorem progress_of_live (hj : s.record r id = some j) (hlive : j.status.isTerminal = false)
    (p : Progress) : s.progress r id p = (s.updateRunner r fun n =>
      { n with jobs := n.jobs.put id (j.withProgress p) }).announce (j.withProgress p) := by
  unfold JobSystem.progress
  change (s.runner r).jobs.find? id = some j at hj
  rw [hj]
  exact if_neg (by simp [hlive])

/-- Progress is not told of other jobs. -/
theorem progress_of_ended (h : ∀ j, s.record r id = some j → j.status.isTerminal = true)
    (p : Progress) : s.progress r id p = s := by
  unfold JobSystem.progress
  change ∀ j, (s.runner r).jobs.find? id = some j → _ at h
  split
  · rfl
  · exact if_pos (h _ ‹_›)

theorem step_of_record (hj : s.record r id = some j) (g : Job → Timestamp → Job) :
    s.step store r id g = s.transition store r (g j (store.now s.shared)) := by
  unfold JobSystem.step
  change (s.runner r).jobs.find? id = some j at hj
  rw [hj]

/-- What a runner can be asked, and the number of ids given out. -/
structure Books where
  /-- The record of a job. -/
  recorded : String → Option Job
  /-- Whether a job can be asked to cancel. -/
  isHeard : String → Bool
  /-- The job at work for a target. -/
  holder : String → Option String
  /-- The number of job ids given out. -/
  made : Nat

/-- The books of the first runner. -/
def books (s : JobSystem σ) : Books where
  recorded id := (s.runner 0).jobs.find? id
  isHeard id := ((s.runner 0).contexts.find? id).isSome
  holder target := (s.runner 0).active.find? target
  made := s.made

/-- There is one runner. -/
def Single (s : JobSystem σ) : Prop := s.runners.length = 1

theorem Single.current (h : s.Single) : s.current = 0 := by
  unfold JobSystem.current
  rw [h]

theorem runner_updateRunner_self {r : Nat} (hr : r < s.runners.length) (f : Runner → Runner) :
    (s.updateRunner r f).runner r = f (s.runner r) := by
  change (s.runners.modify r f).getD r {} = f (s.runners.getD r {})
  rw [List.getD_eq_getElem?_getD, List.getD_eq_getElem?_getD, List.getElem?_modify_eq,
    List.getElem?_eq_getElem hr]
  rfl

theorem runner_updateRunner_of_ne {r r' : Nat} (hr : r ≠ r') (f : Runner → Runner) :
    (s.updateRunner r f).runner r' = s.runner r' := by
  change (s.runners.modify r f).getD r' {} = s.runners.getD r' {}
  rw [List.getD_eq_getElem?_getD, List.getD_eq_getElem?_getD, List.getElem?_modify_ne _ _ hr]

/-- A runner's records change only when they are the ones that are changed. -/
theorem runner_updateRunner_cases (s : JobSystem σ) (r r' : Nat) (f : Runner → Runner) :
    (s.updateRunner r f).runner r' = s.runner r' ∨
      r = r' ∧ (s.updateRunner r f).runner r' = f (s.runner r') := by
  by_cases hr : r = r'
  · subst hr
    by_cases hlen : r < s.runners.length
    · exact .inr ⟨rfl, runner_updateRunner_self hlen f⟩
    · refine .inl ?_
      change (s.runners.modify r f).getD r {} = s.runners.getD r {}
      rw [List.modify_eq_self (Nat.le_of_not_lt hlen)]
  · exact .inl (runner_updateRunner_of_ne hr f)

theorem runner_updateRunner (h : s.Single) (f : Runner → Runner) :
    (s.updateRunner 0 f).runner 0 = f (s.runner 0) :=
  runner_updateRunner_self (h ▸ Nat.one_pos) f

theorem Single.updateRunner (h : s.Single) (f : Runner → Runner) : (s.updateRunner 0 f).Single :=
  (List.length_modify ..).trans h

/-! ### One step -/

theorem Single.transition (h : s.Single) (j : Job) : (s.transition store 0 j).Single :=
  h.updateRunner _

/-- A changed record is put in the place of the one before. -/
theorem books_transition (h : s.Single) (j : Job) : (s.transition store 0 j).books =
    { s.books with recorded := Function.update s.books.recorded j.id (some j) } := by
  have hrunner : (s.transition store 0 j).runner 0 =
      { s.runner 0 with jobs := (s.runner 0).jobs.put j.id j } := runner_updateRunner h _
  unfold books
  rw [hrunner]
  exact congrArg (Books.mk · _ _ _) (Registry.find?_put j.id j (s.runner 0).jobs)

/-- A job that has ended is removed from everything but the records. -/
theorem books_cleanUp (h : s.Single) (hj : s.books.recorded id = some j)
    (hheld : s.books.holder j.target = some id) : (s.cleanUp 0 id).books =
      { s.books with
        isHeard := Function.update s.books.isHeard id false
        holder := Function.update s.books.holder j.target none } := by
  change (s.runner 0).jobs.find? id = some j at hj
  change (s.runner 0).active.find? j.target = some id at hheld
  have hrunner : (s.cleanUp 0 id).runner 0 =
      { s.runner 0 with
        active := (s.runner 0).active.erase j.target
        contexts := (s.runner 0).contexts.erase id
        tasks := (s.runner 0).tasks.erase id } := by
    refine (runner_updateRunner h _).trans ?_
    simp only [hj, Option.map_some, Option.getD_some, hheld, if_true]
  have hheard : (fun i => ((s.runner 0).contexts.erase id |>.find? i).isSome) =
      Function.update s.books.isHeard id false := by
    funext i
    have := congrFun (Registry.find?_erase id (s.runner 0).contexts) i
    rw [this]
    by_cases hi : i = id
    · subst hi
      simp
    · rw [Function.update_of_ne hi, Function.update_of_ne hi]
      rfl
  unfold books
  rw [hrunner]
  exact congrArg₂ (Books.mk _ · · _) hheard (Registry.find?_erase j.target (s.runner 0).active)

theorem Single.cleanUp (h : s.Single) : (s.cleanUp 0 id).Single := h.updateRunner _

theorem books_progressed (id : String) (h : s.Single) (p : Progress) : ((s.updateRunner 0 fun n =>
      { n with jobs := n.jobs.put id (j.withProgress p) }).announce (j.withProgress p)).books =
    { s.books with recorded := Function.update s.books.recorded id (some (j.withProgress p)) } := by
  change (s.updateRunner 0 _).books = _
  unfold books
  rw [runner_updateRunner h]
  exact congrArg (Books.mk · _ _ _) (Registry.find?_put id (j.withProgress p) (s.runner 0).jobs)

theorem blocked_progress (s : JobSystem σ) (id : String) (p : Progress) :
    (s.progress 0 id p).blocked = s.blocked := by
  unfold JobSystem.progress
  split
  · rfl
  · split
    · rfl
    · rfl

/-! ### A task that runs -/

/-- Since `s₀` the record of a job was changed, and nothing else that the books tell. -/
structure Along (s₀ s : JobSystem σ) (id target : String) (P : JobStatus → Prop) : Prop where
  /-- There is one runner. -/
  single : s.Single
  /-- No task became able to go on. -/
  ready : s.ready = s₀.ready
  /-- The other books are as they were. -/
  books : ∃ j : Job, j.id = id ∧ j.target = target ∧ P j.status ∧
    s.books = { s₀.books with recorded := Function.update s₀.books.recorded id (some j) }

/-- A job waits at a gate. -/
structure Parks (s₀ s : JobSystem σ) (id target : String) : Prop
    extends Along s₀ s id target (· = .active) where
  /-- Its task is the last of those that wait. -/
  blocked : ∃ gate work, s.blocked = s₀.blocked ++
    [{ runner := 0, id, begun := true, gate := some gate, work }]

/-- A job has ended. -/
structure Ends (s₀ s : JobSystem σ) (id target : String) : Prop where
  /-- There is one runner. -/
  single : s.Single
  /-- No task became able to go on. -/
  ready : s.ready = s₀.ready
  /-- No task waits at a gate for it. -/
  blocked : s.blocked = s₀.blocked
  /-- Its record stands, and nothing else is left of it. -/
  books : ∃ j : Job, j.id = id ∧ j.target = target ∧ j.status.isTerminal = true ∧
    s.books =
      { s₀.books with
        recorded := Function.update s₀.books.recorded id (some j)
        isHeard := Function.update s₀.books.isHeard id false
        holder := Function.update s₀.books.holder target none }

namespace Along

variable {P : JobStatus → Prop} {i : String}

/-- The record of the job. -/
theorem recorded_self (h : Along s₀ s id target P) :
    ∃ j : Job, j.id = id ∧ j.target = target ∧ P j.status ∧ s.books.recorded id = some j := by
  obtain ⟨j, hid, htarget, hP, hbooks⟩ := h.books
  refine ⟨j, hid, htarget, hP, ?_⟩
  rw [hbooks]
  exact Function.update_self ..

/-- The records of other jobs. -/
theorem recorded_of_ne (h : Along s₀ s id target P) (hi : i ≠ id) :
    s.books.recorded i = s₀.books.recorded i := by
  obtain ⟨j, -, -, -, hbooks⟩ := h.books
  rw [hbooks]
  exact Function.update_of_ne hi ..

theorem isHeard_eq (h : Along s₀ s id target P) : s.books.isHeard = s₀.books.isHeard := by
  obtain ⟨j, -, -, -, hbooks⟩ := h.books
  rw [hbooks]

theorem holder_eq (h : Along s₀ s id target P) : s.books.holder = s₀.books.holder := by
  obtain ⟨j, -, -, -, hbooks⟩ := h.books
  rw [hbooks]

theorem made_eq (h : Along s₀ s id target P) : s.books.made = s₀.books.made := by
  obtain ⟨j, -, -, -, hbooks⟩ := h.books
  rw [hbooks]

end Along

namespace Ends

variable {i target' : String}

/-- The record of the job that has ended. -/
theorem recorded_self (h : Ends s₀ s id target) : ∃ j : Job, j.id = id ∧ j.target = target ∧
    j.status.isTerminal = true ∧ s.books.recorded id = some j := by
  obtain ⟨j, hid, htarget, hterminal, hbooks⟩ := h.books
  refine ⟨j, hid, htarget, hterminal, ?_⟩
  rw [hbooks]
  exact Function.update_self ..

/-- The records of other jobs. -/
theorem recorded_of_ne (h : Ends s₀ s id target) (hi : i ≠ id) :
    s.books.recorded i = s₀.books.recorded i := by
  obtain ⟨j, -, -, -, hbooks⟩ := h.books
  rw [hbooks]
  exact Function.update_of_ne hi ..

theorem isHeard_self (h : Ends s₀ s id target) : s.books.isHeard id = false := by
  obtain ⟨j, -, -, -, hbooks⟩ := h.books
  rw [hbooks]
  exact Function.update_self ..

theorem isHeard_of_ne (h : Ends s₀ s id target) (hi : i ≠ id) :
    s.books.isHeard i = s₀.books.isHeard i := by
  obtain ⟨j, -, -, -, hbooks⟩ := h.books
  rw [hbooks]
  exact Function.update_of_ne hi ..

theorem holder_self (h : Ends s₀ s id target) : s.books.holder target = none := by
  obtain ⟨j, -, -, -, hbooks⟩ := h.books
  rw [hbooks]
  exact Function.update_self ..

theorem holder_of_ne (h : Ends s₀ s id target) (hne : target' ≠ target) :
    s.books.holder target' = s₀.books.holder target' := by
  obtain ⟨j, -, -, -, hbooks⟩ := h.books
  rw [hbooks]
  exact Function.update_of_ne hne ..

theorem made_eq (h : Ends s₀ s id target) : s.books.made = s₀.books.made := by
  obtain ⟨j, -, -, -, hbooks⟩ := h.books
  rw [hbooks]

end Ends

/-- A step of the job's life, from a record to the next. -/
theorem Along.transition (store : JobStore σ) {P Q : JobStatus → Prop} (h : Along s₀ s id target P)
    {j : Job}
    (hid : j.id = id) (htarget : j.target = target) (hQ : Q j.status) :
    Along s₀ (s.transition store 0 j) id target Q where
  single := h.single.transition j
  ready := h.ready
  books := by
    obtain ⟨j₀, -, -, -, hbooks⟩ := h.books
    refine ⟨j, hid, htarget, hQ, ?_⟩
    rw [books_transition h.single, hbooks, hid]
    simp only [Function.update_idem]

/-- The steps that end a job's life. -/
structure EndsLife (f : Job → Timestamp → Job) : Prop where
  /-- The id stays. -/
  id : ∀ j now, (f j now).id = j.id
  /-- The target stays. -/
  target : ∀ j now, (f j now).target = j.target
  /-- The job has ended. -/
  isTerminal : ∀ j now, (f j now).status.isTerminal = true

theorem endsLife_complete (r : ResultRecord) : EndsLife fun j now => j.complete r now :=
  ⟨fun _ _ => rfl, fun _ _ => rfl, fun _ _ => rfl⟩

theorem endsLife_failing (f : Failure) : EndsLife (failing f) := by
  cases f <;> exact ⟨fun _ _ => rfl, fun _ _ => rfl, fun _ _ => rfl⟩

/-- **A job that ends is removed from everything but the records.** -/
theorem ends_finish {P : JobStatus → Prop} (h : Along s₀ s id target P)
    (hblocked : s.blocked = s₀.blocked) (hheld : s₀.books.holder target = some id)
    {f : Job → Timestamp → Job} (hf : EndsLife f) : Ends s₀ (s.finish store 0 id f) id target := by
  obtain ⟨j, hid, htarget, -, hj⟩ := h.recorded_self
  unfold finish
  rw [step_of_record (r := 0) hj]
  have hnext := h.transition store (j := f j (store.now s.shared))
    (Q := (·.isTerminal = true)) ((hf.id _ _).trans hid) ((hf.target _ _).trans htarget)
    (hf.isTerminal _ _)
  obtain ⟨j', hid', htarget', hterminal, hbooks⟩ := hnext.books
  refine ⟨hnext.single.cleanUp, hnext.ready, hblocked, j', hid', htarget', hterminal, ?_⟩
  rw [books_cleanUp hnext.single (j := j') (by rw [hbooks]; exact Function.update_self ..)
    (by rw [hbooks, htarget']; exact hheld), hbooks, htarget']

theorem Along.progress (h : Along s₀ s id target (· = .active)) (p : Progress) :
    Along s₀ (s.progress 0 id p) id target (· = .active) := by
  obtain ⟨j, hid, htarget, hactive, hj⟩ := h.recorded_self
  obtain ⟨j₀, -, -, -, hbooks⟩ := h.books
  rw [progress_of_live (r := 0) hj (by rw [hactive]; rfl)]
  refine ⟨h.single.updateRunner _, h.ready, j.withProgress p, hid, htarget, hactive, ?_⟩
  rw [books_progressed id h.single, hbooks]
  simp only [Function.update_idem]

theorem Along.congr {P : JobStatus → Prop} (h : Along s₀ s id target P) {s' : JobSystem σ}
    (hrunners : s'.runners = s.runners) (hmade : s'.made = s.made) (hready : s'.ready = s.ready) :
    Along s₀ s' id target P where
  single := by
    unfold Single
    rw [hrunners]
    exact h.single
  ready := hready.trans h.ready
  books := by
    have hbooks : s'.books = s.books := by
      unfold JobSystem.books JobSystem.runner
      rw [hrunners, hmade]
    rw [hbooks]
    exact h.books

end JobSystem

end Mixtape
