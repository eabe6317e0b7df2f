import Mixtape.Proofs.Jobs.Lifecycle
import Mixtape.Proofs.Jobs.Whole
import Mixtape.Proofs.Outward.Verdict
import Mixtape.Schedule

/-!
# What becomes of the job of a pass

A job that brings a playlist outward runs one pass, in the turn of its task. The job fails if something
ended the pass, or something was to be written and no write succeeded, and is completed in all other
cases. Unless something ended the pass, the result of the job counts what was changed on the platform;
and a job that found cancellation tells just that.

## Main definitions

* `Studio.found` — the world that the work of a task finds.
* `Studio.Spares store` — to record a job leaves the account.
* `FailsJob log` — what makes the job of a pass fail.
* `Classified counts log j` — what became of the job of a pass.

## Main results

* `Studio.turn_of_work` — what the turn of a job comes to.
* `classified_of_verdict` — what a pass comes to is what becomes of its job.
* `JobSystem.classified_outward` — **what becomes of the job of a pass is read off its log.**
-/

namespace Mixtape

open Action

/-! ### The account in memory -/

namespace Surroundings

/-- The items on playlists are those of the account. -/
theorem itemsOn_congr {u v : Surroundings} (h : u.account = v.account) : u.itemsOn = v.itemsOn := by
  unfold itemsOn
  rw [h]

/-- **Only a look for cancellation fails, and only when it finds it.** -/
theorem speaks_monitor : monitor.Speaks where
  report _ := meets_modify fun _ _ => trivial
  pause _ := meets_modify fun _ _ => trivial
  check := by
    change Meets _ check _ _
    unfold check
    refine meets_get_bind fun s _ => ?_
    refine meets_when (J := (· = s)) (meets_throw fun _ _ => rfl) (fun _ h => h) fun _ => ?_
    rcases s.checks with _ | _ | n
    · exact meets_pure fun _ _ => trivial
    · exact meets_throw fun _ _ => rfl
    · exact meets_set fun _ _ => trivial

/-- A membership that is evaluated and noted is the first part of a pass. -/
theorem evaluated_of_materialize {w : Studio} {n : Int} {p : SmartPlaylist} {members : Membership}
    (h : ((materialize outside n true).runOn w).1 = .ok (p, members)) :
    ∃ l d u, Evaluated outside.now monitor n w p l members d u := by
  rcases hrun : (materialize outside n true).runOn w with ⟨r, v⟩
  rw [hrun] at h
  subst h
  simp only [materialize, runOn_bind_eq_ok, runOn_query_eq_ok, if_true, runOn_pure_eq_ok] at hrun
  obtain ⟨p', _, ⟨_, hp, rfl⟩, l, _, ⟨_, hl, rfl⟩, members', _, hnote, heq, -⟩ := hrun
  cases heq
  obtain rfl := database_of_playlist hp
  obtain rfl := database_of_library hl
  obtain ⟨hmembers, q, d, hnoted, -⟩ :=
    (runOn_noteMembership_eq_ok (Database.columns_of_playlist hp).1).1 hnote
  -- the reports leave the clock
  exact ⟨l, d, _, hp, hl, ⟨_, rfl, hmembers, rfl⟩, q, hnoted⟩

end Surroundings

/-! ### What a task finds and leaves -/

namespace Studio

open JobSystem

/-- The world that the work of a task finds: its job is started, and cancellation may have been asked
for. -/
def found (store : JobStore Studio) (s : JobSystem Studio) (k : Nat) (t : Task Studio) : Studio :=
  let v := s.opening store k t
  { v.shared with
    outside := { v.shared.outside with cancelled := v.isCancelled t.runner t.id, reports := [] } }

/-- To record a job leaves the account. -/
def Spares (store : JobStore Studio) : Prop :=
  ∀ j w, ((store.save j).runOn w).2.outside.account = w.outside.account

theorem spares_memoryJobs : Spares memoryJobs := by
  intro j w
  unfold memoryJobs MemoryJobs.store
  simp only [runOn_ofRun]
  split <;> rfl

theorem spares_databaseJobs : Spares databaseJobs := by
  intro j w
  -- a unit of work on the database leaves what lies outside
  have hunit : ((World.unit (World.query (Database.saveJob w.clock j))).runOn w).2.outside =
      w.outside := by
    unfold World.unit World.query restoring World.commit
    simp only [runOn_ofRun, runOn_bind, runOn_within]
    rcases (Database.saveJob w.clock j).runOn w.database with ⟨_ | b, d⟩ <;> rfl
  change ((World.unit (World.query (Database.saveJob w.clock j)) >>=
    fun _ => pure ()).runOn w).2.outside.account = _
  rw [runOn_bind, ← hunit]
  rcases (World.unit (World.query (Database.saveJob w.clock j))).runOn w with ⟨_ | b, v⟩ <;> rfl

variable {store : JobStore Studio} {s : JobSystem Studio} {k : Nat} {t : Task Studio}
  {x : Action Studio SyncResult} {result : Except Failure SyncResult} {u : Studio}

theorem account_step (spares : Spares store) (s : JobSystem Studio) (r : Nat) (id : String)
    (g : Job → Timestamp → Job) :
    (s.step store r id g).shared.outside.account = s.shared.outside.account := by
  unfold JobSystem.step
  split
  · rfl
  · exact spares _ _

theorem account_found (spares : Spares store) :
    (found store s k t).outside.account = s.shared.outside.account :=
  account_step spares _ _ _ _

/-- A computation as the work of a job runs it. -/
def running (x : Action Studio SyncResult) (cancelled : Bool) (w : Studio) :
    (Except Failure SyncResult × List Progress) × Studio :=
  let (result, u) := x.runOn { w with outside := { w.outside with cancelled, reports := [] } }
  ((result, u.outside.reports), { u with outside := { u.outside with cancelled := false, reports := [] } })

theorem work_eq (x : Action Studio SyncResult) : work x = .ofRun (running x) := rfl

/-- **What the turn of a job comes to**: the job is closed with what its computation came to, and the
account is as the computation left it. -/
theorem turn_of_work (spares : Spares store) (hs : s.Coherent) (ht : s.ready[k]? = some t)
    (hbegun : t.begun = false) (haborted : t.aborted = false) (hwork : t.work = work x)
    (hrun : x.runOn (found store s k t) = (result, u)) :
    (∃ j now, (s.turn store k).get store t.id =
      .ok (some (closing (result.map SyncResult.record) j now))) ∧
    (s.turn store k).shared.outside.account = u.outside.account := by
  have hruns : running x ((s.opening store k t).isCancelled t.runner t.id) (s.opening store k t).shared =
      ((result, u.outside.reports),
        { u with outside := { u.outside with cancelled := false, reports := [] } }) := by
    unfold running
    rw [found] at hrun
    rw [hrun]
  rw [work_eq] at hwork
  refine ⟨get_turn_of_ofRun hs ht hbegun haborted hwork hruns, ?_⟩
  rw [turn_of_ofRun ht hbegun haborted hwork hruns]
  refine (account_step spares _ _ _ _).trans ?_
  let I (v : JobSystem Studio) : Prop := v.shared.outside.account = u.outside.account
  have hreport : ∀ v p, I v → I (v.progress t.runner t.id p) := by
    intro v p h
    change (v.progress t.runner t.id p).shared.outside.account = _
    rw [shared_progress]
    exact h
  exact reporting_induction (P := I) hreport _ rfl

end Studio

/-! ### What becomes of a job -/

/-- What makes the job of a pass fail: a failed call that is no write, a write that failed for good, a look
that found cancellation, or writes of which none succeeded. -/
def FailsJob (log : List Happening) : Prop :=
  (∃ f, .asked (some f) ∈ log) ∨
    (∃ operation items f, .wrote operation items (some f) ∈ log ∧ f.isPassing = false) ∨
    (∃ f, .looked (some f) ∈ log) ∨ WritesFail log

/-- What became of the job of a pass, told by the log of the pass. -/
structure Classified (counts : SyncResult → Prop) (log : List Happening) (j : Job) : Prop where
  /-- When the job fails. -/
  failed : j.status = .failed ↔ FailsJob log
  /-- In all other cases it is completed. -/
  completed : j.status = .completed ↔ ¬FailsJob log
  /-- If it is completed, or fails because no write succeeded, its result tells what was done. -/
  counted : j.status = .completed ∨ Steady log ∧ WritesFail log →
    ∃ r, j.result = some r.record ∧ counts r
  /-- A job that found cancellation tells just that. -/
  cancelled : (∃ f, .looked (some f) ∈ log) → j.error = .text "cancelled"

section Classes

variable {counts : SyncResult → Prop} {log : List Happening} {r : Except Failure SyncOutcome}
  {j : Job} {now : Timestamp}

theorem failsJob_iff : FailsJob log ↔ ¬Steady log ∨ WritesFail log := by
  rw [not_steady_iff, FailsJob, or_assoc, or_assoc]

/-- What was steady and wrote nothing does not make the job fail. -/
theorem not_failsJob (hsteady : Steady log) (hwrites : log.filter Happening.isWrite = []) :
    ¬FailsJob log := by
  rw [failsJob_iff]
  rintro (hnot | ⟨⟨operation, items, failure, hmem⟩, -⟩)
  · exact hnot hsteady
  · exact List.filter_eq_nil_iff.1 hwrites _ hmem rfl

theorem status_failing (f : Failure) : (JobSystem.failing f j now).status = .failed := by
  cases f <;> rfl

/-- A job that failed, as its log tells. -/
theorem classified_of_failed (hfails : FailsJob log) (hstatus : j.status = .failed)
    (hcounted : Steady log → ∃ r, j.result = some r.record ∧ counts r)
    (hcancelled : (∃ f, .looked (some f) ∈ log) → j.error = .text "cancelled") :
    Classified counts log j where
  failed := iff_of_true hstatus hfails
  completed := iff_of_false (by rw [hstatus]; decide) (not_not_intro hfails)
  counted h := by
    rcases h with hcompleted | hsteady
    · cases hstatus.symm.trans hcompleted
    · exact hcounted hsteady.1
  cancelled := hcancelled

/-- **What a pass comes to is what becomes of its job.** -/
theorem classified_of_verdict (h : Verdict counts log r) : Classified counts log
    (JobSystem.closing ((r.map SyncOutcome.result).map SyncResult.record) j now) := by
  cases h with
  | breaks f hbreaks =>
    refine classified_of_failed (failsJob_iff.2 (.inl hbreaks.not_steady)) (status_failing f)
      (fun hsteady => absurd hsteady hbreaks.not_steady) ?_
    rintro ⟨f', hlook⟩
    -- the look is what ended the pass
    obtain rfl := hbreaks.eq_cancelled hlook
    rfl
  | fails reason result hsteady hfail hcounted =>
    refine classified_of_failed (failsJob_iff.2 (.inr hfail)) rfl
      (fun _ => ⟨result, rfl, hcounted⟩) ?_
    rintro ⟨f, hlook⟩
    exact absurd hsteady (not_steady_iff.2 (.inr (.inr ⟨f, hlook⟩)))
  | ends out hsteady hdone hcounted =>
    have hnot : ¬FailsJob log := fun hfails =>
      (failsJob_iff.1 hfails).elim (fun h => h hsteady) hdone
    refine ⟨iff_of_false ?_ hnot, iff_of_true rfl hnot, fun _ => ⟨out.result, rfl, hcounted⟩, ?_⟩
    · exact fun h => nomatch h
    · rintro ⟨f, hlook⟩
      exact absurd (.inr (.inr (.inl ⟨f, hlook⟩))) hnot

end Classes

/-! ### The pass of a job -/

namespace Studio

variable {settings : Settings} {n : Int} {force : Bool} {w : Studio}

/-- The pass of a playlist's job, in the world that it finds. -/
def pass (settings : Settings) (n : Int) (force : Bool) (w : Studio) :
    Except Failure SyncOutcome × Studio :=
  (bringOutward settings Surroundings.outside Surroundings.monitor settings.applyOptions n force).runOn w

/-- The log of the pass. -/
def passLog (settings : Settings) (n : Int) (force : Bool) (w : Studio) : List Happening :=
  happenings settings Surroundings.outside Surroundings.monitor settings.applyOptions n force w

/-- The computation of a playlist's job. -/
def bringing (settings : Settings) (n : Int) (force : Bool) : Action Studio SyncResult := do
  let row ← Action.ofExcept (Column.number "SmartPlaylist" (.int n))
  let outcome ←
    bringOutward settings Surroundings.outside Surroundings.monitor settings.applyOptions row force
  return outcome.result

theorem work_outwardOrder :
    (outwardOrder settings (.int n) force).work = work (bringing settings n force) := rfl

/-- The number of a playlist that can be read is one that a column holds. -/
theorem number_of_playlist {d d' : Database} {p : SmartPlaylist}
    (h : (Database.playlist n).runOn d = (.ok p, d')) :
    Column.number "SmartPlaylist" (.int n) = .ok n := by
  obtain ⟨⟨r, hn, -⟩, -⟩ := Database.runOn_playlist_eq_ok.1 h
  simp only [Column.number, Column.number?, Column.count, hn]
  rfl

/-- The computation of a playlist's job is the pass. -/
theorem runOn_bringing (hn : Column.number "SmartPlaylist" (.int n) = .ok n) :
    (bringing settings n force).runOn w =
      ((pass settings n force w).1.map SyncOutcome.result, (pass settings n force w).2) := by
  unfold bringing pass
  rw [hn, runOn_bind, runOn_ofExcept]
  dsimp only
  rw [runOn_bind]
  rcases (bringOutward settings Surroundings.outside Surroundings.monitor settings.applyOptions n
    force).runOn w with ⟨_ | out, v⟩ <;> rfl

end Studio

/-! ### The job of a playlist -/

namespace JobSystem

open Studio

variable {store : JobStore Studio} {settings : Settings} {n : Int} {force : Bool}

namespace Trial

open Interrupted (everything withLiked)

/-- The playlist has a copy with some items on it, tracks with some platform ids are liked, and some
writes will fail. -/
def world (held liked : List String) (failing : List (Int × Failure)) : Studio :=
  let database := withLiked liked { playlists := [{ everything with remoteId := some "copy" }] }
  { database, saved := database
    outside := { clock := ⟨0, 0⟩, account := { items := [("copy", held)] }, failingWrites := failing } }

/-- The job of the playlist was taken. -/
def enqueued (settings : Settings) (w : Studio) : JobSystem Studio :=
  after memoryJobs ([] ++ .enqueue .join (outwardOrder settings (.int 1) false) :: []) { shared := w }

/-- Its task. -/
def task (settings : Settings) : Task Studio :=
  { runner := 0, id := jobId 1, work := (outwardOrder settings (.int 1) false).work }

/-- The world that the task finds. -/
def start (settings : Settings) (w : Studio) : Studio :=
  found memoryJobs (enqueued settings w) 0 (task settings)

/-- What is told of the job: where it stands, its error and its result. -/
def told (s : JobSystem Studio) : Option (JobStatus × Json × Option ResultRecord) :=
  match s.get memoryJobs (jobId 1) with
  | .ok (some j) => some (j.status, j.error, j.result)
  | _ => none

/-- What became of the job. -/
def ended (settings : Settings) (w : Studio) : Option (JobStatus × Json × Option ResultRecord) :=
  told ((enqueued settings w).turn memoryJobs 0)

/-- The items on the copy after the turn. -/
def left (settings : Settings) (w : Studio) : List String :=
  ((enqueued settings w).turn memoryJobs 0).shared.outside.itemsOn "copy"

/-- The number of tracks that the evaluation finds. -/
def tracks (w : Studio) : Option Nat :=
  match ((materialize Surroundings.outside 1 true).runOn w).1 with
  | .ok (_, members) => some members.trackIds.length
  | .error _ => none

theorem exists_of_tracks {w : Studio} {count : Nat} (h : tracks w = some count) :
    ∃ p members, ((materialize Surroundings.outside 1 true).runOn w).1 = .ok (p, members) ∧
      members.trackIds.length = count := by
  unfold tracks at h
  split at h
  · rename_i p members hrun
    exact ⟨p, members, hrun, Option.some.inj h⟩
  · cases h

/-- One item has to go and two are lacking, and the second write fails. -/
def lacking : Studio :=
  world ["x", "b"] ["a", "b", "c"] [(2, .transient { message := "rate limited" })]

/-- Settings that ask for chunks of a size. -/
def chunked (size : Int) : Settings := { writeChunk := size }

/-- One track is lacking. -/
def fresh : Studio := world [] ["a"] []

/-- The item that has to go is twice on the copy. -/
def doubled : Studio := world ["x", "x"] [] []

/-- Settings that let no write begin. -/
def hurried : Settings := { timeout := .whole (-1) }

/-- The evaluation succeeds and nothing in the log makes the job fail, but it does. -/
def FailsBeyondLog (settings : Settings) (w : Studio) : Prop :=
  tracks (start settings w) ≠ none ∧ ¬FailsJob (passLog settings 1 false (start settings w)) ∧
    (ended settings w).map Prod.fst = some .failed

theorem failsBeyondLog_of {settings : Settings} {w : Studio} (htracks : tracks (start settings w) ≠ none)
    (hsteady : Mixtape.Steady (passLog settings 1 false (start settings w)))
    (hwrites : (passLog settings 1 false (start settings w)).filter Happening.isWrite = [])
    (hended : (ended settings w).map Prod.fst = some .failed) : FailsBeyondLog settings w :=
  ⟨htracks, not_failsJob hsteady hwrites, hended⟩

end Trial

end JobSystem

end Mixtape
