import Mixtape.Proofs.Jobs.Exclusion
import Mixtape.Proofs.Jobs.Release
import Mixtape.Proofs.Jobs.Running

/-!
# The life of a job as it is heard

Whoever listens to a runner from before a job is enqueued hears of its life in order: the job waits, then
it is at work, then it tells any number of times how far it has come, and then it has ended, once, with
the result of its work or with a failure. What is heard stops at some point of this, and what was heard
last is the runner's record of the job. After the end nothing more is heard of the job, and its record
stays as it is, whatever is asked of the runner and whatever the store does.

What carries this through a run of the job's task is one property: since the run began, nothing was
announced but records of this job, and the last of them is the runner's record.

## Main definitions

* `JobSystem.Life` — what is heard of a job, and what its work came to.
* `JobSystem.heard s₀ s id` — what a listener hears of a job from `s₀` to `s`.
* `JobSystem.endings store events s` — the jobs whose work ends in events, with what it came to.
* `JobSystem.FromWork` — progress is told of jobs only by their work, which may do so later, too.

## Main results

* `chronicle_apply` — **what one event preserves.**
* `life_of_heard` — **a listener hears of the life of a job in order, and of nothing after its end.**
-/

namespace Mixtape

/-! ### The life of a job -/

/-- The records of a job that waited, was taken to work at a time, and told how far it had come. -/
def Job.course (w : Job) (now : Timestamp) (ps : List Progress) : List Job :=
  w :: w.start now :: ps.map (w.start now).withProgress

/-- The last of these records. -/
def Job.latest (w : Job) (now : Timestamp) (ps : List Progress) : Job :=
  ps.foldl Job.withProgress (w.start now)

namespace Job

variable {w : Job} {now : Timestamp} {ps : List Progress}

theorem withProgress_foldl (j : Job) (ps : List Progress) (p : Progress) :
    (ps.foldl withProgress j).withProgress p = j.withProgress p := by
  induction ps generalizing j with
  | nil => rfl
  | cons q ps ih => exact ih (j.withProgress q)

theorem withProgress_latest (p : Progress) :
    (w.latest now ps).withProgress p = (w.start now).withProgress p := withProgress_foldl ..

theorem latest_append (p : Progress) :
    w.latest now (ps ++ [p]) = (w.start now).withProgress p := by
  unfold latest
  rw [List.foldl_append]
  exact withProgress_foldl ..

/-- The last record is that of the job at work, apart from its progress. -/
theorem latest_eq (w : Job) (now : Timestamp) (ps : List Progress) :
    ∃ p, w.latest now ps = (w.start now).withProgress p := by
  rcases List.eq_nil_or_concat' ps with rfl | ⟨ps, p, rfl⟩
  · exact ⟨w.progress, rfl⟩
  · exact ⟨p, latest_append p⟩

theorem status_latest : (w.latest now ps).status = .active := by
  obtain ⟨p, hp⟩ := latest_eq w now ps
  rw [hp]
  rfl

theorem id_latest : (w.latest now ps).id = w.id := by
  obtain ⟨p, hp⟩ := latest_eq w now ps
  rw [hp]
  rfl

theorem course_append (p : Progress) :
    w.course now (ps ++ [p]) = w.course now ps ++ [(w.latest now ps).withProgress p] := by
  rw [withProgress_latest]
  simp [course]

theorem getLast?_course : (w.course now ps).getLast? = some (w.latest now ps) := by
  rcases List.eq_nil_or_concat' ps with rfl | ⟨ps, p, rfl⟩
  · rfl
  · rw [course_append, List.getLast?_concat, withProgress_latest, latest_append]

end Job

namespace JobSystem

variable {σ : Type} {store : JobStore σ} {s s₀ s' : JobSystem σ} {id : String} {r : Nat}
  {known : List String} {ended : List (String × Except Failure ResultRecord)}

/-- What is heard of a job: how far its life has come, in order. Whether its work has come to an end is
told apart. -/
inductive Life : List Job → List (Except Failure ResultRecord) → Prop
  /-- Nothing is heard. -/
  | unheard : Life [] []
  /-- The job waits. -/
  | waiting {w : Job} (status : w.status = .waiting) : Life [w] []
  /-- The job is at work, and tells how far it has come. -/
  | active {w : Job} (status : w.status = .waiting) (now : Timestamp) (ps : List Progress) :
    Life (w.course now ps) []
  /-- The job has ended, as its work has. -/
  | ended {w : Job} (status : w.status = .waiting) (now : Timestamp) (ps : List Progress)
      (ending : Except Failure ResultRecord) (later : Timestamp) :
    Life (w.course now ps ++ [closing ending (w.latest now ps) later]) [ending]

namespace Life

variable {told told' : List Job} {endings : List (Except Failure ResultRecord)} {j : Job}

theorem endings_of_nil (h : Life [] endings) : endings = [] := by
  cases h with
  | unheard => rfl

/-- Whose record waits, has only been enqueued. -/
theorem of_waiting (h : Life told endings) (hlast : told.getLast? = some j)
    (hstatus : j.status = .waiting) : told = [j] ∧ endings = [] := by
  cases h with
  | unheard => cases hlast
  | waiting hw =>
    obtain rfl := Option.some.inj hlast
    exact ⟨rfl, rfl⟩
  | @active w hw now ps =>
    rw [Job.getLast?_course] at hlast
    obtain rfl := Option.some.inj hlast
    rw [Job.status_latest] at hstatus
    cases hstatus
  | @ended w hw now ps ending later =>
    rw [List.getLast?_concat] at hlast
    obtain rfl := Option.some.inj hlast
    have hterminal := (endsLife_closing ending).isTerminal (w.latest now ps) later
    rw [hstatus] at hterminal
    cases hterminal

/-- Whose record is at work, has been enqueued and taken to work. -/
theorem of_active (h : Life told endings) (hlast : told.getLast? = some j)
    (hstatus : j.status = .active) : endings = [] ∧
      ∃ (w : Job) (now : Timestamp) (ps : List Progress), w.status = .waiting ∧
      told = w.course now ps ∧ j = w.latest now ps := by
  cases h with
  | unheard => cases hlast
  | waiting hw =>
    rw [List.getLast?_singleton] at hlast
    obtain rfl := Option.some.inj hlast
    rw [hstatus] at hw
    cases hw
  | @active w hw now ps =>
    rw [Job.getLast?_course] at hlast
    exact ⟨rfl, w, now, ps, hw, rfl, (Option.some.inj hlast).symm⟩
  | @ended w hw now ps ending later =>
    rw [List.getLast?_concat] at hlast
    obtain rfl := Option.some.inj hlast
    have hterminal := (endsLife_closing ending).isTerminal (w.latest now ps) later
    rw [hstatus] at hterminal
    cases hterminal

/-- No record in the course of a job has ended. -/
theorem not_isTerminal_course {w : Job} (hw : w.status = .waiting) {now : Timestamp}
    {ps : List Progress} (hj : j ∈ w.course now ps) : j.status.isTerminal = false := by
  simp only [Job.course, List.mem_cons, List.mem_map] at hj
  rcases hj with rfl | rfl | ⟨p, -, rfl⟩
  · rw [hw]
    rfl
  · rfl
  · rfl

/-- **After the end nothing more is heard.** -/
theorem eq_of_prefix (h' : Life told' endings) (hle : told <+: told')
    (hj : j ∈ told) (hend : j.status.isTerminal = true) : told' = told := by
  obtain ⟨rest, rfl⟩ := hle
  rcases List.eq_nil_or_concat' rest with rfl | ⟨rest, k, rfl⟩
  · exact List.append_nil _
  -- the record that has ended is not the last one, but only the last one has ended
  exfalso
  have hmem : j ∈ told ++ rest := List.mem_append_left _ hj
  have hlive : ∀ {w : Job} {now : Timestamp} {ps : List Progress}, w.status = .waiting →
      told ++ rest ++ [k] = w.course now ps → False := by
    intro w now ps hw heq
    have := not_isTerminal_course hw (heq ▸ List.mem_append_left _ hmem)
    rw [hend] at this
    cases this
  rw [← List.append_assoc] at h'
  generalize hall : told ++ rest ++ [k] = all at h'
  cases h' with
  | unheard => simp at hall
  | waiting hw =>
    obtain ⟨hnil, -⟩ | ⟨-, hnone⟩ := List.append_eq_singleton_iff.1 hall
    · rw [hnil] at hmem
      cases hmem
    · cases hnone
  | active hw now ps => exact hlive hw hall
  | ended hw now ps ending later =>
    obtain ⟨hcourse, -⟩ := List.append_inj' hall rfl
    have := not_isTerminal_course hw (hcourse ▸ hmem)
    rw [hend] at this
    cases this

end Life

/-! ### What is announced, and what works come to -/

/-- What was announced of a job. -/
def told (s : JobSystem σ) (id : String) : List Job := s.announced.filter (·.id == id)

/-- What a listener hears of a job that listens from `s₀` to `s`. -/
def heard (s₀ s : JobSystem σ) (id : String) : List Job :=
  (s.announced.drop s₀.announced.length).filter (·.id == id)

/-- The job whose work ends in an event, and what it comes to. -/
def Event.ends (store : JobStore σ) (s : JobSystem σ) :
    Event σ → Option (String × Except Failure ResultRecord)
  | .turn n => s.ready[n]?.bind fun t =>
    (t.ending store { s with ready := s.ready.eraseIdx n }).map (t.id, ·)
  | _ => none

/-- The jobs whose work ends in events, and what it comes to, in order. -/
def endings (store : JobStore σ) :
    List (Event σ) → JobSystem σ → List (String × Except Failure ResultRecord)
  | [], _ => []
  | e :: events, s => (e.ends store s).toList ++ endings store events (e.apply store s)

/-- What the work of one job came to. -/
def endingsOf (id : String) (ended : List (String × Except Failure ResultRecord)) :
    List (Except Failure ResultRecord) :=
  (ended.filter (·.1 == id)).map (·.2)

/-- Progress is told of a job only by its work: the job is known to have begun. The work may do so at any
time later, also when it has ended. -/
def FromWork (store : JobStore σ) : List (Event σ) → List String → JobSystem σ → Prop
  | [], _, _ => True
  | e :: events, known, s =>
    (∀ id p, e = .report id p → id ∈ known) ∧
      FromWork store events (known ++ (e.begins s).toList) (e.apply store s)

/-- What was announced of a job is its life, and the last of it the runner's record. -/
structure Chronicle (s : JobSystem σ) (known : List String)
    (ended : List (String × Except Failure ResultRecord)) (id : String) : Prop where
  /-- What was announced is the life of the job. -/
  life : Life (s.told id) (endingsOf id ended)
  /-- The last of it is the runner's record. -/
  record : s.told id ≠ [] → s.record 0 id = (s.told id).getLast?
  /-- The id was given out. -/
  given : s.told id ≠ [] → s.Given id
  /-- A job with a task was announced. -/
  task : ∀ c ∈ s.cores, c.2.1 = id → s.told id ≠ []
  /-- A job whose work has begun was announced twice. -/
  begun : id ∈ known → 2 ≤ (s.told id).length

/-! ### One job is announced -/

/-- Since `s₀` one job was announced, which made its record, and no other job has changed. -/
structure Tells (s₀ s : JobSystem σ) (r : Nat) (id : String) (tale : List Job) : Prop where
  /-- What was announced of the job. -/
  told : s.told id = tale
  /-- The last of it is the runner's record. -/
  record : s.record r id = tale.getLast?
  /-- Nothing was announced of others. -/
  others : ∀ i, i ≠ id → s.told i = s₀.told i
  /-- No other record has changed. -/
  records : ∀ r' i, (r' = r → i ≠ id) → s.record r' i = s₀.record r' i

theorem told_append {j : Job} (h : s'.announced = s.announced ++ [j]) (i : String) :
    s'.told i = s.told i ++ if j.id = i then [j] else [] := by
  unfold told
  rw [h, List.filter_append]
  by_cases hi : j.id = i
  · simp [hi]
  · simp [hi]

theorem told_congr (h : s'.announced = s.announced) (i : String) : s'.told i = s.told i :=
  congrArg (List.filter _) h

theorem Tells.refl {tale : List Job} (htold : s.told id = tale)
    (hrecord : s.record r id = tale.getLast?) : Tells s s r id tale :=
  ⟨htold, hrecord, fun _ _ => rfl, fun _ _ _ => rfl⟩

/-- A record is changed and announced. -/
theorem Tells.announce {tale : List Job} (h : Tells s₀ s r id tale) {j : Job} (hid : j.id = id)
    (hannounced : s'.announced = s.announced ++ [j])
    (hrecord : ∀ r' i, s'.record r' i = if r' = r ∧ i = j.id then some j else s.record r' i) :
    Tells s₀ s' r id (tale ++ [j]) := by
  subst hid
  refine ⟨?_, ?_, fun i hi => ?_, fun r' i hi => ?_⟩
  · rw [told_append hannounced, h.told, if_pos rfl]
  · rw [hrecord, if_pos ⟨rfl, rfl⟩, List.getLast?_concat]
  · rw [told_append hannounced, if_neg (Ne.symm hi), List.append_nil]
    exact h.others i hi
  · rw [hrecord, if_neg fun heq => hi heq.1 heq.2]
    exact h.records r' i hi

theorem Tells.congr {tale : List Job} (h : Tells s₀ s r id tale)
    (hannounced : s'.announced = s.announced) (hrunners : s'.runners = s.runners) :
    Tells s₀ s' r id tale := by
  refine ⟨(told_congr hannounced id).trans h.told, (record_congr hrunners r id).trans h.record, ?_, ?_⟩
  · exact fun i hi => (told_congr hannounced i).trans (h.others i hi)
  · exact fun r' i hi => (record_congr hrunners r' i).trans (h.records r' i hi)

/-- A job at work tells how far it has come. -/
theorem Tells.progress {w : Job} {now : Timestamp} {ps : List Progress} (hid : w.id = id)
    (h : Tells s₀ s r id (w.course now ps)) (p : Progress) :
    Tells s₀ (s.progress r id p) r id (w.course now (ps ++ [p])) := by
  have hrecord : s.record r id = some (w.latest now ps) := h.record.trans Job.getLast?_course
  have hlive : (w.latest now ps).status.isTerminal = false := by
    rw [Job.status_latest]
    rfl
  have hlatest : ((w.latest now ps).withProgress p).id = id := Job.id_latest.trans hid
  rw [progress_of_live hrecord hlive, Job.course_append]
  refine h.announce hlatest rfl fun r' i => ?_
  rw [hlatest]
  exact record_put (lt_of_record hrecord) (fun _ => rfl) r' i

/-- A job whose record is there takes a step of its life. -/
theorem Tells.step (store : JobStore σ) {tale : List Job} {j : Job} (h : Tells s₀ s r id tale)
    (hj : tale.getLast? = some j) {g : Job → Timestamp → Job}
    (hg : (g j (store.now s.shared)).id = id) :
    Tells s₀ (s.step store r id g) r id (tale ++ [g j (store.now s.shared)]) := by
  have hrecord : s.record r id = some j := h.record.trans hj
  rw [step_of_record hrecord]
  exact h.announce hg rfl (record_transition store (lt_of_record hrecord) _)

theorem Tells.finish (store : JobStore σ) {tale : List Job} {j : Job} (h : Tells s₀ s r id tale)
    (hj : tale.getLast? = some j) {g : Job → Timestamp → Job}
    (hg : (g j (store.now s.shared)).id = id) :
    Tells s₀ (s.finish store r id g) r id (tale ++ [g j (store.now s.shared)]) := by
  have hstep := h.step store hj hg
  exact ⟨hstep.told, (record_cleanUp ..).trans hstep.record, hstep.others,
    fun r' i hi => (record_cleanUp ..).trans (hstep.records r' i hi)⟩

/-- While a job is at work, nothing but its progress is told on the way. -/
theorem carried_tells {R : σ → σ → Prop} {w : Job} {now : Timestamp} (hid : w.id = id) :
    Carried R r id fun v => ∃ ps, Tells s₀ v r id (w.course now ps) where
  progress := by
    rintro v p ⟨ps, h⟩
    exact ⟨ps ++ [p], h.progress hid p⟩
  noteGate := by
    rintro v gate ⟨ps, h⟩
    refine ⟨ps, ?_⟩
    unfold JobSystem.noteGate
    split
    · exact h
    · exact h.congr rfl rfl
  write := by
    rintro v t - ⟨ps, h⟩
    exact ⟨ps, h.congr rfl rfl⟩

/-- **What is told when a task goes on**: the life of its job, up to its end if the work ends. -/
theorem tells_turn (store : JobStore σ) {n : Nat} {t : Task σ} (ht : s.ready[n]? = some t)
    {s₀ : JobSystem σ}
    (hs₀ : s₀ = { s with ready := s.ready.eraseIdx n }) {j : Job} {tale : List Job}
    {endings : List (Except Failure ResultRecord)} (hlife : Life tale endings)
    (hfirst : Tells s₀ s₀ t.runner t.id tale) (hlast : tale.getLast? = some j) (hid : j.id = t.id)
    (hstatus : j.status = if t.begun then .active else .waiting) :
    endings = [] ∧ ∃ tale', Tells s₀ (s.turn store n) t.runner t.id tale' ∧
      Life tale' (t.ending store s₀).toList ∧
      (t.begun = false → t.aborted = false → 2 ≤ tale'.length) := by
  -- the job as it waited, and when it was or is taken to work
  obtain ⟨hnone, w, now, hw, hwid, hgoes, hwaits⟩ : endings = [] ∧ ∃ (w : Job) (now : Timestamp),
      w.status = .waiting ∧ w.id = t.id ∧
      (t.begun = true → ∃ ps, Tells s₀ s₀ t.runner t.id (w.course now ps)) ∧
      (t.begun = false → Tells s₀ s₀ t.runner t.id [w] ∧ now = store.now s₀.shared) := by
    cases hbegun : t.begun with
    | true =>
      rw [if_pos hbegun] at hstatus
      obtain ⟨hnone, w, now, ps, hw, rfl, rfl⟩ := hlife.of_active hlast hstatus
      exact ⟨hnone, w, now, hw, Job.id_latest.symm.trans hid, fun _ => ⟨ps, hfirst⟩, nofun⟩
    | false =>
      rw [if_neg (by simp [hbegun])] at hstatus
      obtain ⟨rfl, hnone⟩ := hlife.of_waiting hlast hstatus
      exact ⟨hnone, j, _, hstatus, hid, nofun, fun _ => ⟨hfirst, rfl⟩⟩
  refine ⟨hnone, turn_of (I := fun v => ∃ ps, Tells s₀ v t.runner t.id (w.course now ps))
    (E := fun ending v => ∃ tale', Tells s₀ v t.runner t.id tale' ∧ Life tale' ending.toList ∧
      (t.begun = false → t.aborted = false → 2 ≤ tale'.length))
    ht hs₀ (carried_tells hwid) t.work.within_true hgoes ?_ ?_ ?_ ?_⟩
  · -- the job is taken to work
    intro hbegun _
    obtain ⟨hwaiting, rfl⟩ := hwaits hbegun
    exact ⟨[], hwaiting.step store rfl hwid⟩
  · -- the task is dropped
    intro hbegun haborted
    refine ⟨[w], (hwaits hbegun).1, .waiting hw, fun _ hgo => ?_⟩
    rw [haborted] at hgo
    cases hgo
  · -- the work waits
    rintro v gate next - ⟨ps, hv⟩
    refine ⟨_, hv.congr rfl rfl, .active hw now ps, fun _ _ => ?_⟩
    simp [Job.course]
  · -- the work ends
    rintro v ending ⟨ps, hv⟩
    have hclosed := hv.finish store Job.getLast?_course (g := closing ending)
      (((endsLife_closing ending).id _ _).trans (Job.id_latest.trans hwid))
    refine ⟨_, hclosed, .ended hw now ps ending _, fun _ _ => ?_⟩
    simp [Job.course]

/-! ### What one event preserves -/

/-- What was announced stays announced. -/
theorem announced_apply (store : JobStore σ) (s : JobSystem σ) (e : Event σ) :
    s.announced <+: (e.apply store s).announced := by
  have hcalm : ∀ {v : JobSystem σ}, Calm s v → s.announced <+: v.announced :=
    fun h => h.announced ▸ List.prefix_rfl
  have hprogress : ∀ (v : JobSystem σ) (r : Nat) (id : String) (p : Progress),
      v.announced <+: (v.progress r id p).announced := by
    intro v r id p
    unfold JobSystem.progress
    split
    · exact List.prefix_rfl
    · split
      · exact List.prefix_rfl
      · exact List.prefix_append ..
  have hstep : ∀ (v : JobSystem σ) (r : Nat) (id : String) (g : Job → Timestamp → Job),
      v.announced <+: (v.step store r id g).announced := by
    intro v r id g
    unfold JobSystem.step
    split
    · exact List.prefix_rfl
    · exact List.prefix_append ..
  cases e with
  | enqueue policy o =>
    have hc := enqueue_cases store policy o s
    change s.announced <+: (enqueue store policy o s).2.announced
    generalize enqueue store policy o s = result at hc ⊢
    cases hc with
    | joins held busy join => exact List.prefix_rfl
    | refused held busy reject => exact List.prefix_rfl
    | fails free f t asked => exact List.prefix_rfl
    | hands free stored t asked => exact List.prefix_rfl
    | takes free stored t asked => exact List.prefix_append ..
  | cancel id => exact hcalm (calm_cancel s id _)
  | abort id => exact hcalm (calm_abort s id _)
  | release gate => exact hcalm (calm_release s gate)
  | shutdown => exact hcalm (calm_shutdown s _)
  | report id p => exact hprogress s 0 id p
  | outside shared => exact List.prefix_rfl
  | turn n =>
    change s.announced <+: (s.turn store n).announced
    cases ht : s.ready[n]? with
    | none =>
      have hsame : (s.turn store n).announced = s.announced := congrArg announced (turn_of_none ht)
      exact hsame ▸ List.prefix_rfl
    | some t =>
      refine turn_of (R := fun _ _ => True) (I := fun v => s.announced <+: v.announced)
        (E := fun _ v => s.announced <+: v.announced) ht rfl ?_ t.work.within_true ?_ ?_ ?_ ?_ ?_
      · refine ⟨fun p h => h.trans (hprogress ..), fun {v} gate h => ?_, fun _ h => h⟩
        exact (calm_noteGate v gate).announced ▸ h
      · exact fun _ => List.prefix_rfl
      · exact fun _ _ => hstep { s with ready := s.ready.eraseIdx n } ..
      · exact fun _ _ => List.prefix_rfl
      · exact fun v gate next _ h => h
      · exact fun v ending h => h.trans (hstep ..)

theorem told_apply (store : JobStore σ) (s : JobSystem σ) (e : Event σ) (id : String) :
    s.told id <+: (e.apply store s).told id := (announced_apply store s e).filter _

theorem endingsOf_append (id : String) (ended ended' : List (String × Except Failure ResultRecord)) :
    endingsOf id (ended ++ ended') = endingsOf id ended ++ endingsOf id ended' := by
  simp [endingsOf]

/-- What leaves a job as it is, leaves what is told of it. -/
theorem Chronicle.mono {id : String} (h : Chronicle s known ended id) (htold : s'.told id = s.told id)
    (hrecord : s.told id ≠ [] → s'.record 0 id = s.record 0 id) (hmade : s.made ≤ s'.made)
    (hcores : ∀ c ∈ s'.cores, c.2.1 = id → ∃ d ∈ s.cores, d.2.1 = id)
    {known' : List String} (hknown : id ∈ known' → id ∈ known)
    {ended' : List (String × Except Failure ResultRecord)}
    (hended : endingsOf id ended' = endingsOf id ended) : Chronicle s' known' ended' id where
  life := by
    rw [htold, hended]
    exact h.life
  record hne := by
    rw [htold] at hne ⊢
    exact (hrecord hne).trans (h.record hne)
  given hne := by
    rw [htold] at hne
    obtain ⟨n, hn, hid⟩ := h.given hne
    exact ⟨n, Nat.le_trans hn hmade, hid⟩
  task c hc hid := by
    obtain ⟨d, hd, hdid⟩ := hcores c hc hid
    rw [htold]
    exact h.task d hd hdid
  begun hid := by
    rw [htold]
    exact h.begun (hknown hid)

theorem Chronicle.of_calm (h : Chronicle s known ended id) (hc : Calm s s') :
    Chronicle s' known ended id := by
  refine h.mono (told_congr hc.announced id) (fun _ => hc.record 0 id) hc.made.ge ?_ (fun hid => hid) rfl
  exact fun c hc' hid => ⟨c, hc.cores.mem_iff.1 hc', hid⟩

/-- A job is enqueued, or not: another's life is as it was, and that of the job begins. -/
theorem chronicle_enqueue (hs : s.Coherent) (h : ∀ id, Chronicle s known ended id)
    (policy : ConflictPolicy) (o : Order σ) (id : String) :
    Chronicle (enqueue store policy o s).2 known ended id := by
  -- the system after the store was asked
  have hasked : ∀ (t : σ), Chronicle { s with made := s.made + 1, shared := t } known ended id := by
    intro t
    refine (h id).mono ?_ ?_ ?_ ?_ (fun hid => hid) rfl
    · rfl
    · exact fun _ => rfl
    · exact Nat.le_succ _
    · exact fun c hc hid => ⟨c, hc, hid⟩
  have hc := enqueue_cases store policy o s
  generalize enqueue store policy o s = result at hc ⊢
  cases hc with
  | joins held busy join => exact h id
  | refused held busy reject => exact h id
  | fails free f t asked => exact hasked t
  | hands free stored t asked =>
    refine (hasked t).mono ?_ (fun hne => ?_) ?_ ?_ (fun hid => hid) rfl
    · rfl
    · -- the runner has a record of the job already
      obtain ⟨j, hj⟩ := Option.ne_none_iff_exists'.1 (List.getLast?_eq_none_iff.not.2 hne)
      have hrecord := ((hasked t).record hne).trans hj
      rw [hrecord]
      exact record_putNew hrecord fun _ => rfl
    · exact Nat.le_refl _
    · exact fun c hc hid => ⟨c, hc, hid⟩
  | takes free stored t asked =>
    generalize hj : o.job (jobId (s.made + 1)) (store.now s.shared) = j
    have hid : j.id = jobId (s.made + 1) := hj ▸ rfl
    have hstatus : j.status = .waiting := hj ▸ rfl
    have hnew : ¬s.Given j.id := hid ▸ not_given_next s
    have hlen : s.current < s.runners.length := by
      rw [hs.single.current, hs.single]
      exact Nat.one_pos
    have hannounced : ∀ i, (begin { s with made := s.made + 1, shared := t } j o.work s.current).told i =
        s.told i ++ if j.id = i then [j] else [] := told_append rfl
    have hrecord : ∀ r i,
        (begin { s with made := s.made + 1, shared := t } j o.work s.current).record r i =
        if r = s.current ∧ i = j.id then some j else s.record r i :=
      record_put (s := { s with made := s.made + 1, shared := t }) hlen fun _ => rfl
    have hcores : ∀ c ∈ (begin { s with made := s.made + 1, shared := t } j o.work s.current).cores,
        c.2.1 = j.id ∨ c ∈ s.cores := by
      intro c hc
      rcases List.mem_cons.1 ((cores_begin ..).mem_iff.1 hc) with rfl | hc
      · exact .inl rfl
      · exact .inr hc
    by_cases hi : j.id = id
    · subst hi
      -- nothing was told of the job before
      have hnone : s.told j.id = [] := Classical.byContradiction fun hne => hnew ((h _).given hne)
      have hended : endingsOf j.id ended = [] := (hnone ▸ (h j.id).life).endings_of_nil
      have htold : (begin { s with made := s.made + 1, shared := t } j o.work s.current).told j.id =
          [j] := by
        rw [hannounced, hnone, if_pos rfl]
        rfl
      refine ⟨?_, fun _ => ?_, fun _ => ?_, fun _ _ _ => ?_, fun hknown => ?_⟩
      · rw [htold, hended]
        exact .waiting hstatus
      · rw [htold, hrecord, if_pos ⟨hs.single.current.symm, rfl⟩]
        rfl
      · exact ⟨_, Nat.le_refl _, hid⟩
      · rw [htold]
        exact List.cons_ne_nil j []
      · have := (h j.id).begun hknown
        rw [hnone] at this
        cases this
    · refine (hasked t).mono ?_ (fun _ => ?_) ?_ ?_ (fun hid => hid) rfl
      · exact (hannounced id).trans (by rw [if_neg hi, List.append_nil]; rfl)
      · exact (hrecord 0 id).trans (if_neg fun heq => hi heq.2.symm)
      · exact Nat.le_refl _
      · intro c hc hcid
        exact ⟨c, (hcores c hc).resolve_left fun heq => hi (heq.symm.trans hcid), hcid⟩

/-- What is told of one job leaves the lives of the others. -/
theorem Chronicle.of_tells {i : String} (h : Chronicle s known ended i) {tale : List Job}
    (htells : Tells s s' r id tale) (hi : i ≠ id) (hmade : s.made ≤ s'.made)
    (hcores : ∀ c ∈ s'.cores, c.2.1 = i → ∃ d ∈ s.cores, d.2.1 = i)
    {known' : List String} (hknown : i ∈ known' → i ∈ known)
    {ended' : List (String × Except Failure ResultRecord)}
    (hended : endingsOf i ended' = endingsOf i ended) : Chronicle s' known' ended' i :=
  h.mono (htells.others i hi) (fun _ => htells.records 0 i fun _ => hi) hmade hcores hknown hended

/-- A job whose work has begun tells how far it has come: it is at work, or it has ended and nothing is
told. -/
theorem chronicle_report (hs : s.Coherent) (h : ∀ id, Chronicle s known ended id) {i : String}
    (hi : i ∈ known) (p : Progress) (id : String) :
    Chronicle (s.progress 0 i p) known ended id := by
  by_cases hlive : ∃ j, s.record 0 i = some j ∧ j.status.isTerminal = false
  · obtain ⟨j, hj, hlive⟩ := hlive
    have hbegun := (h i).begun hi
    have hne : s.told i ≠ [] := by
      intro hnil
      rw [hnil] at hbegun
      cases hbegun
    have hlast : (s.told i).getLast? = some j := ((h i).record hne).symm.trans hj
    obtain ⟨hlivetasks, hmade, -⟩ := live_progress s 0 i p
    have hcores : (s.progress 0 i p).cores = s.cores := congrArg (List.map Task.core) hlivetasks
    -- the job is at work
    have hactive : j.status = .active := by
      cases hstatus : j.status with
      | active => rfl
      | waiting =>
        obtain ⟨htold, -⟩ := (h i).life.of_waiting hlast hstatus
        rw [htold] at hbegun
        exact absurd hbegun (by simp)
      | completed =>
        rw [hstatus] at hlive
        cases hlive
      | failed =>
        rw [hstatus] at hlive
        cases hlive
    obtain ⟨hnone, w, now, ps, hw, htold, rfl⟩ := (h i).life.of_active hlast hactive
    have hid : w.id = i := Job.id_latest.symm.trans (hs.keyed i _ hj)
    have htells : Tells s (s.progress 0 i p) 0 i (w.course now (ps ++ [p])) :=
      Tells.progress hid (.refl htold (hj.trans Job.getLast?_course.symm)) p
    by_cases heq : id = i
    · subst heq
      refine ⟨?_, fun _ => ?_, fun _ => ?_, fun _ _ _ => ?_, fun _ => ?_⟩
      · rw [htells.told, hnone]
        exact .active hw now _
      · rw [htells.told]
        exact htells.record
      · obtain ⟨n, hn, hgiven⟩ := (h id).given hne
        exact ⟨n, Nat.le_trans hn hmade.ge, hgiven⟩
      · rw [htells.told]
        exact List.cons_ne_nil w _
      · rw [htells.told]
        simp [Job.course]
    · refine (h id).of_tells htells heq hmade.ge (fun c hc hcid => ?_) (fun hid => hid) rfl
      rw [hcores] at hc
      exact ⟨c, hc, hcid⟩
  · have hself : s.progress 0 i p = s := progress_of_ended (fun j hj => by
      simpa using fun hf => hlive ⟨j, hj, hf⟩) p
    rw [hself]
    exact h id

/-- A task goes on: the life of its job does, and the others are as they were. -/
theorem chronicle_turn (hs : s.Coherent) (h : ∀ id, Chronicle s known ended id) (n : Nat)
    (id : String) : Chronicle (s.turn store n) (known ++ ((Event.turn n).begins s).toList)
      (ended ++ ((Event.turn n).ends store s).toList) id := by
  cases ht : s.ready[n]? with
  | none =>
    simpa [Event.begins, Event.ends, ht, turn_of_none ht] using h id
  | some t =>
    have hlive : t ∈ s.live := mem_live ht
    obtain ⟨hrunner, -, j, hj, -, hstatus⟩ := hs.work _ (mem_cores hlive)
    change t.runner = 0 at hrunner
    change s.record 0 t.id = some j at hj
    have hne := (h t.id).task _ (mem_cores hlive) rfl
    have hlast : (s.told t.id).getLast? = some j := ((h t.id).record hne).symm.trans hj
    -- the system without the task
    generalize hs₀ : { s with ready := s.ready.eraseIdx n } = s₀
    have hfirst : Tells s₀ s₀ t.runner t.id (s.told t.id) := by
      refine .refl ?_ ?_
      · exact hs₀ ▸ rfl
      · rw [hrunner, ← (h t.id).record hne]
        exact hs₀ ▸ rfl
    obtain ⟨hnone, tale, htells, hlife, hacts⟩ :=
      tells_turn store ht hs₀.symm (h t.id).life hfirst hlast (hs.keyed t.id j hj) hstatus
    obtain ⟨left, hleft, hlivetasks, hmade, -⟩ := left_turn store ht hs₀.symm t.work.within_true
    have hcores : ∀ c ∈ (s.turn store n).cores, c.2.1 = t.id ∨ c ∈ s.cores := by
      intro c hc
      obtain ⟨u, hu, rfl⟩ := List.mem_map.1 hc
      rw [hlivetasks, ← hs₀] at hu
      rcases List.mem_append.1 hu with hu | hu
      · exact .inr (mem_cores (mem_live_of_eraseIdx hu))
      · exact .inl (congrArg (·.2.1) (hleft.of_mem hu).1)
    have hbegins : ∀ i, i ∈ ((Event.turn n).begins s).toList →
        i = t.id ∧ t.begun = false ∧ t.aborted = false := by
      intro i hi
      obtain ⟨m, u, hm, hu, rfl, hbegun, haborted⟩ := begins_eq_some (Option.mem_toList.1 hi)
      cases hm
      obtain rfl := Option.some.inj (ht.symm.trans hu)
      exact ⟨rfl, hbegun, haborted⟩
    have hends : ((Event.turn n).ends store s).toList =
        (t.ending store s₀).toList.map (t.id, ·) := by
      unfold Event.ends
      dsimp only
      rw [ht, hs₀, Option.bind_some]
      cases t.ending store s₀ <;> rfl
    have hprefix : s.told t.id <+: tale := htells.told ▸ told_apply store s (.turn n) t.id
    by_cases hi : id = t.id
    · subst hi
      refine ⟨?_, fun _ => ?_, fun _ => ?_, fun _ _ _ => ?_, fun hknown => ?_⟩
      · rw [htells.told, endingsOf_append, hnone, hends]
        simpa [endingsOf, List.filter_map, Function.comp_def] using hlife
      · rw [htells.told, ← htells.record, hrunner]
      · obtain ⟨m, hm, hgiven⟩ := (h t.id).given hne
        exact ⟨m, Nat.le_trans hm hmade.ge, hgiven⟩
      · rw [htells.told]
        intro hnil
        rw [hnil] at hprefix
        exact hne (List.prefix_nil.1 hprefix)
      · rw [htells.told]
        rcases List.mem_append.1 hknown with hknown | hknown
        · exact Nat.le_trans ((h t.id).begun hknown) hprefix.length_le
        · obtain ⟨-, hbegun, haborted⟩ := hbegins _ hknown
          exact hacts hbegun haborted
    · have htells' : Tells s (s.turn store n) t.runner t.id tale :=
        ⟨htells.told, htells.record, fun i hi => (htells.others i hi).trans (hs₀ ▸ rfl),
          fun r i hi => (htells.records r i hi).trans (hs₀ ▸ rfl)⟩
      refine (h id).of_tells htells' hi hmade.ge (fun c hc hcid => ?_) (fun hknown => ?_) ?_
      · exact ⟨c, (hcores c hc).resolve_left fun heq => hi (hcid.symm.trans heq), hcid⟩
      · exact (List.mem_append.1 hknown).resolve_right fun hmem => hi (hbegins _ hmem).1
      · rw [endingsOf_append, hends]
        simp [endingsOf, List.filter_map, Function.comp_def, Ne.symm hi]

/-- **What one event preserves.** -/
theorem chronicle_apply (store : JobStore σ) (hs : s.Coherent) (h : ∀ id, Chronicle s known ended id)
    {e : Event σ} (hreport : ∀ id p, e = .report id p → id ∈ known) (id : String) :
    Chronicle (e.apply store s) (known ++ (e.begins s).toList) (ended ++ (e.ends store s).toList)
      id := by
  -- no work begins or ends but in a turn
  have hquiet : ∀ {v : JobSystem σ}, Chronicle v known ended id → e.begins s = none →
      e.ends store s = none → Chronicle v (known ++ (e.begins s).toList)
        (ended ++ (e.ends store s).toList) id := by
    intro v hv hbegins hends
    rw [hbegins, hends]
    simpa using hv
  cases e with
  | turn n => exact chronicle_turn hs h n id
  | enqueue policy o => exact hquiet (chronicle_enqueue hs h policy o id) rfl rfl
  | cancel i => exact hquiet ((h id).of_calm (calm_cancel s i _)) rfl rfl
  | abort i => exact hquiet ((h id).of_calm (calm_abort s i _)) rfl rfl
  | release gate => exact hquiet ((h id).of_calm (calm_release s gate)) rfl rfl
  | shutdown => exact hquiet ((h id).of_calm (calm_shutdown s _)) rfl rfl
  | report i p => exact hquiet (chronicle_report hs h (hreport i p rfl) p id) rfl rfl
  | outside shared =>
    refine hquiet ((h id).mono ?_ ?_ ?_ ?_ (fun hid => hid) rfl) rfl rfl
    · rfl
    · exact fun _ => rfl
    · exact Nat.le_refl _
    · exact fun c hc hid => ⟨c, hc, hid⟩

/-! ### Runs -/

theorem after_append (store : JobStore σ) (events later : List (Event σ)) (s : JobSystem σ) :
    s.after store (events ++ later) = (s.after store events).after store later :=
  List.foldl_append ..

theorem begun_append (store : JobStore σ) (events later : List (Event σ)) (s : JobSystem σ) :
    begun store (events ++ later) s =
      begun store events s ++ begun store later (s.after store events) := by
  induction events generalizing s with
  | nil => rfl
  | cons e events ih =>
    simp only [List.cons_append, begun, ih, List.append_assoc]
    rfl

theorem fromWork_append {events later : List (Event σ)} :
    FromWork store (events ++ later) known s ↔ FromWork store events known s ∧
      FromWork store later (known ++ begun store events s) (s.after store events) := by
  induction events generalizing known s with
  | nil => simp [FromWork, begun, after]
  | cons e events ih =>
    have hrest : FromWork store (events ++ later) (known ++ (e.begins s).toList) (e.apply store s) ↔ _ :=
      ih
    simp only [List.cons_append, FromWork, begun, hrest, ← List.append_assoc, and_assoc]
    rfl

/-- **After all events the life of a job is as it was told.** -/
theorem chronicle_after (store : JobStore σ) {events : List (Event σ)} (hs : s.Coherent)
    (h : ∀ id, Chronicle s known ended id) (hwork : FromWork store events known s) (id : String) :
    Chronicle (s.after store events) (known ++ begun store events s)
      (ended ++ endings store events s) id := by
  induction events generalizing s known ended with
  | nil => simpa [begun, endings, after] using h id
  | cons e events ih =>
    obtain ⟨hfirst, hrest⟩ := hwork
    have hs' := coherent_of_change hs (change_apply store hs e)
    have := ih hs' (chronicle_apply store hs h hfirst) hrest
    rw [List.append_assoc, List.append_assoc] at this
    exact this

theorem announced_after (store : JobStore σ) (events : List (Event σ)) (s : JobSystem σ) :
    s.announced <+: (s.after store events).announced := by
  induction events generalizing s with
  | nil => exact List.prefix_rfl
  | cons e events ih => exact (announced_apply store s e).trans (ih _)

/-- What a listener hears of a job of which nothing was told before. -/
theorem heard_eq_told (h : s₀.announced <+: s.announced) (hnone : s₀.told id = []) :
    heard s₀ s id = s.told id := by
  obtain ⟨rest, hrest⟩ := h
  unfold heard told at *
  rw [← hrest, List.drop_left, List.filter_append, hnone, List.nil_append]

/-- **A listener hears of the life of a job in order**: that it waits, that it is at work, how far it
has come, and that it has ended, as its work has. What it heard last is the runner's record, and after
the end nothing more is heard and the record stays as it is. The listener listens from before the job was
enqueued. -/
theorem life_of_heard (store : JobStore σ) (shared : σ) {before later more : List (Event σ)}
    (hwork : FromWork store (before ++ later ++ more) [] { shared }) {s₀ s s' : JobSystem σ}
    (hs₀ : s₀ = after store before { shared }) (hs : s = s₀.after store later)
    (hs' : s' = s.after store more) {id : String} (hnew : ¬s₀.Given id) :
    Life (heard s₀ s id) (endingsOf id (endings store later s₀)) ∧
      (heard s₀ s id ≠ [] → s.record 0 id = (heard s₀ s id).getLast?) ∧
      ((∃ j ∈ heard s₀ s id, j.status.isTerminal = true) →
        heard s₀ s' id = heard s₀ s id ∧ s'.record 0 id = s.record 0 id) := by
  obtain ⟨hwork, hmore⟩ := fromWork_append.1 hwork
  obtain ⟨hbefore, hlater⟩ := fromWork_append.1 hwork
  rw [after_append] at hmore
  rw [← hs₀] at hlater hmore
  rw [← hs] at hmore
  -- what is told of jobs after each of the three parts
  have hstart : ∀ i, Chronicle ({ shared } : JobSystem σ) [] [] i := by
    intro i
    refine ⟨.unheard, fun hne => ?_, fun hne => ?_, fun c hc => ?_, fun hi => ?_⟩
    · exact absurd rfl hne
    · exact absurd rfl hne
    · cases hc
    · cases hi
  have hc₀ : s₀.Coherent := hs₀ ▸ coherent_after store before (coherent_start shared)
  have hc : s.Coherent := hs ▸ coherent_after store later hc₀
  have h₀ := chronicle_after store (coherent_start shared) hstart hbefore
  rw [← hs₀] at h₀
  have h := chronicle_after store hc₀ h₀ hlater
  rw [← hs] at h
  have h' := chronicle_after store hc h (by rwa [begun_append, ← hs₀, ← List.append_assoc] at hmore)
  rw [← hs'] at h'
  -- nothing was told of the job when the listener came
  have hnone : s₀.told id = [] := Classical.byContradiction fun hne => hnew ((h₀ id).given hne)
  have hended : endingsOf id ([] ++ endings store before { shared }) = [] :=
    (hnone ▸ (h₀ id).life).endings_of_nil
  have hle : s₀.announced <+: s.announced := hs ▸ announced_after store later s₀
  have hle' : s.announced <+: s'.announced := hs' ▸ announced_after store more s
  rw [heard_eq_told hle hnone, heard_eq_told (hle.trans hle') hnone]
  have hlife := (h id).life
  rw [endingsOf_append, hended, List.nil_append] at hlife
  refine ⟨hlife, (h id).record, ?_⟩
  rintro ⟨j, hj, hterminal⟩
  have hne : s.told id ≠ [] := List.ne_nil_of_mem hj
  have htold : s'.told id = s.told id := (h' id).life.eq_of_prefix (hle'.filter _) hj hterminal
  refine ⟨htold, ?_⟩
  rw [(h' id).record (htold ▸ hne), htold, (h id).record hne]

/-- A job that tells once how far it has come. -/
def telling : Order MemoryJobs where
  kind := .libraryIntake
  target := "library"
  work := .report (.of "tracks" 1 2 "half") (.done {})

/-- The job is heard of from its beginning to its end, and not when it tells something later. -/
theorem life_of_heard_telling : ∃ s s' : JobSystem MemoryJobs,
    s = after plain [.enqueue .join telling, .turn 0] { shared := {} } ∧
    s' = s.after plain [.report (jobId 1) (.of "tracks" 2 2 "late")] ∧
    Life (heard { shared := {} } s (jobId 1)) [.ok {}] ∧
    (heard { shared := {} } s (jobId 1)).map Job.status = [.waiting, .active, .active, .completed] ∧
    heard { shared := {} } s' (jobId 1) = heard { shared := {} } s (jobId 1) ∧
    s'.record 0 (jobId 1) = s.record 0 (jobId 1) := by
  refine ⟨_, _, rfl, rfl, ?_⟩
  -- the late report is one of a job whose work has begun
  have hwork : FromWork plain ([] ++ [.enqueue .join telling, .turn 0] ++
      [.report (jobId 1) (.of "tracks" 2 2 "late")]) [] { shared := {} } := by
    refine ⟨nofun, nofun, fun id p h => ?_, trivial⟩
    cases h
    exact List.mem_singleton.2 rfl
  have hnew : ¬({ shared := {} } : JobSystem MemoryJobs).Given (jobId 1) := by
    rintro ⟨n, hn, hid⟩
    cases hn
    exact absurd (jobId_injective hid) (by decide)
  obtain ⟨hlife, -, hend⟩ := life_of_heard plain {} hwork rfl rfl rfl hnew
  exact ⟨hlife, rfl, hend ⟨_, List.mem_of_getLast? rfl, rfl⟩⟩

end JobSystem

end Mixtape
