import Mixtape.Proofs.Jobs.Standing

/-!
# The two stores of jobs agree

Jobs are recorded in memory or in the database, and who asks for them is told the same by both. The
calls have to be those of callers in order: what is recorded under an id is one job, with its key and
the time it was created, and a job with a key is recorded by the claim of that key or after it. And
what is recorded has to be such that documents can be written of it, as the database keeps documents
and the memory does not.

## Main definitions

* `StoreCall`, `JobStore.answers` — calls of a store, and what they come to, one after the other.
* `Answered.Orderly` — the calls of callers in order.
* `Agrees` — the database and the records in memory tell the same.

## Main results

* `Agrees.save`, `Agrees.claim` — what is recorded in both of them leaves them in agreement.
* `Studio.answers_databaseJobs` — **both stores answer every sequence of calls alike.**
-/

namespace Mixtape

variable {σ : Type}

/-! ### Calls -/

/-- What a store of jobs is asked. -/
inductive StoreCall where
  /-- To record a job. -/
  | save (j : Job)
  /-- To record a job unless its key is taken. -/
  | claim (j : Job)
  /-- For the job with an id. -/
  | get (id : String)
  deriving DecidableEq

/-- What a store of jobs answers. -/
inductive StoreAnswer where
  /-- The job is recorded. -/
  | saved
  /-- The job that is recorded, and whether it is the one of the claim. -/
  | claimed (stored : Job) (created : Bool)
  /-- The job that was asked for, if there is one. -/
  | found (job : Option Job)
  deriving DecidableEq

/-- The job a call is about. -/
def StoreCall.job? : StoreCall → Option Job
  | save j | claim j => some j
  | get _ => none

/-- A call and what it came to. -/
abbrev Answered := StoreCall × Except Failure StoreAnswer

namespace JobStore

/-- One call. -/
def answer (store : JobStore σ) : StoreCall → Action σ StoreAnswer
  | .save j => do
    store.save j
    return .saved
  | .claim j => do
    let (stored, created) ← store.claim j
    return .claimed stored created
  | .get id => return .found (← store.get id)

/-- Calls one after the other. -/
def answers (store : JobStore σ) : List StoreCall → σ → List Answered
  | [], _ => []
  | c :: rest, u =>
    let (r, t) := (store.answer c).runOn u
    (c, r) :: answers store rest t

theorem answers_cons {store : JobStore σ} {c : StoreCall} {rest : List StoreCall} {u t : σ}
    {r : Except Failure StoreAnswer} (h : (store.answer c).runOn u = (r, t)) :
    store.answers (c :: rest) u = (c, r) :: store.answers rest t := by
  rw [answers, h]

end JobStore

/-! ### Jobs and callers in order -/

namespace Job

variable {j : Job} {now : Timestamp}

/-- The job was given an object, its error is a text if there is one, and its times are of universal
time. -/
def isRegular (j : Job) : Bool :=
  j.payload.isObject && decide (j.error = .ofText? j.error.text?)
    && j.createdAt.any (·.offset == 0) && j.startedAt.all (·.offset == 0)
    && j.finishedAt.all (·.offset == 0)

/-- Documents can be written of the job: its percentage can be computed, and there is no whole number
in them that is too long. -/
def isWritable (j : Job) : Bool :=
  match j.progress.toJson with
  | .ok progress => [progress, .ofResult? j.result, j.payload].all Json.isShowable
  | .error _ => false

theorem asObject_of_isObject {p : Json} (h : p.isObject = true) : p.asObject = .ok p := by
  cases p with
  | object fields => rfl
  | _ => cases h

theorem stored?_of_all {t : Option Timestamp} (h : t.all (·.offset == 0) = true) :
    Timestamp.stored? t = t := by
  cases t with
  | none => rfl
  | some t => exact congrArg some (Timestamp.asUtc_of_offset (by simpa using h))

/-- A regular job of which documents can be written is read back as it was. -/
theorem stored_eq_self (hr : j.isRegular = true) (hw : j.isWritable = true) :
    j.stored now = .ok j := by
  unfold isRegular at hr
  simp only [Bool.and_eq_true, decide_eq_true_eq] at hr
  obtain ⟨⟨⟨⟨hpayload, herror⟩, hcreated⟩, hstarted⟩, hfinished⟩ := hr
  obtain ⟨t, ht, hutc⟩ := (Option.any_eq_true ..).1 hcreated
  unfold isWritable at hw
  split at hw
  · rename_i progress hprogress
    have hkept : Column.text? j.error = .ok j.error.text? := by
      rw [herror]
      cases j.error.text? <;> rfl
    unfold stored
    rw [hprogress, asObject_of_isObject hpayload, hkept]
    change (do
      Column.documents [progress, .ofResult? j.result, j.payload]
      _) = _
    unfold Column.documents
    rw [if_pos hw]
    change Except.ok _ = Except.ok _
    rw [← herror, ht, Option.getD_some, Timestamp.asUtc_of_offset (by simpa using hutc), ← ht,
      stored?_of_all hstarted, stored?_of_all hfinished]
  · cases hw

end Job

namespace Answered

/-- The call was a claim, and it has recorded the job with an id. -/
def Creates (id : String) : Answered → Prop
  | (.claim j, .ok (.claimed _ true)) => j.id = id
  | _ => False

/-- Whatever was asked before about a job with the id of this one had its key and its time. -/
def Consistent (past : List Answered) (j : Job) : Prop :=
  ∀ e ∈ past, ∀ k ∈ e.1.job?, k.id = j.id → k.key = j.key ∧ k.createdAt = j.createdAt

/-- A call that callers in order make after others. -/
def InKeeping (past : List Answered) : StoreCall → Prop
  | .get _ => True
  | .claim j => j.isRegular = true ∧ Consistent past j ∧ j.key ≠ some ""
  | .save j =>
    j.isRegular = true ∧ Consistent past j ∧
      (j.key = none ∨ j.key ≠ some "" ∧ ∃ e ∈ past, Creates j.id e)

/-- The calls of callers in order, after others: jobs are regular, a job's key and the time it was
created never change, and a job has no key, or one that counts, by whose claim it was recorded
before it is recorded otherwise. -/
def Orderly (past : List Answered) : List Answered → Prop
  | [] => True
  | e :: rest => InKeeping past e.1 ∧ Orderly (past ++ [e]) rest

instance (id : String) : DecidablePred (Creates id) := fun e => by
  unfold Creates
  split <;> infer_instance

instance (past : List Answered) (j : Job) : Decidable (Consistent past j) :=
  inferInstanceAs (Decidable (∀ e ∈ past, ∀ k ∈ e.1.job?, _))

instance (past : List Answered) : DecidablePred (InKeeping past)
  | .get _ => .isTrue trivial
  | .claim _ => inferInstanceAs (Decidable (_ ∧ _ ∧ _))
  | .save _ => inferInstanceAs (Decidable (_ ∧ _ ∧ (_ ∨ _ ∧ _)))

instance decidableOrderly : (past es : List Answered) → Decidable (Orderly past es)
  | _, [] => .isTrue trivial
  | past, e :: rest =>
    have := decidableOrderly (past ++ [e]) rest
    inferInstanceAs (Decidable (_ ∧ _))

theorem exists_job_of_creates {id : String} {e : Answered} (h : Creates id e) :
    ∃ j ∈ e.1.job?, j.id = id := by
  unfold Creates at h
  split at h
  · exact ⟨_, rfl, h⟩
  · exact h.elim

end Answered

/-! ### Rows -/

namespace Database

open Action

variable {d : Database} {j row : Job} {key : String} {now : Timestamp}

/-- A job in its row: in place of the one that it has, or in a new one. -/
def putJob (j : Job) (d : Database) : Database :=
  match d.job? j.id with
  | none => { d with jobs := d.jobs ++ [j] }
  | some _ => { d with jobs := changeWhere (·.id == j.id) (fun _ => j) d.jobs }

theorem takes_putJob (j : Job) (d : Database) : Takes j d (d.putJob j) := by
  refine ⟨j, rfl, rfl, ?_⟩
  unfold putJob
  split
  · rename_i hnew
    exact .inl ⟨hnew, rfl⟩
  · rename_i old hold
    exact .inr ⟨Option.isSome_iff_exists.2 ⟨old, hold⟩, rfl⟩

theorem job?_putJob (j : Job) (d : Database) :
    (d.putJob j).job? = Function.update d.job? j.id (some j) := by
  unfold putJob
  split
  · rename_i hnew
    exact job?_append hnew
  · rename_i old hold
    exact job?_changeWhere (Option.isSome_iff_exists.2 ⟨old, hold⟩)

/-- A row that a job is put among is the job's or was there. -/
theorem mem_putJob (h : row ∈ (d.putJob j).jobs) : row = j ∨ row ∈ d.jobs := by
  unfold putJob at h
  split at h
  · exact (List.mem_append.1 h).elim .inr fun h => .inl (List.mem_singleton.1 h)
  · obtain ⟨old, hold, rfl⟩ := List.mem_map.1 h
    split
    · exact .inl rfl
    · exact .inr hold

theorem id_of_job? {id : String} (h : d.job? id = some row) : row.id = id := by
  simpa using List.find?_some h

/-- The job's key is no other job's. -/
def OwnKey (d : Database) (j : Job) : Prop :=
  ∀ row ∈ d.jobs, row.key ≠ none → row.key = j.key → row.id = j.id

theorem OwnKey.isFree (h : d.OwnKey j) : d.keyIsFree j = true := by
  unfold keyIsFree
  cases hkey : j.key with
  | none => rfl
  | some key =>
    have hothers : ∀ row ∈ d.jobs, ¬row.id = j.id → ¬row.key = some key := by
      intro row hrow hid hsame
      refine hid (h row hrow ?_ (hsame.trans hkey.symm))
      rw [hsame]
      exact Option.some_ne_none key
    simpa using hothers

/-- What records a job as it is. -/
theorem runOn_saveJob (hstored : j.stored now = .ok j) (hfree : d.keyIsFree j = true)
    (hold : ∀ old, d.job? j.id = some old → old.createdAt = j.createdAt) :
    (saveJob now j).runOn d = (.ok j, d.putJob j) := by
  unfold saveJob putJob require
  rw [runOn_bind, runOn_get]
  dsimp only
  rw [hstored, hfree, if_pos rfl, runOn_bind, runOn_ofExcept]
  dsimp only
  rw [runOn_bind, runOn_ofExcept]
  dsimp only
  cases hrow : d.job? j.id with
  | none => rfl
  | some old =>
    have hsame : { j with createdAt := old.createdAt } = j := by rw [hold old hrow]
    dsimp only
    rw [hsame]
    rfl

/-- A claim without a key records the job. -/
theorem runOn_claimJob_of_none (hkey : j.key = none) {d' : Database}
    (h : (saveJob now j).runOn d = (.ok j, d')) :
    (claimJob now j).runOn d = (.ok (j, true), d') := by
  unfold claimJob
  rw [hkey]
  dsimp only
  rw [runOn_bind, h]
  rfl

/-- A claim of a key that is free records a job that has no row yet. -/
theorem runOn_claimJob_of_free (hkey : j.key = some key) (hstored : j.stored now = .ok j)
    (hfree : d.jobUnder? key = none) (hnew : d.job? j.id = none) :
    (claimJob now j).runOn d = (.ok (j, true), d.putJob j) := by
  unfold claimJob putJob require
  rw [hkey]
  dsimp only
  rw [runOn_bind, runOn_get]
  dsimp only
  rw [hfree, hnew, hstored]
  rfl

/-- A claim of a key that is taken hands back the job under it. -/
theorem runOn_claimJob_of_taken (hkey : j.key = some key) (htaken : d.jobUnder? key = some row) :
    (claimJob now j).runOn d = (.ok (row, false), d) := by
  unfold claimJob
  rw [hkey]
  dsimp only
  rw [runOn_bind, runOn_get]
  dsimp only
  rw [htaken]
  rfl

end Database

/-! ### Agreement -/

open Answered

variable {past : List Answered} {d d' : Database} {m m' : MemoryJobs} {j old : Job} {e : Answered}
  {now : Timestamp}

/-- After calls, the database and the records in memory tell the same of jobs. -/
structure Agrees (past : List Answered) (d : Database) (m : MemoryJobs) : Prop where
  /-- Every row is found under its id. -/
  one : d.OneEach
  /-- The jobs are the same. -/
  rows : ∀ id, d.job? id = m.jobs.find? id
  /-- A key belongs to the job that is recorded with it. -/
  keys : ∀ key id,
    m.keys.find? key = some id ↔ ∃ row, d.job? id = some row ∧ MemoryJobs.keyOf row = some key
  /-- No two jobs have one key. -/
  alone : ∀ row ∈ d.jobs, ∀ other ∈ d.jobs, row.key ≠ none → row.key = other.key → row.id = other.id
  /-- A call was about the job of a row. -/
  told : ∀ row ∈ d.jobs, ∃ e ∈ past, row ∈ e.1.job?
  /-- What a claim has recorded is there. -/
  kept : ∀ e ∈ past, ∀ id, Creates id e → (d.job? id).isSome
  /-- The memory refuses no record. -/
  accepts : m.refused = []

theorem MemoryJobs.keyOf_congr (h : old.key = j.key) : keyOf old = keyOf j :=
  congrArg (Option.filter _) h

/-- A job is recorded in memory whose key is nobody else's. -/
theorem MemoryJobs.exists_save (h : m.refused = [])
    (hfree : ∀ key id, keyOf j = some key → m.keys.find? key = some id → id = j.id) :
    ∃ m', save j m = .ok m' ∧ m'.refused = [] ∧ m'.jobs = m.jobs.put j.id j ∧
      ∀ key, m'.keys.find? key = if keyOf j = some key then some j.id else m.keys.find? key := by
  unfold save
  rw [h, if_neg List.not_mem_nil]
  refine ⟨_, rfl, rfl, rfl, fun key => ?_⟩
  cases hkey : keyOf j with
  | none => rfl
  | some own =>
    change (m.keys.putNew own j.id).find? key = _
    by_cases hown : own = key
    · subst hown
      rw [if_pos rfl]
      unfold Registry.putNew
      cases hid : m.keys.find? own with
      | none => exact Registry.find?_put_self ..
      | some id => rw [hid, hfree own id hkey hid]
    · rw [if_neg fun h => hown (Option.some.inj h)]
      unfold Registry.putNew
      split
      · rfl
      · exact Registry.find?_put_of_ne (Ne.symm hown) ..

theorem MemoryJobs.claim_of_free (h : (keyOf j).bind m.findKey = none) (hsave : save j m = .ok m') :
    claim j m = .ok ((j, true), m') := by
  unfold claim
  rw [h, hsave]
  rfl

theorem MemoryJobs.claim_of_taken (h : (keyOf j).bind m.findKey = some old) :
    claim j m = .ok ((old, false), m) := by
  unfold claim
  rw [h]

namespace Agrees

theorem start (hrows : d.jobs = []) : Agrees [] d {} where
  one row hrow := absurd (hrows ▸ hrow) List.not_mem_nil
  rows id := by
    unfold Database.job?
    rw [hrows]
    rfl
  keys key id := by
    unfold Database.job?
    rw [hrows]
    exact ⟨nofun, fun ⟨_, h, _⟩ => nomatch h⟩
  alone row hrow := absurd (hrows ▸ hrow) List.not_mem_nil
  told row hrow := absurd (hrows ▸ hrow) List.not_mem_nil
  kept e he := absurd he List.not_mem_nil
  accepts := rfl

/-- A call that records nothing. -/
theorem unchanged (h : Agrees past d m) (he : ∀ id, ¬Creates id e) : Agrees (past ++ [e]) d m where
  one := h.one
  rows := h.rows
  keys := h.keys
  alone := h.alone
  told row hrow :=
    let ⟨e', he', htold⟩ := h.told row hrow
    ⟨e', List.mem_append_left _ he', htold⟩
  kept e' he' id hid := by
    rcases List.mem_append.1 he' with he' | he'
    · exact h.kept e' he' id hid
    · exact absurd (List.mem_singleton.1 he' ▸ hid) (he id)
  accepts := h.accepts

/-- The row of a job was told by callers in order: it has the job's key and time. -/
theorem of_consistent (h : Agrees past d m) (hs : Consistent past j) (hold : d.job? j.id = some old) :
    old.key = j.key ∧ old.createdAt = j.createdAt := by
  obtain ⟨e, he, htold⟩ := h.told old (List.mem_of_find?_eq_some hold)
  exact hs e he old htold (Database.id_of_job? hold)

/-- A key that is nobody else's in the rows is nobody else's in memory. -/
theorem owner (h : Agrees past d m) (hfree : d.OwnKey j) {key id : String}
    (hkey : MemoryJobs.keyOf j = some key) (hid : m.keys.find? key = some id) : id = j.id := by
  obtain ⟨row, hrow, hrowkey⟩ := (h.keys key id).1 hid
  have hsame : row.key = j.key :=
    (MemoryJobs.keyOf_eq_some.1 hrowkey).1.trans (MemoryJobs.keyOf_eq_some.1 hkey).1.symm
  have hsome : row.key ≠ none := by
    rw [(MemoryJobs.keyOf_eq_some.1 hrowkey).1]
    exact Option.some_ne_none key
  rw [← Database.id_of_job? hrow]
  exact hfree row (List.mem_of_find?_eq_some hrow) hsome hsame

/-- A key belongs to the job that is recorded with it, also when one is put among them. -/
theorem keys_put (h : Agrees past d m) (hs : Consistent past j) (hfree : d.OwnKey j)
    (key id : String) :
    (if MemoryJobs.keyOf j = some key then some j.id else m.keys.find? key) = some id ↔
      ∃ row, (d.putJob j).job? id = some row ∧ MemoryJobs.keyOf row = some key := by
  rw [Database.job?_putJob]
  by_cases hid : id = j.id
  · rw [hid, Function.update_self]
    by_cases hkey : MemoryJobs.keyOf j = some key
    · rw [if_pos hkey]
      exact ⟨fun _ => ⟨j, rfl, hkey⟩, fun _ => rfl⟩
    · -- the row that the job had was not under this key either
      rw [if_neg hkey, h.keys]
      refine ⟨fun ⟨old, hold, holdkey⟩ => absurd ?_ hkey, fun ⟨row, hrow, hrowkey⟩ => ?_⟩
      · rw [← MemoryJobs.keyOf_congr (h.of_consistent hs hold).1, holdkey]
      · exact absurd (Option.some.inj hrow ▸ hrowkey) hkey
  · rw [Function.update_of_ne hid, ← h.keys]
    by_cases hkey : MemoryJobs.keyOf j = some key
    · rw [if_pos hkey]
      exact ⟨fun heq => absurd (Option.some.inj heq).symm hid,
        fun hheld => absurd (h.owner hfree hkey hheld) hid⟩
    · rw [if_neg hkey]

/-- The job under a key is the same in memory. -/
theorem findKey_of_some (h : Agrees past d m) {key : String} (hcounts : key ≠ "")
    (hunder : d.jobUnder? key = some old) : m.findKey key = some old := by
  have hrow : d.job? old.id = some old := h.one old (List.mem_of_find?_eq_some hunder)
  have hkey : old.key = some key := by simpa using List.find?_some hunder
  unfold MemoryJobs.findKey
  rw [(h.keys key old.id).2 ⟨old, hrow, MemoryJobs.keyOf_eq_some.2 ⟨hkey, hcounts⟩⟩]
  change m.jobs.find? old.id = some old
  rw [← h.rows, hrow]

/-- A key without a job has none in memory. -/
theorem findKey_of_none (h : Agrees past d m) {key : String}
    (hnobody : ∀ row ∈ d.jobs, row.key ≠ some key) : m.findKey key = none := by
  unfold MemoryJobs.findKey
  cases hid : m.keys.find? key with
  | none => rfl
  | some id =>
    obtain ⟨row, hrow, hkey⟩ := (h.keys key id).1 hid
    exact absurd (MemoryJobs.keyOf_eq_some.1 hkey).1 (hnobody row (List.mem_of_find?_eq_some hrow))

/-- A job whose key is nobody else's is recorded in its row and in memory. -/
theorem put (h : Agrees past d m) (hs : Consistent past j) (hfree : d.OwnKey j)
    (he : e.1.job? = some j) :
    ∃ m', MemoryJobs.save j m = .ok m' ∧ Agrees (past ++ [e]) (d.putJob j) m' := by
  obtain ⟨m', hsave, hrefused, hjobs, hkeys⟩ :=
    MemoryJobs.exists_save h.accepts fun key id hkey hid => h.owner hfree hkey hid
  have hrows := Database.job?_putJob j d
  refine ⟨m', hsave, ?_⟩
  constructor
  case one => exact (Database.takes_putJob j d).oneEach h.one
  case rows =>
    intro id
    rw [hrows, hjobs]
    by_cases hid : id = j.id
    · rw [hid, Function.update_self, Registry.find?_put_self]
    · rw [Function.update_of_ne hid, Registry.find?_put_of_ne hid, h.rows]
  case keys =>
    intro key id
    rw [hkeys]
    exact h.keys_put hs hfree key id
  case alone =>
    intro row hrow other hother hkey hsame
    rcases Database.mem_putJob hrow with rfl | hrow' <;>
      rcases Database.mem_putJob hother with rfl | hother'
    · rfl
    · exact (hfree other hother' (hsame ▸ hkey) hsame.symm).symm
    · exact hfree row hrow' hkey hsame
    · exact h.alone row hrow' other hother' hkey hsame
  case told =>
    intro row hrow
    rcases Database.mem_putJob hrow with rfl | hrow
    · exact ⟨e, List.mem_append_right _ (List.mem_singleton.2 rfl), he⟩
    · obtain ⟨e', he', htold⟩ := h.told row hrow
      exact ⟨e', List.mem_append_left _ he', htold⟩
  case kept =>
    intro e' he' id hid
    rw [hrows]
    by_cases hj : id = j.id
    · rw [hj, Function.update_self]
      rfl
    · rw [Function.update_of_ne hj]
      rcases List.mem_append.1 he' with he' | he'
      · exact h.kept e' he' id hid
      · obtain rfl := List.mem_singleton.1 he'
        obtain ⟨k, hk, hkid⟩ := exists_job_of_creates hid
        rw [he] at hk
        exact absurd (Option.some.inj hk ▸ hkid).symm hj
  case accepts => exact hrefused

/-- What callers in order record is recorded by both. -/
theorem save (h : Agrees past d m) (hc : InKeeping past (.save j)) (hw : j.isWritable = true)
    (now : Timestamp) :
    ∃ m', (Database.saveJob now j).runOn d = (.ok j, d.putJob j) ∧ MemoryJobs.save j m = .ok m' ∧
      Agrees (past ++ [(.save j, .ok .saved)]) (d.putJob j) m' := by
  obtain ⟨hregular, hconsistent, hkey⟩ := hc
  have hfree : d.OwnKey j := by
    intro row hrow hsome hsame
    rcases hkey with hnone | ⟨-, e, he, hcreates⟩
    · exact absurd (hsame.trans hnone) hsome
    · obtain ⟨old, hold⟩ := Option.isSome_iff_exists.1 (h.kept e he j.id hcreates)
      rw [← Database.id_of_job? hold]
      exact h.alone row hrow old (List.mem_of_find?_eq_some hold) hsome
        (hsame.trans (h.of_consistent hconsistent hold).1.symm)
  obtain ⟨m', hsave, hagrees⟩ := h.put hconsistent hfree (e := (.save j, .ok .saved)) rfl
  refine ⟨m', ?_, hsave, hagrees⟩
  refine Database.runOn_saveJob (Job.stored_eq_self hregular hw) ?_ fun old hold =>
    (h.of_consistent hconsistent hold).2
  exact hfree.isFree

/-- Who claims a key in both is handed the same job by both, and so is who claims one that is free. -/
theorem claim (h : Agrees past d m) (hc : InKeeping past (.claim j)) (hw : j.isWritable = true)
    (now : Timestamp) :
    ∃ r d' m', (Database.claimJob now j).runOn d = (.ok r, d') ∧
      MemoryJobs.claim j m = .ok (r, m') ∧
      Agrees (past ++ [(.claim j, .ok (.claimed r.1 r.2))]) d' m' := by
  obtain ⟨hregular, hconsistent, hcounts⟩ := hc
  have hstored : j.stored now = .ok j := Job.stored_eq_self hregular hw
  cases hkey : j.key with
  | none =>
    have hfree : d.OwnKey j :=
      fun row _ hsome hsame => absurd (hsame.trans hkey) hsome
    obtain ⟨m', hsave, hagrees⟩ :=
      h.put hconsistent hfree (e := (.claim j, .ok (.claimed j true))) rfl
    refine ⟨(j, true), d.putJob j, m', ?_, ?_, hagrees⟩
    · exact Database.runOn_claimJob_of_none hkey <|
        Database.runOn_saveJob hstored hfree.isFree fun old hold =>
          (h.of_consistent hconsistent hold).2
    · refine MemoryJobs.claim_of_free ?_ hsave
      unfold MemoryJobs.keyOf
      rw [hkey]
      rfl
  | some key =>
    have hown : MemoryJobs.keyOf j = some key :=
      MemoryJobs.keyOf_eq_some.2 ⟨hkey, fun hempty => hcounts (hkey.trans (congrArg some hempty))⟩
    cases hunder : d.jobUnder? key with
    | some row =>
      refine ⟨(row, false), d, m, Database.runOn_claimJob_of_taken hkey hunder, ?_,
        h.unchanged fun id hid => hid⟩
      refine MemoryJobs.claim_of_taken ?_
      rw [hown, Option.bind_some, h.findKey_of_some (MemoryJobs.keyOf_eq_some.1 hown).2 hunder]
    | none =>
      -- a row of the job would be under the key, and so would a row of another
      have hnobody : ∀ row ∈ d.jobs, row.key ≠ some key := by
        intro row hrow hrowkey
        have := List.find?_eq_none.1 hunder row hrow
        exact this (by simpa using hrowkey)
      have hfree : d.OwnKey j :=
        fun row hrow _ hsame => absurd (hsame.trans hkey) (hnobody row hrow)
      have hnew : d.job? j.id = none := by
        rw [Option.eq_none_iff_forall_not_mem]
        intro old hold
        have hkept : old.key = some key := (h.of_consistent hconsistent hold).1.trans hkey
        exact hnobody old (List.mem_of_find?_eq_some hold) hkept
      obtain ⟨m', hsave, hagrees⟩ :=
        h.put hconsistent hfree (e := (.claim j, .ok (.claimed j true))) rfl
      refine ⟨(j, true), d.putJob j, m', ?_, ?_, hagrees⟩
      · exact Database.runOn_claimJob_of_free hkey hstored hunder hnew
      · refine MemoryJobs.claim_of_free ?_ hsave
        rw [hown, Option.bind_some, h.findKey_of_none hnobody]

end Agrees

/-! ### Both stores -/

namespace Studio

open Action

theorem runOn_save {j r : Job} {w : Studio} {d : Database}
    (h : (Database.saveJob w.clock j).runOn w.database = (.ok r, d)) :
    (databaseJobs.save j).runOn w = (.ok (), { w with database := d, saved := d }) := by
  unfold databaseJobs
  rw [runOn_bind, runOn_get]
  dsimp only
  rw [runOn_bind, runOn_unit_query_eq_ok.2 ⟨d, h, rfl⟩]
  rfl

/-- A call of callers in order is answered alike by both stores, and leaves them in agreement. -/
theorem exists_answer {past : List Answered} {c : StoreCall} {u v : Studio}
    (h : Agrees past u.database v.outside.jobs) (hc : InKeeping past c)
    (hw : ∀ j ∈ c.job?, j.isWritable = true) :
    ∃ a u' v', (databaseJobs.answer c).runOn u = (.ok a, u') ∧
      (memoryJobs.answer c).runOn v = (.ok a, v') ∧
      Agrees (past ++ [(c, .ok a)]) u'.database v'.outside.jobs := by
  cases c with
  | save j =>
    obtain ⟨m', hsaved, hsave, hagrees⟩ := h.save hc (hw j rfl) u.clock
    refine ⟨.saved, { u with database := u.database.putJob j, saved := u.database.putJob j },
      { v with outside := { v.outside with jobs := m' } }, ?_, ?_, hagrees⟩
    · rw [JobStore.answer, runOn_bind, runOn_save hsaved]
      rfl
    · rw [JobStore.answer, memoryJobs, MemoryJobs.store, runOn_bind, runOn_ofRun, hsave]
      rfl
  | claim j =>
    obtain ⟨r, d', m', hclaimed, hclaim, hagrees⟩ := h.claim hc (hw j rfl) u.clock
    refine ⟨.claimed r.1 r.2, { u with database := d', saved := d' },
      { v with outside := { v.outside with jobs := m' } }, ?_, ?_, hagrees⟩
    · rw [JobStore.answer, runOn_bind, runOn_claim_eq_ok.2 ⟨d', hclaimed, rfl⟩]
      rfl
    · rw [JobStore.answer, memoryJobs, MemoryJobs.store, runOn_bind, runOn_ofRun, hclaim]
      rfl
  | get id =>
    refine ⟨.found (u.database.job? id), u, v, rfl, ?_, h.unchanged fun id hid => hid⟩
    rw [h.rows]
    rfl

/-- In agreement, both stores answer all calls of callers in order alike. -/
theorem answers_of_agrees {past : List Answered} {calls : List StoreCall} {u v : Studio}
    (h : Agrees past u.database v.outside.jobs) (hcalls : Orderly past (memoryJobs.answers calls v))
    (hw : ∀ c ∈ calls, ∀ j ∈ c.job?, j.isWritable = true) :
    databaseJobs.answers calls u = memoryJobs.answers calls v ∧
      ∀ e ∈ memoryJobs.answers calls v, e.2.isOk = true := by
  induction calls generalizing past u v with
  | nil => exact ⟨rfl, fun e he => absurd he List.not_mem_nil⟩
  | cons c rest ih =>
    have hc : InKeeping past c := hcalls.1
    obtain ⟨a, u', v', hdatabase, hmemory, hagrees⟩ :=
      exists_answer h hc (hw c List.mem_cons_self)
    rw [JobStore.answers_cons hmemory] at hcalls ⊢
    rw [JobStore.answers_cons hdatabase]
    obtain ⟨hsame, hok⟩ := ih hagrees hcalls.2 fun c' hc' => hw c' (List.mem_cons_of_mem c hc')
    refine ⟨by rw [hsame], fun e he => ?_⟩
    rcases List.mem_cons.1 he with rfl | he
    · rfl
    · exact hok e he

/-- **Both stores answer every sequence of calls alike.** From no jobs on, if the calls are those of
callers in order and documents can be written of all jobs, no call fails in either store, and what
one store answers the other does: every job that is handed back, every one that is found, and whether
a claim has recorded its job. -/
theorem answers_databaseJobs {w : Studio} {calls : List StoreCall} (hrows : w.database.jobs = [])
    (hjobs : w.outside.jobs = {}) (horderly : Orderly [] (memoryJobs.answers calls w))
    (hw : ∀ c ∈ calls, ∀ j ∈ c.job?, j.isWritable = true) :
    databaseJobs.answers calls w = memoryJobs.answers calls w ∧
      ∀ e ∈ memoryJobs.answers calls w, e.2.isOk = true :=
  answers_of_agrees (hjobs ▸ Agrees.start hrows) horderly hw

/-! ### Examples -/

/-- A world without jobs. -/
def unasked : Studio := { outside := { clock := .utc 0 } }

/-- An import of plays that was asked for once. -/
def asking (id : String) : Job where
  id := id
  kind := .playImport
  target := "plays"
  key := some "today"
  payload := .object [("limit", .int 50)]
  createdAt := some (.utc 7)

/-- An import that is claimed twice while it runs and once after it has ended, and a job without a
key that fails. -/
def askings : List StoreCall :=
  let active := ((asking "a").start (.utc 8)).withProgress (.of "plays" 20 50 "")
  let other : Job := { id := "d", kind := .smartPlaylist, target := "1", createdAt := some (.utc 9) }
  [.claim (asking "a"), .save active, .claim (asking "b"), .get "a",
    .save (active.complete ⟨.int 50, .int 3, .int 0, []⟩ (.utc 10)), .claim (asking "c"),
    .claim other, .save (other.fail (.text "denied") none (.utc 11)), .get "b", .get "d"]

theorem answers_databaseJobs_askings :
    Orderly [] (memoryJobs.answers askings unasked) ∧
      databaseJobs.answers askings unasked = memoryJobs.answers askings unasked := by
  have horderly : Orderly [] (memoryJobs.answers askings unasked) := by decide +kernel
  have hw : ∀ c ∈ askings, ∀ j ∈ c.job?, j.isWritable = true := by decide +kernel
  exact ⟨horderly, (answers_databaseJobs rfl rfl horderly hw).1⟩

/-- A job whose count is larger than every binary number. -/
def vast : Job where
  id := "j"
  kind := .playImport
  target := "plays"
  progress := { current := .nat (Nat.pow 10 400), total := .int 1 }
  createdAt := some (.utc 7)

/-- **A job whose percentage cannot be computed is found in memory only.** -/
theorem answers_databaseJobs_ne_vast :
    Orderly [] (memoryJobs.answers [.save vast, .get "j"] unasked) ∧
      (memoryJobs.answers [.save vast, .get "j"] unasked).map (·.2.toOption) =
        [some .saved, some (.found (some vast))] ∧
      (databaseJobs.answers [.save vast, .get "j"] unasked).map (·.2.toOption) =
        [none, some (.found none)] := by
  decide +kernel

end Studio

end Mixtape
