import Mathlib.Logic.Function.Basic
import Mixtape.Proofs.Jobs.Filing

/-!
# Where jobs are recorded to stand

A record of a job says where the job stands: waiting, at work, or how it has ended. A store tells the
latest of them: what it records or takes by a claim moves that one job and no other, and a job that it
hands back, because the job's key is taken, stands where the record says. The store in memory does so,
and so does the database.

## Main definitions

* `JobStore.standing` — where a job stands in the store.
* `JobStore.noting` — the store, together with a note whether it has refused a record.
* `JobStore.Tells` — what a store promises about where jobs stand.

## Main results

* `MemoryJobs.tells_store`, `Studio.tells_databaseJobs` — **both stores keep the promise.**
-/

namespace Mixtape

variable {σ : Type}

/-! ### Stores that note what they refuse -/

namespace JobStore

/-- The store, together with a note that holds as long as it has refused no record. -/
def noting (store : JobStore σ) : JobStore (σ × Bool) where
  now u := store.now u.1
  save j := (store.save j).noting
  get id := (store.get id).beside
  claim j := (store.claim j).noting

/-- Where a job stands in the store, if it is recorded there. -/
def standing (store : JobStore σ) (u : σ) (id : String) : Option JobStatus :=
  match ((store.get id).runOn u).1 with
  | .ok (some j) => some j.status
  | _ => none

/-- What a store promises about where jobs stand, as long as it is in order. -/
structure Tells (store : JobStore σ) (Sound : σ → Prop) : Prop where
  /-- Records are kept in order. -/
  sound_save : ∀ {u} (j : Job), Sound u → Sound ((store.save j).runOn u).2
  /-- Claims are kept in order. -/
  sound_claim : ∀ {u} (j : Job), Sound u → Sound ((store.claim j).runOn u).2
  /-- A job that is recorded stands where its record says, and others stand where they stood. -/
  saved : ∀ {u t} {j : Job}, Sound u → (store.save j).runOn u = (.ok (), t) →
    store.standing t = Function.update (store.standing u) j.id (some j.status)
  /-- So does a job that is recorded by a claim. -/
  claimed : ∀ {u t} {j stored : Job}, Sound u → (store.claim j).runOn u = (.ok (stored, true), t) →
    store.standing t = Function.update (store.standing u) j.id (some j.status)
  /-- A job that is handed back stands where its record says. -/
  handed : ∀ {u t} {j stored : Job}, Sound u → (store.claim j).runOn u = (.ok (stored, false), t) →
    store.standing t = store.standing u ∧ store.standing u stored.id = some stored.status

/-- A change that is none of the store's: the records are in order as before, jobs stand where they
stood, and nothing is noted. -/
def Spared (store : JobStore σ) (Sound : σ → Prop) (u t : σ × Bool) : Prop :=
  t.2 = u.2 ∧ (Sound u.1 → Sound t.1) ∧ store.standing t.1 = store.standing u.1

end JobStore

/-! ### Records in memory -/

namespace MemoryJobs

variable {now : σ → Timestamp} {view : σ → MemoryJobs} {set : MemoryJobs → σ → σ} {m m' : MemoryJobs}
  {j : Job}

/-- Where a job stands. -/
def statusOf (m : MemoryJobs) (id : String) : Option JobStatus := (m.jobs.find? id).map Job.status

theorem statusOf_save (h : save j m = .ok m') :
    m'.statusOf = Function.update m.statusOf j.id (some j.status) := by
  funext id
  unfold statusOf
  rw [(keys_save h).2]
  by_cases hid : id = j.id
  · subst hid
    rw [Registry.find?_put_self, Function.update_self, Option.map_some]
  · rw [Registry.find?_put_of_ne hid, Function.update_of_ne hid]

theorem standing_store (u : σ) : (store now view set).standing u = (view u).statusOf := by
  funext id
  unfold JobStore.standing store statusOf
  dsimp only
  rw [Action.runOn_ofRun]
  cases (view u).jobs.find? id <;> rfl

/-- **The store in memory keeps the promise.** -/
theorem tells_store (hset : ∀ m u, view (set m u) = m) :
    (store now view set).Tells fun u => (view u).Sound where
  sound_save j h := view_save hset h fun _ hm => h.save hm
  sound_claim j h := view_claim hset h fun _ _ hm => h.claim hm
  saved {u t j} _ h := by
    rw [standing_store, standing_store]
    unfold store at h
    rw [Action.runOn_ofRun] at h
    split at h
    · rename_i m hm
      obtain rfl := (Prod.mk.inj h).2
      rw [hset, statusOf_save hm]
    · cases h
  claimed {u t j stored} _ h := by
    rw [standing_store, standing_store]
    unfold store at h
    rw [Action.runOn_ofRun] at h
    split at h
    · rename_i r m hm
      cases h
      rcases claim_eq_ok hm with ⟨-, hold, -⟩ | ⟨-, -, hsave⟩
      · cases hold
      · rw [hset, statusOf_save hsave]
    · cases h
  handed {u t j stored} hs h := by
    rw [standing_store, standing_store]
    unfold store at h
    rw [Action.runOn_ofRun] at h
    split at h
    · rename_i r m hm
      cases h
      rcases claim_eq_ok hm with ⟨hfound, -, rfl⟩ | ⟨-, hnew, -⟩
      · refine ⟨by rw [hset], ?_⟩
        -- in order, the record of a key's job is filed under the job's id
        obtain ⟨key, -, hkey⟩ := Option.bind_eq_some_iff.1 hfound
        obtain ⟨id, hid, hstored⟩ := Option.bind_eq_some_iff.1 hkey
        obtain ⟨k, hk, hkid⟩ := hs key id hid
        obtain rfl := Option.some.inj (hstored.symm.trans hk)
        unfold statusOf
        rw [hkid, hk]
        rfl
      · cases hnew
    · cases h

end MemoryJobs

/-! ### Records in the database -/

namespace Database

open Action

variable {d d' : Database} {j : Job} {now : Timestamp}

/-- Every row is found under its id. -/
def OneEach (d : Database) : Prop := ∀ row ∈ d.jobs, d.job? row.id = some row

/-- Where a job stands. -/
def statusOf (d : Database) (id : String) : Option JobStatus := (d.job? id).map Job.status

/-- A job is recorded: as a new row, or in place of the row that it has. -/
def Takes (j : Job) (d d' : Database) : Prop :=
  ∃ row : Job, row.id = j.id ∧ row.status = j.status ∧
    ((d.job? j.id = none ∧ d' = { d with jobs := d.jobs ++ [row] }) ∨
      ((d.job? j.id).isSome ∧
        d' = { d with jobs := changeWhere (·.id == j.id) (fun _ => row) d.jobs }))

theorem status_of_stored {row : Job} (h : j.stored now = .ok row) : row.status = j.status := by
  unfold Job.stored at h
  obtain ⟨progress, -, h⟩ := exists_of_bind_eq_ok h
  obtain ⟨payload, -, h⟩ := exists_of_bind_eq_ok h
  obtain ⟨-, -, h⟩ := exists_of_bind_eq_ok h
  obtain ⟨error, -, h⟩ := exists_of_bind_eq_ok h
  obtain rfl := Except.ok.inj h
  rfl

theorem takes_of_saveJob {r : Job} (h : (saveJob now j).runOn d = (.ok r, d')) : Takes j d d' := by
  unfold saveJob at h
  obtain ⟨_, _, hget, h⟩ := runOn_bind_eq_ok.1 h
  cases hget
  obtain ⟨row, _, hread, h⟩ := runOn_bind_eq_ok.1 h
  obtain ⟨hrow, rfl⟩ := runOn_ofExcept_eq_ok.1 hread
  obtain ⟨_, _, hfree, h⟩ := runOn_bind_eq_ok.1 h
  obtain ⟨-, rfl⟩ := runOn_ofExcept_eq_ok.1 hfree
  have hid := (stored_ok hrow).1
  have hstatus := status_of_stored hrow
  split at h
  · rename_i hnew
    cases h
    exact ⟨r, hid, hstatus, .inl ⟨hnew, rfl⟩⟩
  · rename_i old hold
    cases h
    exact ⟨{ row with createdAt := old.createdAt }, hid, hstatus, .inr ⟨by rw [hold]; rfl, rfl⟩⟩

theorem takes_of_claimJob {r : Job × Bool} (h : (claimJob now j).runOn d = (.ok r, d')) :
    r.2 = true ∧ Takes j d d' ∨ r.2 = false ∧ d' = d ∧ r.1 ∈ d.jobs := by
  unfold claimJob at h
  split at h
  · obtain ⟨_, _, hsave, h⟩ := runOn_bind_eq_ok.1 h
    cases h
    exact .inl ⟨rfl, takes_of_saveJob hsave⟩
  · obtain ⟨_, _, hget, h⟩ := runOn_bind_eq_ok.1 h
    cases hget
    split at h
    · rename_i recorded hrecorded
      cases h
      exact .inr ⟨rfl, rfl, List.mem_of_find?_eq_some hrecorded⟩
    · obtain ⟨row, _, hread, h⟩ := runOn_bind_eq_ok.1 h
      obtain ⟨hrow, rfl⟩ := runOn_ofExcept_eq_ok.1 hread
      obtain ⟨_, _, hrequired, h⟩ := runOn_bind_eq_ok.1 h
      obtain ⟨hnew, rfl⟩ := runOn_ofExcept_eq_ok.1 hrequired
      cases h
      refine .inl ⟨rfl, row, (stored_ok hrow).1, status_of_stored hrow, .inl ⟨?_, rfl⟩⟩
      unfold require at hnew
      split at hnew
      · rename_i hnone
        exact Option.isNone_iff_eq_none.1 hnone
      · cases hnew

/-- A new row is found under its id, and the others as before. -/
theorem job?_append {row : Job} (hnew : d.job? row.id = none) :
    job? { d with jobs := d.jobs ++ [row] } = Function.update d.job? row.id (some row) := by
  funext id
  unfold job? at *
  rw [List.find?_append]
  by_cases hi : id = row.id
  · rw [hi, hnew, Function.update_self]
    simp
  · rw [Function.update_of_ne hi]
    cases d.jobs.find? (·.id == id) <;> simp [Ne.symm hi]

/-- A row in place of another is found under its id, and the others as before. -/
theorem job?_changeWhere {row : Job} (hold : (d.job? row.id).isSome) :
    job? { d with jobs := changeWhere (·.id == row.id) (fun _ => row) d.jobs } =
      Function.update d.job? row.id (some row) := by
  funext id
  unfold job? at *
  rw [find?_changeWhere Job.id rfl]
  by_cases hi : id = row.id
  · obtain ⟨old, hold⟩ := Option.isSome_iff_exists.1 hold
    have holdid : old.id = row.id := by simpa using List.find?_some hold
    rw [hi, hold, Function.update_self]
    simp [holdid]
  · rw [Function.update_of_ne hi]
    cases hq : d.jobs.find? (·.id == id) with
    | none => rfl
    | some q =>
      have hqid : q.id = id := by simpa using List.find?_some hq
      simp [hqid, hi]

/-- A job that is recorded is found in its row, and others as before. -/
theorem Takes.job?_eq (h : Takes j d d') : ∃ row, row.id = j.id ∧ row.status = j.status ∧
    d'.job? = Function.update d.job? j.id (some row) := by
  obtain ⟨row, hid, hstatus, ⟨hnew, rfl⟩ | ⟨hold, rfl⟩⟩ := h
  · exact ⟨row, hid, hstatus, hid ▸ job?_append (hid ▸ hnew)⟩
  · exact ⟨row, hid, hstatus, hid ▸ job?_changeWhere (hid ▸ hold)⟩

/-- A job that is recorded stands where its record says, and others stand where they stood. -/
theorem Takes.statusOf_eq (h : Takes j d d') :
    d'.statusOf = Function.update d.statusOf j.id (some j.status) := by
  obtain ⟨row, -, hstatus, hjobs⟩ := h.job?_eq
  funext id
  unfold statusOf
  rw [hjobs]
  by_cases hi : id = j.id
  · rw [hi, Function.update_self, Function.update_self, Option.map_some, hstatus]
  · rw [Function.update_of_ne hi, Function.update_of_ne hi]

theorem Takes.oneEach (h : Takes j d d') (hone : d.OneEach) : d'.OneEach := by
  obtain ⟨row, hid, -, ⟨hnew, rfl⟩ | ⟨-, rfl⟩⟩ := h
  all_goals
    intro q hq
    unfold OneEach job? at *
  · rw [List.find?_append]
    rcases List.mem_append.1 hq with hq | hq
    · rw [hone q hq]
      rfl
    · obtain rfl := List.mem_singleton.1 hq
      rw [hid, hnew]
      simp [hid]
  · obtain ⟨old, hold, rfl⟩ := List.mem_map.1 hq
    have hkept : (if (old.id == j.id) = true then row else old).id = old.id := by
      split
      · rename_i hchanged
        rw [hid, eq_of_beq hchanged]
      · rfl
    rw [find?_changeWhere Job.id hid, hkept, hone old hold]
    rfl

theorem OneEach.statusOf_eq (h : d.OneEach) {row : Job} (hrow : row ∈ d.jobs) :
    d.statusOf row.id = some row.status := congrArg (Option.map Job.status) (h row hrow)

end Database

namespace Studio

open Action

theorem standing_databaseJobs (w : Studio) : databaseJobs.standing w = w.database.statusOf := by
  funext id
  change (match ((databaseJobs.get id).runOn w).1 with
    | .ok (some j) => some j.status
    | _ => none) = (w.database.job? id).map Job.status
  unfold databaseJobs
  dsimp only
  rw [runOn_bind, runOn_get]
  dsimp only
  rw [runOn_pure]
  cases w.database.job? id <;> rfl

/-- **The database keeps the promise.** -/
theorem tells_databaseJobs :
    databaseJobs.Tells fun w => w.database.OneEach ∧ w.saved.OneEach where
  sound_save {u} j h := by
    have hkeeps : Keeps (fun w : Studio => w.database.OneEach ∧ w.saved.OneEach)
        (databaseJobs.save j) := by
      refine keeps_get.bind fun w => (keeps_unit ?_).bind fun _ => keeps_pure _
      exact yields_iff.2 fun d a d' hone hsave => (Database.takes_of_saveJob hsave).oneEach hone
    exact keeps_iff.1 hkeeps u h
  sound_claim {u} j h := by
    have hkeeps : Keeps (fun w : Studio => w.database.OneEach ∧ w.saved.OneEach)
        (databaseJobs.claim j) := by
      refine keeps_get.bind fun w => keeps_unit (yields_iff.2 fun d a d' hone hclaim => ?_)
      rcases Database.takes_of_claimJob hclaim with ⟨-, htakes⟩ | ⟨-, rfl, -⟩
      · exact htakes.oneEach hone
      · exact hone
    exact keeps_iff.1 hkeeps u h
  saved {u t j} _ h := by
    obtain ⟨_, _, hget, h⟩ := runOn_bind_eq_ok.1 h
    cases hget
    obtain ⟨row, v, hsave, h⟩ := runOn_bind_eq_ok.1 h
    obtain ⟨-, rfl⟩ := runOn_pure_eq_ok.1 h
    obtain ⟨d, hd, rfl⟩ := runOn_unit_query_eq_ok.1 hsave
    rw [standing_databaseJobs, standing_databaseJobs]
    exact (Database.takes_of_saveJob hd).statusOf_eq
  claimed {u t j stored} _ h := by
    obtain ⟨d, hd, rfl⟩ := runOn_claim_eq_ok.1 h
    rw [standing_databaseJobs, standing_databaseJobs]
    rcases Database.takes_of_claimJob hd with ⟨-, htakes⟩ | ⟨hold, -⟩
    · exact htakes.statusOf_eq
    · cases hold
  handed {u t j stored} hs h := by
    obtain ⟨d, hd, rfl⟩ := runOn_claim_eq_ok.1 h
    rw [standing_databaseJobs, standing_databaseJobs]
    rcases Database.takes_of_claimJob hd with ⟨hnew, -⟩ | ⟨-, hsame, hmem⟩
    · cases hnew
    · exact ⟨by rw [hsame], hs.1.statusOf_eq hmem⟩

end Studio

end Mixtape
