import Mixtape.Proofs.World
import Mixtape.Schedule

/-!
# Jobs under keys

A store files a job under its key when the key is claimed for the first time, and from then on the key
belongs to that job: later records of the job, and records of other jobs, leave it there, and whoever
claims the key again is handed the job. The store in memory does so, and so does the database.

## Main definitions

* `Filing σ` — which job is filed under a key in a state, and which states are in order.
* `JobStore.Files store F` — what a store promises about keys.

## Main results

* `MemoryJobs.files_store`, `Studio.files_databaseJobs` — **both stores keep the promise.**
-/

namespace Mixtape

/-- What states tell of keys. -/
structure Filing (σ : Type) where
  /-- The state is in order. -/
  Sound : σ → Prop
  /-- A job, given by its id, is filed under a key. -/
  Filed : σ → String → String → Prop

/-- A change leaves the records in order and the jobs filed. -/
structure Filing.Leaves {σ : Type} (F : Filing σ) (u t : σ) : Prop where
  /-- The state stays in order. -/
  sound : F.Sound u → F.Sound t
  /-- What is filed stays filed. -/
  filed : ∀ {key id}, F.Filed u key id → F.Filed t key id

/-- What a store promises about keys. -/
structure JobStore.Files {σ : Type} (store : JobStore σ) (F : Filing σ) : Prop where
  /-- Jobs are filed under keys that count. -/
  counts : ∀ {u key id}, F.Filed u key id → key ≠ ""
  /-- Records are kept in order. -/
  sound_save : ∀ {u} (j : Job), F.Sound u → F.Sound ((store.save j).runOn u).2
  /-- Claims are kept in order. -/
  sound_claim : ∀ {u} (j : Job), F.Sound u → F.Sound ((store.claim j).runOn u).2
  /-- A job stays filed, also when it is recorded again under its key. -/
  filed_save : ∀ {u key id} {j : Job}, F.Filed u key id → (j.id = id → j.key = some key) →
    F.Filed ((store.save j).runOn u).2 key id
  /-- A job stays filed when keys are claimed. -/
  filed_claim : ∀ {u key id} {j : Job}, F.Filed u key id → (j.id = id → j.key = some key) →
    F.Filed ((store.claim j).runOn u).2 key id
  /-- A claim of a key that is taken hands back the job filed under it. -/
  taken : ∀ {u key id} {j : Job}, F.Filed u key id → j.key = some key →
    ∃ stored t, (store.claim j).runOn u = (.ok (stored, false), t) ∧ stored.id = id
  /-- A job that is recorded by a claim is filed under its key. -/
  recorded : ∀ {u t key} {j stored : Job}, F.Sound u → MemoryJobs.keyOf j = some key →
    (store.claim j).runOn u = (.ok (stored, true), t) → stored.id = j.id ∧ F.Filed t key j.id

theorem MemoryJobs.keyOf_eq_some {j : Job} {key : String} :
    keyOf j = some key ↔ j.key = some key ∧ key ≠ "" := by
  unfold keyOf
  rw [Option.filter_eq_some_iff, decide_eq_true_iff]

/-! ### Records in memory -/

namespace MemoryJobs

variable {σ : Type} {m m' : MemoryJobs} {key id : String} {j : Job}

/-- A record is there under its id. -/
def Holds (m : MemoryJobs) (id : String) : Prop := ∃ j, m.jobs.find? id = some j ∧ j.id = id

/-- The job of a key is recorded. -/
def Sound (m : MemoryJobs) : Prop := ∀ key id, m.keys.find? key = some id → m.Holds id

theorem sound_empty : ({} : MemoryJobs).Sound := fun _ _ h => absurd h nofun

/-- A job is recorded, and a key that counts is its own. -/
structure Filed (m : MemoryJobs) (key id : String) : Prop where
  /-- The key counts. -/
  counts : key ≠ ""
  /-- The key is the job's. -/
  keyed : m.keys.find? key = some id
  /-- The job is recorded. -/
  holds : m.Holds id

/-- A recorded job is there, and the jobs that were there are. -/
theorem holds_put (h : id = j.id ∨ m.Holds id) :
    ∃ j', (m.jobs.put j.id j).find? id = some j' ∧ j'.id = id := by
  by_cases hid : id = j.id
  · subst hid
    exact ⟨j, Registry.find?_put_self .., rfl⟩
  · rw [Registry.find?_put_of_ne hid]
    exact h.resolve_left hid

/-- What a record of a job does to keys: a key that is its own is the job's if it was nobody's. -/
theorem keys_save (h : save j m = .ok m') :
    m'.keys = (keyOf j).elim m.keys (fun key => m.keys.putNew key j.id) ∧
      m'.jobs = m.jobs.put j.id j := by
  unfold save at h
  split at h
  · cases h
  · obtain rfl := Except.ok.inj h
    exact ⟨rfl, rfl⟩

theorem Filed.save (hf : m.Filed key id) (h : save j m = .ok m') : m'.Filed key id := by
  obtain ⟨hkeys, hjobs⟩ := keys_save h
  refine ⟨hf.counts, ?_, ?_⟩
  · rw [hkeys]
    cases keyOf j with
    | none => exact hf.keyed
    | some key' => exact Registry.find?_putNew_of_some hf.keyed key' j.id
  · unfold Holds
    rw [hjobs]
    exact holds_put (.inr hf.holds)

theorem Sound.save (hs : m.Sound) (h : save j m = .ok m') : m'.Sound := by
  obtain ⟨hkeys, hjobs⟩ := keys_save h
  intro key id hid
  unfold Holds
  rw [hjobs]
  refine holds_put ?_
  rw [hkeys] at hid
  cases hkey : keyOf j with
  | none =>
    rw [hkey] at hid
    exact .inr (hs key id hid)
  | some key' =>
    rw [hkey] at hid
    change (m.keys.putNew key' j.id).find? key = some id at hid
    unfold Registry.putNew at hid
    split at hid
    · exact .inr (hs key id hid)
    · by_cases hne : key = key'
      · subst hne
        rw [Registry.find?_put_self] at hid
        exact .inl (Option.some.inj hid).symm
      · rw [Registry.find?_put_of_ne hne] at hid
        exact .inr (hs key id hid)

/-- A claim leaves the records as they are, or records the job. -/
theorem claim_eq_ok {r : Job × Bool} (h : claim j m = .ok (r, m')) :
    (keyOf j).bind m.findKey = some r.1 ∧ r.2 = false ∧ m' = m ∨
      (keyOf j).bind m.findKey = none ∧ r = (j, true) ∧ save j m = .ok m' := by
  unfold claim at h
  split at h
  · rename_i stored hstored
    cases h
    exact .inl ⟨hstored, rfl, rfl⟩
  · rename_i hfree
    refine .inr ⟨hfree, ?_⟩
    cases hsave : MemoryJobs.save j m with
    | error f =>
      rw [hsave] at h
      cases h
    | ok n =>
      rw [hsave] at h
      cases h
      exact ⟨rfl, rfl⟩

theorem Filed.claim (hf : m.Filed key id) {r : Job × Bool} (h : claim j m = .ok (r, m')) :
    m'.Filed key id := by
  rcases claim_eq_ok h with ⟨-, -, rfl⟩ | ⟨-, -, hsave⟩
  · exact hf
  · exact hf.save hsave

theorem Sound.claim (hs : m.Sound) {r : Job × Bool} (h : claim j m = .ok (r, m')) : m'.Sound := by
  rcases claim_eq_ok h with ⟨-, -, rfl⟩ | ⟨-, -, hsave⟩
  · exact hs
  · exact hs.save hsave

theorem Filed.taken (hf : m.Filed key id) (hkey : j.key = some key) :
    ∃ stored, MemoryJobs.claim j m = .ok ((stored, false), m) ∧ stored.id = id := by
  obtain ⟨stored, hstored, hid⟩ := hf.holds
  refine ⟨stored, ?_, hid⟩
  have hfound : (keyOf j).bind m.findKey = some stored := by
    rw [keyOf_eq_some.2 ⟨hkey, hf.counts⟩]
    change m.findKey key = some stored
    unfold findKey
    rw [hf.keyed]
    exact hstored
  unfold MemoryJobs.claim
  rw [hfound]

/-- A job that a claim records is filed: in order, a key without a job is nobody's. -/
theorem Sound.filed (hs : m.Sound) (hkey : keyOf j = some key) {stored : Job}
    (h : MemoryJobs.claim j m = .ok ((stored, true), m')) : stored.id = j.id ∧ m'.Filed key j.id := by
  rcases claim_eq_ok h with ⟨-, hfalse, -⟩ | ⟨hfree, hr, hsave⟩
  · cases hfalse
  · obtain rfl := congrArg Prod.fst hr
    obtain ⟨hkeys, hjobs⟩ := keys_save hsave
    have hnobody : m.keys.find? key = none := by
      rw [hkey] at hfree
      change m.findKey key = none at hfree
      unfold findKey at hfree
      cases hid : m.keys.find? key with
      | none => rfl
      | some id =>
        obtain ⟨k, hk, -⟩ := hs key id hid
        rw [hid] at hfree
        exact absurd (hk.symm.trans hfree) nofun
    refine ⟨rfl, (keyOf_eq_some.1 hkey).2, ?_, ?_⟩
    · rw [hkeys, hkey]
      change (m.keys.putNew key _).find? key = _
      unfold Registry.putNew
      rw [hnobody]
      exact Registry.find?_put_self ..
    · unfold Holds
      rw [hjobs]
      exact holds_put (.inl rfl)

/-- What the records that a state holds in memory tell of keys. -/
def filing (view : σ → MemoryJobs) : Filing σ where
  Sound u := (view u).Sound
  Filed u := (view u).Filed

section Store

variable {now : σ → Timestamp} {view : σ → MemoryJobs} {set : MemoryJobs → σ → σ}
  {P : MemoryJobs → Prop} {u : σ}

/-- What holds of the records after a record of a job: of those before it if it is refused. -/
theorem view_save (hset : ∀ m u, view (set m u) = m) (h : P (view u))
    (hsave : ∀ m, MemoryJobs.save j (view u) = .ok m → P m) :
    P (view (((store now view set).save j).runOn u).2) := by
  unfold store
  rw [Action.runOn_ofRun]
  split
  · rename_i m hm
    rw [hset]
    exact hsave m hm
  · exact h

/-- What holds of the records after a claim: of those before it if it is refused. -/
theorem view_claim (hset : ∀ m u, view (set m u) = m) (h : P (view u))
    (hclaim : ∀ r m, MemoryJobs.claim j (view u) = .ok (r, m) → P m) :
    P (view (((store now view set).claim j).runOn u).2) := by
  unfold store
  rw [Action.runOn_ofRun]
  split
  · rename_i r m hm
    rw [hset]
    exact hclaim r m hm
  · exact h

/-- A claim comes to what it comes to for the records. -/
theorem claim_of_runOn {a : Except Failure (Job × Bool)} {t : σ}
    (h : ((store now view set).claim j).runOn u = (a, t)) :
    (∃ f, a = .error f ∧ MemoryJobs.claim j (view u) = .error f) ∨
      ∃ r m, a = .ok r ∧ MemoryJobs.claim j (view u) = .ok (r, m) := by
  unfold store at h
  rw [Action.runOn_ofRun] at h
  split at h
  · rename_i r m hm
    exact .inr ⟨r, m, (congrArg Prod.fst h).symm, hm⟩
  · rename_i f hf
    exact .inl ⟨f, (congrArg Prod.fst h).symm, hf⟩

/-- **The store in memory keeps the promise.** -/
theorem files_store (hset : ∀ m u, view (set m u) = m) :
    (store now view set).Files (filing view) where
  counts h := h.counts
  sound_save j h := view_save hset h fun m hm => Sound.save h hm
  sound_claim j h := view_claim hset h fun r m hm => Sound.claim h hm
  filed_save h _ := view_save (P := (Filed · _ _)) hset h fun m hm => Filed.save h hm
  filed_claim h _ := view_claim (P := (Filed · _ _)) hset h fun r m hm => Filed.claim h hm
  taken {u key id j} h hkey := by
    obtain ⟨stored, hstored, hid⟩ := Filed.taken h hkey
    refine ⟨stored, set (view u) u, ?_, hid⟩
    unfold store
    rw [Action.runOn_ofRun, hstored]
  recorded {u t key j stored} hs hkey h := by
    unfold store at h
    rw [Action.runOn_ofRun] at h
    split at h
    · rename_i r m hm
      cases h
      change _ ∧ Filed (view _) key j.id
      rw [hset]
      exact Sound.filed hs hkey hm
    · cases h

end Store

end MemoryJobs

/-! ### Records in the database -/

namespace Database

open Action

variable {d : Database} {key id : String} {j : Job} {now : Timestamp}

/-- A job is recorded under a key that counts, and no other before it. -/
def Filed (key id : String) (d : Database) : Prop :=
  key ≠ "" ∧ (d.jobUnder? key).map Job.id = some id

/-- A job as it is read back has its id and its key. -/
theorem stored_ok {r : Job} (h : j.stored now = .ok r) : r.id = j.id ∧ r.key = j.key := by
  unfold Job.stored at h
  obtain ⟨progress, -, h⟩ := exists_of_bind_eq_ok h
  obtain ⟨payload, -, h⟩ := exists_of_bind_eq_ok h
  obtain ⟨-, -, h⟩ := exists_of_bind_eq_ok h
  obtain ⟨error, -, h⟩ := exists_of_bind_eq_ok h
  obtain rfl := Except.ok.inj h
  exact ⟨rfl, rfl⟩

/-- A changed record stays under its key if it is that of the job filed there, and comes under no key
that is another's. -/
theorem map_id_changeWhere {rows : List Job} {c : Job} (hc : c.key = some key ↔ c.id = id)
    (h : (rows.find? (·.key == some key)).map Job.id = some id) :
    ((changeWhere (·.id == c.id) (fun _ => c) rows).find? (·.key == some key)).map Job.id =
      some id := by
  induction rows with
  | nil => cases h
  | cons r rest ih =>
    unfold changeWhere
    rw [List.map_cons]
    by_cases hr : r.id = c.id
    · rw [if_pos (by simpa using hr)]
      by_cases hkey : c.key = some key
      · rw [List.find?_cons_of_pos (by simpa using hkey), Option.map_some, hc.1 hkey]
      · rw [List.find?_cons_of_neg (by simpa using hkey)]
        refine ih ?_
        -- the record that is changed is not that of the job
        have hrkey : r.key ≠ some key := by
          intro hrkey
          rw [List.find?_cons_of_pos (by simpa using hrkey), Option.map_some, hr] at h
          exact hkey (hc.2 (Option.some.inj h))
        rwa [List.find?_cons_of_neg (by simpa using hrkey)] at h
    · rw [if_neg (by simpa using hr)]
      by_cases hrkey : r.key = some key
      · rw [List.find?_cons_of_pos (by simpa using hrkey)] at h ⊢
        exact h
      · rw [List.find?_cons_of_neg (by simpa using hrkey)] at h ⊢
        exact ih h

/-- A new record comes after those that are there. -/
theorem Filed.append (h : d.Filed key id) (r : Job) :
    Filed key id { d with jobs := d.jobs ++ [r] } := by
  refine ⟨h.1, ?_⟩
  obtain ⟨k, hk, hid⟩ := Option.map_eq_some_iff.1 h.2
  unfold jobUnder? at hk ⊢
  rw [List.find?_append, hk]
  exact congrArg some hid

/-- A key that is free for a job is not another's. -/
theorem ne_key_of_keyIsFree (h : d.Filed key id) (hfree : d.keyIsFree j = true) (hne : j.id ≠ id) :
    j.key ≠ some key := by
  intro hkey
  obtain ⟨k, hk, hid⟩ := Option.map_eq_some_iff.1 h.2
  have hkkey : k.key = some key := by simpa using List.find?_some hk
  unfold keyIsFree at hfree
  rw [hkey] at hfree
  have hothers : ∀ r ∈ d.jobs, ¬r.id = j.id → ¬r.key = some key := by simpa using hfree
  exact hothers k (List.mem_of_find?_eq_some hk) (fun heq => hne (heq.symm.trans hid)) hkkey

/-- A job stays filed when a job is recorded, if its own record keeps the key. -/
theorem yields_saveJob (hj : j.id = id → j.key = some key) :
    Yields (Filed key id) (saveJob now j) fun _ => Filed key id := by
  unfold saveJob
  refine meets_get_bind fun d hd => ?_
  refine Meets.bind (Q := fun stored e => (stored.id = j.id ∧ stored.key = j.key) ∧ e = d)
    (meets_ofExcept (fun r hr e he => ⟨stored_ok hr, he⟩) fun _ _ _ _ => trivial) fun stored => ?_
  refine meets_of_and fun hstored => ?_
  refine Meets.bind (Q := fun _ e => d.keyIsFree j = true ∧ e = d)
    (meets_ofExcept (fun _ hr e he => ⟨?_, he⟩) fun _ _ _ _ => trivial) fun _ => ?_
  · unfold require at hr
    split at hr
    · assumption
    · cases hr
  · refine meets_of_and fun hfree => ?_
    split
    · refine Meets.bind (Q := fun _ => Filed key id) (meets_set fun _ _ => hd.append stored)
        fun _ => ?_
      exact meets_pure fun _ h => h
    · rename_i old _
      refine Meets.bind (Q := fun _ => Filed key id) (meets_set fun _ _ => ⟨hd.1, ?_⟩) fun _ => ?_
      · unfold jobUnder?
        rw [← hstored.1]
        refine map_id_changeWhere (c := { stored with createdAt := old.createdAt }) ?_ hd.2
        -- the key of the changed record is free for it, so it is not another job's
        change stored.key = some key ↔ stored.id = id
        rw [hstored.1, hstored.2]
        exact ⟨fun hkey => Classical.byContradiction fun hne =>
          ne_key_of_keyIsFree hd hfree hne hkey, hj⟩
      · exact meets_pure fun _ h => h

/-- A job stays filed when a key is claimed. -/
theorem yields_claimJob (hj : j.id = id → j.key = some key) :
    Yields (Filed key id) (claimJob now j) fun _ => Filed key id := by
  unfold claimJob
  split
  · refine Meets.bind (yields_saveJob hj) fun _ => ?_
    exact meets_pure fun _ h => h
  · refine meets_get_bind fun d hd => ?_
    split
    · refine meets_pure fun e he => ?_
      rw [he]
      exact hd
    · refine Meets.bind (Q := fun _ _ => True)
        (meets_ofExcept (fun _ _ _ _ => trivial) fun _ _ _ _ => trivial) fun stored => ?_
      refine Meets.bind (Q := fun _ _ => True)
        (meets_ofExcept (fun _ _ _ _ => trivial) fun _ _ _ _ => trivial) fun _ => ?_
      refine Meets.bind (Q := fun _ => Filed key id) (meets_set fun _ _ => hd.append stored)
        fun _ => ?_
      exact meets_pure fun _ h => h

/-- A claim of a key that is taken hands back the job filed under it. -/
theorem Filed.claimJob (now : Timestamp) (h : d.Filed key id) (hkey : j.key = some key) :
    ∃ stored, (Database.claimJob now j).runOn d = (.ok (stored, false), d) ∧ stored.id = id := by
  obtain ⟨k, hk, hid⟩ := Option.map_eq_some_iff.1 h.2
  refine ⟨k, ?_, hid⟩
  unfold Database.claimJob
  rw [hkey]
  dsimp only
  rw [runOn_bind, runOn_get]
  dsimp only
  rw [hk]
  rfl

/-- A job that a claim records is filed. -/
theorem filed_of_claimJob (hkey : MemoryJobs.keyOf j = some key) :
    Yields (fun _ => True) (Database.claimJob now j)
      fun r d => r.2 = true → r.1.id = j.id ∧ Filed key j.id d := by
  obtain ⟨hkey, hcounts⟩ := MemoryJobs.keyOf_eq_some.1 hkey
  unfold Database.claimJob
  rw [hkey]
  dsimp only
  refine meets_get_bind fun d _ => ?_
  split
  · exact meets_pure fun _ _ h => by cases h
  · rename_i hfree
    refine Meets.bind (Q := fun stored _ => stored.id = j.id ∧ stored.key = j.key)
      (meets_ofExcept (fun r hr _ _ => stored_ok hr) fun _ _ _ _ => trivial) fun stored => ?_
    refine meets_of_forall fun e hstored => ?_
    refine Meets.bind (Q := fun _ _ => True)
      (meets_ofExcept (fun _ _ _ _ => trivial) fun _ _ _ _ => trivial) fun _ => ?_
    refine Meets.bind (Q := fun _ => Filed key j.id) (meets_set fun _ _ => ⟨hcounts, ?_⟩) fun _ => ?_
    · unfold jobUnder? at hfree ⊢
      rw [List.find?_append, hfree, Option.none_or,
        List.find?_cons_of_pos (by simp [hstored.2, hkey]), Option.map_some, hstored.1]
    · exact meets_pure fun _ h _ => ⟨rfl, h⟩

end Database

namespace Studio

open Action

/-- What the database tells of keys: what a unit that fails is rolled back to tells the same. -/
def filing : Filing Studio where
  Sound _ := True
  Filed w key id := w.database.Filed key id ∧ w.saved.Filed key id

/-- A unit of work on the database keeps what both the database and the committed one have. -/
theorem keeps_unit {α : Type} {D : Database → Prop} {x : Action Database α}
    (h : Yields D x fun _ => D) :
    Keeps (fun w : Studio => D w.database ∧ D w.saved) (World.unit (World.query x)) := by
  refine meets_unit (Meets.imp (meets_query (S := D) (O := fun _ => True) h) ?_ ?_ ?_)
  · exact fun w hw => ⟨hw.1, hw.2, trivial⟩
  · exact fun _ w hw => ⟨hw.1, hw.1⟩
  · exact fun _ w hw => ⟨hw.1, hw.1⟩

/-- A claim in the database that succeeds. -/
theorem runOn_claim_eq_ok {j : Job} {r : Job × Bool} {w w' : Studio} :
    (databaseJobs.claim j).runOn w = (.ok r, w') ↔
      ∃ d, (Database.claimJob w.clock j).runOn w.database = (.ok r, d) ∧
        w' = { w with database := d, saved := d } := by
  unfold databaseJobs
  rw [runOn_bind, runOn_get]
  exact runOn_unit_query_eq_ok

/-- **The database keeps the promise.** -/
theorem files_databaseJobs : databaseJobs.Files filing where
  counts h := h.1.1
  sound_save _ _ := trivial
  sound_claim _ _ := trivial
  filed_save {u key id j} h hj := by
    have hkeeps : Keeps (fun w : Studio => w.database.Filed key id ∧ w.saved.Filed key id)
        (databaseJobs.save j) :=
      keeps_get.bind fun w => (keeps_unit (Database.yields_saveJob hj)).bind fun _ => keeps_pure _
    exact keeps_iff.1 hkeeps u h
  filed_claim {u key id j} h hj := by
    have hkeeps : Keeps (fun w : Studio => w.database.Filed key id ∧ w.saved.Filed key id)
        (databaseJobs.claim j) :=
      keeps_get.bind fun w => keeps_unit (Database.yields_claimJob hj)
    exact keeps_iff.1 hkeeps u h
  taken {u key id j} h hkey := by
    obtain ⟨stored, hstored, hid⟩ := h.1.claimJob u.clock hkey
    exact ⟨stored, _, runOn_claim_eq_ok.2 ⟨u.database, hstored, rfl⟩, hid⟩
  recorded {u t key j stored} _ hkey h := by
    obtain ⟨d, hd, rfl⟩ := runOn_claim_eq_ok.1 h
    obtain ⟨hid, hfiled⟩ := (Database.filed_of_claimJob hkey).of_ok trivial hd rfl
    exact ⟨hid, hfiled, hfiled⟩

end Studio

end Mixtape
