import Mixtape.Proofs.Jobs.Fleet
import Mixtape.Proofs.Jobs.Release
import Mixtape.Proofs.Jobs.Standing

/-!
# What a runner tells of jobs

A runner tells of a job what its own record says, and asks the store only about jobs it has no record of.
Its own jobs' records are written to the store whenever they change, so as long as the store has refused
nothing they tell what is recorded. But a runner that is handed back a job of another runner, because the
job's key is taken, files the record it is handed and never looks again: it goes on to tell where the job
stood at that time. So what it tells is what is recorded exactly when the job stands there still, or again.

## Main definitions

* `JobSystem.adopted` — where a job stood when a runner was handed it.
* `JobSystem.Current` — what runners tell, in terms of the store.

## Main results

* `current_move`, `current_moved` — **what one move, and every history, preserves.**
* `stands_iff` — **when a runner tells where a job stands.**
* `not_stands_adopted` — a job that was handed back while it was at work.
-/

namespace Mixtape
namespace JobSystem

open Action (ok_of_noting)

variable {σ : Type} {store : JobStore σ} {Sound : σ → Prop} {s s' : JobSystem (σ × Bool)}
  {id : String} {r : Nat}

/-- What is asked about a new job, if the store refuses nothing. -/
theorem asked_of_noting (hstore : store.Tells Sound) {u t : σ × Bool}
    (hsound : u.2 = true → Sound u.1) {j : Job}
    {a : Except Failure (Job × Bool)} (h : (asking store.noting j).runOn u = (a, t))
    (hnote : t.2 = true) : u.2 = true ∧ Sound t.1 ∧ ∃ stored isNew, a = .ok (stored, isNew) ∧
      if isNew = true then
        store.standing t.1 = Function.update (store.standing u.1) j.id (some j.status)
      else store.standing t.1 = store.standing u.1 ∧
        store.standing u.1 stored.id = some stored.status := by
  unfold asking at h
  split at h
  · obtain ⟨hbefore, ⟨stored, isNew⟩, rfl, hclaim⟩ := ok_of_noting h hnote
    have hsound := hsound hbefore
    have hsound' := hstore.sound_claim j hsound
    rw [hclaim] at hsound'
    refine ⟨hbefore, hsound', stored, isNew, rfl, ?_⟩
    cases isNew with
    | true => exact hstore.claimed hsound hclaim
    | false => exact hstore.handed hsound hclaim
  · rw [Action.runOn_bind] at h
    rcases hsave : (store.noting.save j).runOn u with ⟨f | _, t'⟩
    · rw [hsave] at h
      obtain ⟨rfl, rfl⟩ := Prod.mk.inj h
      obtain ⟨-, b, hb, -⟩ := ok_of_noting hsave hnote
      cases hb
    · rw [hsave] at h
      obtain ⟨rfl, rfl⟩ := Prod.mk.inj h
      obtain ⟨hbefore, b, hb, hsaved⟩ := ok_of_noting hsave hnote
      have hsound := hsound hbefore
      have hsound' := hstore.sound_save j hsound
      rw [hsaved] at hsound'
      exact ⟨hbefore, hsound', j, true, rfl, hstore.saved hsound hsaved⟩

/-! ### What runners tell -/

/-- What runners tell of jobs, in terms of the store. A job of another runner that was handed to a runner
stands, for that runner, where it stood then; every other job it has a record of is its own. -/
structure Current (store : JobStore σ) (Sound : σ → Prop) (seen : Nat → String → Option JobStatus)
    (s : JobSystem (σ × Bool)) : Prop where
  /-- The store is in order. -/
  sound : Sound s.shared.1
  /-- A record tells where the job stood when it was handed, or else where it stands. -/
  stands : ∀ r id j, s.record r id = some j →
    j.id = id ∧ some j.status = (seen r id).or (store.standing s.shared.1 id)
  /-- A job that was handed to a runner has a record there. -/
  known : ∀ r id, s.record r id = none → seen r id = none
  /-- A job is one runner's own. -/
  owner : ∀ r r' id, s.record r id ≠ none → s.record r' id ≠ none → seen r id = none →
    seen r' id = none → r = r'
  /-- A task is that of a runner's own job. -/
  tasks : ∀ t ∈ s.live, seen t.runner t.id = none ∧ s.record t.runner t.id ≠ none
  /-- Jobs that are still to come are recorded nowhere. -/
  fresh : ∀ n, s.made < n →
    store.standing s.shared.1 (jobId n) = none ∧ ∀ r, s.record r (jobId n) = none

variable {seen : Nat → String → Option JobStatus}

/-- What changes neither records nor where jobs stand. -/
theorem Current.mono (h : Current store Sound seen s) (hsound : Sound s'.shared.1)
    (hstanding : store.standing s'.shared.1 = store.standing s.shared.1)
    (hrecord : ∀ r i, s'.record r i = s.record r i) (hmade : s.made ≤ s'.made)
    (hlive : ∀ t' ∈ s'.live, ∃ t ∈ s.live, t'.runner = t.runner ∧ t'.id = t.id) :
    Current store Sound seen s' where
  sound := hsound
  stands r i j hj := by
    rw [hrecord] at hj
    rw [hstanding]
    exact h.stands r i j hj
  known r i hi := h.known r i (hrecord r i ▸ hi)
  owner r r' i hr hr' := by
    rw [hrecord] at hr hr'
    exact h.owner r r' i hr hr'
  tasks t' ht' := by
    obtain ⟨t, ht, hrunner, hid⟩ := hlive t' ht'
    rw [hrunner, hid, hrecord]
    exact h.tasks t ht
  fresh n hn := by
    obtain ⟨hnone, hnew⟩ := h.fresh n (Nat.lt_of_le_of_lt hmade hn)
    exact ⟨hstanding ▸ hnone, fun r => (hrecord r _).trans (hnew r)⟩

theorem Current.calm (h : Current store Sound seen s) (hc : Calm s s') :
    Current store Sound seen s' := by
  refine h.mono (hc.shared ▸ h.sound) (by rw [hc.shared]) hc.record hc.made.ge fun t' ht' => ?_
  obtain ⟨t, ht, hrunner, hid, -⟩ := hc.works t' ht'
  exact ⟨t, ht, hrunner, hid⟩

/-- A record is changed: the job stands where it stood, or it is the runner's own and stands where the
record says. -/
theorem Current.put (h : Current store Sound seen s) {j j' : Job} (hj : s.record r id = some j)
    (hid : j'.id = id) (hrecord : ∀ r' i, s'.record r' i =
      if r' = r ∧ i = id then some j' else s.record r' i)
    (hstands : (j'.status = j.status ∧ store.standing s'.shared.1 = store.standing s.shared.1) ∨
      seen r id = none ∧ store.standing s'.shared.1 =
        Function.update (store.standing s.shared.1) id (some j'.status))
    (hsound : Sound s'.shared.1) (hlive : s'.live = s.live) (hmade : s'.made = s.made) :
    Current store Sound seen s' := by
  -- the same jobs have records
  have hsome : ∀ r' i, s'.record r' i = none ↔ s.record r' i = none := by
    intro r' i
    rw [hrecord]
    split
    · rename_i heq
      obtain ⟨rfl, rfl⟩ := heq
      simp [hj]
    · exact .rfl
  refine ⟨hsound, ?_, ?_, ?_, ?_, ?_⟩
  · intro r' i k hk
    rw [hrecord] at hk
    split at hk
    · rename_i heq
      obtain ⟨rfl, rfl⟩ := heq
      obtain rfl := Option.some.inj hk
      refine ⟨hid, ?_⟩
      rcases hstands with ⟨hstatus, hsame⟩ | ⟨hown, hnew⟩
      · rw [hstatus, hsame]
        exact (h.stands _ _ j hj).2
      · rw [hown, hnew, Function.update_self, Option.none_or]
    · rename_i hne
      refine ⟨(h.stands r' i k hk).1, ?_⟩
      rcases hstands with ⟨-, hsame⟩ | ⟨hown, hnew⟩
      · rw [hsame]
        exact (h.stands r' i k hk).2
      · rw [hnew]
        by_cases hi : i = id
        · subst hi
          -- another runner with a record of the job was handed it
          have hr : r' ≠ r := fun hr => hne ⟨hr, rfl⟩
          have hseen : seen r' i ≠ none := fun hnone =>
            hr (h.owner r' r i (by rw [hk]; simp) (by rw [hj]; simp) hnone hown)
          obtain ⟨st, hst⟩ := Option.ne_none_iff_exists'.1 hseen
          have := (h.stands r' i k hk).2
          rw [hst] at this ⊢
          exact this
        · rw [Function.update_of_ne hi]
          exact (h.stands r' i k hk).2
  · exact fun r' i hi => h.known r' i ((hsome r' i).1 hi)
  · intro r₁ r₂ i h₁ h₂
    exact h.owner r₁ r₂ i ((hsome r₁ i).not.1 h₁) ((hsome r₂ i).not.1 h₂)
  · intro t ht
    rw [hlive] at ht
    exact ⟨(h.tasks t ht).1, (hsome _ _).not.2 (h.tasks t ht).2⟩
  · intro n hn
    rw [hmade] at hn
    obtain ⟨hnone, hnew⟩ := h.fresh n hn
    refine ⟨?_, fun r' => (hsome r' _).2 (hnew r')⟩
    rcases hstands with ⟨-, hsame⟩ | ⟨-, hupdate⟩
    · rw [hsame]
      exact hnone
    · rw [hupdate, Function.update_of_ne]
      · exact hnone
      · rintro rfl
        rw [hnew r] at hj
        cases hj

theorem current_progress (h : Current store Sound seen s) (r : Nat) (id : String) (p : Progress) :
    Current store Sound seen (s.progress r id p) := by
  by_cases hlive : ∃ j, s.record r id = some j ∧ j.status.isTerminal = false
  · obtain ⟨j, hj, hlive⟩ := hlive
    have hid : (j.withProgress p).id = id := (h.stands r id j hj).1
    rw [progress_of_live hj hlive]
    refine h.put hj hid ?_ (.inl ⟨rfl, rfl⟩) h.sound rfl rfl
    exact record_put (lt_of_record hj) fun _ => rfl
  · rw [progress_of_ended (fun j hj => by simpa using fun hf => hlive ⟨j, hj, hf⟩) p]
    exact h

/-- A runner's own job takes a step of its life, and the store refuses nothing. -/
theorem current_step (hstore : store.Tells Sound) {g : Job → Timestamp → Job}
    (hg : ∀ j now, (g j now).id = j.id)
    (h : s.shared.2 = true → Current store Sound seen s ∧ seen r id = none ∧
      s.record r id ≠ none) (hnote : (s.step store.noting r id g).shared.2 = true) :
    Current store Sound seen (s.step store.noting r id g) ∧ seen r id = none ∧
      (s.step store.noting r id g).record r id ≠ none := by
  cases hj : s.record r id with
  | none =>
    have hsame : s.step store.noting r id g = s := by
      unfold JobSystem.step
      change (s.runner r).jobs.find? id = none at hj
      rw [hj]
    rw [hsame] at hnote ⊢
    exact h hnote
  | some j =>
    rw [step_of_record hj] at hnote ⊢
    generalize hj' : g j (store.noting.now s.shared) = j' at hnote ⊢
    rcases hsave : (store.noting.save j').runOn s.shared with ⟨a, t⟩
    have hshared : (s.transition store.noting r j').shared = t := congrArg Prod.snd hsave
    rw [hshared] at hnote
    obtain ⟨hbefore, b, -, hsaved⟩ := ok_of_noting hsave hnote
    obtain ⟨hcurrent, hown, -⟩ := h hbefore
    have hid : j'.id = id := hj' ▸ (hg j _).trans (hcurrent.stands r id j hj).1
    have hrecord := record_transition store.noting (lt_of_record hj) j'
    rw [hid] at hrecord
    have hsound := hstore.sound_save j' hcurrent.sound
    rw [hsaved] at hsound
    have hstanding := hstore.saved hcurrent.sound hsaved
    rw [hid, ← hshared] at hstanding
    refine ⟨hcurrent.put hj hid hrecord (.inr ⟨hown, hstanding⟩) (hshared ▸ hsound) rfl rfl, hown, ?_⟩
    rw [hrecord, if_pos ⟨rfl, rfl⟩]
    exact Option.some_ne_none j'

/-- **A task that goes on**, and the store refuses nothing. -/
theorem current_turn (hstore : store.Tells Sound) (hworks : ∀ t ∈ s.live, ∀ u,
      t.work.Within (store.Spared Sound) u) (h : s.shared.2 = true → Current store Sound seen s)
    (n : Nat) (hnote : (s.turn store.noting n).shared.2 = true) :
    Current store Sound seen (s.turn store.noting n) := by
  cases ht : s.ready[n]? with
  | none =>
    rw [turn_of_none ht] at hnote ⊢
    exact h hnote
  | some t =>
    have hlive : t ∈ s.live := mem_live ht
    -- on the way the job is the runner's own
    let I (v : JobSystem (σ × Bool)) : Prop := v.shared.2 = true →
      Current store Sound seen v ∧ seen t.runner t.id = none ∧ v.record t.runner t.id ≠ none
    have hfirst : I { s with ready := s.ready.eraseIdx n } := by
      intro hnote
      have hs := h hnote
      refine ⟨hs.mono hs.sound rfl (fun _ _ => rfl) (Nat.le_refl _) fun u hu => ?_, hs.tasks t hlive⟩
      exact ⟨u, mem_live_of_eraseIdx hu, rfl, rfl⟩
    have hcarried : Carried (store.Spared Sound) t.runner t.id I := by
      refine ⟨?_, ?_, ?_⟩
      · intro v p hv hnote
        rw [shared_progress] at hnote
        obtain ⟨hcurrent, hown, hknown⟩ := hv hnote
        exact ⟨current_progress hcurrent _ _ p, hown, record_progress_eq_none.not.2 hknown⟩
      · intro v gate hv hnote
        have hc := calm_noteGate v gate
        rw [hc.shared] at hnote
        obtain ⟨hcurrent, hown, hknown⟩ := hv hnote
        exact ⟨hcurrent.calm hc, hown, hc.record _ _ ▸ hknown⟩
      · rintro v u ⟨hsame, hsound, hstanding⟩ hv hnote
        obtain ⟨hcurrent, hown, hknown⟩ := hv (hsame ▸ hnote)
        refine ⟨hcurrent.mono (hsound hcurrent.sound) hstanding (fun _ _ => rfl) (Nat.le_refl _) ?_,
          hown, hknown⟩
        exact fun u hu => ⟨u, hu, rfl, rfl⟩
    refine turn_of (E := fun _ v => v.shared.2 = true → Current store Sound seen v) ht rfl hcarried
      (hworks t hlive) (fun _ => hfirst) ?_ ?_ ?_ ?_ hnote
    · exact fun _ _ hnote => current_step hstore (fun _ _ => rfl) hfirst hnote
    · exact fun _ _ hnote => (hfirst hnote).1
    · intro v gate next _ hv hnote
      obtain ⟨hcurrent, hown, hknown⟩ := hv hnote
      refine ⟨hcurrent.sound, hcurrent.stands, hcurrent.known, hcurrent.owner, fun u hu => ?_,
        hcurrent.fresh⟩
      rcases eq_or_mem_of_blocked hu with rfl | hu
      · exact ⟨hown, hknown⟩
      · exact hcurrent.tasks u hu
    · intro v ending hv hnote
      have hstep := (current_step hstore (endsLife_closing ending).id hv hnote).1
      refine hstep.mono hstep.sound rfl (record_cleanUp _ _ _) (Nat.le_refl _) ?_
      exact fun u hu => ⟨u, hu, rfl, rfl⟩

/-- A runner files the record of a job that it is handed. -/
theorem Current.adopt (h : Current store Sound seen s) (hnone : s.record r id = none) {j : Job}
    (hid : j.id = id) (hj : store.standing s.shared.1 id = some j.status)
    (hrecord : ∀ r' i, s'.record r' i = if r' = r ∧ i = id then some j else s.record r' i)
    (hshared : s'.shared = s.shared) (hlive : s'.live = s.live) (hmade : s'.made = s.made)
    {seen' : Nat → String → Option JobStatus}
    (hseen : ∀ r' i, seen' r' i = if r' = r ∧ i = id then some j.status else seen r' i) :
    Current store Sound seen' s' := by
  refine ⟨hshared ▸ h.sound, ?_, ?_, ?_, ?_, ?_⟩
  · intro r' i k hk
    rw [hrecord] at hk
    rw [hseen]
    split at hk
    · rename_i heq
      obtain rfl := Option.some.inj hk
      rw [if_pos heq]
      exact ⟨hid.trans heq.2.symm, rfl⟩
    · rename_i hne
      rw [if_neg hne, hshared]
      exact h.stands r' i k hk
  · intro r' i hi
    rw [hrecord] at hi
    rw [hseen]
    split at hi
    · cases hi
    · rename_i hne
      rw [if_neg hne]
      exact h.known r' i hi
  · intro r₁ r₂ i h₁ h₂ hseen₁ hseen₂
    rw [hseen] at hseen₁ hseen₂
    split at hseen₁
    · cases hseen₁
    split at hseen₂
    · cases hseen₂
    rename_i hne₁ hne₂
    rw [hrecord, if_neg hne₁] at h₁
    rw [hrecord, if_neg hne₂] at h₂
    exact h.owner r₁ r₂ i h₁ h₂ hseen₁ hseen₂
  · intro t ht
    obtain ⟨hown, hknown⟩ := h.tasks t (hlive ▸ ht)
    have hne : ¬(t.runner = r ∧ t.id = id) := by
      rintro ⟨hr, hi⟩
      rw [hr, hi] at hknown
      exact hknown hnone
    rw [hseen, hrecord, if_neg hne, if_neg hne]
    exact ⟨hown, hknown⟩
  · intro n hn
    obtain ⟨hstanding, hnew⟩ := h.fresh n (hmade ▸ hn)
    refine ⟨hshared ▸ hstanding, fun r' => ?_⟩
    rw [hrecord, if_neg]
    · exact hnew r'
    · rintro ⟨-, rfl⟩
      rw [hstanding] at hj
      cases hj

/-- A runner takes a new job to work. -/
theorem Current.take (h : Current store Sound seen s) {j : Job} (hid : j.id = jobId (s.made + 1))
    (hrecord : ∀ r' i, s'.record r' i = if r' = r ∧ i = j.id then some j else s.record r' i)
    (hsound : Sound s'.shared.1) (hstanding : store.standing s'.shared.1 =
      Function.update (store.standing s.shared.1) j.id (some j.status))
    (hlive : ∀ t ∈ s'.live, t.runner = r ∧ t.id = j.id ∨ t ∈ s.live) (hmade : s'.made = s.made + 1) :
    Current store Sound seen s' := by
  -- nothing is known of the job before
  have hnone : ∀ r', s.record r' j.id = none := hid ▸ (h.fresh _ (Nat.lt_succ_self _)).2
  refine ⟨hsound, ?_, ?_, ?_, ?_, ?_⟩
  · intro r' i k hk
    rw [hrecord] at hk
    rw [hstanding]
    split at hk
    · rename_i heq
      obtain ⟨rfl, rfl⟩ := heq
      obtain rfl := Option.some.inj hk
      rw [h.known _ _ (hnone _), Function.update_self]
      exact ⟨rfl, rfl⟩
    · rename_i hne
      have hi : i ≠ j.id := by
        rintro rfl
        rw [hnone r'] at hk
        cases hk
      rw [Function.update_of_ne hi]
      exact h.stands r' i k hk
  · intro r' i hi
    rw [hrecord] at hi
    split at hi
    · cases hi
    · exact h.known r' i hi
  · intro r₁ r₂ i h₁ h₂ hseen₁ hseen₂
    rw [hrecord] at h₁ h₂
    by_cases hi : i = j.id
    · subst hi
      rw [hnone, ite_ne_right_iff] at h₁ h₂
      exact h₁.1.1.trans h₂.1.1.symm
    · rw [if_neg fun heq => hi heq.2] at h₁ h₂
      exact h.owner r₁ r₂ i h₁ h₂ hseen₁ hseen₂
  · intro t ht
    rcases hlive t ht with ⟨hr, hi⟩ | ht
    · rw [hr, hi, hrecord, if_pos ⟨rfl, rfl⟩]
      exact ⟨h.known r j.id (hnone r), Option.some_ne_none j⟩
    · obtain ⟨hown, hknown⟩ := h.tasks t ht
      refine ⟨hown, ?_⟩
      rw [hrecord]
      split
      · exact Option.some_ne_none j
      · exact hknown
  · intro n hn
    rw [hmade] at hn
    obtain ⟨hold, hnew⟩ := h.fresh n (Nat.lt_of_succ_lt hn)
    have hne : jobId n ≠ j.id := fun heq => by
      have := jobId_injective (heq.trans hid)
      omega
    rw [hstanding, Function.update_of_ne hne]
    exact ⟨hold, fun r' => by rw [hrecord, if_neg fun heq => hne heq.2, hnew]⟩

/-! ### Jobs that are handed back -/

/-- A runner is handed a job of which it had no record: it has one afterwards, and no task was made. -/
def Move.adopts (store : JobStore σ) (r : Nat) (id : String) (s : JobSystem σ) : Move σ → Bool
  | .enqueue r' policy o =>
    let s' := (JobSystem.enqueue store policy o s r').2
    r' == r && (s.record r id).isNone && (s'.record r id).isSome && s'.ready.length == s.ready.length
  | _ => false

/-- Where a job stands for a runner that is handed it in a move. -/
def Move.adopted (store : JobStore σ) (s : JobSystem σ) (m : Move σ) (r : Nat) (id : String) :
    Option JobStatus :=
  if m.adopts store r id s then store.standing s.shared id else none

/-- Where a job stood when a runner was handed it in moves, if it was. -/
def adopted (store : JobStore σ) (r : Nat) (id : String) :
    List (Move σ) → JobSystem σ → Option JobStatus
  | [], _ => none
  | m :: moves, s => (m.adopted store s r id).or (adopted store r id moves (m.apply store s))

/-- What is handed where, together with what was handed before. -/
def Move.handing (store : JobStore σ) (s : JobSystem σ) (m : Move σ)
    (seen : Nat → String → Option JobStatus) (r : Nat) (id : String) : Option JobStatus :=
  (seen r id).or (m.adopted store s r id)

theorem handing_eq {m : Move σ} {s : JobSystem σ} {store : JobStore σ}
    (h : ∀ r id, m.adopts store r id s = false) : m.handing store s seen = seen := by
  funext r id
  unfold Move.handing Move.adopted
  rw [h, if_neg Bool.false_ne_true, Option.or_none]

/-- What an enqueue hands to a runner. -/
theorem current_enqueue (hstore : store.Tells Sound) (hr : r < s.runners.length)
    (h : s.shared.2 = true → Current store Sound seen s) (policy : ConflictPolicy)
    (o : Order (σ × Bool)) (hnote : (enqueue store.noting policy o s r).2.shared.2 = true) :
    Current store Sound ((Move.enqueue r policy o).handing store.noting s seen)
      (enqueue store.noting policy o s r).2 := by
  have hadopts : ∀ r' id, (Move.enqueue r policy o).adopts store.noting r' id s =
      (r == r' && (s.record r' id).isNone &&
        ((enqueue store.noting policy o s r).2.record r' id).isSome &&
        (enqueue store.noting policy o s r).2.ready.length == s.ready.length) := fun _ _ => rfl
  have hc := enqueue_cases store.noting policy o s r
  generalize enqueue store.noting policy o s r = result at hc hnote hadopts ⊢
  cases hc with
  | joins held busy join =>
    rw [handing_eq fun r' id => ?_]
    · exact h hnote
    · rw [hadopts]
      cases s.record r' id <;> simp
  | refused held busy reject =>
    rw [handing_eq fun r' id => ?_]
    · exact h hnote
    · rw [hadopts]
      cases s.record r' id <;> simp
  | fails free f t asked =>
    obtain ⟨-, -, stored, isNew, hok, -⟩ :=
      asked_of_noting hstore (fun hn => (h hn).sound) asked hnote
    cases hok
  | hands free stored t asked =>
    obtain ⟨hbefore, hsound, _, _, hok, hstands⟩ :=
      asked_of_noting hstore (fun hn => (h hn).sound) asked hnote
    cases hok
    obtain ⟨hsame, hstanding⟩ := hstands
    have hs := h hbefore
    -- the system after the store was asked
    have hasked : Current store Sound seen { s with made := s.made + 1, shared := t } := by
      refine hs.mono hsound hsame (fun _ _ => rfl) (Nat.le_succ _) ?_
      exact fun u hu => ⟨u, hu, rfl, rfl⟩
    cases hj : s.record r stored.id with
    | some j =>
      -- the runner keeps the record that it has
      have hrecord := record_putNew_of_known (s := { s with made := s.made + 1, shared := t })
        (f := fun n => { n with jobs := n.jobs.putNew stored.id stored }) hj fun _ => rfl
      rw [handing_eq fun r' id => ?_]
      · refine hasked.mono hsound rfl hrecord (Nat.le_refl _) ?_
        exact fun u hu => ⟨u, hu, rfl, rfl⟩
      · rw [hadopts, hrecord]
        change (r == r' && (s.record r' id).isNone && (s.record r' id).isSome && _) = false
        cases s.record r' id <;> simp
    | none =>
      have hrecord := record_putNew_of_new (s := { s with made := s.made + 1, shared := t })
        (f := fun n => { n with jobs := n.jobs.putNew stored.id stored }) hr hj fun _ => rfl
      refine hasked.adopt hj rfl (hsame ▸ hstanding) hrecord rfl rfl rfl fun r' i => ?_
      unfold Move.handing Move.adopted
      rw [hadopts, hrecord]
      change (seen r' i).or (if (r == r' && (s.record r' i).isNone &&
        (if r' = r ∧ i = stored.id then some stored else s.record r' i).isSome && _) = true
          then store.standing s.shared.1 i else none) = _
      by_cases heq : r' = r ∧ i = stored.id
      · obtain ⟨rfl, rfl⟩ := heq
        simp [hs.known _ _ hj, hj, hstanding, updateRunner]
      · rw [if_neg heq, if_neg heq]
        cases s.record r' i <;> simp
  | takes free stored t asked =>
    obtain ⟨hbefore, hsound, _, _, hok, hstands⟩ :=
      asked_of_noting hstore (fun hn => (h hn).sound) asked hnote
    cases hok
    have hs := h hbefore
    rw [handing_eq fun r' id => ?_]
    · refine hs.take (r := r) (j := o.job (jobId (s.made + 1)) (store.noting.now s.shared)) rfl ?_
        hsound hstands ?_ rfl
      · exact record_put (s := { s with made := s.made + 1, shared := t }) hr fun _ => rfl
      · intro u hu
        rcases eq_or_mem_of_begin hu with rfl | hu
        · exact .inl ⟨rfl, rfl⟩
        · exact .inr hu
    · rw [hadopts]
      have hready : (begin { s with made := s.made + 1, shared := t }
          (o.job (jobId (s.made + 1)) (store.noting.now s.shared)) o.work r).ready.length =
            s.ready.length + 1 := List.length_append ..
      simp [hready]

/-- **What one move preserves**, as long as the store has refused nothing. -/
theorem current_move (hstore : store.Tells Sound) (hworks : ∀ t ∈ s.live, ∀ u,
      t.work.Within (store.Spared Sound) u) (h : s.shared.2 = true → Current store Sound seen s)
    {m : Move (σ × Bool)} (hm : m.Within (store.Spared Sound) s)
    (hnote : (m.apply store.noting s).shared.2 = true) :
    Current store Sound (m.handing store.noting s seen) (m.apply store.noting s) := by
  have hcalm : ∀ {v : JobSystem (σ × Bool)}, Calm s v → v.shared.2 = true →
      Current store Sound seen v := fun hc hv => (h (hc.shared ▸ hv)).calm hc
  cases m with
  | enqueue r policy o => exact current_enqueue hstore hm.1 h policy o hnote
  | cancel r id =>
    rw [handing_eq fun _ _ => rfl]
    exact hcalm (calm_cancel s id r) hnote
  | abort r id =>
    rw [handing_eq fun _ _ => rfl]
    exact hcalm (calm_abort s id r) hnote
  | shutdown r =>
    rw [handing_eq fun _ _ => rfl]
    exact hcalm (calm_shutdown s r) hnote
  | report r id p =>
    rw [handing_eq fun _ _ => rfl]
    change (s.progress r id p).shared.2 = true at hnote
    rw [shared_progress] at hnote
    exact current_progress (h hnote) r id p
  | release gate =>
    rw [handing_eq fun _ _ => rfl]
    exact hcalm (calm_release s gate) hnote
  | outside shared =>
    rw [handing_eq fun _ _ => rfl]
    obtain ⟨hsame, hsound, hstanding⟩ := hm
    have hs := h (hsame ▸ hnote)
    exact hs.mono (hsound hs.sound) hstanding (fun _ _ => rfl) (Nat.le_refl _)
      fun u hu => ⟨u, hu, rfl, rfl⟩
  | turn n =>
    rw [handing_eq fun _ _ => rfl]
    exact current_turn hstore hworks h n hnote
  | restart =>
    rw [handing_eq fun _ _ => rfl]
    have hs := h hnote
    exact hs.mono hs.sound rfl (record_restart s) (Nat.le_refl _) fun u hu => ⟨u, hu, rfl, rfl⟩

/-- **What every history preserves**, as long as the store has refused nothing. -/
theorem current_moved (hstore : store.Tells Sound) {moves : List (Move (σ × Bool))}
    (hworks : ∀ t ∈ s.live, ∀ u, t.work.Within (store.Spared Sound) u)
    (h : s.shared.2 = true → Current store Sound seen s)
    (hm : Admits store.noting (store.Spared Sound) moves s)
    (hnote : (moved store.noting moves s).shared.2 = true) :
    Current store Sound (fun r id => (seen r id).or (adopted store.noting r id moves s))
      (moved store.noting moves s) := by
  induction moves generalizing s seen with
  | nil =>
    simp only [adopted, Option.or_none]
    exact h hnote
  | cons m moves ih =>
    have hrest := ih (works_move store.noting hworks hm.1)
      (fun hfirst => current_move hstore hworks h hm.1 hfirst) hm.2 hnote
    simp only [Move.handing, Option.or_assoc] at hrest
    exact hrest

/-- In the beginning there are no records. -/
theorem record_start (shared : σ) (r : Nat) (id : String) :
    ({ shared } : JobSystem σ).record r id = none := by
  unfold record JobSystem.runner
  match r with
  | 0 => rfl
  | _ + 1 => rfl

/-- **A runner tells where a job stands just if it stands there still, or again, where it stood when the
runner was handed it.** Of a job that it was never handed it always does. So it is in every history in
which the store has refused nothing. -/
theorem stands_iff (hstore : store.Tells Sound) {shared : σ} (hsound : Sound shared)
    (hfresh : ∀ n, store.standing shared (jobId n) = none) {moves : List (Move (σ × Bool))}
    (hmoves : Admits store.noting (store.Spared Sound) moves { shared := (shared, true) })
    (hs : s = moved store.noting moves { shared := (shared, true) }) (hnote : s.shared.2 = true)
    {st : JobStatus} (hst : store.standing s.shared.1 id = some st) {j : Job}
    (hget : get store.noting id s r = .ok (some j)) :
    j.status = st ↔
      ∀ st₀, adopted store.noting r id moves { shared := (shared, true) } = some st₀ → st₀ = st := by
  have hcurrent : Current store Sound
      (fun r id => adopted store.noting r id moves { shared := (shared, true) }) s := by
    have hstart : Current store Sound (fun _ _ => none)
        ({ shared := (shared, true) } : JobSystem (σ × Bool)) := by
      have hnone : ∀ r id, ({ shared := (shared, true) } : JobSystem (σ × Bool)).record r id = none :=
        fun r id => record_start (shared, true) r id
      refine ⟨hsound, fun r id j hj => ?_, fun _ _ _ => rfl, fun r r' id hr => ?_, nofun,
        fun n _ => ⟨hfresh n, fun r => hnone r _⟩⟩
      · rw [hnone] at hj
        cases hj
      · exact absurd (hnone r id) hr
    subst hs
    exact current_moved hstore (fun _ ht => absurd ht List.not_mem_nil) (fun _ => hstart) hmoves hnote
  cases hj : s.record r id with
  | none =>
    -- the store is asked
    rw [hcurrent.known r id hj]
    refine iff_of_true ?_ nofun
    unfold get at hget
    change (s.runner r).jobs.find? id = none at hj
    rw [hj] at hget
    change ((store.noting.get id).runOn s.shared).1 = _ at hget
    unfold JobStore.noting Action.beside at hget
    rw [Action.runOn_within] at hget
    unfold JobStore.standing at hst
    rw [hget] at hst
    exact Option.some.inj hst
  | some k =>
    obtain rfl : k = j := by
      unfold get at hget
      change (s.runner r).jobs.find? id = some k at hj
      rw [hj] at hget
      exact Option.some.inj (Except.ok.inj hget)
    have hstands := (hcurrent.stands r id k hj).2
    rw [hst] at hstands
    cases hadopted : adopted store.noting r id moves { shared := (shared, true) } with
    | none =>
      rw [hadopted] at hstands
      exact iff_of_true (Option.some.inj hstands) nofun
    | some st₀ =>
      rw [hadopted] at hstands
      rw [Option.some.inj hstands]
      simp

/-- A job with a key, over records in memory. -/
def keyed (work : Work (MemoryJobs × Bool)) : Order (MemoryJobs × Bool) where
  kind := .libraryIntake
  target := "library"
  work := work
  key := some "intake"

/-- A job is at work when a new runner is handed it. -/
def handedOver : List (Move (MemoryJobs × Bool)) :=
  [.enqueue 0 .join (keyed (.await "g" (.done {}))), .turn 0, .restart,
    .enqueue 1 .join (keyed (.done {}))]

/-- As long as the job is at work, the new runner tells so. -/
theorem stands_handedOver : ∃ s j, s = moved plain.noting handedOver { shared := ({}, true) } ∧
    plain.standing s.shared.1 (jobId 1) = some .active ∧
    get plain.noting (jobId 1) s 1 = .ok (some j) ∧ j.status = .active := by
  have hmoves : Admits plain.noting (plain.Spared MemoryJobs.Sound) handedOver
      { shared := ({}, true) } :=
    ⟨⟨by decide, fun _ _ => trivial⟩, trivial, trivial, ⟨by decide, fun _ => trivial⟩, trivial⟩
  have htells : plain.Tells MemoryJobs.Sound := MemoryJobs.tells_store fun _ _ => rfl
  have hst : plain.standing (moved plain.noting handedOver { shared := ({}, true) }).shared.1
      (jobId 1) = some .active := rfl
  refine ⟨_, _, rfl, hst, rfl, ?_⟩
  refine (stands_iff htells MemoryJobs.sound_empty (fun _ => rfl) hmoves rfl rfl hst
    (r := 1) rfl).2 fun st₀ hst₀ => ?_
  exact (Option.some.inj hst₀).symm

/-- When the job has ended, the new runner tells that it is at work. -/
theorem not_stands_adopted : ∃ moves s, moves = handedOver ++ [.release "g", .turn 0] ∧
    s = moved plain.noting moves { shared := ({}, true) } ∧
    Admits plain.noting (plain.Spared MemoryJobs.Sound) moves { shared := ({}, true) } ∧
    s.shared.2 = true ∧ plain.standing s.shared.1 (jobId 1) = some .completed ∧
    ∃ j, get plain.noting (jobId 1) s 1 = .ok (some j) ∧ j.status = .active := by
  refine ⟨_, _, rfl, rfl, ?_, rfl, rfl, _, rfl, rfl⟩
  exact ⟨⟨by decide, fun _ _ => trivial⟩, trivial, trivial, ⟨by decide, fun _ => trivial⟩, trivial,
    trivial, trivial⟩

end JobSystem

end Mixtape
