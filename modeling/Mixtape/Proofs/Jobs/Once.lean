import Mathlib.Data.List.Perm.Subperm
import Mixtape.Proofs.Jobs.Fleet
import Mixtape.Proofs.Jobs.Keys

/-!
# One start for each key

Runners side by side over one store in memory have nothing else in common, each with its own records and
its own busy targets. What keeps them from doing the same work twice is the store alone: a job is taken
to work only if its claim of the key is the first one, and from then on the key is the job's. So of all
enqueues with a key, whichever runners they are asked of, at most one is taken, and its work begins at
most once. Every other one starts nothing: it joins the job at work for the target or is refused, the
store fails, or it is handed the job that was recorded.

## Main definitions

* `JobSystem.takenUnder store key moves s` — the jobs that are taken in moves by enqueues with a key.
* `JobSystem.Declined` — what is handed back if no work is started.

## Main results

* `takenUnder_eq_nil` — once a job is filed under a key, no other is taken with it.
* `started_once` — **of all enqueues with a key at most one is started, and the others are declined.**
-/

namespace Mixtape
namespace JobSystem

variable {σ : Type} {store : JobStore σ} {F : Filing σ} {s : JobSystem σ} {id key : String}

/-- The jobs that are taken in a move with a key: those of the tasks that an enqueue with the key
adds. -/
def Move.takes (store : JobStore σ) (key : String) (s : JobSystem σ) : Move σ → List String
  | .enqueue r policy o =>
    if o.key = some key then
      ((JobSystem.enqueue store policy o s r).2.ready.drop s.ready.length).map Task.id
    else []
  | _ => []

/-- The jobs that are taken in moves by enqueues with a key, in order. -/
def takenUnder (store : JobStore σ) (key : String) : List (Move σ) → JobSystem σ → List String
  | [], _ => []
  | m :: moves, s => m.takes store key s ++ takenUnder store key moves (m.apply store s)

theorem takes_enqueue {policy : ConflictPolicy} {o : Order σ} {r : Nat} (hkey : o.key = some key)
    {ready : List (Task σ)} (hready : (enqueue store policy o s r).2.ready = s.ready ++ ready) :
    (Move.enqueue r policy o).takes store key s = ready.map Task.id := by
  unfold Move.takes
  dsimp only
  rw [if_pos hkey, hready, List.drop_left]

/-! ### A key that is taken -/

/-- Once a job is filed under a key, an enqueue with the key takes none. -/
theorem takes_eq_nil (hF : store.Files F) (hfiled : F.Filed s.shared key id) (m : Move σ) :
    m.takes store key s = [] := by
  cases m with
  | enqueue r policy o =>
    by_cases hkey : o.key = some key
    · have hquiet : (enqueue store policy o s r).2.ready = s.ready ++ [] := by
        obtain ⟨stored, u, htaken, -⟩ :=
          hF.taken (j := o.job (jobId (s.made + 1)) (store.now s.shared)) hfiled hkey
        rw [← asking_of_key store (MemoryJobs.keyOf_eq_some.2 ⟨hkey, hF.counts hfiled⟩)] at htaken
        have hc := enqueue_cases store policy o s r
        rw [List.append_nil]
        generalize enqueue store policy o s r = result at hc ⊢
        cases hc with
        | joins held busy join => rfl
        | refused held busy reject => rfl
        | fails free f t asked => rfl
        | hands free stored' t asked => rfl
        | takes free stored' t asked =>
          -- the claim hands back the job that is filed
          rw [htaken] at asked
          cases asked
      exact takes_enqueue hkey hquiet
    · exact if_neg hkey
  | _ => rfl

theorem takenUnder_eq_nil (hF : store.Files F) {moves : List (Move σ)}
    (h : Steady F (F.Filed · key id) (fun i k => i = id → k = some key) s)
    (hm : Admits store F.Leaves moves s) : takenUnder store key moves s = [] := by
  induction moves generalizing s with
  | nil => rfl
  | cons m moves ih =>
    have hrest := ih (steady_move (kept_filed hF key id) h hm.1) hm.2
    unfold takenUnder
    rw [takes_eq_nil hF h.state m, hrest]
    rfl

/-- A move takes no job with a key, or it takes one that is filed under it from then on. -/
theorem takes_cases (hF : store.Files F) (hkey : key ≠ "") (h : Steady F F.Sound (fun _ _ => True) s)
    {m : Move σ} (hm : m.Within F.Leaves s) : m.takes store key s = [] ∨
      ∃ id, m.takes store key s = [id] ∧
        Steady F (F.Filed · key id) (fun i k => i = id → k = some key) (m.apply store s) := by
  cases m with
  | enqueue r policy o =>
    by_cases hokey : o.key = some key
    · obtain ⟨hr, hwork⟩ := hm
      have htakes : ∀ ready, (enqueue store policy o s r).2.ready = s.ready ++ ready →
          (Move.enqueue r policy o).takes store key s = ready.map Task.id :=
        fun _ => takes_enqueue hokey
      have hc := enqueue_cases store policy o s r
      change _ ∨ ∃ id, _ ∧ Steady F _ _ (enqueue store policy o s r).2
      generalize enqueue store policy o s r = result at hc htakes ⊢
      cases hc with
      | joins held busy join => exact .inl (htakes [] (List.append_nil _).symm)
      | refused held busy reject => exact .inl (htakes [] (List.append_nil _).symm)
      | fails free f t asked => exact .inl (htakes [] (List.append_nil _).symm)
      | hands free stored t asked => exact .inl (htakes [] (List.append_nil _).symm)
      | takes free stored t asked =>
        obtain ⟨hid, hsteady⟩ :=
          steady_of_taken hF h hr (fun u => Work.spares_iff.2 (hwork u)) hokey hkey asked
        refine .inr ⟨stored.id, (htakes [_] rfl).trans ?_, hsteady⟩
        rw [hid]
        rfl
    · exact .inl (if_neg hokey)
  | _ => exact .inl rfl

/-- **At most one job is taken with a key.** -/
theorem length_takenUnder_le_one (hF : store.Files F) (hkey : key ≠ "") {moves : List (Move σ)}
    (h : Steady F F.Sound (fun _ _ => True) s) (hm : Admits store F.Leaves moves s) :
    (takenUnder store key moves s).length ≤ 1 := by
  induction moves generalizing s with
  | nil => exact Nat.zero_le _
  | cons m moves ih =>
    unfold takenUnder
    rcases takes_cases hF hkey h hm.1 with hnone | ⟨id, hone, hsteady⟩
    · rw [hnone, List.nil_append]
      exact ih (steady_move (kept_sound hF) h hm.1) hm.2
    · rw [hone, takenUnder_eq_nil hF hsteady hm.2]
      exact Nat.le_refl _

theorem takenUnder_append (store : JobStore σ) (key : String) (moves later : List (Move σ))
    (s : JobSystem σ) : takenUnder store key (moves ++ later) s =
      takenUnder store key moves s ++ takenUnder store key later (s.moved store moves) := by
  induction moves generalizing s with
  | nil => rfl
  | cons m moves ih =>
    simp only [List.cons_append, takenUnder, ih, List.append_assoc]
    rfl

/-! ### The other enqueues -/

/-- What is handed back by a runner for a job of which no work is started, over records in memory. -/
inductive Declined (m : MemoryJobs) (now : Timestamp) (policy : ConflictPolicy) (o : Order σ)
    (s : JobSystem σ) (r : Nat) : Except Failure String → Prop
  /-- The caller joins the job at work for the target. -/
  | joins (held : String) (busy : s.activeFor o.target r = some held) (join : policy = .join) :
    Declined m now policy o s r (.ok held)
  /-- The caller is refused, since the target is busy. -/
  | rejects (held : String) (busy : s.activeFor o.target r = some held) (reject : policy = .reject) :
    Declined m now policy o s r (.error (.conflict o.target held))
  /-- The store fails. -/
  | raises (f : Failure) (fails : MemoryJobs.claim (o.job (jobId (s.made + 1)) now) m = .error f) :
    Declined m now policy o s r (.error f)
  /-- The job was recorded before under the key. -/
  | returns (stored : Job) (recorded : o.key.bind m.findKey = some stored) :
    Declined m now policy o s r (.ok stored.id)

section Memory

variable {now : σ → Timestamp} {view : σ → MemoryJobs} {set : MemoryJobs → σ → σ}

/-- An enqueue with a key that counts is taken or declined. -/
theorem taken_or_declined (hstore : store = MemoryJobs.store now view set) (hkey : key ≠ "")
    {o : Order σ} (hokey : o.key = some key) (policy : ConflictPolicy) (s : JobSystem σ) (r : Nat) :
    ((Move.enqueue r policy o).takes store key s = [jobId (s.made + 1)] ∧
        (enqueue store policy o s r).1 = .ok (jobId (s.made + 1))) ∨
      (Quiet s (enqueue store policy o s r).2 ∧
        Declined (view s.shared) (now s.shared) policy o s r (enqueue store policy o s r).1) := by
  have hcounts : ∀ now, MemoryJobs.keyOf (o.job (jobId (s.made + 1)) now) = some key :=
    fun _ => MemoryJobs.keyOf_eq_some.2 ⟨hokey, hkey⟩
  -- what the claim of the key comes to
  have hclaim : ∀ {a t},
      (asking store (o.job (jobId (s.made + 1)) (store.now s.shared))).runOn s.shared = (a, t) →
        (∃ f, a = .error f ∧
          MemoryJobs.claim (o.job (jobId (s.made + 1)) (now s.shared)) (view s.shared) = .error f) ∨
        ∃ c m, a = .ok c ∧
          MemoryJobs.claim (o.job (jobId (s.made + 1)) (now s.shared)) (view s.shared) =
            .ok (c, m) := by
    intro a t hasked
    rw [asking_of_key store (hcounts _)] at hasked
    subst hstore
    exact MemoryJobs.claim_of_runOn hasked
  have htakes : ∀ ready, (enqueue store policy o s r).2.ready = s.ready ++ ready →
      (Move.enqueue r policy o).takes store key s = ready.map Task.id :=
    fun _ => takes_enqueue hokey
  have hc := enqueue_cases store policy o s r
  generalize enqueue store policy o s r = result at hc htakes ⊢
  cases hc with
  | joins held busy join => exact .inr ⟨Quiet.refl s, .joins held busy join⟩
  | refused held busy reject => exact .inr ⟨Quiet.refl s, .rejects held busy reject⟩
  | fails free f t asked =>
    refine .inr ⟨⟨rfl, rfl, rfl, fun _ => rfl, fun _ => rfl, fun _ => rfl⟩, .raises f ?_⟩
    rcases hclaim asked with ⟨g, hg, hrun⟩ | ⟨c, m, hc, -⟩
    · rw [Except.error.inj hg]
      exact hrun
    · cases hc
  | hands free stored t asked =>
    refine .inr ⟨quiet_hands s _ t stored r, .returns stored ?_⟩
    rcases hclaim asked with ⟨g, hg, -⟩ | ⟨c, m, hc, hrun⟩
    · cases hg
    · cases hc
      rcases MemoryJobs.claim_eq_ok hrun with ⟨hfound, -, -⟩ | ⟨-, hnew, -⟩
      · rw [hcounts] at hfound
        rw [hokey]
        exact hfound
      · cases hnew
  | takes free stored t asked =>
    rcases hclaim asked with ⟨g, hg, -⟩ | ⟨c, m, hc, hrun⟩
    · cases hg
    · cases hc
      rcases MemoryJobs.claim_eq_ok hrun with ⟨-, hold, -⟩ | ⟨-, hnew, -⟩
      · cases hold
      · obtain rfl : stored = _ := congrArg Prod.fst hnew
        exact .inl ⟨htakes [_] rfl, rfl⟩

/-- **Of all enqueues with a key at most one is started**, whichever runners they are asked of and
whatever happens in between: at most one job is taken, its work begins at most once, and every other
enqueue is declined. -/
theorem started_once (hstore : store = MemoryJobs.store now view set)
    (hset : ∀ m u, view (set m u) = m) {shared : σ} (hsound : (view shared).Sound) (hkey : key ≠ "")
    {moves : List (Move σ)} (hmoves : Admits store (MemoryJobs.filing view).Leaves moves { shared }) :
    (takenUnder store key moves { shared }).length ≤ 1 ∧
      ((begunIn store moves { shared }).filter
        (· ∈ takenUnder store key moves { shared })).length ≤ 1 ∧
      ∀ before r policy o later, moves = before ++ .enqueue r policy o :: later → o.key = some key →
        ∀ s, s = moved store before { shared } →
          (takenUnder store key moves { shared } = [jobId (s.made + 1)] ∧
              (enqueue store policy o s r).1 = .ok (jobId (s.made + 1))) ∨
            (Quiet s (enqueue store policy o s r).2 ∧
              Declined (view s.shared) (now s.shared) policy o s r
                (enqueue store policy o s r).1) := by
  have hF : store.Files (MemoryJobs.filing view) := hstore ▸ MemoryJobs.files_store hset
  have hsteady : Steady (MemoryJobs.filing view) (MemoryJobs.filing view).Sound (fun _ _ => True)
      ({ shared } : JobSystem σ) := ⟨hsound, Nat.one_pos, fun _ _ _ => trivial, nofun, nofun⟩
  have hone := length_takenUnder_le_one hF hkey hsteady hmoves
  refine ⟨hone, ?_, ?_⟩
  · -- no work begins twice, so no work of the one job does
    have hdistinct : ({ shared } : JobSystem σ).Distinct := ⟨.nil, nofun⟩
    have hnodup := (nodup_begunIn store moves hdistinct).filter
      (· ∈ takenUnder store key moves { shared })
    refine Nat.le_trans (List.subperm_of_subset hnodup fun id hid => ?_).length_le hone
    simpa using (List.mem_filter.1 hid).2
  · rintro before r policy o later rfl hokey s rfl
    refine (taken_or_declined hstore hkey hokey policy _ r).imp_left ?_
    rintro ⟨htakes, hhanded⟩
    refine ⟨?_, hhanded⟩
    rw [takenUnder_append, takenUnder, htakes] at hone ⊢
    generalize takenUnder store key before _ = first at hone ⊢
    generalize takenUnder store key later _ = last at hone ⊢
    simp only [List.length_append, List.length_singleton] at hone
    rw [List.length_eq_zero_iff.1 (show first.length = 0 by omega),
      List.length_eq_zero_iff.1 (show last.length = 0 by omega)]
    rfl

end Memory

/-- Two runners side by side are both asked to take a job with the key of one account. -/
def joiningBoth : List (Move MemoryJobs) :=
  [.restart, .enqueue 0 .join (joining "alice" (.done {})),
    .enqueue 1 .join (joining "alice" (.done {})), .turn 0]

/-- One of them takes the job, its work begins once, and the other hands the job back. -/
theorem started_once_both :
    takenUnder plain "onboarding:alice" joiningBoth { shared := {} } = [jobId 1] ∧
      ((begunIn plain joiningBoth { shared := {} }).filter
        (· ∈ takenUnder plain "onboarding:alice" joiningBoth { shared := {} })).length ≤ 1 ∧
      ∃ s, s = moved plain (joiningBoth.take 2) { shared := {} } ∧
        (enqueue plain .join (joining "alice" (.done {})) s 1).1 = .ok (jobId 1) ∧
        Quiet s (enqueue plain .join (joining "alice" (.done {})) s 1).2 := by
  have hmoves : Admits plain (MemoryJobs.filing fun m => m).Leaves joiningBoth { shared := {} } :=
    ⟨trivial, ⟨by decide, fun _ => trivial⟩, ⟨by decide, fun _ => trivial⟩, trivial, trivial⟩
  obtain ⟨-, hbegun, hcalls⟩ := started_once rfl (fun _ _ => rfl)
    (fun key id h => by cases h) (by decide : "onboarding:alice" ≠ "") hmoves
  refine ⟨rfl, hbegun, _, rfl, rfl, ?_⟩
  rcases hcalls (joiningBoth.take 2) 1 .join (joining "alice" (.done {})) [.turn 0] rfl rfl _ rfl with
    ⟨-, hhanded⟩ | ⟨hquiet, -⟩
  · -- the second runner is not handed a new job
    exact absurd (jobId_injective (Except.ok.inj hhanded)) (by decide)
  · exact hquiet

end JobSystem

end Mixtape
