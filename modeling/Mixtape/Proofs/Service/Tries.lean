import Mixtape.Proofs.Service.Listing

/-!
# Reads that are begun anew

A read is an attempt that is made once more when a call has failed in a way that may pass, up to a number
of times. So the read is its last attempt, after a number of attempts that were broken off; and an attempt
that is not the last one allowed is the last one only if it was not broken off.

What fails for good is not tried again. Whatever calls a read makes, if one of them fails for good it is
the last one, and its failure is that of the read. To see this the calls are noted as they are made, each
with its fault if it has one.

## Main definitions

* `Broken x n s u` — `n` attempts, one after the other, that were broken off.
* `Client.Notes` — a service whose calls are noted.
* `GivesUp sent x` — computations that end with the first call that fails.

## Main results

* `runOn_retrying_iff` — **a read is its last attempt.**
* `givesUp_retrying` — a read gives up when a call fails for good.
* `GivesUp.eq_nil_of_definite` — **no call is made after one that failed for good.**
-/

namespace Mixtape.Service

open Action

/-! ### Attempts -/

section Attempts

variable {σ α : Type} {x : Action σ α} {n : Nat} {s t u v : σ} {f : Failure} {r : Except Failure α}

/-- So many attempts, one after the other, each broken off by a failure that may pass. -/
inductive Broken (x : Action σ α) : Nat → σ → σ → Prop
  /-- None. -/
  | none (s : σ) : Broken x 0 s s
  /-- One before the others. -/
  | again {n : Nat} {s v u : σ} {f : Failure} (breaks : x.runOn s = (.error f, v))
      (passes : f.IsTransient) (others : Broken x n v u) : Broken x (n + 1) s u

/-- What is no failure that may pass is not tried again. -/
theorem runOn_retrying_definite (h : x.runOn s = (r, v)) (hr : Definite r) :
    (retrying x n).runOn s = (r, v) := by
  cases n with
  | zero => exact h
  | succ n =>
    rw [retrying, runOn_bind, runOn_attempt, h]
    rcases r with f | a
    · cases f with
      | transient fault => exact absurd ⟨_, rfl, fault, rfl⟩ hr
      | _ => rfl
    · rfl

theorem runOn_retrying_again (h : x.runOn s = (.error f, v)) (hf : f.IsTransient) :
    (retrying x (n + 1)).runOn s = (retrying x n).runOn v := by
  obtain ⟨fault, rfl⟩ := hf
  rw [retrying, runOn_bind, runOn_attempt, h]

/-- An attempt that ends otherwise is the last one. -/
theorem Broken.eq_of_definite {k : Nat} (hk : Broken x k s u) (h : x.runOn s = (r, v)) (hr : Definite r) :
    u = s := by
  cases hk with
  | none => rfl
  | again hbreaks hpasses _ =>
    rw [hbreaks] at h
    cases h
    exact absurd ⟨_, rfl, hpasses⟩ hr

/-- **A read is its last attempt**, after so many that were broken off as there may be at most; an attempt
that is broken off is the last one only if no other is allowed. -/
theorem runOn_retrying_iff : (retrying x n).runOn s = (r, t) ↔
    ∃ k u, k ≤ n ∧ Broken x k s u ∧ x.runOn u = (r, t) ∧ (k < n → Definite r) := by
  induction n generalizing s with
  | zero =>
    constructor
    · exact fun h => ⟨0, s, Nat.le_refl 0, .none s, h, fun hlt => absurd hlt (Nat.lt_irrefl 0)⟩
    · rintro ⟨k, u, hk, hbroken, hrun, -⟩
      obtain rfl := Nat.le_zero.1 hk
      cases hbroken
      exact hrun
  | succ n ih =>
    rcases hx : x.runOn s with ⟨r', v⟩
    by_cases hr : Fails Failure.IsTransient r'
    · obtain ⟨f, rfl, hf⟩ := hr
      rw [runOn_retrying_again hx hf, ih]
      constructor
      · rintro ⟨k, u, hk, hbroken, hrun, hlast⟩
        exact ⟨k + 1, u, Nat.succ_le_succ hk, .again hx hf hbroken, hrun,
          fun hlt => hlast (Nat.lt_of_succ_lt_succ hlt)⟩
      · rintro ⟨k, u, hk, hbroken, hrun, hlast⟩
        cases hbroken with
        | none =>
          rw [hx] at hrun
          cases hrun
          exact absurd ⟨f, rfl, hf⟩ (hlast (Nat.succ_pos n))
        | again hbreaks _ hothers =>
          rw [hx] at hbreaks
          cases hbreaks
          exact ⟨_, u, Nat.le_of_succ_le_succ hk, hothers, hrun, fun hlt => hlast (Nat.succ_lt_succ hlt)⟩
    · rw [runOn_retrying_definite hx hr]
      constructor
      · rintro ⟨⟩
        exact ⟨0, s, Nat.zero_le _, .none s, hx, fun _ => hr⟩
      · rintro ⟨k, u, -, hbroken, hrun, -⟩
        rw [← hrun, hbroken.eq_of_definite hx hr, hx]

/-- What an attempt establishes, the read establishes, if an attempt that was broken off leaves what an
attempt starts from. -/
theorem meets_retrying {P : σ → Prop} {Q : α → σ → Prop} {E : Failure → σ → Prop} (h : Meets P x Q E)
    (hagain : ∀ f s, f.IsTransient → E f s → P s) (n : Nat) : Meets P (retrying x n) Q E := by
  have hbroken : ∀ {k s u}, Broken x k s u → P s → P u := by
    intro k s u hk
    induction hk with
    | none s => exact id
    | again hbreaks hpasses _ ih => exact fun hs => ih (hagain _ _ hpasses (h.of_error hs hbreaks))
  intro s hs
  rcases hrun : (retrying x n).runOn s with ⟨f | a, t⟩
  · obtain ⟨k, u, -, hk, hlast, -⟩ := runOn_retrying_iff.1 hrun
    exact h.of_error (hbroken hk hs) hlast
  · obtain ⟨k, u, -, hk, hlast, -⟩ := runOn_retrying_iff.1 hrun
    exact h.of_ok (hbroken hk hs) hlast

end Attempts

/-! ### Calls that are noted -/

section Noting

variable {σ α β : Type} {c : Connector σ} {sent : σ → List (Request × Option CallFault)}
  {log : List (Request × Option CallFault)} {x : Action (Session σ) α} {f : Failure} {s t : Session σ}

/-- The fault of a call, if it has one. -/
def faultOf : Except CallFault Json → Option CallFault
  | .ok _ => none
  | .error fault => some fault

/-- Every call is noted, with its fault if it has one. -/
def Client.Notes (c : Client σ) (sent : σ → List (Request × Option CallFault)) : Prop :=
  ∀ r s, sent (c.send r s).2 = sent s ++ [(r, faultOf (c.send r s).1)]

/-- No call has failed but in a way that may pass. -/
def Passes (log : List (Request × Option CallFault)) : Prop :=
  ∀ e ∈ log, ∀ fault ∈ e.2, fault.ending.IsTransient

/-- The last call has failed, and none before it but in a way that may pass. -/
def EndsIn (f : Failure) (log : List (Request × Option CallFault)) : Prop :=
  ∃ before r fault, log = before ++ [(r, some fault)] ∧ Passes before ∧ fault.ending = f

theorem Passes.append (h : Passes log) {e : Request × Option CallFault}
    (he : ∀ fault ∈ e.2, fault.ending.IsTransient) : Passes (log ++ [e]) := by
  intro e' he'
  rcases List.mem_append.1 he' with hmem | hmem
  · exact h e' hmem
  · rw [List.mem_singleton.1 hmem]
    exact he

/-- A failure that may pass has ended no more than an attempt. -/
theorem EndsIn.passes (h : EndsIn f log) (hf : f.IsTransient) : Passes log := by
  obtain ⟨before, r, fault, rfl, hbefore, rfl⟩ := h
  refine hbefore.append ?_
  rintro _ ⟨⟩
  exact hf

/-- Where calls have failed only in ways that may pass, the computation ends with the first call that
fails, or with a failure that is none of a call. -/
def GivesUp (sent : σ → List (Request × Option CallFault)) (x : Action (Session σ) α) : Prop :=
  Meets (fun s => Passes (sent s.client)) x (fun _ s => Passes (sent s.client))
    fun f s => Definite (.error f : Except Failure Unit) ∧ Passes (sent s.client) ∨ EndsIn f (sent s.client)

theorem givesUp_pure (a : α) : GivesUp sent (pure a : Action (Session σ) α) := meets_pure fun _ => id

theorem givesUp_ofExcept {r : Except Failure α} (h : Definite r) :
    GivesUp sent (Action.ofExcept r : Action (Session σ) α) := by
  refine meets_ofExcept (fun _ _ _ => id) ?_
  rintro f rfl s hs
  exact .inl ⟨fun ⟨_, he, hf⟩ => h ⟨f, rfl, by cases he; exact hf⟩, hs⟩

theorem GivesUp.bind {k : α → Action (Session σ) β} (h : GivesUp sent x) (hk : ∀ a, GivesUp sent (k a)) :
    GivesUp sent (x >>= k) := Meets.bind h hk

theorem givesUp_call (h : c.client.Notes sent) (r : Request) : GivesUp sent (c.call r) := by
  intro s hs
  have hnoted := h r s.client
  unfold Connector.call Client.call
  simp only [runOn_ofRun]
  rcases hsend : c.client.send r s.client with ⟨fault | a, u⟩
  · rw [hsend] at hnoted
    exact .inr ⟨_, r, fault, hnoted, hs, rfl⟩
  · rw [hsend] at hnoted
    change Passes (sent u)
    rw [hnoted]
    exact hs.append nofun

/-- **A read gives up when a call fails for good**: only what may pass is tried again. -/
theorem givesUp_retrying (h : GivesUp sent x) (n : Nat) : GivesUp sent (retrying x n) := by
  refine meets_retrying h (fun f s hf hend => ?_) n
  rcases hend with ⟨-, hs⟩ | hend
  · exact hs
  · exact hend.passes hf

theorem givesUp_collectPages (h : c.client.Notes sent) :
    ∀ (more : Nat) (page : Json), GivesUp sent (c.collectPages more page)
  | more, page => by
    unfold Connector.collectPages
    refine meets_ite (fun _ => givesUp_pure []) fun _ => ?_
    refine (givesUp_ofExcept (definite_pageItems page)).bind fun items => ?_
    refine (givesUp_ofExcept (definite_entry page "next")).bind fun link => ?_
    refine meets_ite (fun _ => givesUp_pure items) fun _ => ?_
    cases more with
    | zero => exact givesUp_pure items
    | succ more =>
      exact (givesUp_call h _).bind fun next => (givesUp_collectPages h more next).bind fun others =>
        givesUp_pure (items ++ others)

theorem givesUp_listing (h : c.client.Notes sent) (r : Request) : GivesUp sent (c.listing r) :=
  (givesUp_call h r).bind fun first => givesUp_collectPages h c.maxPages first

theorem givesUp_albumsOf (h : c.client.Notes sent) (items : List Json) :
    GivesUp sent (c.albumsOf items) := by
  induction items with
  | nil => exact givesUp_pure []
  | cons item rest ih =>
    unfold Connector.albumsOf
    refine (givesUp_ofExcept (definite_entry item "album")).bind fun album => ?_
    split
    · exact ih
    · exact (givesUp_ofExcept (definite_entry album "tracks")).bind fun first =>
        (givesUp_collectPages h c.maxPages first).bind fun tracks =>
        (givesUp_ofExcept (definite_albumListing album _ tracks)).bind fun listed =>
        ih.bind fun others => givesUp_pure (listed :: others)

/-- **No call is made after one that failed for good**, and its failure is that of the computation. -/
theorem GivesUp.eq_nil_of_definite (h : GivesUp sent x) (hs : Passes (sent s.client))
    {r : Except Failure α} (hrun : x.runOn s = (r, t)) {before after : List (Request × Option CallFault)}
    {request : Request} {fault : CallFault}
    (hlog : sent t.client = before ++ (request, some fault) :: after)
    (hfault : ¬fault.ending.IsTransient) : after = [] ∧ r = .error fault.ending := by
  have hmem : (request, some fault) ∈ sent t.client := hlog ▸ List.mem_append_cons_self
  have hnot : ∀ {log : List (Request × Option CallFault)}, Passes log → (request, some fault) ∉ log :=
    fun hpasses hin => hfault (hpasses _ hin fault rfl)
  cases r with
  | ok a => exact absurd hmem (hnot (h.of_ok hs hrun))
  | error f =>
    rcases h.of_error hs hrun with ⟨-, hpasses⟩ | ⟨passed, request', fault', hend, hpassed, hf⟩
    · exact absurd hmem (hnot hpasses)
    · rw [hend] at hlog
      -- the call that failed for good is the last one that was noted
      rcases List.eq_nil_or_concat after with rfl | ⟨others, last, rfl⟩
      · obtain ⟨-, hlast⟩ := List.append_inj' hlog rfl
        obtain ⟨-, rfl⟩ : request' = request ∧ fault' = fault := by simpa using hlast
        exact ⟨rfl, congrArg Except.error hf.symm⟩
      · rw [List.concat_eq_append, ← List.cons_append, ← List.append_assoc] at hlog
        obtain ⟨hbefore, -⟩ := List.append_inj' hlog rfl
        exact absurd (hbefore ▸ List.mem_append_cons_self) (hnot hpassed)

end Noting

end Mixtape.Service
