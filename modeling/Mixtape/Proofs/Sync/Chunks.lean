import Mixtape.Proofs.Action
import Mixtape.Proofs.Sync.Diff
import Mixtape.Sync.Apply

/-!
# Work in chunks, and diffs applied chunk by chunk

The chunks of a list are worked off in order, so a property that every call carries from the items
done before it to the items done after it holds, at the end, of the items of all chunks that
succeeded. A diff is applied as two such works, the removals before the additions.

## Main definitions

* `IsChunkSize size` — lists can be cut into chunks of that size.
* `Monitor.Sustains m I E` — what `m` does keeps `I`; where it ends the work, `E` holds.
* `appliedOf ro ao` — what was done, read off the outcomes of the removals and of the additions.

## Main results

* `flatten_chunksOf`, `length_chunksOf`, `chunked_eq_ok_iff` — the chunks of a list hold its items in
  order, how many they are, and which sizes are refused.
* `length_eq_of_mem_dropLast_chunksOf` — all chunks but the last are full.
* `meets_runChunks_ahead`, `meets_processChunks_ahead` — **the invariant of work in chunks.**
* `meets_applyChunks_ahead` — **the invariant of applying a diff**, outcome by outcome, with the chunks
  ahead; `meets_applyChunks` leaves those out, and `meets_apply` is its form for properties of the items
  done.
* `filter_doneItems` — the items that were not done are those of the failed chunks.
-/

namespace Mixtape

open Action

/-! ### The chunks of a list -/

section Lists

variable {ι : Type}

theorem flatten_chunksUpTo {size : Nat} (hsize : 0 < size) :
    ∀ (fuel : Nat) (items : List ι), items.length ≤ fuel →
      (chunksUpTo size fuel items).flatten = items := by
  intro fuel
  induction fuel with
  | zero =>
    intro items h
    have : items = [] := List.length_eq_zero_iff.1 (by omega)
    subst this
    rfl
  | succ fuel ih =>
    intro items h
    cases items with
    | nil => rfl
    | cons a rest =>
      have hdrop : ((a :: rest).drop size).length ≤ fuel := by
        rw [List.length_drop]
        simp only [List.length_cons] at h ⊢
        omega
      rw [chunksUpTo, List.flatten_cons, ih _ hdrop, List.take_append_drop]
      exact fun h => List.cons_ne_nil a rest h

/-- **The chunks of a list hold its items, in order.** -/
theorem flatten_chunksOf {size : Nat} (hsize : 0 < size) (items : List ι) :
    (chunksOf size items).flatten = items :=
  flatten_chunksUpTo hsize items.length items (Nat.le_refl _)

@[simp] theorem chunksOf_nil (size : Nat) : chunksOf size ([] : List ι) = [] := rfl

/-- No chunk of a list is empty. -/
theorem ne_nil_of_mem_chunksUpTo {size : Nat} (hsize : 0 < size) :
    ∀ (fuel : Nat) (items : List ι), ∀ chunk ∈ chunksUpTo size fuel items, chunk ≠ [] := by
  intro fuel
  induction fuel with
  | zero => intro items chunk h; cases h
  | succ fuel ih =>
    intro items chunk h
    cases items with
    | nil => cases h
    | cons a rest =>
      rcases List.mem_cons.1 h with rfl | h
      · obtain ⟨n, rfl⟩ : ∃ n, size = n + 1 := ⟨size - 1, by omega⟩
        exact List.cons_ne_nil _ _
      · exact ih _ chunk h

theorem ne_nil_of_mem_chunksOf {size : Nat} (hsize : 0 < size) {items chunk : List ι}
    (h : chunk ∈ chunksOf size items) : chunk ≠ [] :=
  ne_nil_of_mem_chunksUpTo hsize _ _ chunk h

/-- No chunk of a list is longer than the size. -/
theorem length_le_of_mem_chunksUpTo {size : Nat} :
    ∀ (fuel : Nat) (items : List ι), ∀ chunk ∈ chunksUpTo size fuel items, chunk.length ≤ size := by
  intro fuel
  induction fuel with
  | zero => intro items chunk h; cases h
  | succ fuel ih =>
    intro items chunk h
    cases items with
    | nil => cases h
    | cons a rest =>
      rcases List.mem_cons.1 h with rfl | h
      · exact List.length_take_le size _
      · exact ih _ chunk h

theorem length_le_of_mem_chunksOf {size : Nat} {items chunk : List ι}
    (h : chunk ∈ chunksOf size items) : chunk.length ≤ size :=
  length_le_of_mem_chunksUpTo _ _ chunk h

/-- A chunk that is not the last is full. -/
theorem length_eq_of_mem_dropLast_chunksUpTo {size : Nat} :
    ∀ (fuel : Nat) (items : List ι), ∀ chunk ∈ (chunksUpTo size fuel items).dropLast,
      chunk.length = size := by
  intro fuel
  induction fuel with
  | zero => intro items chunk h; cases h
  | succ fuel ih =>
    intro items chunk h
    cases items with
    | nil => cases h
    | cons a rest =>
      rw [chunksUpTo.eq_3 _ _ _ (List.cons_ne_nil a rest)] at h
      cases hothers : chunksUpTo size fuel ((a :: rest).drop size) with
      | nil =>
        rw [hothers] at h
        cases h
      | cons other others =>
        rw [hothers, List.dropLast_cons_cons, List.mem_cons, ← hothers] at h
        rcases h with rfl | h
        · -- items are left for another chunk, so this one was not cut short
          have hleft : (a :: rest).drop size ≠ [] := by
            intro hnone
            rw [hnone] at hothers
            cases fuel <;> cases hothers
          have hlong : size < (a :: rest).length :=
            Nat.lt_of_not_le fun hshort => hleft (List.drop_eq_nil_of_le hshort)
          rw [List.length_take, Nat.min_eq_left (Nat.le_of_lt hlong)]
        · exact ih _ chunk h

theorem length_eq_of_mem_dropLast_chunksOf {size : Nat} {items chunk : List ι}
    (h : chunk ∈ (chunksOf size items).dropLast) : chunk.length = size :=
  length_eq_of_mem_dropLast_chunksUpTo _ _ chunk h

@[simp] theorem partCount_zero (size : Int) : partCount 0 size = 0 := by
  simp [partCount]

/-- A full part less leaves one part less. -/
theorem partCount_of_pos {size n : Nat} (hsize : 0 < size) (hn : 0 < n) :
    partCount n size = partCount (n - size) size + 1 := by
  have hpositive : (0 : Int) < size := by omega
  have hnonneg : (0 : Int) ≤ size := by omega
  unfold partCount
  rw [Int.fdiv_eq_ediv_of_nonneg _ hnonneg, Int.fdiv_eq_ediv_of_nonneg _ hnonneg]
  rcases Nat.le_total size n with hle | hle
  · have hrest : -(n : Int) = -((n - size : Nat) : Int) + -1 * size := by omega
    rw [hrest, Int.add_mul_ediv_right _ _ (Int.ne_of_gt hpositive)]
    omega
  · -- the last part takes all that is left
    have hlast : -(n : Int) = (size - n) + -1 * size := by omega
    rw [hlast, Int.add_mul_ediv_right _ _ (Int.ne_of_gt hpositive),
      Int.ediv_eq_zero_of_lt (by omega) (by omega), Nat.sub_eq_zero_of_le hle]
    simp

theorem length_chunksUpTo {size : Nat} (hsize : 0 < size) :
    ∀ (fuel : Nat) (items : List ι), items.length ≤ fuel →
      ((chunksUpTo size fuel items).length : Int) = partCount items.length size := by
  intro fuel
  induction fuel with
  | zero =>
    intro items h
    obtain rfl := List.length_eq_zero_iff.1 (Nat.le_zero.1 h)
    exact (partCount_zero _).symm
  | succ fuel ih =>
    intro items h
    cases items with
    | nil => exact (partCount_zero _).symm
    | cons a rest =>
      have hdrop : ((a :: rest).drop size).length ≤ fuel := by
        rw [List.length_drop]
        simp only [List.length_cons] at h ⊢
        omega
      have hmore := partCount_of_pos hsize (List.length_pos_iff.2 (List.cons_ne_nil a rest))
      rw [chunksUpTo, List.length_cons, Int.natCast_succ, ih _ hdrop, List.length_drop, hmore]
      exact fun h => List.cons_ne_nil a rest h

/-- **A list has as many chunks as it has parts.** -/
theorem length_chunksOf {size : Nat} (hsize : 0 < size) (items : List ι) :
    ((chunksOf size items).length : Int) = partCount items.length size :=
  length_chunksUpTo hsize items.length items (Nat.le_refl _)

/-- Lists can be cut into chunks of a size: it is positive, and a list of that many items has a
place in memory for each. -/
def IsChunkSize (size : Int) : Prop := 0 < size ∧ size * placeBytes < sizeBound

instance (size : Int) : Decidable (IsChunkSize size) := inferInstanceAs (Decidable (_ ∧ _))

theorem IsChunkSize.toNat_pos {size : Int} (h : IsChunkSize size) : 0 < size.toNat := by
  have := h.1
  omega

/-- **Which sizes are refused**, and that the others give the chunks of the list. -/
theorem chunked_eq_ok_iff {items : List ι} {size : Int} {chunks : List (List ι)} :
    chunked items size = .ok chunks ↔ IsChunkSize size ∧ chunks = chunksOf size.toNat items := by
  unfold chunked IsChunkSize placeBytes sizeBound
  split
  · simp only [reduceCtorEq, false_iff]
    omega
  · split
    · simp only [reduceCtorEq, false_iff]
      omega
    · split
      · simp only [reduceCtorEq, false_iff]
        omega
      · rw [Except.ok.injEq]
        constructor
        · exact fun h => ⟨by omega, h.symm⟩
        · exact fun h => h.2.symm

/-- A positive size that no list can have is refused. -/
theorem chunked_of_not_isChunkSize {size : Int} (hsize : 1 ≤ size) (h : ¬IsChunkSize size)
    (items : List ι) :
    ∃ f, chunked items size = .error f ∧
      (f = .overflow "cannot fit 'int' into an index-sized integer" ∨ f = .tooLong) := by
  unfold chunked
  rw [if_neg (by omega)]
  split
  · exact ⟨_, rfl, .inl rfl⟩
  · rename_i hindex
    have hlong : sizeBound ≤ size * placeBytes := by
      by_contra hshort
      exact h ⟨by omega, by omega⟩
    exact ⟨_, if_pos hlong, .inr rfl⟩

end Lists

/-! ### The invariant of work in chunks -/

section Processing

variable {σ ι ρ : Type} {m : Monitor σ} {pacing : Pacing} {hook : Nat → Nat → Action σ Unit}
  {isolate : List FailureKind} {call : List ι → Action σ ρ}

theorem meets_pauseFor {P : σ → Prop} {Q : Unit → σ → Prop} {E : Failure → σ → Prop}
    (h : ∀ x, Meets P (m.pause x) Q E) (hskip : ∀ s, P s → Q () s) (seconds : Amount) :
    Meets P (m.pauseFor seconds) Q E := meets_ite (fun _ => h seconds) fun _ => meets_pure hskip

theorem keeps_pauseFor {I : σ → Prop} (h : ∀ x, Keeps I (m.pause x)) (seconds : Amount) :
    Keeps I (m.pauseFor seconds) := meets_pauseFor h (fun _ => id) seconds

/-- A call within its time either is the call or does not begin. -/
theorem meets_bounded {P : σ → Prop} {Q : ρ → σ → Prop} {E : Failure → σ → Prop}
    {x : Action σ ρ} (h : Meets P x Q E) (htime : ∀ s, P s → E (.timeout "") s) :
    Meets P (pacing.bounded x) Q E := by
  unfold Pacing.bounded
  exact meets_ite (fun _ => h) fun _ => meets_throw htime

/-- **The invariant of work in chunks.** A property of the outcomes so far, of the chunks ahead and of
the state that the hook and the pauses keep, and that every call carries on to its own outcome, holds in
the end of the outcomes of all chunks, with none ahead. Where the hook, a pause or a failure that is not
put down to its chunk ends the work, what holds then is `E`. -/
theorem meets_runChunks_ahead {P : List (Outcome ι ρ) → List (List ι) → σ → Prop}
    {E : Failure → σ → Prop}
    (hhook : ∀ os ahead i n, Meets (P os ahead) (hook i n) (fun _ => P os ahead) E)
    (hpause : ∀ os ahead x, Meets (P os ahead) (m.pause x) (fun _ => P os ahead) E)
    (hcall : ∀ os chunk ahead, Meets (P os (chunk :: ahead)) (pacing.bounded (call chunk))
      (fun r => P (os ++ [⟨os.length, chunk, .ok r⟩]) ahead) fun f s =>
        if isolate.any (·.covers f) then P (os ++ [⟨os.length, chunk, .error f⟩]) ahead s else E f s)
    (total : Nat) : ∀ (chunks : List (List ι)) (os : List (Outcome ι ρ)),
      Meets (P os chunks) (runChunks m pacing hook isolate call total os.length chunks)
        (fun os' s => P (os ++ os') [] s ∧ os'.map (·.items) = chunks) E := by
  intro chunks
  induction chunks with
  | nil =>
    intro os
    exact meets_pure fun s hs => ⟨by rwa [List.append_nil], rfl⟩
  | cons chunk rest ih =>
    intro os
    -- after the outcome of this chunk, the work on the rest starts from that outcome
    have hrest : ∀ r : Except Failure ρ, Meets (P (os ++ [⟨os.length, chunk, r⟩]) rest)
        (runChunks m pacing hook isolate call total (os.length + 1) rest >>= fun others =>
          pure ((⟨os.length, chunk, r⟩ : Outcome ι ρ) :: others))
        (fun os' s => P (os ++ os') [] s ∧ os'.map (·.items) = chunk :: rest) E := by
      intro r
      have := ih (os ++ [⟨os.length, chunk, r⟩])
      rw [List.length_append, List.length_singleton] at this
      refine this.bind fun others => meets_pure ?_
      rintro s ⟨h, hitems⟩
      exact ⟨by simpa using h, by simp [hitems]⟩
    unfold runChunks
    refine Meets.bind (hhook os _ os.length total) fun _ => ?_
    refine meets_when (J := P os (chunk :: rest)) (meets_pauseFor (hpause os _) (fun _ => id) _)
      (fun _ => id) fun _ => ?_
    refine Meets.bind (hcall os chunk rest).attempt fun r => ?_
    cases r with
    | ok a => exact hrest (.ok a)
    | error f =>
      refine meets_ite (fun hcovered => ?_) fun hended => ?_
      · exact (hrest (.error f)).imp (fun s hs => by simpa [Ends, hcovered] using hs) (fun _ _ => id)
          fun _ _ => id
      · exact meets_throw fun s hs => by simpa [Ends, hended] using hs

/-- **The invariant of working off a list in chunks**: that of `meets_runChunks_ahead`, for the outcomes
of all chunks of the list. -/
theorem meets_processChunks_ahead {P : List (Outcome ι ρ) → List (List ι) → σ → Prop}
    {E : Failure → σ → Prop} {size : Int}
    (hhook : ∀ os ahead i n, Meets (P os ahead) (hook i n) (fun _ => P os ahead) E)
    (hpause : ∀ os ahead x, Meets (P os ahead) (m.pause x) (fun _ => P os ahead) E)
    (hcall : IsChunkSize size → ∀ os chunk ahead, Meets (P os (chunk :: ahead))
      (pacing.bounded (call chunk)) (fun r => P (os ++ [⟨os.length, chunk, .ok r⟩]) ahead) fun f s =>
        if isolate.any (·.covers f) then P (os ++ [⟨os.length, chunk, .error f⟩]) ahead s else E f s)
    (items : List ι)
    (hrefused : ¬IsChunkSize size → ∀ f s, P [] (chunksOf size.toNat items) s → E f s) :
    Meets (P [] (chunksOf size.toNat items)) (processChunks m pacing hook isolate call items size)
      (fun os s => P os [] s ∧ IsChunkSize size ∧ os.map (·.items) = chunksOf size.toNat items) E := by
  unfold processChunks
  refine Meets.bind (Q := fun chunks s => P [] (chunksOf size.toNat items) s ∧ IsChunkSize size ∧
    chunks = chunksOf size.toNat items) ?_ fun chunks => ?_
  · refine meets_ofExcept (fun chunks h s hs => ⟨hs, chunked_eq_ok_iff.1 h⟩) ?_
    intro f h s hs
    refine hrefused (fun hsize => ?_) f s hs
    rw [chunked_eq_ok_iff.2 ⟨hsize, rfl⟩] at h
    cases h
  · refine meets_of_forall ?_
    rintro s ⟨hs, hsize, rfl⟩
    refine (meets_runChunks_ahead hhook hpause (hcall hsize) _ _ []).imp ?_ ?_ fun _ _ => id
    · rintro _ rfl
      exact hs
    · exact fun os t h => ⟨h.1, hsize, h.2⟩

/-- The invariant of working off a list in chunks, where what is ahead does not matter. -/
theorem meets_processChunks {P : List (Outcome ι ρ) → σ → Prop} {E : Failure → σ → Prop}
    (hhook : ∀ os i n, Meets (P os) (hook i n) (fun _ => P os) E)
    (hpause : ∀ os x, Meets (P os) (m.pause x) (fun _ => P os) E)
    (hcall : ∀ os chunk, Meets (P os) (pacing.bounded (call chunk))
      (fun r => P (os ++ [⟨os.length, chunk, .ok r⟩])) fun f s =>
        if isolate.any (·.covers f) then P (os ++ [⟨os.length, chunk, .error f⟩]) s else E f s)
    (items : List ι) {size : Int} (hrefused : ¬IsChunkSize size → ∀ f s, P [] s → E f s) :
    Meets (P []) (processChunks m pacing hook isolate call items size)
      (fun os s => P os s ∧ IsChunkSize size ∧ os.map (·.items) = chunksOf size.toNat items) E :=
  meets_processChunks_ahead (P := fun os _ => P os) (fun os _ => hhook os) (fun os _ => hpause os)
    (fun _ os chunk _ => hcall os chunk) items hrefused

end Processing

/-! ### Items done and chunks failed -/

section Applying

theorem doneItems_append (os os' : List (Outcome String Unit)) :
    doneItems (os ++ os') = doneItems os ++ doneItems os' := by
  simp [doneItems, List.filter_append, List.flatMap_append]

@[simp] theorem doneItems_ok (i : Nat) (chunk : List String) (r : Unit) :
    doneItems [⟨i, chunk, .ok r⟩] = chunk := by
  simp [doneItems, Outcome.succeeded, Except.isOk, Except.toBool]

@[simp] theorem doneItems_error (i : Nat) (chunk : List String) (f : Failure) :
    doneItems [⟨i, chunk, .error f⟩] = [] := by
  simp [doneItems, Outcome.succeeded, Except.isOk, Except.toBool]

@[simp] theorem chunkError?_ok (operation : ChunkOperation) (i : Nat) (chunk : List String)
    (r : Unit) : chunkError? operation ⟨i, chunk, .ok r⟩ = none := rfl

@[simp] theorem chunkError?_error (operation : ChunkOperation) (i : Nat) (chunk : List String)
    (f : Failure) : chunkError? operation ⟨i, chunk, .error f⟩ =
      some ⟨operation, chunk, f.shown, f.isPassing⟩ := rfl

/-- When no chunk failed, the items done are the items of all chunks. -/
theorem doneItems_of_no_errors {operation : ChunkOperation} {os : List (Outcome String Unit)}
    (h : os.filterMap (chunkError? operation) = []) :
    doneItems os = (os.map (·.items)).flatten := by
  induction os with
  | nil => rfl
  | cons o rest ih =>
    obtain ⟨index, items, result⟩ := o
    cases result with
    | error f => simp at h
    | ok r =>
      rw [List.filterMap_cons_none (chunkError?_ok ..)] at h
      rw [← List.singleton_append, doneItems_append, doneItems_ok, ih h]
      rfl

theorem mem_flatten_of_mem_doneItems {os : List (Outcome String Unit)} {x : String}
    (h : x ∈ doneItems os) : x ∈ (os.map (·.items)).flatten := by
  obtain ⟨o, ho, hx⟩ := List.mem_flatMap.1 h
  exact List.mem_flatten.2 ⟨o.items, List.mem_map_of_mem (List.mem_filter.1 ho).1, hx⟩

/-- **The items that were not done are those of the failed chunks**, chunk by chunk and in order, when
no item stands in the list twice. -/
theorem filter_doneItems (operation : ChunkOperation) {os : List (Outcome String Unit)}
    (hnodup : (os.map (·.items)).flatten.Nodup) :
    (os.map (·.items)).flatten.filter (!(doneItems os).contains ·) =
      (os.filterMap (chunkError? operation)).flatMap (·.items) := by
  induction os with
  | nil => rfl
  | cons o rest ih =>
    obtain ⟨index, items, result⟩ := o
    rw [List.map_cons, List.flatten_cons] at hnodup ⊢
    obtain ⟨-, hrest, hapart⟩ := List.nodup_append.1 hnodup
    rw [List.filter_append, ← List.singleton_append, doneItems_append]
    cases result with
    | ok r =>
      -- the items of this chunk go, and none of them stands in a later one
      have hhere : items.filter (!(items ++ doneItems rest).contains ·) = [] := by
        simp +contextual
      have hlater : (rest.map (·.items)).flatten.filter (!(items ++ doneItems rest).contains ·) =
          (rest.map (·.items)).flatten.filter (!(doneItems rest).contains ·) := by
        refine List.filter_congr fun x hx => ?_
        have : x ∉ items := fun hitems => hapart x hitems x hx rfl
        simp [this]
      rw [doneItems_ok, hhere, hlater, ih hrest, List.singleton_append,
        List.filterMap_cons_none (chunkError?_ok ..), List.nil_append]
    | error f =>
      -- the items of this chunk stay, since none of them stands in a later one
      have hhere : items.filter (!(doneItems rest).contains ·) = items := by
        refine List.filter_eq_self.2 fun x hx => ?_
        have : x ∉ doneItems rest := fun hdone =>
          hapart x hx x (mem_flatten_of_mem_doneItems hdone) rfl
        simp [this]
      rw [doneItems_error, List.nil_append, hhere, ih hrest, List.singleton_append,
        List.filterMap_cons_some (chunkError?_error ..), List.flatMap_cons]

/-- What applying a diff has done, read off the outcomes of the removals and of the additions. -/
def appliedOf (ro ao : List (Outcome String Unit)) : Applied where
  added := doneItems ao
  removed := doneItems ro
  errors := ro.filterMap (chunkError? .remove) ++ ao.filterMap (chunkError? .add)
  calls := ro.length + ao.length

/-- When no chunk of a diff failed, all chunks of the diff were done. -/
theorem done_of_isComplete (ro ao : List (Outcome String Unit))
    (h : (appliedOf ro ao).isComplete = true) :
    (appliedOf ro ao).removed = (ro.map (·.items)).flatten ∧
      (appliedOf ro ao).added = (ao.map (·.items)).flatten := by
  have herrors : (appliedOf ro ao).errors = [] := by simpa [Applied.isComplete] using h
  obtain ⟨hr, ha⟩ := List.append_eq_nil_iff.1 herrors
  exact ⟨doneItems_of_no_errors hr, doneItems_of_no_errors ha⟩

variable {σ : Type} {m : Monitor σ} {w : Writer σ} {d : Diff}

theorem keeps_tell {I : σ → Prop} (h : ∀ p, Keeps I (m.report p)) (phase : String)
    (current total : Int) (message : String) : Keeps I (m.tell phase current total message) :=
  h _

/-- What a monitor does keeps a property of the state; where it ends the work, `E` holds. -/
structure Monitor.Sustains (m : Monitor σ) (I : σ → Prop) (E : Failure → σ → Prop) :
    Prop where
  /-- Progress is noted. -/
  report : ∀ p, Meets I (m.report p) (fun _ => I) E
  /-- It is looked for cancellation. -/
  check : Meets I m.check (fun _ => I) E
  /-- A pause is made. -/
  pause : ∀ x, Meets I (m.pause x) (fun _ => I) E

theorem Monitor.Sustains.chunkHook {I : σ → Prop} {E : Failure → σ → Prop} (h : m.Sustains I E)
    (operation : ChunkOperation) (before : Nat) (total : Int) (i n : Nat) :
    Meets I (chunkHook m operation before total i n) (fun _ => I) E :=
  Meets.bind h.check fun _ => h.report _

/-- The chunks of both parts of a diff hold its items: where the size is none, there are no items. -/
theorem flatten_chunks_of_hasChanges {size : Int} (h : d.hasChanges = true → IsChunkSize size) :
    (chunksOf size.toNat d.toRemove).flatten = d.toRemove ∧
      (chunksOf size.toNat d.toAdd).flatten = d.toAdd := by
  cases hchanges : d.hasChanges with
  | true => exact ⟨flatten_chunksOf (h hchanges).toNat_pos _, flatten_chunksOf (h hchanges).toNat_pos _⟩
  | false =>
    obtain ⟨hadd, hremove⟩ := hasChanges_eq_false_iff.1 hchanges
    rw [hadd, hremove]
    exact ⟨rfl, rfl⟩

/-- A diff takes as many calls as its parts have chunks. -/
theorem callEstimate_eq {size : Int} (h : IsChunkSize size) (d : Diff) : d.callEstimate size =
    .ok ((chunksOf size.toNat d.toRemove).length + (chunksOf size.toNat d.toAdd).length) := by
  have hsize : ((size.toNat : Nat) : Int) = size := Int.toNat_of_nonneg (Int.le_of_lt h.1)
  rw [Diff.callEstimate, if_neg (Int.ne_of_gt h.1), length_chunksOf h.toNat_pos,
    length_chunksOf h.toNat_pos, hsize, Int.add_comm]

/-- **The invariant of applying a diff.** A property of the outcomes of the removals so far and the
removals ahead, of the additions so far and the additions ahead, and of the state, which the monitor
keeps and which every call carries on to its own outcome, holds in the end of the outcomes of all chunks,
and what was done is read off them. Where the monitor, a failure that does not pass or the chunk size
ends the work, what holds then is `E`. -/
theorem meets_applyChunks_ahead
    {P : List (Outcome String Unit) → List (List String) → List (Outcome String Unit) →
      List (List String) → σ → Prop}
    {E : Failure → σ → Prop} (options : ApplyOptions)
    (hm : ∀ ro rr ao ra, m.Sustains (P ro rr ao ra) E)
    (hremove : IsChunkSize options.chunkSize → ∀ ro chunk rr ra, Meets (P ro (chunk :: rr) [] ra)
      (options.pacing.bounded (w.remove d.playlist chunk))
      (fun r => P (ro ++ [⟨ro.length, chunk, .ok r⟩]) rr [] ra) fun f s =>
        if f.isPassing then P (ro ++ [⟨ro.length, chunk, .error f⟩]) rr [] ra s else E f s)
    (hadd : IsChunkSize options.chunkSize → ∀ ro ao chunk ra, Meets (P ro [] ao (chunk :: ra))
      (options.pacing.bounded (w.add d.playlist chunk))
      (fun r => P ro [] (ao ++ [⟨ao.length, chunk, .ok r⟩]) ra) fun f s =>
        if f.isPassing then P ro [] (ao ++ [⟨ao.length, chunk, .error f⟩]) ra s else E f s)
    (hrefused : ¬IsChunkSize options.chunkSize → ∀ ro rr ra f s, P ro rr [] ra s → E f s) :
    Meets
      (P [] (chunksOf options.chunkSize.toNat d.toRemove) []
        (chunksOf options.chunkSize.toNat d.toAdd))
      (d.apply w m options)
      (fun applied s => ∃ ro ao, P ro [] ao [] s ∧ applied = appliedOf ro ao ∧
        (d.hasChanges = true → IsChunkSize options.chunkSize) ∧
        ro.map (·.items) = chunksOf options.chunkSize.toNat d.toRemove ∧
        ao.map (·.items) = chunksOf options.chunkSize.toNat d.toAdd) E := by
  unfold Diff.apply
  refine meets_ite (fun hnone => ?_) fun _ => ?_
  · have hsame : d.hasChanges = false := by simpa using hnone
    obtain ⟨hadd, hremove⟩ := hasChanges_eq_false_iff.1 hsame
    rw [hadd, hremove]
    refine meets_pure fun s hs => ⟨[], [], hs, rfl, fun h => ?_, rfl, rfl⟩
    rw [hsame] at h
    cases h
  refine Meets.bind (Q := fun _ => P [] (chunksOf options.chunkSize.toNat d.toRemove) []
    (chunksOf options.chunkSize.toNat d.toAdd)) (meets_ofExcept (fun _ _ _ => id) ?_) fun total => ?_
  · intro f hf s hs
    refine hrefused (fun hsize => ?_) [] _ _ f s hs
    have := hsize.1
    rw [Diff.callEstimate, if_neg (by omega)] at hf
    cases hf
  -- the removals
  refine Meets.bind (meets_processChunks_ahead
    (P := fun ro rr => P ro rr [] (chunksOf options.chunkSize.toNat d.toAdd))
    (fun ro rr i n => (hm ro rr [] _).chunkHook .remove 0 total i n)
    (fun ro rr => (hm ro rr [] _).pause) (fun hsize ro chunk rr => ?_) d.toRemove
    fun hsize => hrefused hsize [] _ _) fun ro => ?_
  · simpa only [any_passingKinds] using hremove hsize ro chunk rr _
  refine meets_of_forall ?_
  rintro s₀ ⟨hs₀, hsize, hro⟩
  refine meets_when (J := P ro [] [] (chunksOf options.chunkSize.toNat d.toAdd))
    ((meets_pauseFor (hm ro [] [] _).pause (fun _ => id) _).imp ?_ (fun _ _ => id) fun _ _ => id)
    (by rintro _ rfl; exact hs₀) fun _ => ?_
  · rintro _ rfl
    exact hs₀
  -- the additions
  refine Meets.bind (meets_processChunks_ahead (P := fun ao ra => P ro [] ao ra)
    (fun ao ra i n => (hm ro [] ao ra).chunkHook .add ro.length total i n)
    (fun ao ra => (hm ro [] ao ra).pause) (fun _ ao chunk ra => ?_) d.toAdd
    fun hsize => hrefused hsize ro [] _) fun ao => ?_
  · simpa only [any_passingKinds] using hadd hsize ro ao chunk ra
  refine meets_of_forall ?_
  rintro s₁ ⟨hs₁, -, hao⟩
  refine Meets.bind (((hm ro [] ao []).report _).imp ?_ (fun _ _ => id) fun _ _ => id) fun _ => ?_
  · rintro _ rfl
    exact hs₁
  · exact meets_pure fun s hs => ⟨ro, ao, hs, rfl, fun _ => hsize, hro, hao⟩

/-- The invariant of applying a diff, outcome by outcome, where what is ahead does not matter. -/
theorem meets_applyChunks
    {P : List (Outcome String Unit) → List (Outcome String Unit) → σ → Prop}
    {E : Failure → σ → Prop} (options : ApplyOptions) (hm : ∀ ro ao, m.Sustains (P ro ao) E)
    (hremove : ∀ ro chunk, Meets (P ro []) (options.pacing.bounded (w.remove d.playlist chunk))
      (fun r => P (ro ++ [⟨ro.length, chunk, .ok r⟩]) []) fun f s =>
        if f.isPassing then P (ro ++ [⟨ro.length, chunk, .error f⟩]) [] s else E f s)
    (hadd : ∀ ro ao chunk, Meets (P ro ao) (options.pacing.bounded (w.add d.playlist chunk))
      (fun r => P ro (ao ++ [⟨ao.length, chunk, .ok r⟩])) fun f s =>
        if f.isPassing then P ro (ao ++ [⟨ao.length, chunk, .error f⟩]) s else E f s)
    (hrefused : ¬IsChunkSize options.chunkSize → ∀ ro f s, P ro [] s → E f s) :
    Meets (P [] []) (d.apply w m options)
      (fun applied s => ∃ ro ao, P ro ao s ∧ applied = appliedOf ro ao ∧
        (d.hasChanges = true → IsChunkSize options.chunkSize) ∧
        ro.map (·.items) = chunksOf options.chunkSize.toNat d.toRemove ∧
        ao.map (·.items) = chunksOf options.chunkSize.toNat d.toAdd) E :=
  meets_applyChunks_ahead (P := fun ro _ ao _ => P ro ao) options (fun ro _ ao _ => hm ro ao)
    (fun _ ro chunk _ _ => hremove ro chunk) (fun _ ro ao chunk _ => hadd ro ao chunk)
    fun hsize ro _ _ => hrefused hsize ro

/-- **The invariant of applying a diff, for the items done.** A property of the items removed so far,
the items added so far and the state, which the monitor keeps, which a removal carries on to the
items it removes and an addition to the items it adds, and which a call that fails keeps, holds of
what was done in the end; when the work is ended by a failure, it holds of what was done until
then. -/
theorem meets_apply {P : List String → List String → σ → Prop}
    (hreport : ∀ r a p, Keeps (P r a) (m.report p)) (hcheck : ∀ r a, Keeps (P r a) m.check)
    (hpause : ∀ r a x, Keeps (P r a) (m.pause x))
    (hremove : ∀ r chunk, Meets (P r []) (w.remove d.playlist chunk)
      (fun _ => P (r ++ chunk) []) fun _ => P r [])
    (hadd : ∀ r a chunk, Meets (P r a) (w.add d.playlist chunk)
      (fun _ => P r (a ++ chunk)) fun _ => P r a)
    (options : ApplyOptions) :
    Meets (P [] []) (d.apply w m options)
      (fun applied s => P applied.removed applied.added s ∧
        (applied.isComplete = true → applied.removed = d.toRemove ∧ applied.added = d.toAdd))
      fun _ s => ∃ r a, P r a s := by
  have hstop : ∀ r a s, P r a s → ∃ r a, P r a s := fun r a s h => ⟨r, a, h⟩
  have heither : ∀ (c : Bool) r a s, P r a s → if c then P r a s else ∃ r a, P r a s := by
    intro c r a s h
    split
    · exact h
    · exact hstop r a s h
  refine (meets_applyChunks (P := fun ro ao => P (doneItems ro) (doneItems ao))
    (E := fun _ s => ∃ r a, P r a s) options (fun ro ao => ⟨fun p => ?_, ?_, fun x => ?_⟩)
    (fun ro chunk => ?_) (fun ro ao chunk => ?_) fun _ ro _ s => hstop _ _ s).imp
      (fun _ => id) ?_ fun _ _ => id
  · exact (hreport _ _ p).meets.imp_error fun _ => hstop _ _
  · exact (hcheck _ _).meets.imp_error fun _ => hstop _ _
  · exact (hpause _ _ x).meets.imp_error fun _ => hstop _ _
  · simp only [doneItems_append, doneItems_ok, doneItems_error, List.append_nil]
    exact meets_bounded ((hremove _ chunk).imp_error
      fun f s => heither f.isPassing _ _ s) fun s => heither _ _ _ s
  · simp only [doneItems_append, doneItems_ok, doneItems_error, List.append_nil]
    exact meets_bounded ((hadd _ _ chunk).imp_error
      fun f s => heither f.isPassing _ _ s) fun s => heither _ _ _ s
  · rintro _ s ⟨ro, ao, hs, rfl, hsize, hro, hao⟩
    refine ⟨hs, fun hcomplete => ?_⟩
    obtain ⟨hr, ha⟩ := done_of_isComplete ro ao hcomplete
    obtain ⟨hremoved, hadded⟩ := flatten_chunks_of_hasChanges hsize
    exact ⟨by rw [hr, hro, hremoved], by rw [ha, hao, hadded]⟩

end Applying

end Mixtape
