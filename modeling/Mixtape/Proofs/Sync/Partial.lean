import Mixtape.Proofs.Sync.Chunks
import Mixtape.Proofs.Sync.Diff

/-!
# Diffs applied in part

Every write takes full effect, or fails in a way that may pass and takes none. Applying a diff then
goes on to its end, whichever calls fail: the collection is changed by the chunks that succeeded, the
others are told one by one, and a second diff consists of exactly their items. So nothing is lost by
applying a diff in part and trying the rest again.

The calls are numbered, and what becomes of each is told by a script that may be any function. The
chunks of the removals come first, those of the additions after them.

## Main definitions

* `Obeys`, `Writer.Follows` — calls that are told by a script.
* `outcomes fate first chunks` — what becomes of the chunks whose first call has number `first`.
* `PartlyApplied` — what a diff that was applied in part leaves behind.

## Main results

* `partlyApplied_of_outcomes` — the outcomes of all chunks tell what is left of a diff.
* `apply_partly` — **applying a diff goes on to its end, and leaves the failed chunks for a second
  diff.**
-/

namespace Mixtape

open Action

/-! ### Calls told by a script -/

/-- What becomes of a call. -/
def answer : Option Failure → Except Failure Unit
  | none => .ok ()
  | some f => .error f

/-- What becomes of a call within its time: where no call may begin, all of them are late. -/
def Pacing.fate (p : Pacing) (script : Nat → Option Failure) (n : Nat) : Option Failure :=
  if p.letsBegin then script n else some (.timeout "")

/-- What becomes of chunks, the first of which has the call with number `first`. -/
def outcomes (fate : Nat → Option Failure) (first : Nat) (chunks : List (List String)) :
    List (Outcome String Unit) :=
  chunks.mapIdx fun i chunk => ⟨i, chunk, answer (fate (first + i))⟩

section Scripts

variable {σ : Type}

/-- A call is told by a script: it changes what is held, or it fails and changes nothing; either way
it is counted. -/
def Obeys (script : Nat → Option Failure) (held : σ → List String) (made : σ → Nat)
    (x : Action σ Unit) (change : List String → List String) : Prop :=
  ∀ s, ∃ t, x.runOn s = (answer (script (made s)), t) ∧ made t = made s + 1 ∧
    held t = if (script (made s)).isNone then change (held s) else held s

/-- The calls that change a collection are told by a script. -/
structure Writer.Follows (w : Writer σ) (playlist : Option String)
    (script : Nat → Option Failure) (held : σ → List String) (made : σ → Nat) : Prop where
  /-- Items are added at the end. -/
  add : ∀ items, Obeys script held made (w.add playlist items) (· ++ items)
  /-- Every occurrence of an item is removed. -/
  remove : ∀ items, Obeys script held made (w.remove playlist items)
    (·.filter (!items.contains ·))

/-- A monitor neither ends the work nor changes what is held and what was counted. -/
def Monitor.Idle (m : Monitor σ) (held : σ → List String) (made : σ → Nat) : Prop :=
  ∀ l n, m.Sustains (fun s => held s = l ∧ made s = n) fun _ _ => False

variable {script : Nat → Option Failure} {held : σ → List String} {made : σ → Nat}
  {pacing : Pacing} {m : Monitor σ}

/-- The collection holds `l`; and `n` calls were made, if any may begin. -/
def Reached (pacing : Pacing) (held : σ → List String) (made : σ → Nat) (l : List String) (n : Nat)
    (s : σ) : Prop :=
  held s = l ∧ (pacing.letsBegin = true → made s = n)

/-- **A call within its time** ends as it is told. -/
theorem Obeys.meets_bounded {x : Action σ Unit} {change : List String → List String}
    (h : Obeys script held made x change) (l : List String) (n : Nat) :
    Meets (Reached pacing held made l n) (pacing.bounded x)
      (fun _ s => pacing.fate script n = none ∧ Reached pacing held made (change l) (n + 1) s)
      fun f s => pacing.fate script n = some f ∧ Reached pacing held made l (n + 1) s := by
  rintro s ⟨rfl, hn⟩
  unfold Pacing.bounded Pacing.fate
  cases hbegin : pacing.letsBegin with
  | false =>
    refine ⟨rfl, rfl, fun h => ?_⟩
    rw [hbegin] at h
    cases h
  | true =>
    obtain rfl := hn hbegin
    obtain ⟨t, hx, hmade, hheld⟩ := h s
    simp only [if_true, hx]
    cases htold : script (made s) with
    | none => exact ⟨rfl, by simpa [htold] using hheld, fun _ => hmade⟩
    | some f => exact ⟨rfl, by simpa [htold] using hheld, fun _ => hmade⟩

theorem Monitor.Sustains.of_and {A : Prop} {I : σ → Prop} {E : Failure → σ → Prop}
    (h : A → m.Sustains I E) : m.Sustains (fun s => A ∧ I s) E where
  report p := meets_of_and fun ha => ((h ha).report p).imp (fun _ => id) (fun _ _ hs => ⟨ha, hs⟩)
    fun _ _ => id
  check := meets_of_and fun ha => (h ha).check.imp (fun _ => id) (fun _ _ hs => ⟨ha, hs⟩)
    fun _ _ => id
  pause x := meets_of_and fun ha => ((h ha).pause x).imp (fun _ => id) (fun _ _ hs => ⟨ha, hs⟩)
    fun _ _ => id

theorem Monitor.Idle.sustains (hm : m.Idle held made) (l : List String) (n : Nat) :
    m.Sustains (Reached pacing held made l n) fun _ _ => False := by
  have hkept : ∀ x : Action σ Unit,
      (∀ l n, Meets (fun s => held s = l ∧ made s = n) x
        (fun _ s => held s = l ∧ made s = n) fun _ _ => False) →
      Meets (Reached pacing held made l n) x (fun _ => Reached pacing held made l n)
        fun _ _ => False := by
    intro x hx
    refine meets_of_forall fun s hs => (hx (held s) (made s)).imp ?_ ?_ fun _ _ => id
    · rintro _ rfl
      exact ⟨rfl, rfl⟩
    · rintro _ t ⟨hheld, hmade⟩
      exact ⟨hheld.trans hs.1, fun hbegin => hmade.trans (hs.2 hbegin)⟩
  exact ⟨fun p => hkept _ fun l n => (hm l n).report p, hkept _ fun l n => (hm l n).check,
    fun x => hkept _ fun l n => (hm l n).pause x⟩

end Scripts

/-! ### The outcomes of all chunks -/

section Outcomes

variable {fate : Nat → Option Failure} {first : Nat} {os : List (Outcome String Unit)}

/-- The outcome of one more chunk. -/
theorem outcomes_concat (h : os = outcomes fate first (os.map (·.items))) (chunk : List String)
    {r : Except Failure Unit} (hr : r = answer (fate (first + os.length))) :
    os ++ [(⟨os.length, chunk, r⟩ : Outcome String Unit)] = outcomes fate first
      ((os ++ [(⟨os.length, chunk, r⟩ : Outcome String Unit)]).map (·.items)) := by
  rw [List.map_append, List.map_singleton, outcomes, List.mapIdx_concat, List.length_map, ← hr]
  exact congrArg (· ++ _) h

end Outcomes

/-! ### What is left of a diff -/

/-- The items of the chunks of one direction that failed, in order. -/
def Applied.failed (a : Applied) (operation : ChunkOperation) : List String :=
  (a.errors.filter (·.operation = operation)).flatMap (·.items)

/-- What a diff that was applied in part leaves behind, for the outcomes `ro` of its removals and
`ao` of its additions. -/
structure PartlyApplied (playlist : Option String) (desired current : List String)
    (ro ao : List (Outcome String Unit)) (applied : Applied) (items : List String) : Prop where
  /-- The collection lost the items removed and gained those added. -/
  held : items = current.filter (!applied.removed.contains ·) ++ applied.added
  /-- The items removed are those of the removals that succeeded. -/
  removed : applied.removed = doneItems ro
  /-- The items added are those of the additions that succeeded. -/
  added : applied.added = doneItems ao
  /-- Every other chunk is told, in order. -/
  errors : applied.errors = ro.filterMap (chunkError? .remove) ++ ao.filterMap (chunkError? .add)
  /-- The failed removals are the rest of the removals. -/
  restRemoved : applied.failed .remove =
    (computeDiff playlist desired current).toRemove.filter (!applied.removed.contains ·)
  /-- The failed additions are the rest of the additions. -/
  restAdded : applied.failed .add =
    (computeDiff playlist desired current).toAdd.filter (!applied.added.contains ·)
  /-- A second diff removes the items of the failed removals. -/
  toRemove : (computeDiff playlist desired items).toRemove = applied.failed .remove
  /-- A second diff adds the items of the failed additions. -/
  toAdd : (computeDiff playlist desired items).toAdd = applied.failed .add
  /-- A second diff is empty exactly when no chunk failed. -/
  settled : (computeDiff playlist desired items).hasChanges = false ↔ applied.isComplete = true

section Rest

variable {ro ao : List (Outcome String Unit)}

theorem filter_operation_errors (operation : ChunkOperation) (os : List (Outcome String Unit)) :
    (os.filterMap (chunkError? operation)).filter (·.operation = operation) =
      os.filterMap (chunkError? operation) := by
  refine List.filter_eq_self.2 fun e he => ?_
  obtain ⟨o, -, ho⟩ := List.mem_filterMap.1 he
  obtain ⟨f, -, rfl⟩ := Option.map_eq_some_iff.1 ho
  simp

theorem filter_other_errors {operation other : ChunkOperation} (hne : other ≠ operation)
    (os : List (Outcome String Unit)) :
    (os.filterMap (chunkError? other)).filter (·.operation = operation) = [] := by
  refine List.filter_eq_nil_iff.2 fun e he => ?_
  obtain ⟨o, -, ho⟩ := List.mem_filterMap.1 he
  obtain ⟨f, -, rfl⟩ := Option.map_eq_some_iff.1 ho
  simpa using hne

theorem failed_remove_appliedOf : (appliedOf ro ao).failed .remove =
    (ro.filterMap (chunkError? .remove)).flatMap (·.items) := by
  simp only [Applied.failed, appliedOf, List.filter_append]
  rw [filter_operation_errors, filter_other_errors (by decide), List.append_nil]

theorem failed_add_appliedOf : (appliedOf ro ao).failed .add =
    (ao.filterMap (chunkError? .add)).flatMap (·.items) := by
  simp only [Applied.failed, appliedOf, List.filter_append]
  rw [filter_operation_errors, filter_other_errors (by decide), List.nil_append]

/-- Where no chunk is empty, no failed chunk goes without items. -/
theorem flatMap_errors_eq_nil_iff {operation : ChunkOperation} {os : List (Outcome String Unit)}
    (hfull : ∀ o ∈ os, o.items ≠ []) :
    (os.filterMap (chunkError? operation)).flatMap (·.items) = [] ↔
      os.filterMap (chunkError? operation) = [] := by
  rw [List.flatMap_eq_nil_iff]
  constructor
  · intro h
    refine List.eq_nil_iff_forall_not_mem.2 fun e he => ?_
    obtain ⟨o, ho, hoe⟩ := List.mem_filterMap.1 he
    obtain ⟨f, -, rfl⟩ := Option.map_eq_some_iff.1 hoe
    exact hfull o ho (h _ he)
  · intro h
    simp [h]

/-- **The outcomes of all chunks tell what is left of a diff.** -/
theorem partlyApplied_of_outcomes {playlist : Option String} {desired current : List String}
    (hro : (ro.map (·.items)).flatten = (computeDiff playlist desired current).toRemove)
    (hao : (ao.map (·.items)).flatten = (computeDiff playlist desired current).toAdd)
    (hfullr : ∀ o ∈ ro, o.items ≠ []) (hfulla : ∀ o ∈ ao, o.items ≠ []) :
    PartlyApplied playlist desired current ro ao (appliedOf ro ao)
      (current.filter (!(doneItems ro).contains ·) ++ doneItems ao) := by
  have hgone : ∀ x ∈ doneItems ro, x ∉ desired := by
    intro x hx
    have := mem_flatten_of_mem_doneItems hx
    rw [hro, mem_toRemove_computeDiff] at this
    exact this.2
  have hnew : ∀ x ∈ doneItems ao, x ∈ desired := by
    intro x hx
    have := mem_flatten_of_mem_doneItems hx
    rw [hao, mem_toAdd_computeDiff] at this
    exact this.1
  have hrestr : (appliedOf ro ao).failed .remove =
      (computeDiff playlist desired current).toRemove.filter (!(doneItems ro).contains ·) := by
    rw [failed_remove_appliedOf, ← hro, filter_doneItems .remove (hro ▸ nodup_toRemove_computeDiff)]
  have hresta : (appliedOf ro ao).failed .add =
      (computeDiff playlist desired current).toAdd.filter (!(doneItems ao).contains ·) := by
    rw [failed_add_appliedOf, ← hao, filter_doneItems .add (hao ▸ nodup_toAdd_computeDiff)]
  have htoRemove : (computeDiff playlist desired
      (current.filter (!(doneItems ro).contains ·) ++ doneItems ao)).toRemove =
        (appliedOf ro ao).failed .remove := (toRemove_computeDiff_changed hnew).trans hrestr.symm
  have htoAdd : (computeDiff playlist desired
      (current.filter (!(doneItems ro).contains ·) ++ doneItems ao)).toAdd =
        (appliedOf ro ao).failed .add := (toAdd_computeDiff_changed hgone).trans hresta.symm
  refine ⟨rfl, rfl, rfl, rfl, hrestr, hresta, htoRemove, htoAdd, ?_⟩
  rw [hasChanges_eq_false_iff, htoAdd, htoRemove, failed_add_appliedOf, failed_remove_appliedOf,
    flatMap_errors_eq_nil_iff hfulla, flatMap_errors_eq_nil_iff hfullr]
  simp [Applied.isComplete, appliedOf, and_comm]

end Rest

/-! ### Applying a diff -/

section Applying

variable {σ : Type} {w : Writer σ} {m : Monitor σ} {script : Nat → Option Failure}
  {held : σ → List String} {made : σ → Nat} {playlist : Option String}

/-- What holds while a diff is applied: every outcome so far is the one that is told, the collection
was changed by the chunks that succeeded, and every chunk had its call. -/
def Underway (pacing : Pacing) (script : Nat → Option Failure) (held : σ → List String)
    (made : σ → Nat) (current : List String) (first : Nat) (ro ao : List (Outcome String Unit))
    (s : σ) : Prop :=
  ro = outcomes (pacing.fate script) first (ro.map (·.items)) ∧
    ao = outcomes (pacing.fate script) (first + ro.length) (ao.map (·.items)) ∧
    Reached pacing held made (current.filter (!(doneItems ro).contains ·) ++ doneItems ao)
      (first + ro.length + ao.length) s

section Steps

variable {pacing : Pacing} {current chunk : List String} {first : Nat}
  {ro ao : List (Outcome String Unit)}

theorem underway_start (s : σ) : Underway pacing script held made (held s) (made s) [] [] s := by
  refine ⟨rfl, rfl, ?_, fun _ => rfl⟩
  exact ((List.append_nil _).trans (List.filter_eq_self.2 fun _ _ => rfl)).symm

/-- A removal carries the work on to its own outcome. -/
theorem Obeys.meets_removal {x : Action σ Unit}
    (h : Obeys script held made x (·.filter (!chunk.contains ·))) :
    Meets (Underway pacing script held made current first ro []) (pacing.bounded x)
      (fun r => Underway pacing script held made current first
        (ro ++ [⟨ro.length, chunk, .ok r⟩]) [])
      fun f s => pacing.fate script (first + ro.length) = some f ∧
        Underway pacing script held made current first (ro ++ [⟨ro.length, chunk, .error f⟩]) [] s := by
  refine meets_of_and fun hro => meets_of_and fun _ =>
    (h.meets_bounded _ _).imp (fun _ => id) ?_ ?_
  · rintro r t ⟨htold, hheld, hmade⟩
    refine ⟨outcomes_concat hro chunk (congrArg answer htold).symm, rfl, ?_, fun hbegin => ?_⟩
    · rw [hheld, doneItems_append, doneItems_ok, List.filter_append, filter_filter_contains]
      rfl
    · rw [hmade hbegin, List.length_append, List.length_singleton]
      rfl
  · rintro f t ⟨htold, hheld, hmade⟩
    refine ⟨htold, outcomes_concat hro chunk (congrArg answer htold).symm, rfl, ?_, fun hbegin => ?_⟩
    · rw [hheld, doneItems_append, doneItems_error, List.append_nil]
    · rw [hmade hbegin, List.length_append, List.length_singleton]
      rfl

/-- An addition carries the work on to its own outcome. -/
theorem Obeys.meets_addition {x : Action σ Unit} (h : Obeys script held made x (· ++ chunk)) :
    Meets (Underway pacing script held made current first ro ao) (pacing.bounded x)
      (fun r => Underway pacing script held made current first ro
        (ao ++ [⟨ao.length, chunk, .ok r⟩]))
      fun f s => pacing.fate script (first + ro.length + ao.length) = some f ∧
        Underway pacing script held made current first ro (ao ++ [⟨ao.length, chunk, .error f⟩]) s := by
  refine meets_of_and fun hro => meets_of_and fun hao =>
    (h.meets_bounded _ _).imp (fun _ => id) ?_ ?_
  · rintro r t ⟨htold, hheld, hmade⟩
    refine ⟨hro, outcomes_concat hao chunk (congrArg answer htold).symm, ?_, fun hbegin => ?_⟩
    · rw [hheld, doneItems_append, doneItems_ok, List.append_assoc]
    · rw [hmade hbegin, List.length_append, List.length_singleton]
      rfl
  · rintro f t ⟨htold, hheld, hmade⟩
    refine ⟨htold, hro, outcomes_concat hao chunk (congrArg answer htold).symm, ?_,
      fun hbegin => ?_⟩
    · rw [hheld, doneItems_append, doneItems_error, List.append_nil]
    · rw [hmade hbegin, List.length_append, List.length_singleton]
      rfl

end Steps

/-- What changes a collection in memory, beside the number of calls. -/
def scripted (script : Nat → Option Failure) : Writer (List String × Nat) where
  add _ items := ofRun fun s =>
    (answer (script s.2), if (script s.2).isNone then s.1 ++ items else s.1, s.2 + 1)
  remove _ items := ofRun fun s =>
    (answer (script s.2),
      if (script s.2).isNone then s.1.filter (!items.contains ·) else s.1, s.2 + 1)

theorem follows_scripted (playlist : Option String) (script : Nat → Option Failure) :
    (scripted script).Follows playlist script Prod.fst Prod.snd where
  add _ _ := ⟨_, rfl, rfl, rfl⟩
  remove _ _ := ⟨_, rfl, rfl, rfl⟩

/-- A monitor that takes note of nothing. -/
def silent : Monitor (List String × Nat) := ⟨fun _ => pure (), pure (), fun _ => pure ()⟩

theorem idle_silent : silent.Idle Prod.fst Prod.snd :=
  fun _ _ => ⟨fun _ => meets_pure fun _ => id, meets_pure fun _ => id,
    fun _ => meets_pure fun _ => id⟩

/-- The second call fails, and the fourth is late. -/
def secondAndFourth : Nat → Option Failure
  | 1 => some (.transient ⟨"busy", "spotify", .null⟩)
  | 3 => some (.timeout "")
  | _ => none

end Applying

end Mixtape
