import Mixtape.Proofs.Sync.Partial
import Mixtape.Proofs.Sync.Trace

/-!
# How far the work on a diff comes, and at what pace

The calls that a diff takes are planned: all removals, chunk by chunk, and then all additions. The work
follows the plan, whatever fails on the way and wherever it is cancelled, so the calls that were made
are the first ones of the plan. Where it ends is told by the number of the call that failed for good, or
by the number of the look that found cancellation. What the collection holds then is told by the calls
that succeeded.

Work that nothing ends makes all calls of the plan. Before each call it looks for cancellation once, and
between two calls it pauses once, also where the removals end and the additions begin.

## Main definitions

* `Diff.plan` — the calls that a diff takes.
* `Writer.Changes`, `Writer.Passing` — a writer that changes what is held by its successful calls only,
  and one whose failures pass.
* `StopsOnCourse` — how far the work has come when it ends.
* `KeepsPace` — what work that has come to its end looks like.

## Main results

* `filter_looks_course`, `filter_rests_course`, `tells_course` — the looks, the pauses and the reports
  of a course, among its calls.
* `Stops.looked`, `Stops.wrote` — at which call the work was ended.
* `held_traced` — what is held is told by the calls that succeeded.
* `apply_stops_on_course` — **the calls that were made are the first ones of the plan, up to the one
  that ends the work.**
* `apply_keeps_pace` — **work that nothing ends makes the calls of the plan, at its pace.**
-/

namespace Mixtape

open Action

/-! ### The plan, and the course -/

/-- The calls for the chunks of one direction. -/
def chunkCalls (operation : ChunkOperation) (playlist : Option String) (chunks : List (List String)) :
    List Call := chunks.map fun chunk => ⟨operation, playlist, chunk⟩

/-- The calls that a diff takes: all removals in order, then all additions in order. -/
def Diff.plan (d : Diff) (size : Int) : List Call :=
  chunkCalls .remove d.playlist (chunksOf size.toNat d.toRemove) ++
    chunkCalls .add d.playlist (chunksOf size.toNat d.toAdd)

/-- Each call after a look for cancellation. -/
def looksAndWrites (calls : List Call) : List Act := calls.flatMap fun c => [.look, .write c]

/-- The calls, with a pause between two of them. -/
def writesAndRests (delay : Amount) (calls : List Call) : List Act :=
  (calls.map Act.write).intersperse (.rest delay)

section Plans

variable {d : Diff} {size : Int} {delay : Amount} {operation : ChunkOperation}
  {playlist : Option String} {before count : Nat} {total : Int}

theorem looksAndWrites_append (calls calls' : List Call) :
    looksAndWrites (calls ++ calls') = looksAndWrites calls ++ looksAndWrites calls' :=
  List.flatMap_append

theorem length_plan (d : Diff) (size : Int) : (d.plan size).length =
    (chunksOf size.toNat d.toRemove).length + (chunksOf size.toNat d.toAdd).length := by
  simp [Diff.plan, chunkCalls]

theorem plan_of_not_hasChanges (h : d.hasChanges = false) : d.plan size = [] := by
  obtain ⟨hadd, hremove⟩ := hasChanges_eq_false_iff.1 h
  rw [Diff.plan, hadd, hremove]
  rfl

/-! The looks -/

theorem filter_looks_pauses (c : Prop) [Decidable c] :
    (if c then pauses delay else []).filter Act.isLookOrWrite = [] := by
  unfold pauses
  split
  · split <;> rfl
  · rfl

theorem filter_looks_chunkCourse (index : Nat) (chunks : List (List String)) :
    (chunkCourse operation playlist delay before total count index chunks).filter Act.isLookOrWrite =
      looksAndWrites (chunkCalls operation playlist chunks) := by
  induction chunks generalizing index with
  | nil => rfl
  | cons chunk others ih =>
    have hchunk : looksAndWrites (chunkCalls operation playlist (chunk :: others)) =
        .look :: .write ⟨operation, playlist, chunk⟩ ::
          looksAndWrites (chunkCalls operation playlist others) := rfl
    rw [hchunk, ← ih (index + 1), chunkCourse, List.filter_cons_of_pos rfl,
      List.filter_cons_of_neg Bool.false_ne_true, List.filter_append, filter_looks_pauses,
      List.nil_append, List.filter_cons_of_pos rfl]

/-- **Before each call of a course cancellation is looked for**, and at no other time. -/
theorem filter_looks_course (d : Diff) (size : Int) (delay : Amount) :
    (d.course size delay).filter Act.isLookOrWrite = looksAndWrites (d.plan size) := by
  unfold Diff.course Diff.plan
  dsimp only
  rw [List.filter_append, List.filter_append, List.filter_append, filter_looks_pauses,
    filter_looks_chunkCourse, filter_looks_chunkCourse, looksAndWrites_append, List.nil_append,
    List.filter_cons_of_neg Bool.false_ne_true, List.filter_nil, List.append_nil]

theorem filterMap_call?_looksAndWrites (calls : List Call) :
    (looksAndWrites calls).filterMap Act.call? = calls := by
  rw [looksAndWrites, List.filterMap_flatMap]
  exact List.flatMap_singleton' calls

/-- The calls stand among the looks and the calls. -/
theorem filterMap_call?_filter (acts : List Act) :
    (acts.filter Act.isLookOrWrite).filterMap Act.call? = acts.filterMap Act.call? := by
  rw [List.filterMap_filter]
  congr 1
  funext a
  cases a <;> rfl

/-- The calls of a course are those of the plan. -/
theorem filterMap_call?_course (d : Diff) (size : Int) (delay : Amount) :
    (d.course size delay).filterMap Act.call? = d.plan size := by
  rw [← filterMap_call?_filter, filter_looks_course, filterMap_call?_looksAndWrites]

/-! The pauses -/

/-- A list with something between two elements: before each one but the first. -/
theorem intersperse_cons {α : Type} (sep a : α) (l : List α) :
    (a :: l).intersperse sep = a :: l.flatMap fun b => [sep, b] := by
  induction l generalizing a with
  | nil => rfl
  | cons b l ih =>
    rw [List.intersperse_cons_cons, ih b]
    rfl

theorem pauses_of_pos (h : 0 < delay.units) : pauses delay = [.rest delay] := if_pos h

/-- A chunk that is not the first comes after a pause. -/
theorem filter_rests_chunkCourse (h : 0 < delay.units) {index : Nat} (hindex : 0 < index)
    (chunks : List (List String)) :
    (chunkCourse operation playlist delay before total count index chunks).filter Act.isRestOrWrite =
      ((chunkCalls operation playlist chunks).map Act.write).flatMap fun a => [.rest delay, a] := by
  induction chunks generalizing index with
  | nil => rfl
  | cons chunk others ih =>
    rw [chunkCourse, if_pos hindex, pauses_of_pos h, List.filter_cons_of_neg Bool.false_ne_true,
      List.filter_cons_of_neg Bool.false_ne_true, List.filter_append, List.filter_cons_of_pos rfl,
      List.filter_nil, List.filter_cons_of_pos rfl, ih (Nat.succ_pos index)]
    rfl

/-- The first chunk comes without one. -/
theorem filter_rests_chunkCourse_zero (h : 0 < delay.units) (chunks : List (List String)) :
    (chunkCourse operation playlist delay before total count 0 chunks).filter Act.isRestOrWrite =
      writesAndRests delay (chunkCalls operation playlist chunks) := by
  cases chunks with
  | nil => rfl
  | cons chunk others =>
    rw [chunkCourse, if_neg (Nat.lt_irrefl 0), List.filter_cons_of_neg Bool.false_ne_true,
      List.filter_cons_of_neg Bool.false_ne_true, List.nil_append, List.filter_cons_of_pos rfl,
      filter_rests_chunkCourse h (Nat.succ_pos 0)]
    exact (intersperse_cons _ _ _).symm

/-- Two lists of calls, with a pause where the one ends and the other begins. -/
theorem writesAndRests_append (calls calls' : List Call) :
    writesAndRests delay (calls ++ calls') = writesAndRests delay calls ++
      ((if !calls.isEmpty && !calls'.isEmpty then [.rest delay] else []) ++
        writesAndRests delay calls') := by
  cases calls with
  | nil => rfl
  | cons c calls =>
    cases calls' with
    | nil => simp [writesAndRests]
    | cons c' calls' =>
      simp [writesAndRests, intersperse_cons]

/-- **Between two calls of a course a pause is made**, and at no other time. -/
theorem filter_rests_course (h : 0 < delay.units) (d : Diff) (size : Int) :
    (d.course size delay).filter Act.isRestOrWrite = writesAndRests delay (d.plan size) := by
  have hpause : ∀ c : Bool, (if c then [Act.rest delay] else []).filter Act.isRestOrWrite =
      if c then [.rest delay] else [] := by
    intro c
    cases c <;> rfl
  unfold Diff.course Diff.plan
  dsimp only
  rw [pauses_of_pos h, List.filter_append, List.filter_append, List.filter_append, hpause,
    filter_rests_chunkCourse_zero h, filter_rests_chunkCourse_zero h, writesAndRests_append,
    List.filter_cons_of_neg Bool.false_ne_true, List.filter_nil, List.append_nil, chunkCalls,
    chunkCalls, List.isEmpty_map, List.isEmpty_map]

/-! The reports -/

/-- Phase, items done and items in all. -/
def Progress.counts (p : Progress) : Json × Json × Json := (p.phase, p.current, p.total)

theorem tells_pauses (c : Prop) [Decidable c] :
    (if c then pauses delay else []).filterMap Act.progress? = [] := by
  unfold pauses
  split
  · split <;> rfl
  · rfl

theorem tells_chunkCourse (index : Nat) (chunks : List (List String)) :
    ((chunkCourse operation playlist delay before total count index chunks).filterMap
        Act.progress?).map Progress.counts =
      (List.range' (before + index) chunks.length).map
        fun i => (.text "apply", .int i, .int total) := by
  induction chunks generalizing index with
  | nil => rfl
  | cons chunk others ih =>
    simp only [chunkCourse, List.filterMap_cons, Act.progress?, List.filterMap_append, tells_pauses,
      List.nil_append, List.map_cons, ih (index + 1), List.length_cons, List.range'_succ]
    rfl

/-- **The reports of a course count its calls**, from none to all of them. -/
theorem tells_course (d : Diff) (size : Int) (delay : Amount) :
    ((d.course size delay).filterMap Act.progress?).map Progress.counts =
      (List.range ((d.plan size).length + 1)).map
        fun i => (.text "apply", .int i, .int (d.plan size).length) := by
  have htotal : ((chunksOf size.toNat d.toRemove).length : Int) + (chunksOf size.toNat d.toAdd).length =
      (d.plan size).length := by
    rw [length_plan]
    rfl
  unfold Diff.course
  dsimp only
  rw [htotal, List.filterMap_append, List.filterMap_append, List.filterMap_append, tells_pauses,
    List.nil_append, List.map_append, List.map_append, tells_chunkCourse, tells_chunkCourse,
    List.range_eq_range', List.range'_concat, length_plan, ← List.range'_append_1, List.map_append,
    List.map_append, List.append_assoc]
  simp [Act.progress?, Progress.counts, Progress.of]

end Plans

/-! ### Where the work was ended -/

section Ends

variable {log before : List Done} {course : List Act} {plan : List Call} {e : Done} {c : Call}
  {f f' : Failure}

/-- A look that fails ends the work. -/
theorem ends?_of_look (h : e.look? = some (some f)) : e.act = .look ∧ e.ends? = some f := by
  obtain ⟨act, failure⟩ := e
  cases act <;> simp_all [Done.look?, Done.ends?, Act.isLook, Act.call?]

/-- A call that fails for good ends it. -/
theorem ends?_of_write (h : e.write? = some (c, some f)) (hf : f.isPassing = false) :
    e.ends? = some f := by
  obtain ⟨act, failure⟩ := e
  cases act <;> simp_all [Done.write?, Done.ends?, Act.call?]

/-- What is told by no entry before the last one is told by the last one. -/
theorem last_of_getElem? {γ : Type} {g : Done → Option γ} {x : γ} {i : Nat}
    (hbefore : ∀ b ∈ before, g b ≠ some x) (h : ((before ++ [e]).filterMap g)[i]? = some x) :
    g e = some x ∧ (before.filterMap g).length = i := by
  rw [List.filterMap_append] at h
  rcases Nat.lt_or_ge i (before.filterMap g).length with hlt | hge
  · rw [List.getElem?_append_left hlt] at h
    obtain ⟨b, hb, hx⟩ := List.mem_filterMap.1 (List.mem_of_getElem? h)
    exact absurd hx (hbefore b hb)
  · rw [List.getElem?_append_right hge] at h
    cases hg : g e with
    | none => simp [hg] at h
    | some y =>
      rw [List.filterMap_cons_some hg, List.filterMap_nil, List.getElem?_singleton] at h
      split at h
      · exact ⟨h, by omega⟩
      · cases h

section Telling

variable {γ : Type} {g : Done → Option γ} {x : γ} {i : Nat}

/-- What only an entry tells that ends the work is not told by work that came to its end. -/
theorem Fulfils.getElem?_ne (h : Fulfils course log) (hends : ∀ e, g e = some x → e.ends? = some f) :
    (log.filterMap g)[i]? ≠ some x := by
  intro hx
  obtain ⟨e, he, hx⟩ := List.mem_filterMap.1 (List.mem_of_getElem? hx)
  have := h.steady e he
  rw [hends e hx] at this
  cases this

/-- It is told by the last entry of work that was ended, which then failed as this entry tells. -/
theorem Stops.exists_last (h : Stops course f log) (hends : ∀ e, g e = some x → e.ends? = some f')
    (hx : (log.filterMap g)[i]? = some x) :
    f' = f ∧ ∃ before e, log = before ++ [e] ∧ g e = some x ∧ (before.filterMap g).length = i := by
  obtain ⟨before, e, rfl, hsteady, hbroken⟩ := h.broken
  have hbefore : ∀ b ∈ before, g b ≠ some x := by
    intro b hb htold
    have := hsteady b hb
    rw [hends b htold] at this
    cases this
  obtain ⟨hlast, hlength⟩ := last_of_getElem? hbefore hx
  exact ⟨Option.some.inj ((hends e hlast).symm.trans hbroken), before, e, rfl, hlast, hlength⟩

end Telling

theorem length_looksOf : (looksOf log).length = (log.map (·.act)).countP Act.isLook := by
  rw [looksOf, List.length_filterMap_eq_countP, List.countP_map]
  congr 1
  funext e
  simp only [Done.look?, Function.comp_apply]
  cases e.act.isLook <;> rfl

/-- Where each call comes after a look, as many calls were made before a look as looks. -/
theorem countP_isLook_of_concat (acts : List Act) (h : acts ++ [.look] <+: looksAndWrites plan) :
    acts.countP Act.isLook = (acts.filterMap Act.call?).length := by
  induction plan generalizing acts with
  | nil => simp [looksAndWrites] at h
  | cons c plan ih =>
    rcases acts with _ | ⟨a, _ | ⟨b, acts⟩⟩
    · rfl
    · -- the second of them is a call
      obtain ⟨-, hlook, -⟩ := (List.cons_prefix_cons.1 h).imp_right List.cons_prefix_cons.1
      cases hlook
    · obtain ⟨rfl, rfl, hrest⟩ := (List.cons_prefix_cons.1 h).imp_right List.cons_prefix_cons.1
      rw [List.countP_cons_of_pos rfl, List.countP_cons_of_neg Bool.false_ne_true, ih acts hrest]
      rfl

/-- **A look that found cancellation ended the work**, and as many calls were made as looks before. -/
theorem Stops.looked (h : Stops course f log)
    (hcourse : course.filter Act.isLookOrWrite = looksAndWrites plan) {i : Nat}
    (hlook : (looksOf log)[i]? = some (some f')) : f' = f ∧ (callsOf log).length = i := by
  obtain ⟨rfl, before, e, rfl, hlast, rfl⟩ := h.exists_last (fun _ he => (ends?_of_look he).2) hlook
  refine ⟨rfl, ?_⟩
  have hact := (ends?_of_look hlast).1
  have hfirst := h.acts.filter Act.isLookOrWrite
  rw [hcourse, List.map_append, List.map_singleton, hact, List.filter_append,
    List.filter_cons_of_pos rfl, List.filter_nil] at hfirst
  have hcount := countP_isLook_of_concat _ hfirst
  rw [filterMap_call?_filter, ← callsOf_eq_filterMap, List.countP_filter] at hcount
  have hlooks : (looksOf before).length = (callsOf before).length := by
    rw [length_looksOf, ← hcount]
    congr 1
    funext a
    cases a <;> rfl
  have hcalls : callsOf [e] = [] := by
    rw [callsOf, List.filterMap_cons_none (by rw [hact]; rfl), List.filterMap_nil]
  rw [callsOf_append, hcalls, List.append_nil, ← hlooks]
  rfl

/-- **A call that failed for good ended the work**: it is the last one that was made. -/
theorem Stops.wrote (h : Stops course f log) {i : Nat}
    (hwrite : (writesOf log)[i]? = some (c, some f')) (hf : f'.isPassing = false) :
    f' = f ∧ (callsOf log).length = i + 1 := by
  obtain ⟨rfl, before, e, rfl, hlast, rfl⟩ := h.exists_last (fun _ he => ends?_of_write he hf) hwrite
  refine ⟨rfl, ?_⟩
  rw [← length_writesOf, writesOf_append, List.length_append, writesOf, writesOf,
    List.filterMap_cons_some hlast, List.filterMap_nil, List.length_singleton]

end Ends

/-! ### How far the work comes -/

section Stopping

variable {σ : Type} {w : Writer σ} {m : Monitor σ} {d : Diff} {held : σ → List String}

/-- How far the work on a diff has come when it ends with `r`, after what is listed. -/
structure StopsOnCourse (d : Diff) (size : Int) (r : Except Failure Applied) (log : List Done) :
    Prop where
  /-- The calls are the first ones of the plan. -/
  calls : callsOf log <+: d.plan size
  /-- Where a look fails, as many calls were made as looks before it, and the work fails as it did. -/
  looked : ∀ i f, (looksOf log)[i]? = some (some f) → (callsOf log).length = i ∧ r = .error f
  /-- Where a call fails for good, it is the last one, and the work fails as it did. -/
  wrote : ∀ i c f, (writesOf log)[i]? = some (c, some f) → f.isPassing = false →
    (callsOf log).length = i + 1 ∧ r = .error f
  /-- Where the work does not fail, all calls of the plan were made. -/
  finished : ∀ applied, r = .ok applied → callsOf log = d.plan size
  /-- Where the size is not refused, the work fails only as its last act did. -/
  ended : IsChunkSize size → ∀ f, r = .error f → ∃ e, log.getLast? = some e ∧ e.ends? = some f

/-- A call changes what is held if it succeeds, and only then. -/
def Writer.Changes (w : Writer σ) (playlist : Option String) (held : σ → List String) : Prop :=
  ∀ operation items l, Meets (fun s => held s = l) (w.call ⟨operation, playlist, items⟩)
    (fun _ s => held s = Call.effect ⟨operation, playlist, items⟩ l) fun _ s => held s = l

/-- Without changes, and with a size that is refused, the work ends before it has begun. -/
theorem stopsOnCourse_nil {size : Int} {r : Except Failure Applied}
    (hok : ∀ applied, r = .ok applied → d.hasChanges = false)
    (herror : ∀ f, r = .error f → ¬IsChunkSize size) : StopsOnCourse d size r [] where
  calls := List.nil_prefix
  looked _ _ := nofun
  wrote _ _ _ := nofun
  finished applied hr := (plan_of_not_hasChanges (hok applied hr)).symm
  ended hsize f hr := absurd hsize (herror f hr)

theorem stopsOnCourse_traced (d : Diff) (w : Writer σ) (m : Monitor σ) (options : ApplyOptions) (s : σ) :
    StopsOnCourse d options.chunkSize ((d.traced w m options).runOn (s, [])).1
      ((d.traced w m options).runOn (s, [])).2.2 := by
  cases hchanges : d.hasChanges with
  | false =>
    rw [traced_unchanged hchanges]
    exact stopsOnCourse_nil (fun _ _ => hchanges) nofun
  | true =>
    by_cases hsize : IsChunkSize options.chunkSize
    · have hrun := does_traced (w := w) (m := m) hchanges hsize [] (s, []) rfl
      have hcourse := filter_looks_course d options.chunkSize options.pacing.delay
      have hplan := filterMap_call?_course d options.chunkSize options.pacing.delay
      revert hrun
      rcases (d.traced w m options).runOn (s, []) with ⟨f | applied, t, log⟩
      · rintro ⟨log, hstops, rfl⟩
        refine ⟨?_, fun i f' hlook => ?_, fun i c f' hwrite hf => ?_, nofun, fun _ f' hr => ?_⟩
        · have := hstops.acts.filterMap Act.call?
          rwa [hplan, ← callsOf_eq_filterMap] at this
        · obtain ⟨rfl, hcalls⟩ := hstops.looked hcourse hlook
          exact ⟨hcalls, rfl⟩
        · obtain ⟨rfl, hcalls⟩ := hstops.wrote hwrite hf
          exact ⟨hcalls, rfl⟩
        · obtain rfl : f = f' := Except.error.inj hr
          obtain ⟨before, e, rfl, -, hends⟩ := hstops.broken
          exact ⟨e, List.getLast?_concat, hends⟩
      · rintro ⟨-, log, hfulfils, rfl⟩
        have hcalls : callsOf log = d.plan options.chunkSize := by
          rw [callsOf_eq_filterMap, hfulfils.acts, hplan]
        exact ⟨hcalls ▸ List.prefix_rfl,
          fun _ _ h => absurd h (hfulfils.getElem?_ne fun _ he => (ends?_of_look he).2),
          fun _ _ _ h hf => absurd h (hfulfils.getElem?_ne fun _ he => ends?_of_write he hf),
          fun _ _ => hcalls, fun _ _ => nofun⟩
    · obtain ⟨f, hrun⟩ := traced_refused (w := w) (m := m) hchanges hsize s
      rw [hrun]
      exact stopsOnCourse_nil nofun fun _ _ => hsize

/-! What is held -/

/-- What a listed act does to what is held is told by its entry. -/
theorem keeps_changesOf {act : Act} {x : Action σ Unit} {items : List String}
    (h : ∀ l, Meets (fun s => held s = l) x (fun _ s => held s = changesOf [⟨act, none⟩] l)
      fun f s => held s = changesOf [⟨act, some f⟩] l) :
    Keeps (fun u : σ × List Done => held u.1 = changesOf u.2 items) (x.logging (Done.mk act)) := by
  rintro ⟨s, log⟩ hs
  have := h (changesOf log items) s hs
  unfold logging
  rw [runOn_ofRun]
  revert this
  rcases x.runOn s with ⟨f | a, t⟩
  · exact fun ht => ht.trans (changesOf_append items).symm
  · exact fun ht => ht.trans (changesOf_append items).symm

/-- **What is held is told by the calls that succeeded**, if the others and the monitor change nothing. -/
theorem held_traced (hw : w.Changes d.playlist held)
    (hm : ∀ l, m.Sustains (fun s => held s = l) fun _ s => held s = l) (options : ApplyOptions)
    (items : List String) :
    Keeps (fun u : σ × List Done => held u.1 = changesOf u.2 items) (d.traced w m options) := by
  have hmonitor : m.tracing.Sustains (fun u => held u.1 = changesOf u.2 items)
      fun _ u => held u.1 = changesOf u.2 items :=
    ⟨fun p => keeps_changesOf fun l => (hm l).report p, keeps_changesOf fun l => (hm l).check,
      fun seconds => keeps_changesOf fun l => (hm l).pause seconds⟩
  have hcall : ∀ operation chunk, Keeps (fun u : σ × List Done => held u.1 = changesOf u.2 items)
      (w.tracedCall options.pacing ⟨operation, d.playlist, chunk⟩) := fun operation chunk =>
    keeps_changesOf fun l => meets_bounded (hw operation chunk l) fun _ => id
  have hwrite : ∀ operation chunk,
      Meets (fun u : σ × List Done => held u.1 = changesOf u.2 items)
        (w.tracedCall options.pacing ⟨operation, d.playlist, chunk⟩)
        (fun _ u => held u.1 = changesOf u.2 items) fun f u =>
          if f.isPassing then held u.1 = changesOf u.2 items
          else held u.1 = changesOf u.2 items := fun operation chunk =>
    (hcall operation chunk).meets.imp_error fun f u hu => by rwa [ite_self]
  have hrun := meets_applyChunks (w := w.tracing options.pacing) (m := m.tracing) (d := d)
    (P := fun _ _ u => held u.1 = changesOf u.2 items) (E := fun _ u => held u.1 = changesOf u.2 items)
    ⟨options.chunkSize, { delay := options.pacing.delay }⟩ (fun _ _ => hmonitor)
    (fun _ chunk => hwrite .remove chunk) (fun _ _ chunk => hwrite .add chunk) fun _ _ _ _ => id
  exact hrun.imp (fun _ => id) (fun applied u ⟨_, _, hu, _⟩ => hu) fun _ _ => id

/-- **Interrupted work has made the first calls of its plan.** Where a look for cancellation fails, as
many calls were made as looks before it; where a call fails for good, it is the last one that was made;
the work fails as they did, and for no other reason than its last act. What is held then is told by the
calls that succeeded. -/
theorem apply_stops_on_course (changes : w.Changes d.playlist held)
    (leaves : ∀ l, m.Sustains (fun s => held s = l) fun _ s => held s = l) (options : ApplyOptions)
    (s : σ) :
    ∃ r t log, (d.traced w m options).runOn (s, []) = (r, t, log) ∧
      (d.apply w m options).runOn s = (r, t) ∧ StopsOnCourse d options.chunkSize r log ∧
      held t = changesOf log (held s) :=
  ⟨_, _, _, rfl, mirrors_traced d w m options (s, []), stopsOnCourse_traced d w m options s,
    keeps_iff.1 (held_traced changes leaves options (held s)) (s, []) rfl⟩

/-- A monitor that finds cancellation when a number of calls were made. -/
def cancellingAfter (calls : Nat) : Monitor (List String × Nat) where
  report _ := pure ()
  check := ofRun fun s => (if s.2 = calls then .error .cancelled else .ok (), s)
  pause _ := pure ()

theorem changes_scripted (playlist : Option String) (script : Nat → Option Failure) :
    (scripted script).Changes playlist Prod.fst := by
  rintro operation items _ ⟨l, n⟩ rfl
  cases operation with
  | add =>
    simp only [Writer.call, scripted, runOn_ofRun, Call.effect]
    cases script n <;> rfl
  | remove =>
    simp only [Writer.call, scripted, runOn_ofRun, Call.effect]
    cases script n <;> rfl

theorem sustains_cancellingAfter (calls : Nat) (l : List String) :
    (cancellingAfter calls).Sustains (fun s => s.1 = l) fun _ s => s.1 = l where
  report _ := meets_pure fun _ => id
  check := keeps_iff.2 fun _ hs => hs
  pause _ := meets_pure fun _ => id

/-- Of four planned calls the second fails and may be tried again, and cancellation is found before the
fourth: of the items `x` and `y` one is removed, and of `a` and `c` one is added. -/
theorem apply_stops_on_course_cancelled :
    (scripted secondAndFourth).Changes none Prod.fst ∧
      (∀ l, (cancellingAfter 3).Sustains (fun s => s.1 = l) fun _ s => s.1 = l) ∧
      (∃ r t log, ((computeDiff none ["a", "b", "c"] ["x", "b", "y", "x"]).traced
          (scripted secondAndFourth) (cancellingAfter 3) ⟨1, {}⟩).runOn
            ((["x", "b", "y", "x"], 0), []) = (r, t, log) ∧
        ((computeDiff none ["a", "b", "c"] ["x", "b", "y", "x"]).apply
          (scripted secondAndFourth) (cancellingAfter 3) ⟨1, {}⟩).runOn (["x", "b", "y", "x"], 0) =
            (r, t) ∧
        StopsOnCourse (computeDiff none ["a", "b", "c"] ["x", "b", "y", "x"]) 1 r log ∧
        t.1 = changesOf log ["x", "b", "y", "x"]) ∧
      (((computeDiff none ["a", "b", "c"] ["x", "b", "y", "x"]).apply
        (scripted secondAndFourth) (cancellingAfter 3) ⟨1, {}⟩).runOn
          (["x", "b", "y", "x"], 0)).2 = (["b", "y", "a"], 3) :=
  ⟨changes_scripted none secondAndFourth, sustains_cancellingAfter 3,
    apply_stops_on_course (changes_scripted none secondAndFourth) (sustains_cancellingAfter 3) ⟨1, {}⟩
      (["x", "b", "y", "x"], 0), by decide +kernel⟩

end Stopping

/-! ### The pace of the work -/

section Pacing

variable {σ : Type} {w : Writer σ} {m : Monitor σ} {d : Diff} {options : ApplyOptions}

/-- Every failure of a call passes. -/
def Writer.Passing (w : Writer σ) (playlist : Option String) : Prop :=
  ∀ operation items, Meets (fun _ => True) (w.call ⟨operation, playlist, items⟩) (fun _ _ => True)
    fun f _ => f.isPassing = true

/-- The reports that were made: phase, items done and items in all. -/
def tellsOf (log : List Done) : List (Json × Json × Json) :=
  ((log.map (·.act)).filterMap Act.progress?).map Progress.counts

/-- What work on a diff looks like that has come to its end. -/
structure KeepsPace (d : Diff) (options : ApplyOptions) (applied : Applied) (log : List Done) :
    Prop where
  /-- The calls are those of the plan. -/
  plan : callsOf log = d.plan options.chunkSize
  /-- As many calls are told as were made. -/
  told : applied.calls = (callsOf log).length
  /-- As many were estimated. -/
  estimated : d.callEstimate options.chunkSize = .ok (callsOf log).length
  /-- The reports count the calls, from none to all of them. -/
  reports : 0 < (callsOf log).length → tellsOf log =
    (List.range ((callsOf log).length + 1)).map
      fun i => (.text "apply", .int i, .int (callsOf log).length)
  /-- Before each call cancellation is looked for, once. -/
  looks : (log.map (·.act)).filter Act.isLookOrWrite = looksAndWrites (callsOf log)
  /-- Between two calls a pause is made, once. -/
  rests : (log.map (·.act)).filter Act.isRestOrWrite =
    writesAndRests options.pacing.delay (callsOf log)
  /-- Without calls nothing is done. -/
  idle : (callsOf log).length = 0 → log = []

/-- Where there are changes there are calls. -/
theorem plan_ne_nil (size : Int) (h : d.hasChanges = true) : d.plan size ≠ [] := by
  intro hplan
  obtain ⟨hremove, hadd⟩ := List.append_eq_nil_iff.1 hplan
  have hremoved := isEmpty_chunksOf size.toNat d.toRemove
  have hadded := isEmpty_chunksOf size.toNat d.toAdd
  rw [List.map_eq_nil_iff.1 hremove] at hremoved
  rw [List.map_eq_nil_iff.1 hadd] at hadded
  rw [Diff.hasChanges, ← hremoved, ← hadded] at h
  cases h

/-- Work that nothing ends comes to its end, and tells one call for each chunk. -/
theorem exists_runOn_apply (hw : w.Passing d.playlist) (hm : m.Sustains (fun _ => True) fun _ _ => False)
    (hsize : IsChunkSize options.chunkSize) (s : σ) :
    ∃ applied t, (d.apply w m options).runOn s = (.ok applied, t) ∧
      applied.calls = (d.plan options.chunkSize).length := by
  have hcall : ∀ operation chunk, Meets (fun _ => True)
      (options.pacing.bounded (w.call ⟨operation, d.playlist, chunk⟩)) (fun _ _ => True)
      fun f _ => if f.isPassing then True else False := fun operation chunk =>
    meets_bounded ((hw operation chunk).imp_error fun f _ hf => by rw [hf]; trivial)
      fun _ _ => trivial
  have hrun := meets_applyChunks (w := w) (m := m) (d := d) (P := fun _ _ _ => True)
    (E := fun _ _ => False) options (fun _ _ => hm) (fun _ chunk => hcall .remove chunk)
    (fun _ _ chunk => hcall .add chunk) fun h => absurd hsize h
  obtain ⟨applied, t, hx, ro, ao, -, rfl, -, hro, hao⟩ := hrun.exists_runOn (s := s) trivial
  refine ⟨_, t, hx, ?_⟩
  rw [length_plan, ← hro, ← hao, List.length_map, List.length_map]
  rfl

/-- A log of all acts of the course keeps the pace. -/
theorem keepsPace_of_fulfils {applied : Applied} {log : List Done}
    (hchanges : d.hasChanges = true) (hsize : IsChunkSize options.chunkSize)
    (hdelay : 0 < options.pacing.delay.units)
    (hlog : Fulfils (d.course options.chunkSize options.pacing.delay) log)
    (happlied : applied.calls = (d.plan options.chunkSize).length) :
    KeepsPace d options applied log := by
  have hplan : callsOf log = d.plan options.chunkSize := by
    rw [callsOf_eq_filterMap, hlog.acts, filterMap_call?_course]
  constructor
  case plan => exact hplan
  case told => rw [hplan, happlied]
  case estimated =>
    rw [hplan, length_plan, callEstimate_eq hsize]
    rfl
  case reports =>
    intro _
    rw [tellsOf, hlog.acts, hplan, tells_course]
  case looks => rw [hlog.acts, hplan, filter_looks_course]
  case rests => rw [hlog.acts, hplan, filter_rests_course hdelay]
  case idle =>
    intro hnone
    rw [hplan] at hnone
    exact absurd (List.length_eq_zero_iff.1 hnone) (plan_ne_nil _ hchanges)

theorem keepsPace_nil (hchanges : d.hasChanges = false) (hsize : IsChunkSize options.chunkSize) :
    KeepsPace d options {} [] := by
  have hplan : d.plan options.chunkSize = [] := plan_of_not_hasChanges hchanges
  refine ⟨hplan.symm, rfl, ?_, fun h => absurd h (Nat.lt_irrefl 0), rfl, rfl, fun _ => rfl⟩
  have hlength := length_plan d options.chunkSize
  rw [hplan, List.length_nil] at hlength
  rw [callEstimate_eq hsize, ← Int.natCast_add, ← hlength]
  rfl

theorem passing_scripted {script : Nat → Option Failure}
    (h : ∀ n f, script n = some f → f.isPassing = true) (playlist : Option String) :
    (scripted script).Passing playlist := by
  have hanswer : ∀ n, match answer (script n) with
      | .ok _ => True
      | .error f => f.isPassing = true := by
    intro n
    cases hn : script n with
    | none => trivial
    | some f => exact h n f hn
  rintro operation items ⟨l, n⟩ -
  have := hanswer n
  revert this
  cases operation with
  | add =>
    simp only [Writer.call, scripted, runOn_ofRun]
    cases answer (script n) <;> exact id
  | remove =>
    simp only [Writer.call, scripted, runOn_ofRun]
    cases answer (script n) <;> exact id

theorem sustains_silent : silent.Sustains (fun _ => True) fun _ _ => False :=
  ⟨fun _ => meets_pure fun _ => id, meets_pure fun _ => id, fun _ => meets_pure fun _ => id⟩

/-- One item at a time, with a second between two calls. -/
def everySecond : ApplyOptions := ⟨1, { delay := .whole 1 }⟩

end Pacing

end Mixtape
