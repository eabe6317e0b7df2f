import Mixtape.Proofs.Outward.Columns
import Mixtape.Proofs.Outward.Log

/-!
# What a pass comes to

Once the membership is evaluated and noted, what a pass comes to can be read off its log. An entry that
ends a pass makes it fail, with the failure of the entry. Otherwise the pass goes on to its end: it fails if
something was to be written and no write succeeded, and succeeds in all other cases; and in both it counts
what was really changed on the copy.

While a diff is applied, the writes in the log are the outcomes of its chunks so far, and the copy holds
what it held before, without the items of the removals and with those of the additions that succeeded.

## Main definitions

* `onlyIn here there` — the items of one list that are not in another, each once.
* `Monitor.Speaks` — reports and pauses do not fail, and a look fails only if it finds cancellation.
* `Writing ro ao log` — a log that goes on, whose writes are those of the outcomes so far.
* `Counts` — a result counts what was changed on the copy, and tells each failed write.
* `Verdict` — what a pass comes to.

## Main results

* `writesFail_iff` — no write succeeded exactly when there were errors and nothing was done.
* `meets_applyLogged`, `meets_openLogged`, `meets_writeLogged` — the parts of a pass.
* `verdict_of_bringOutward` — **what a pass comes to is read off its log.**
-/

namespace Mixtape

open Action

/-! ### What was changed on a copy -/

/-- The items of one list that are not in another, each once. -/
def onlyIn (here there : List String) : List String := (dedup here).filter (!there.contains ·)

section Changes

variable {prev removed added : List String} {x : String}

theorem mem_onlyIn {here there : List String} : x ∈ onlyIn here there ↔ x ∈ here ∧ x ∉ there := by
  simp [onlyIn]

theorem nodup_onlyIn {here there : List String} : (onlyIn here there).Nodup :=
  (nodup_dedup here).filter _

theorem onlyIn_self (here : List String) : onlyIn here here = [] :=
  List.eq_nil_iff_forall_not_mem.2 fun _ h => (mem_onlyIn.1 h).2 (mem_onlyIn.1 h).1

/-- Lists without repetitions that have the same members are of the same length. -/
theorem length_eq_of_mem_iff {l l' : List String} (hl : l.Nodup) (hl' : l'.Nodup)
    (h : ∀ x, x ∈ l ↔ x ∈ l') : l.length = l'.length :=
  ((List.perm_ext_iff_of_nodup hl hl').2 h).length_eq

/-- Items that were not there before are on the copy once they were added. -/
theorem length_onlyIn_added (hadded : added.Nodup) (hnew : ∀ x ∈ added, x ∉ prev) :
    (onlyIn (prev.filter (!removed.contains ·) ++ added) prev).length = added.length := by
  refine length_eq_of_mem_iff nodup_onlyIn hadded fun x => ?_
  rw [mem_onlyIn, List.mem_append]
  constructor
  · rintro ⟨h | h, hprev⟩
    · exact absurd (List.mem_filter.1 h).1 hprev
    · exact h
  · exact fun h => ⟨.inr h, hnew x h⟩

/-- Items that were there before are not on the copy once they were removed. -/
theorem length_onlyIn_removed (hremoved : removed.Nodup) (hold : ∀ x ∈ removed, x ∈ prev)
    (hnew : ∀ x ∈ added, x ∉ prev) :
    (onlyIn prev (prev.filter (!removed.contains ·) ++ added)).length = removed.length := by
  refine length_eq_of_mem_iff nodup_onlyIn hremoved fun x => ?_
  rw [mem_onlyIn, List.mem_append, List.mem_filter]
  constructor
  · rintro ⟨hprev, h⟩
    refine Classical.byContradiction fun hx => h (.inl ⟨hprev, ?_⟩)
    simpa using hx
  · refine fun h => ⟨hold x h, ?_⟩
    rintro (⟨-, hx⟩ | hx)
    · simp [h] at hx
    · exact hnew x hx (hold x h)

end Changes

/-! ### The writes in a log -/

/-- The write that the outcome of a chunk stands for. -/
def wroteOf (operation : ChunkOperation) (o : Outcome String Unit) : Happening :=
  .wrote operation o.items o.failure?

section Writes

variable {log : List Happening} {ro ao os : List (Outcome String Unit)} {operation : ChunkOperation}

theorem error?_wroteOf (operation : ChunkOperation) (o : Outcome String Unit) :
    (wroteOf operation o).error? = chunkError? operation o := by
  obtain ⟨index, items, result⟩ := o
  cases result <;> rfl

/-- The errors that are told are those of the failed writes. -/
theorem errors_eq (h : log.filter Happening.isWrite =
    ro.map (wroteOf .remove) ++ ao.map (wroteOf .add)) :
    (appliedOf ro ao).errors = log.filterMap Happening.error? := by
  have hwrites : log.filterMap Happening.error? =
      (log.filter Happening.isWrite).filterMap Happening.error? := by
    rw [List.filterMap_filter]
    refine congrArg (List.filterMap · log) (funext fun g => ?_)
    cases g <;> rfl
  have hone : ∀ operation, Happening.error? ∘ wroteOf operation = chunkError? operation :=
    fun operation => funext (error?_wroteOf operation)
  rw [hwrites, h, List.filterMap_append, List.filterMap_map, List.filterMap_map, hone, hone]
  rfl

/-- Where no chunk is empty, nothing was done exactly when no chunk succeeded. -/
theorem doneItems_eq_nil_iff (hfull : ∀ o ∈ os, o.items ≠ []) :
    doneItems os = [] ↔ ∀ o ∈ os, o.failure? ≠ none := by
  unfold doneItems
  rw [List.flatMap_eq_nil_iff]
  constructor
  · intro h o ho hnone
    refine hfull o ho (h o (List.mem_filter.2 ⟨ho, ?_⟩))
    obtain ⟨index, items, _ | _⟩ := o
    · cases hnone
    · rfl
  · intro h o ho
    obtain ⟨hmem, hok⟩ := List.mem_filter.1 ho
    obtain ⟨index, items, _ | _⟩ := o
    · cases hok
    · exact absurd rfl (h _ hmem)

theorem mem_wroteOf {h : Happening} (hw : log.filter Happening.isWrite =
    ro.map (wroteOf .remove) ++ ao.map (wroteOf .add)) (hwrite : h.isWrite = true) :
    h ∈ log ↔ (∃ o ∈ ro, wroteOf .remove o = h) ∨ ∃ o ∈ ao, wroteOf .add o = h := by
  rw [← List.mem_map, ← List.mem_map, ← List.mem_append, ← hw, List.mem_filter]
  exact (and_iff_left hwrite).symm

/-- **No write succeeded exactly when there were errors and nothing was done**, where no chunk is empty. -/
theorem writesFail_iff (h : log.filter Happening.isWrite =
    ro.map (wroteOf .remove) ++ ao.map (wroteOf .add)) (hro : ∀ o ∈ ro, o.items ≠ [])
    (hao : ∀ o ∈ ao, o.items ≠ []) : WritesFail log ↔ (appliedOf ro ao).allFailed = true := by
  have hall : (appliedOf ro ao).allFailed = true ↔ (appliedOf ro ao).errors ≠ [] ∧
      (∀ o ∈ ao, o.failure? ≠ none) ∧ ∀ o ∈ ro, o.failure? ≠ none := by
    rw [← doneItems_eq_nil_iff hao, ← doneItems_eq_nil_iff hro]
    simp [Applied.allFailed, appliedOf, and_assoc]
  rw [hall, errors_eq h]
  constructor
  · rintro ⟨⟨operation, items, failure, hmem⟩, hnone⟩
    refine ⟨fun hnil => ?_, fun o ho hf => ?_, fun o ho hf => ?_⟩
    · cases failure with
      | none => exact hnone _ _ hmem
      | some f => cases List.filterMap_eq_nil_iff.1 hnil _ hmem
    · refine hnone .add o.items ((mem_wroteOf h rfl).2 (.inr ⟨o, ho, ?_⟩))
      rw [wroteOf, hf]
    · refine hnone .remove o.items ((mem_wroteOf h rfl).2 (.inl ⟨o, ho, ?_⟩))
      rw [wroteOf, hf]
  · rintro ⟨herrors, hadds, hremoves⟩
    obtain ⟨e, he⟩ := List.exists_mem_of_ne_nil _ herrors
    obtain ⟨g, hg, hge⟩ := List.mem_filterMap.1 he
    refine ⟨?_, fun operation items hmem => ?_⟩
    · cases g with
      | wrote operation items failure => exact ⟨operation, items, failure, hg⟩
      | asked failure => cases hge
      | looked failure => cases hge
    · rcases (mem_wroteOf h rfl).1 hmem with ⟨o, ho, heq⟩ | ⟨o, ho, heq⟩
      · exact hremoves o ho (Happening.wrote.inj heq).2.2
      · exact hadds o ho (Happening.wrote.inj heq).2.2

/-- The items done are among those of the chunks, in their order. -/
theorem doneItems_sublist (os : List (Outcome String Unit)) :
    (doneItems os).Sublist (os.map (·.items)).flatten := by
  induction os with
  | nil => exact .slnil
  | cons o rest ih =>
    obtain ⟨index, items, result⟩ := o
    rw [← List.singleton_append, doneItems_append, List.map_append, List.flatten_append]
    refine List.Sublist.append ?_ ih
    cases result <;> simp

end Writes

/-! ### Applying a diff -/

variable {σ : Type} {items : σ → String → List String} {s : Settings} {o : Outside σ}
  {m : Monitor σ} {options : ApplyOptions} {n : Int} {force : Bool} {D S : Database → Prop}
  {copy : String} {prev desired : List String}

/-- Reports and pauses do not fail, and a look for cancellation fails only if it finds it. -/
structure Monitor.Speaks (m : Monitor σ) : Prop where
  /-- Progress is reported. -/
  report : ∀ p, Meets (fun _ => True) (m.report p) (fun _ _ => True) fun _ _ => False
  /-- A pause is made. -/
  pause : ∀ x, Meets (fun _ => True) (m.pause x) (fun _ _ => True) fun _ _ => False
  /-- It is looked for cancellation. -/
  check : Meets (fun _ => True) m.check (fun _ _ => True) fun f _ => f = .cancelled

/-- The log of a pass that goes on: its writes are those of the outcomes so far. -/
def Writing (ro ao : List (Outcome String Unit)) (log : List Happening) : Prop :=
  Steady log ∧
    log.filter Happening.isWrite = ro.map (wroteOf .remove) ++ ao.map (wroteOf .add)

section Entries

variable {ro ao : List (Outcome String Unit)} {log : List Happening} {h : Happening}
  {i : Nat} {chunk : List String} {r : Except Failure Unit}

/-- An entry that is no write and ends nothing. -/
theorem Writing.concat (hlog : Writing ro ao log) (hends : h.ends? = none)
    (hwrite : h.isWrite = false) : Writing ro ao (log ++ [h]) := by
  refine ⟨hlog.1.concat hends, ?_⟩
  rw [List.filter_append, hlog.2]
  simp [hwrite]

/-- A removal that succeeded, or failed and may be tried again. -/
theorem Writing.removal (hlog : Writing ro [] log)
    (hends : (Happening.wrote .remove chunk (failure? r)).ends? = none) :
    Writing (ro ++ [⟨i, chunk, r⟩]) [] (log ++ [.wrote .remove chunk (failure? r)]) := by
  refine ⟨hlog.1.concat hends, ?_⟩
  rw [List.filter_append, hlog.2]
  cases r <;> simp [wroteOf, failure?, Outcome.failure?, Happening.isWrite]

/-- An addition that succeeded, or failed and may be tried again. -/
theorem Writing.addition (hlog : Writing ro ao log)
    (hends : (Happening.wrote .add chunk (failure? r)).ends? = none) :
    Writing ro (ao ++ [⟨i, chunk, r⟩]) (log ++ [.wrote .add chunk (failure? r)]) := by
  refine ⟨hlog.1.concat hends, ?_⟩
  rw [List.filter_append, hlog.2]
  cases r <;> simp [wroteOf, failure?, Outcome.failure?, Happening.isWrite]

end Entries

section Calls

variable {α : Type} {ro ao : List (Outcome String Unit)} {O : σ → Prop} {x : Action σ α}
  {Q : α → σ → Prop} {E : Failure → σ → Prop}

/-- A computation keeps a property, and fails only in a certain way. -/
theorem meets_of_keeps {F : Failure → Prop} (hkeeps : Keeps O x)
    (hfails : Meets (fun _ => True) x (fun _ _ => True) fun f _ => F f) :
    Meets O x (fun _ => O) fun f _ => F f := by
  have hboth := hkeeps.meets.and (hfails.imp (fun _ (_ : O _) => trivial) (fun _ _ => id) fun _ _ => id)
  exact hboth.imp (fun _ => id) (fun _ _ h => h.1) fun _ _ h => h.2

/-- What is no write goes on, or ends the pass, as its entry tells. -/
theorem meets_entry {entry : Option Failure → Happening} (hends : ∀ f, (entry f).ends? = f)
    (hwrite : ∀ f, (entry f).isWrite = false) (h : Meets O x Q E)
    (hlook : ∀ f u, E f u → (entry (some f)).isLook = true → f = .cancelled) :
    Meets (fun u => O u.1 ∧ Writing ro ao u.2) (x.logging entry)
      (fun a u => Q a u.1 ∧ Writing ro ao u.2) fun f u => Breaks f u.2 := by
  refine (meets_logging entry h).imp (fun _ => id) ?_ ?_
  · rintro a u ⟨hQ, log, hlog, heq⟩
    exact ⟨hQ, heq ▸ hlog.concat (hends none) (hwrite none)⟩
  · rintro f u ⟨hE, log, hlog, heq⟩
    exact heq ▸ hlog.1.breaks (hends (some f)) (hlook f _ hE)

/-- A call of the platform that is no write. -/
theorem meets_askLogged (h : Meets O x Q E) :
    Meets (Holding D S fun u => O u.1 ∧ Writing ro ao u.2) (World.ask (x.logging Happening.asked))
      (fun a => Holding D S fun u => Q a u.1 ∧ Writing ro ao u.2)
      fun f w => S w.saved ∧ Breaks f w.outside.2 := by
  refine meets_ask (meets_entry (fun _ => rfl) (fun _ => rfl) h ?_)
  intro f _ _ hlook
  cases hlook

/-- Reports and pauses leave the log, and a look for cancellation goes on or ends the pass. -/
theorem sustains_watchLogged {m : Monitor σ} (leaves : m.Leaves O) (speaks : m.Speaks) :
    (World.watch m.logging).Sustains (Holding D S fun u => O u.1 ∧ Writing ro ao u.2)
      fun f w => S w.saved ∧ Breaks f w.outside.2 where
  report p := (meets_ask (meets_unlogged (meets_of_keeps (leaves.report p) (speaks.report p)))).imp_error
    fun _ _ h => h.2.1.elim
  check := meets_ask (meets_entry (fun _ => rfl) (fun _ => rfl)
    (meets_of_keeps leaves.check speaks.check) fun _ _ h _ => h)
  pause x := (meets_ask (meets_unlogged (meets_of_keeps (leaves.pause x) (speaks.pause x)))).imp_error
    fun _ _ h => h.2.1.elim

end Calls

/-- **Applying a diff is logged**, outcome by outcome: the copy holds what the outcomes so far have left, and
the log tells them. -/
theorem meets_applyLogged (honest : o.platform.Honest items) (quiet : m.Quiet items)
    (speaks : m.Speaks) (size : IsChunkSize options.chunkSize)
    (begins : options.pacing.letsBegin = true) :
    Meets (Holding D S fun u => items u.1 copy = prev ∧ Writing [] [] u.2)
      ((computeDiff (some copy) desired prev).apply o.logging.platform.writer
        (World.watch m.logging) options)
      (fun applied w => ∃ ro ao, applied = appliedOf ro ao ∧
        ro.map (·.items) =
          chunksOf options.chunkSize.toNat (computeDiff (some copy) desired prev).toRemove ∧
        ao.map (·.items) =
          chunksOf options.chunkSize.toNat (computeDiff (some copy) desired prev).toAdd ∧
        Holding D S (fun u =>
          items u.1 copy = prev.filter (!(doneItems ro).contains ·) ++ doneItems ao ∧
            Writing ro ao u.2) w)
      fun f w => S w.saved ∧ Breaks f w.outside.2 := by
  let P (ro ao : List (Outcome String Unit)) : World (σ × List Happening) → Prop :=
    Holding D S fun u => items u.1 copy = prev.filter (!(doneItems ro).contains ·) ++ doneItems ao ∧
      Writing ro ao u.2
  refine (meets_applyChunks (P := P) options
    (fun ro ao => sustains_watchLogged (quiet copy _) speaks) (fun ro chunk => ?_)
    (fun ro ao chunk => ?_) fun hrefused => absurd size hrefused).imp ?_ ?_ fun _ _ => id
  · unfold Pacing.bounded
    rw [if_pos begins]
    refine (meets_asking (meets_logging (L := Writing ro []) (.wrote .remove chunk)
      (honest.remove copy _ chunk))).imp (fun _ => id) ?_ ?_
    · rintro r w ⟨hD, hS, hitems, log, hlog, heq⟩
      refine ⟨hD, hS, ?_, heq ▸ hlog.removal rfl⟩
      rw [hitems, doneItems_append, doneItems_ok, List.filter_append, filter_filter_contains]
      rfl
    · rintro f w ⟨hD, hS, hitems, log, hlog, heq⟩
      cases hpassing : f.isPassing with
      | true =>
        refine ⟨hD, hS, ?_, heq ▸ hlog.removal (r := .error f) (ends?_of_isPassing hpassing)⟩
        rw [hitems, doneItems_append, doneItems_error, List.append_nil]
      | false => exact ⟨hS, heq ▸ hlog.1.breaks_write hpassing⟩
  · unfold Pacing.bounded
    rw [if_pos begins]
    refine (meets_asking (meets_logging (L := Writing ro ao) (.wrote .add chunk)
      (honest.add copy _ chunk))).imp (fun _ => id) ?_ ?_
    · rintro r w ⟨hD, hS, hitems, log, hlog, heq⟩
      refine ⟨hD, hS, ?_, heq ▸ hlog.addition rfl⟩
      rw [hitems, doneItems_append, doneItems_ok, List.append_assoc]
    · rintro f w ⟨hD, hS, hitems, log, hlog, heq⟩
      cases hpassing : f.isPassing with
      | true =>
        refine ⟨hD, hS, ?_, heq ▸ hlog.addition (r := .error f) (ends?_of_isPassing hpassing)⟩
        rw [hitems, doneItems_append, doneItems_error, List.append_nil]
      | false => exact ⟨hS, heq ▸ hlog.1.breaks_write hpassing⟩
  · rintro w ⟨hD, hS, hitems, hlog⟩
    refine ⟨hD, hS, hitems.trans ?_, hlog⟩
    exact ((List.append_nil _).trans (List.filter_eq_self.2 fun _ _ => rfl)).symm
  · rintro applied w ⟨ro, ao, h, happlied, -, hro, hao⟩
    exact ⟨ro, ao, happlied, hro, hao, h⟩

/-! ### The copy -/

/-- A playlist can be read, and a copy of it is noted, or none. -/
def Database.Reads (n : Int) (noted : Option String) (d : Database) : Prop :=
  (∃ p, (Database.playlist n).runOn d = (.ok p, d)) ∧ d.copyOf n = noted

/-- A playlist that can be read can be noted of, with a copy or without. -/
theorem Database.meets_changePlaylist_reads {noted noted' : Option String}
    {f : PlaylistRow → Except Failure PlaylistRow}
    (hf : ∀ r, ∃ c, f r = .ok c ∧ c.id = r.id ∧ c.name = r.name ∧ c.criteria = r.criteria ∧
      c.remoteId = noted') :
    Meets (Database.Reads n noted) (Database.changePlaylist n f)
      (fun _ => Database.Reads n noted') fun _ _ => False := by
  have hnoting : Database.Noting n (Database.changePlaylist n f) := by
    refine ⟨f, rfl, fun r => ?_⟩
    obtain ⟨c, hc, hid, hname, hcriteria, -⟩ := hf r
    exact ⟨c, hc, hid, hname, hcriteria⟩
  rintro d ⟨⟨p, hp⟩, -⟩
  obtain ⟨q, d', hnoted⟩ := hnoting.exists_runOn hp
  rw [hnoted]
  refine ⟨⟨q, hnoting.playlist hnoted⟩, ?_⟩
  obtain ⟨r, c, -, hrow, hc, -, rfl⟩ := Database.runOn_changePlaylist_eq_ok.1 hnoted
  obtain ⟨c', hc', hid, -, -, hcopy⟩ := hf r
  obtain rfl : c = c' := Except.ok.inj (hc.symm.trans hc')
  have hrow' := Database.rowOf_withRow hrow (hid.trans (Database.id_of_rowOf hrow))
  rw [Database.copyOf, hrow']
  exact hcopy

variable {noted : Option String} {before : String → List String} {p : SmartPlaylist}
  {members : Membership}

/-- Opening the copy is logged: it is the noted one, as it stands, or a new one that is empty. -/
theorem meets_openLogged (honest : o.platform.Honest items) (hremote : p.remoteId = .ofText? noted) :
    Meets (Holding (Database.Reads n noted) (Database.Reads n noted) fun u =>
        items u.1 = before ∧ Writing [] [] u.2)
      (openCopy s o.logging n p)
      (fun (_, copy, _, held) w => (noted = none ∧ held = [] ∨ noted = some copy ∧ held = before copy) ∧
        Holding (Database.Reads n (some copy)) (Database.Reads n (some copy))
          (fun u => items u.1 copy = held ∧ Writing [] [] u.2) w)
      fun f w => Breaks f w.outside.2 := by
  unfold openCopy
  cases noted with
  | none =>
    rw [hremote]
    have hcreate : Meets (fun u => items u = before)
        (o.platform.createPlaylist (p.outwardName s) (p.outwardDescription s))
        (fun c u => items u c = []) fun _ _ => True :=
      (honest.create _ _).imp (fun _ _ => trivial) (fun _ _ => id) fun _ _ => id
    refine Meets.bind ((meets_askLogged hcreate).imp_error fun _ _ h => h.2) fun c => ?_
    have hset : Meets (Database.Reads n none) (Database.setRemoteId n (.text c))
        (fun _ => Database.Reads n (some c)) fun _ _ => False :=
      Database.meets_changePlaylist_reads fun r => ⟨_, rfl, rfl, rfl, rfl, rfl⟩
    refine Meets.bind (meets_query_of_certain hset) fun p' => ?_
    refine Meets.bind (meets_commit (S := Database.Reads n none)) fun _ => ?_
    exact meets_pure fun w h => ⟨.inl ⟨rfl, rfl⟩, h⟩
  | some c =>
    rw [hremote]
    have hdescribe : Meets (fun u => items u = before)
        (o.platform.updateDetails c (p.outwardName s) (p.outwardDescription s))
        (fun _ u => items u c = before c) fun _ _ => True :=
      (honest.describe c _ _ c (before c)).meets.imp (fun _ h => congrFun h c) (fun _ _ => id)
        fun _ _ _ => trivial
    refine Meets.bind ((meets_askLogged hdescribe).imp_error fun _ _ h => h.2) fun _ => ?_
    refine Meets.bind ((meets_askLogged (honest.read c (before c))).imp_error fun _ _ h => h.2)
      fun held => ?_
    refine meets_pure ?_
    rintro w ⟨hd, hs, ⟨hheld, hitems⟩, hlog⟩
    exact ⟨.inr ⟨rfl, hheld⟩, hd, hs, hitems.trans hheld.symm, hlog⟩

/-! ### What a pass comes to -/

/-- A result counts the tracks of a membership and the items that were really added to the copy and removed
from it, and tells every failed write. A copy that was just created held nothing before. -/
structure Counts (n : Int) (members : Membership) (noted : Option String)
    (before now : String → List String) (log : List Happening) (d : Database) (r : SyncResult) :
    Prop where
  /-- The tracks are those of the membership. -/
  total : r.total = members.trackIds.length
  /-- The items are those that were changed on the copy. -/
  changes : ∃ copy prev, d.copyOf n = some copy ∧
    (noted = none ∧ prev = [] ∨ noted = some copy ∧ prev = before copy) ∧
    r.added = (onlyIn (now copy) prev).length ∧ r.changed = (onlyIn prev (now copy)).length
  /-- There is a line for each failed write. -/
  errors : r.errors = (log.filterMap Happening.error?).map ChunkError.text

/-- The changes of a copy that was noted before. -/
theorem Counts.of_noted {before now : String → List String} {log : List Happening} {d : Database}
    {r : SyncResult} (h : Counts n members noted before now log d r) (hnoted : noted = some copy)
    (hcopy : d.copyOf n = some copy) :
    r.added = (onlyIn (now copy) (before copy)).length ∧
      r.changed = (onlyIn (before copy) (now copy)).length := by
  obtain ⟨copy', prev, hcopy', hprev, hchanges⟩ := h.changes
  obtain rfl : copy' = copy := Option.some.inj (hcopy'.symm.trans hcopy)
  rcases hprev with ⟨hnone, -⟩ | ⟨-, rfl⟩
  · cases hnone.symm.trans hnoted
  · exact hchanges

/-- What a pass comes to, told by its log. -/
inductive Verdict (counts : SyncResult → Prop) (log : List Happening) :
    Except Failure SyncOutcome → Prop
  /-- Something ended the pass. -/
  | breaks (f : Failure) (breaks : Breaks f log) : Verdict counts log (.error f)
  /-- All writes failed. -/
  | fails (reason : String) (result : SyncResult) (steady : Steady log) (fail : WritesFail log)
      (counted : counts result) :
      Verdict counts log (.error (.syncFailed reason (some result.record)))
  /-- The pass succeeded. -/
  | ends (out : SyncOutcome) (steady : Steady log) (done : ¬WritesFail log)
      (counted : counts out.result) : Verdict counts log (.ok out)

/-- The outcomes of all chunks tell what was changed on the copy. -/
theorem counts_of_outcomes {ro ao : List (Outcome String Unit)} {now : String → List String}
    {log : List Happening} {d : Database} (size : IsChunkSize options.chunkSize)
    (hcopy : d.copyOf n = some copy)
    (hprev : noted = none ∧ prev = [] ∨ noted = some copy ∧ prev = before copy)
    (hitems : now copy = prev.filter (!(doneItems ro).contains ·) ++ doneItems ao)
    (hro : ro.map (·.items) =
      chunksOf options.chunkSize.toNat (computeDiff (some copy) desired prev).toRemove)
    (hao : ao.map (·.items) =
      chunksOf options.chunkSize.toNat (computeDiff (some copy) desired prev).toAdd)
    (hlog : Writing ro ao log) {out : SyncOutcome} (hmembers : out.membership = members)
    (happlied : out.applied = some (appliedOf ro ao)) :
    Counts n members noted before now log d out.result := by
  -- the items done are among those of the diff
  have hremoved := doneItems_sublist ro
  have hadded := doneItems_sublist ao
  rw [hro, flatten_chunksOf size.toNat_pos] at hremoved
  rw [hao, flatten_chunksOf size.toNat_pos] at hadded
  have hold : ∀ x ∈ doneItems ro, x ∈ prev := fun x hx =>
    (mem_toRemove_computeDiff.1 (hremoved.subset hx)).1
  have hnew : ∀ x ∈ doneItems ao, x ∉ prev := fun x hx =>
    (mem_toAdd_computeDiff.1 (hadded.subset hx)).2
  have hresult : out.result = ⟨members.trackIds.length, (doneItems ao).length, (doneItems ro).length,
      (appliedOf ro ao).errors.map ChunkError.text⟩ := by
    rw [SyncOutcome.result, happlied, hmembers]
    rfl
  rw [hresult]
  refine ⟨rfl, ⟨copy, prev, hcopy, hprev, ?_, ?_⟩, ?_⟩
  · rw [hitems, length_onlyIn_added (hadded.nodup nodup_toAdd_computeDiff) hnew]
  · rw [hitems, length_onlyIn_removed (hremoved.nodup nodup_toRemove_computeDiff) hold hnew]
  · rw [← errors_eq hlog.2]

/-- What holds when a pass has come to something. -/
def Comes (items : σ → String → List String) (n : Int) (members : Membership) (noted : Option String)
    (before : String → List String) (r : Except Failure SyncOutcome) (d : Database)
    (u : σ × List Happening) : Prop :=
  Verdict (Counts n members noted before (items u.1) u.2 d) u.2 r

theorem comes_of_breaks {f : Failure} {d : Database} {u : σ × List Happening} (h : Breaks f u.2) :
    Comes items n members noted before (.error f) d u := .breaks f h

/-- Writing the copy comes to what the log tells. -/
theorem meets_writeLogged (honest : o.platform.Honest items) (quiet : m.Quiet items)
    (speaks : m.Speaks) (size : IsChunkSize options.chunkSize)
    (begins : options.pacing.letsBegin = true) (hremote : p.remoteId = .ofText? noted) :
    Meets (Holding (Database.Reads n noted) (Database.Reads n noted) fun u =>
        items u.1 = before ∧ Writing [] [] u.2)
      (writeCopy s o.logging (World.watch m.logging) options n p members)
      (fun out w => Comes items n members noted before (.ok out) w.database w.outside)
      fun f w => Comes items n members noted before (.error f) w.saved w.outside := by
  unfold writeCopy
  refine Meets.bind ((meets_openLogged honest hremote).imp_error fun _ _ h => comes_of_breaks h) ?_
  rintro ⟨p', copy, created, held⟩
  refine meets_of_and fun hprev => ?_
  refine Meets.bind ((meets_applyLogged honest quiet speaks size begins).imp_error
    fun _ _ h => comes_of_breaks h.2) fun applied => ?_
  refine meets_of_exists fun ro => meets_of_exists fun ao => ?_
  refine meets_of_and fun happlied => meets_of_and fun hro => meets_of_and fun hao => ?_
  subst happlied
  -- no chunk is empty
  have hfull : ∀ {items : List String} {os : List (Outcome String Unit)},
      os.map (·.items) = chunksOf options.chunkSize.toNat items → ∀ o ∈ os, o.items ≠ [] :=
    fun h o ho => ne_nil_of_mem_chunksOf size.toNat_pos (h ▸ List.mem_map_of_mem ho)
  refine meets_ite (fun hfailed => ?_) fun hdone => ?_
  · -- no write succeeded
    refine Meets.bind (Q := fun _ _ => False) (meets_throw ?_) fun _ _ h => h.elim
    rintro w ⟨-, hs, hitems, hlog⟩
    refine .fails _ _ hlog.1 ((writesFail_iff hlog.2 (hfull hro) (hfull hao)).2 hfailed) ?_
    exact counts_of_outcomes size hs.2 hprev hitems hro hao hlog rfl rfl
  have hends : ∀ {d : Database} {u : σ × List Happening} {out : SyncOutcome},
      d.copyOf n = some copy →
      items u.1 copy = held.filter (!(doneItems ro).contains ·) ++ doneItems ao → Writing ro ao u.2 →
      out.membership = members → out.applied = some (appliedOf ro ao) →
      Comes items n members noted before (.ok out) d u := by
    intro d u out hcopy hitems hlog hmembers happlied
    refine .ends out hlog.1 (fun hfail => hdone ?_) ?_
    · exact (writesFail_iff hlog.2 (hfull hro) (hfull hao)).1 hfail
    · exact counts_of_outcomes size hcopy hprev hitems hro hao hlog hmembers happlied
  refine meets_ite (fun _ => ?_) fun _ => ?_
  · -- some writes failed
    exact meets_pure fun w ⟨hd, _, hitems, hlog⟩ => hends hd.2 hitems hlog rfl rfl
  refine Meets.bind (meets_now o.logging) fun now => ?_
  have hmark : Meets (Database.Reads n (some copy))
      (Database.markSynced n (.text copy) (.text members.fingerprint) now)
      (fun _ => Database.Reads n (some copy)) fun _ _ => False :=
    Database.meets_changePlaylist_reads fun r => ⟨_, rfl, rfl, rfl, rfl, rfl⟩
  refine Meets.bind (meets_query_of_certain hmark) fun _ => ?_
  refine Meets.bind meets_commit fun _ => ?_
  exact meets_pure fun w ⟨hd, _, hitems, hlog⟩ => hends hd.2 hitems hlog rfl rfl

/-- A log without writes tells of no failed one. -/
theorem Writing.not_writesFail {log : List Happening} (h : Writing [] [] log) : ¬WritesFail log := by
  rintro ⟨⟨operation, items, failure, hmem⟩, -⟩
  rcases (mem_wroteOf h.2 rfl).1 hmem with ⟨o, ho, -⟩ | ⟨o, ho, -⟩
  · cases ho
  · cases ho

/-- Once the membership is evaluated, a pass comes to what the log tells. -/
theorem meets_bringLogged (honest : o.platform.Honest items) (quiet : m.Quiet items)
    (speaks : m.Speaks) (size : IsChunkSize options.chunkSize)
    (begins : options.pacing.letsBegin = true) (hremote : p.remoteId = .ofText? noted)
    {mark : Option String} (hmark : p.syncedFingerprint = .ofText? mark) :
    Meets (Holding (Database.Reads n noted) (Database.Reads n noted) fun u =>
        items u.1 = before ∧ Writing [] [] u.2)
      (bringMembers s o.logging m.logging options n force p members)
      (fun out w => Comes items n members noted before (.ok out) w.database w.outside)
      fun f w => Comes items n members noted before (.error f) w.saved w.outside := by
  unfold bringMembers
  refine meets_ite (fun hskip => ?_) fun _ => ?_
  · -- the copy is passed over, and nothing is changed
    obtain ⟨c, rfl, -⟩ := eq_of_not_shouldSync hremote hmark (by simpa using hskip)
    refine meets_pure ?_
    rintro w ⟨hd, -, hitems, hlog⟩
    refine .ends _ hlog.1 hlog.not_writesFail ⟨rfl, ⟨c, before c, hd.2, .inr ⟨rfl, rfl⟩, ?_, ?_⟩, ?_⟩
    · rw [hitems, onlyIn_self]
      rfl
    · rw [hitems, onlyIn_self]
      rfl
    · rw [← errors_eq hlog.2]
      rfl
  have hcheck : Meets (Holding (Database.Reads n noted) (Database.Reads n noted) fun u =>
      items u.1 = before ∧ Writing [] [] u.2) (World.watch m.logging).check
      (fun _ => Holding (Database.Reads n noted) (Database.Reads n noted) fun u =>
        items u.1 = before ∧ Writing [] [] u.2) fun f w => Breaks f w.outside.2 :=
    (meets_ask (meets_entry (fun _ => rfl) (fun _ => rfl)
      (meets_of_keeps (keeps_items (fun c ids => (quiet c ids).check) before) speaks.check)
      fun _ _ h _ => h)).imp_error fun _ _ h => h.2
  refine Meets.bind (hcheck.imp_error fun _ _ h => comes_of_breaks h) fun _ => ?_
  exact meets_writeLogged honest quiet speaks size begins hremote

section Passes

variable {w w' : World σ} {l : Library} {d : Database} {u : σ} {r : Except Failure SyncOutcome}

/-- A pass that has evaluated the membership goes on from there. -/
theorem runOn_bringOutward_of_evaluated (h : Evaluated o.now m n w p l members d u) :
    (bringOutward s o m options n force).runOn w =
      (World.unit (bringMembers s o m options n force p members)).runOn ⟨d, d, u⟩ := by
  obtain ⟨hp, hl, ⟨u₀, htell, hmembers, htell'⟩, q, hnoted⟩ := h
  have hstock : (takeStock o m n).runOn w = (.ok (p, members), ⟨d, w.saved, u₀⟩) := by
    refine runOn_bind_eq_ok.2 ⟨p, _, runOn_query_eq_ok.2 ⟨_, hp, rfl⟩, ?_⟩
    refine runOn_bind_eq_ok.2 ⟨(), _, runOn_watch_tell_eq_ok.2 ⟨u₀, htell, rfl⟩, ?_⟩
    refine runOn_bind_eq_ok.2 ⟨l, _, runOn_query_eq_ok.2 ⟨_, hl, rfl⟩, ?_⟩
    refine runOn_bind_eq_ok.2 ⟨members, _, ?_, rfl⟩
    exact (runOn_noteMembership_eq_ok (Database.columns_of_playlist hp).1).2
      ⟨hmembers, q, d, hnoted, rfl⟩
  have hcommit : World.commit.runOn ⟨d, w.saved, u₀⟩ = (.ok (), ⟨d, d, u₀⟩) := rfl
  rw [bringOutward_eq, runOn_unit_bind_ok hstock]
  unfold bringStock
  rw [runOn_unit_bind_ok hcommit,
    runOn_unit_bind_ok (runOn_watch_tell_eq_ok.2 ⟨u, htell', rfl⟩)]

/-- The evaluation is not logged. -/
theorem Evaluated.logging (h : Evaluated o.now m n w p l members d u) :
    Evaluated o.logging.now m.logging n ⟨w.database, w.saved, (w.outside, [])⟩ p l members d (u, []) := by
  obtain ⟨hp, hl, ⟨u₀, htell, hmembers, htell'⟩, hnoted⟩ := h
  have htold : ∀ {x : Action σ Unit} {t t' : σ}, x.runOn t = (.ok (), t') →
      (x.unlogged : Action (σ × List Happening) Unit).runOn (t, []) = (.ok (), (t', [])) :=
    fun h => runOn_within_eq_ok.2 ⟨_, h, rfl⟩
  exact ⟨hp, hl, ⟨(u₀, []), htold htell, hmembers, htold htell'⟩, hnoted⟩

/-- The playlist can be read again once its membership was noted, and its copy is the same. -/
theorem Evaluated.reads (h : Evaluated o.now m n w p l members d u) :
    d.Reads n (w.database.copyOf n) := by
  obtain ⟨q, hnoted⟩ := h.noted
  refine ⟨⟨q, (Database.noting_saveMembership hnoted).playlist hnoted⟩, ?_⟩
  obtain ⟨-, -, criteria, copy, mark, hrow, -⟩ :=
    (Database.meets_playlist w.database n).of_ok rfl h.playlist
  rw [hrow.copyOf_eq]
  exact ((Database.meets_saveMembership _ _).of_ok hrow hnoted).copyOf_eq

/-- **What a pass comes to is read off its log**, once the membership is evaluated and noted: over every
platform whose failed writes have no effect, and wherever cancellation is found. -/
theorem verdict_of_bringOutward (honest : o.platform.Honest items) (quiet : m.Quiet items)
    (speaks : m.Speaks) (size : IsChunkSize options.chunkSize)
    (begins : options.pacing.letsBegin = true) (evaluated : Evaluated o.now m n w p l members d u)
    (ends : (bringOutward s o m options n force).runOn w = (r, w')) :
    Verdict (Counts n members (w.database.copyOf n) (items w.outside) (items w'.outside)
        (happenings s o m options n force w) w'.saved)
      (happenings s o m options n force w) r := by
  have hlogged := runOn_logging ends
  rw [runOn_bringOutward_of_evaluated evaluated.logging] at hlogged
  obtain ⟨-, hremote, hmark⟩ := Database.columns_of_playlist evaluated.playlist
  have hmeets : Meets (Holding (Database.Reads n (w.database.copyOf n))
      (Database.Reads n (w.database.copyOf n)) fun u => items u.1 = items w.outside ∧ Writing [] [] u.2)
      (World.unit (bringMembers s o.logging m.logging options n force p members))
      (fun out v => Comes items n members (w.database.copyOf n) (items w.outside) (.ok out) v.saved
        v.outside)
      fun f v => Comes items n members (w.database.copyOf n) (items w.outside) (.error f) v.saved
        v.outside :=
    meets_unit (meets_bringLogged honest quiet speaks size begins hremote hmark)
  have hstart : Holding (Database.Reads n (w.database.copyOf n))
      (Database.Reads n (w.database.copyOf n))
      (fun u => items u.1 = items w.outside ∧ Writing [] [] u.2) ⟨d, d, (u, [])⟩ := by
    refine ⟨evaluated.reads, evaluated.reads, ?_, steady_nil, rfl⟩
    exact funext fun c => evaluated.items_eq quiet c
  cases r with
  | error f => exact hmeets.of_error hstart hlogged
  | ok out => exact hmeets.of_ok hstart hlogged

end Passes

end Mixtape
