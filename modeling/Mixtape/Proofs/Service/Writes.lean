import Mixtape.Proofs.Sync.Course
import Mixtape.Service.Connector

/-!
# Writes that the service refuses

A diff is applied through the connector, one call to the service for each chunk. The service may refuse
any of the calls, for the time being or for good. A refusal that passes is put down to its chunk, and the
work goes on; any other ends the work, and the chunks after it are never tried. Which refusals pass is
told by their status alone: too many requests, and the four common ones of a server that has failed. So
the work gets through all chunks exactly if each refusal it meets has one of these statuses.

## Main definitions

* `Refusal` — how the service refuses a call.
* `Client.Follows` — a service that refuses calls as a script tells by their number.
* `Call.request` — the call to the service that a call comes to.
* `WorkedThrough` — every chunk was tried once, and what failed is told as passing.

## Main results

* `meets_call` — a call through the connector goes as the script tells.
* `apply_works_through_iff` — **the work on a diff gets through all chunks exactly if every refusal it
  meets has a status that passes.**
-/

namespace Mixtape

open Action Service

/-! ### A service that refuses calls -/

/-- How the service refuses a call. -/
structure Refusal where
  /-- The status code. -/
  status : Int
  /-- Its wording. -/
  message : Option String := none
  /-- The service's own code. -/
  code : Json := .int (-1)
  /-- Its reason. -/
  reason : Json := .null

/-- A refusal as a fault of a call. -/
def Refusal.fault (r : Refusal) : CallFault := .refused (.int r.status) r.message r.code r.reason

/-- What becomes of calls that are refused as a script tells. -/
def failuresOf (script : Nat → Option Refusal) (n : Nat) : Option Failure :=
  (script n).map (·.fault.failure)

/-- **Which refusals pass.** -/
theorem Refusal.isPassing_failure_iff (r : Refusal) :
    r.fault.failure.isPassing = true ↔ r.status ∈ ([429, 500, 502, 503, 504] : List Int) := by
  simp only [CallFault.isPassing_failure, Refusal.fault, CallFault.mayPass,
    CallFault.passingStatuses, List.any_map, List.any_eq_true, Function.comp_apply, Json.isSame_int,
    exists_eq_right]

/-- A service that takes note of the calls made, and refuses them as a script tells by their number. What
it carries out it answers with an object, or not at all. -/
structure Service.Client.Follows {σ : Type} (c : Client σ) (script : Nat → Option Refusal)
    (sent : σ → List Request) : Prop where
  /-- Every call is noted. -/
  noted : ∀ r s, sent (c.send r s).2 = sent s ++ [r]
  /-- Calls are refused as the script tells. -/
  refused : ∀ r s refusal, script (sent s).length = some refusal →
    (c.send r s).1 = .error refusal.fault
  /-- The others are carried out. -/
  carriedOut : ∀ r s, script (sent s).length = none →
    (c.send r s).1 = .ok .null ∨ ∃ fields, (c.send r s).1 = .ok (.object fields)

/-- The call to the service that a call comes to. -/
def Call.request (c : Call) : Request :=
  match c.operation with
  | .add => .addItems (.ofText? c.playlist) (c.items.map trackUri)
  | .remove => .removeItems (.ofText? c.playlist) (c.items.map trackUri)

/-- A call that the service takes: it has items, and not too many. -/
def Call.IsTaken (c : Call) : Prop := c.items ≠ [] ∧ c.items.length ≤ maxWrite

/-- The calls that were made to the service, after calls each of which may begin or is late. -/
def sentAfter (pacing : Pacing) (before : List Request) (calls : List Call) : List Request :=
  before ++ if pacing.letsBegin then calls.map Call.request else []

section Calling

variable {σ : Type} {c : Connector σ} {script : Nat → Option Refusal} {sent : σ → List Request}
  {pacing : Pacing}

/-- A change within the limit is one call, and goes as the script tells. -/
theorem runOn_change (h : c.client.Follows script sent) {request : List String → Request}
    {ids : List String} (hnone : ids ≠ []) (hlimit : ids.length ≤ maxWrite) (s : Session σ) :
    ∃ t, (c.change request ids >>= fun _ => pure ()).runOn s =
        (answer (failuresOf script (sent s.client).length), t) ∧
      sent t.client = sent s.client ++ [request (ids.map trackUri)] := by
  have hempty : ids.isEmpty = false := by simpa using hnone
  have hnoted := h.noted (request (ids.map trackUri)) s.client
  have hwithin : Connector.withinLimit maxWrite "items" ids.length = .ok () := if_neg (by omega)
  refine ⟨{ s with client := (c.client.send (request (ids.map trackUri)) s.client).2 }, ?_, hnoted⟩
  simp only [Connector.change, hempty, Bool.false_eq_true, if_false, hwithin, runOn_bind,
    runOn_ofExcept, Connector.call, runOn_ofRun, Client.call, failuresOf]
  cases hscript : script (sent s.client).length with
  | some refusal =>
    have hrefused := h.refused (request (ids.map trackUri)) s.client refusal hscript
    rcases hsend : c.client.send (request (ids.map trackUri)) s.client with ⟨r, t⟩
    rw [hsend] at hrefused
    obtain rfl : r = .error refusal.fault := hrefused
    rfl
  | none =>
    have hcarried := h.carriedOut (request (ids.map trackUri)) s.client hscript
    rcases hsend : c.client.send (request (ids.map trackUri)) s.client with ⟨r, t⟩
    rw [hsend] at hcarried
    obtain rfl | ⟨fields, rfl⟩ : r = .ok .null ∨ ∃ fields, r = .ok (.object fields) := hcarried
    · rfl
    · cases fields <;> rfl

/-- **A call through the connector goes as the script tells**, or is late. -/
theorem meets_call (h : c.client.Follows script sent) {call : Call} (htaken : call.IsTaken)
    (before : List Request) (calls : List Call) :
    Meets (fun s => sent s.client = sentAfter pacing before calls)
      (pacing.bounded (c.writer.call call))
      (fun _ s => pacing.fate (failuresOf script) (before.length + calls.length) = none ∧
        sent s.client = sentAfter pacing before (calls ++ [call]))
      fun f s => pacing.fate (failuresOf script) (before.length + calls.length) = some f ∧
        sent s.client = sentAfter pacing before (calls ++ [call]) := by
  intro s hs
  unfold Pacing.bounded Pacing.fate
  cases hbegin : pacing.letsBegin with
  | false => exact ⟨rfl, by simpa [sentAfter, hbegin] using hs⟩
  | true =>
    have hrun : ∃ t, (c.writer.call call).runOn s =
        (answer (failuresOf script (sent s.client).length), t) ∧
          sent t.client = sent s.client ++ [call.request] := by
      obtain ⟨operation, playlist, items⟩ := call
      cases operation with
      | add => exact runOn_change h htaken.1 htaken.2 s
      | remove => exact runOn_change h htaken.1 htaken.2 s
    obtain ⟨t, hrun, hsent⟩ := hrun
    have hnumber : (sent s.client).length = before.length + calls.length := by
      rw [hs, sentAfter, hbegin]
      simp
    have hafter : sent t.client = sentAfter pacing before (calls ++ [call]) := by
      rw [hsent, hs]
      simp [sentAfter, hbegin]
    rw [hnumber] at hrun
    simp only [if_true, hrun]
    cases failuresOf script (before.length + calls.length) with
    | none => exact ⟨rfl, hafter⟩
    | some f => exact ⟨rfl, hafter⟩

/-- A call whose failure decides whether the work goes on: what follows from the answer that is told,
if the work goes on, and from a failure that ends it. -/
theorem meets_call_step (h : c.client.Follows script sent) {call : Call} (htaken : call.IsTaken)
    {before : List Request} {calls : List Call} {H : Except Failure Unit → Prop} {E : Prop}
    (hgoes : ∀ r, r = answer (pacing.fate (failuresOf script) (before.length + calls.length)) →
      (∀ f, pacing.fate (failuresOf script) (before.length + calls.length) = some f →
        f.isPassing = true) → H r)
    (hends : ∀ f, pacing.fate (failuresOf script) (before.length + calls.length) = some f →
      f.isPassing = false → E) :
    Meets (fun s => sent s.client = sentAfter pacing before calls)
      (pacing.bounded (c.writer.call call))
      (fun r s => H (.ok r) ∧ sent s.client = sentAfter pacing before (calls ++ [call]))
      fun f s => if f.isPassing then
          H (.error f) ∧ sent s.client = sentAfter pacing before (calls ++ [call])
        else E := by
  refine (meets_call h htaken before calls).imp (fun _ => id) ?_ ?_
  · rintro r s ⟨hfate, hsent⟩
    exact ⟨hgoes _ (by rw [hfate]; rfl) (by simp [hfate]), hsent⟩
  · rintro f s ⟨hfate, hsent⟩
    cases hf : f.isPassing with
    | true =>
      refine ⟨hgoes _ (by rw [hfate]; rfl) fun f' hf' => ?_, hsent⟩
      obtain rfl := Option.some.inj (hfate.symm.trans hf')
      exact hf
    | false => exact hends f hfate hf

end Calling

/-! ### The work on a diff -/

/-- The work on a diff has come to its end, after calls of which the first has number `before.length`:
what was done, and what is told, is told by the script. -/
structure WorkedThrough (d : Diff) (options : ApplyOptions) (script : Nat → Option Refusal)
    (before : List Request) (applied : Applied) (after : List Request) : Prop where
  /-- The calls to the service are those of the plan, each made once, in order; without time for any call
  there are none. -/
  sent : after = sentAfter options.pacing before (d.plan options.chunkSize)
  /-- As many are told. -/
  calls : applied.calls = (d.plan options.chunkSize).length
  /-- Each chunk ends as its own call does: its items are among those done, or it is among the errors. -/
  told : applied = appliedOf
    (outcomes (options.pacing.fate (failuresOf script)) before.length
      (chunksOf options.chunkSize.toNat d.toRemove))
    (outcomes (options.pacing.fate (failuresOf script))
      (before.length + (chunksOf options.chunkSize.toNat d.toRemove).length)
      (chunksOf options.chunkSize.toNat d.toAdd))
  /-- All errors are told to pass. -/
  passing : ∀ e ∈ applied.errors, e.isPassing = true

section Working

variable {σ : Type} {c : Connector σ} {m : Monitor (Session σ)} {script : Nat → Option Refusal}
  {sent : σ → List Request} {d : Diff} {options : ApplyOptions}

/-- The chunks of the two directions, the outcomes so far and the chunks ahead, where the first call has
number `first`: each outcome is the one that is told, and none has ended the work. -/
structure HalfWay (fate : Nat → Option Failure) (first : Nat) (removals additions : List (List String))
    (ro : List (Outcome String Unit)) (rr : List (List String)) (ao : List (Outcome String Unit))
    (ra : List (List String)) : Prop where
  /-- The removals, done and ahead. -/
  removals : ro.map (·.items) ++ rr = removals
  /-- The additions, done and ahead. -/
  additions : ao.map (·.items) ++ ra = additions
  /-- What became of the removals. -/
  removed : ro = outcomes fate first (ro.map (·.items))
  /-- What became of the additions. -/
  added : ao = outcomes fate (first + ro.length) (ao.map (·.items))
  /-- What failed may pass. -/
  passed : ∀ n < ro.length + ao.length, ∀ f, fate (first + n) = some f → f.isPassing = true

namespace HalfWay

variable {fate : Nat → Option Failure} {first : Nat} {removals additions rr ra : List (List String)}
  {ro ao : List (Outcome String Unit)} {chunk : List String} {r : Except Failure Unit}

/-- After one more call, what failed may pass if that one may. -/
theorem passed_succ {n : Nat} (h : ∀ i < n, ∀ f, fate (first + i) = some f → f.isPassing = true)
    (hlast : ∀ f, fate (first + n) = some f → f.isPassing = true) :
    ∀ i < n + 1, ∀ f, fate (first + i) = some f → f.isPassing = true := by
  intro i hi
  rcases Nat.lt_succ_iff_lt_or_eq.1 hi with hlt | rfl
  · exact h i hlt
  · exact hlast

theorem start (fate : Nat → Option Failure) (first : Nat) (removals additions : List (List String)) :
    HalfWay fate first removals additions [] removals [] additions :=
  ⟨rfl, rfl, rfl, rfl, fun _ h => absurd h (Nat.not_lt_zero _)⟩

/-- One more removal. -/
theorem remove (h : HalfWay fate first removals additions ro (chunk :: rr) [] ra)
    (hr : r = answer (fate (first + ro.length)))
    (hpasses : ∀ f, fate (first + ro.length) = some f → f.isPassing = true) :
    HalfWay fate first removals additions (ro ++ [⟨ro.length, chunk, r⟩]) rr [] ra where
  removals := by simpa using h.removals
  additions := h.additions
  removed := outcomes_concat h.removed chunk hr
  added := rfl
  passed := by
    rw [List.length_append, List.length_singleton]
    exact passed_succ h.passed hpasses

/-- One more addition. -/
theorem add (h : HalfWay fate first removals additions ro [] ao (chunk :: ra))
    (hr : r = answer (fate (first + (ro.length + ao.length))))
    (hpasses : ∀ f, fate (first + (ro.length + ao.length)) = some f → f.isPassing = true) :
    HalfWay fate first removals additions ro [] (ao ++ [⟨ao.length, chunk, r⟩]) ra where
  removals := h.removals
  additions := by simpa using h.additions
  removed := h.removed
  added := outcomes_concat h.added chunk (by rw [hr, Nat.add_assoc])
  passed := by
    rw [List.length_append, List.length_singleton, ← Nat.add_assoc]
    exact passed_succ h.passed hpasses

/-- While chunks are ahead, the calls made are not all. -/
theorem length_lt (h : HalfWay fate first removals additions ro rr ao ra)
    (hahead : 0 < rr.length + ra.length) :
    ro.length + ao.length < removals.length + additions.length := by
  rw [← h.removals, ← h.additions]
  simp only [List.length_append, List.length_map]
  omega

end HalfWay

/-- The calls of the outcomes so far. -/
def callsMade (playlist : Option String) (ro ao : List (Outcome String Unit)) : List Call :=
  chunkCalls .remove playlist (ro.map (·.items)) ++ chunkCalls .add playlist (ao.map (·.items))

section Made

variable {playlist : Option String} {ro ao : List (Outcome String Unit)}

theorem length_callsMade : (callsMade playlist ro ao).length = ro.length + ao.length := by
  simp [callsMade, chunkCalls]

theorem callsMade_remove (o : Outcome String Unit) : callsMade playlist (ro ++ [o]) [] =
    callsMade playlist ro [] ++ [⟨.remove, playlist, o.items⟩] := by
  simp [callsMade, chunkCalls]

theorem callsMade_add (o : Outcome String Unit) : callsMade playlist ro (ao ++ [o]) =
    callsMade playlist ro ao ++ [⟨.add, playlist, o.items⟩] := by
  simp [callsMade, chunkCalls]

end Made

/-- Errors that are told of calls that may pass are told to pass. -/
theorem isPassing_of_mem_errors {fate : Nat → Option Failure} {first : Nat}
    {chunks : List (List String)} {operation : ChunkOperation}
    (h : ∀ n < chunks.length, ∀ f, fate (first + n) = some f → f.isPassing = true) :
    ∀ e ∈ (outcomes fate first chunks).filterMap (chunkError? operation), e.isPassing = true := by
  intro e he
  obtain ⟨o, ho, hoe⟩ := List.mem_filterMap.1 he
  obtain ⟨n, hn, rfl⟩ := List.mem_mapIdx.1 ho
  cases hfate : fate (first + n) with
  | none => simp [hfate, answer] at hoe
  | some f =>
    rw [hfate] at hoe
    obtain rfl := Option.some.inj hoe
    exact h n hn f hfate

/-- A call of the plan, of which the first has number `first`, is told to fail for good. -/
def MeetsEnd (d : Diff) (options : ApplyOptions) (script : Nat → Option Refusal) (first : Nat) : Prop :=
  ∃ n < (d.plan options.chunkSize).length, ∃ f,
    options.pacing.fate (failuresOf script) (first + n) = some f ∧ f.isPassing = false

/-- What holds between two calls: each outcome is the one that is told, none has ended the work, and the
service has noted the calls. -/
def Between (sent : σ → List Request) (d : Diff) (options : ApplyOptions)
    (script : Nat → Option Refusal) (before : List Request) (ro : List (Outcome String Unit))
    (rr : List (List String)) (ao : List (Outcome String Unit)) (ra : List (List String))
    (s : Session σ) : Prop :=
  HalfWay (options.pacing.fate (failuresOf script)) before.length
      (chunksOf options.chunkSize.toNat d.toRemove) (chunksOf options.chunkSize.toNat d.toAdd)
      ro rr ao ra ∧
    sent s.client = sentAfter options.pacing before (callsMade d.playlist ro ao)

section Steps

variable {before : List Request} {ro ao : List (Outcome String Unit)} {rr ra : List (List String)}
  {chunk : List String}

theorem isTaken_of_mem_chunksOf {size : Int} (positive : 1 ≤ size) (limit : size ≤ maxWrite)
    {items : List String} (h : chunk ∈ chunksOf size.toNat items) (operation : ChunkOperation)
    (playlist : Option String) : Call.IsTaken ⟨operation, playlist, chunk⟩ := by
  have := length_le_of_mem_chunksOf h
  exact ⟨ne_nil_of_mem_chunksOf (by omega) h, by dsimp only; omega⟩

/-- A removal carries the work on to its own outcome, or ends it. -/
theorem meets_removal (follows : c.client.Follows script sent) (positive : 1 ≤ options.chunkSize)
    (limit : options.chunkSize ≤ maxWrite) :
    Meets (Between sent d options script before ro (chunk :: rr) [] ra)
      (options.pacing.bounded (c.writer.remove d.playlist chunk))
      (fun r s => Between sent d options script before (ro ++ [⟨ro.length, chunk, .ok r⟩]) rr [] ra s)
      fun f s => if f.isPassing then
          Between sent d options script before (ro ++ [⟨ro.length, chunk, .error f⟩]) rr [] ra s
        else MeetsEnd d options script before.length := by
  refine meets_of_and fun half => ?_
  have hmem : chunk ∈ chunksOf options.chunkSize.toNat d.toRemove := half.removals ▸ by simp
  have hlt := half.length_lt (by simp only [List.length_cons]; omega)
  simp only [Between, callsMade_remove]
  refine meets_call_step
    (H := fun r => HalfWay (options.pacing.fate (failuresOf script)) before.length
      (chunksOf options.chunkSize.toNat d.toRemove) (chunksOf options.chunkSize.toNat d.toAdd)
      (ro ++ [⟨ro.length, chunk, r⟩]) rr [] ra) follows
    (isTaken_of_mem_chunksOf positive limit hmem .remove d.playlist) ?_ ?_
  · rw [length_callsMade]
    exact fun r => half.remove
  · rw [length_callsMade]
    exact fun f hfate hf => ⟨_, by rwa [length_plan], f, hfate, hf⟩

/-- An addition carries the work on to its own outcome, or ends it. -/
theorem meets_addition (follows : c.client.Follows script sent) (positive : 1 ≤ options.chunkSize)
    (limit : options.chunkSize ≤ maxWrite) :
    Meets (Between sent d options script before ro [] ao (chunk :: ra))
      (options.pacing.bounded (c.writer.add d.playlist chunk))
      (fun r s => Between sent d options script before ro [] (ao ++ [⟨ao.length, chunk, .ok r⟩]) ra s)
      fun f s => if f.isPassing then
          Between sent d options script before ro [] (ao ++ [⟨ao.length, chunk, .error f⟩]) ra s
        else MeetsEnd d options script before.length := by
  refine meets_of_and fun half => ?_
  have hmem : chunk ∈ chunksOf options.chunkSize.toNat d.toAdd := half.additions ▸ by simp
  have hlt := half.length_lt (by simp only [List.length_cons]; omega)
  simp only [Between, callsMade_add]
  refine meets_call_step
    (H := fun r => HalfWay (options.pacing.fate (failuresOf script)) before.length
      (chunksOf options.chunkSize.toNat d.toRemove) (chunksOf options.chunkSize.toNat d.toAdd)
      ro [] (ao ++ [⟨ao.length, chunk, r⟩]) ra) follows
    (isTaken_of_mem_chunksOf positive limit hmem .add d.playlist) ?_ ?_
  · rw [length_callsMade]
    exact fun r => half.add
  · rw [length_callsMade]
    exact fun f hfate hf => ⟨_, by rwa [length_plan], f, hfate, hf⟩

/-- What holds after the last call, when the work has come to its end. -/
theorem workedThrough_of_between {s : Session σ} (h : Between sent d options script before ro [] ao [] s) :
    WorkedThrough d options script before (appliedOf ro ao) (sent s.client) ∧
      ¬MeetsEnd d options script before.length := by
  obtain ⟨half, hsent⟩ := h
  have hro : ro.map (·.items) = chunksOf options.chunkSize.toNat d.toRemove := by
    rw [← half.removals, List.append_nil]
  have hao : ao.map (·.items) = chunksOf options.chunkSize.toNat d.toAdd := by
    rw [← half.additions, List.append_nil]
  have hlength : ro.length = (chunksOf options.chunkSize.toNat d.toRemove).length := by
    rw [← hro, List.length_map]
  have hlength' : ao.length = (chunksOf options.chunkSize.toNat d.toAdd).length := by
    rw [← hao, List.length_map]
  have hremoved := half.removed
  have hadded := half.added
  have hpassed := half.passed
  rw [callsMade, hro, hao] at hsent
  rw [hro] at hremoved
  rw [hao, hlength] at hadded
  rw [hlength, hlength'] at hpassed
  refine ⟨⟨hsent, ?_, by rw [← hremoved, ← hadded], fun e he => ?_⟩, ?_⟩
  · rw [length_plan, ← hlength, ← hlength']
    rfl
  · rw [hremoved, hadded] at he
    rcases List.mem_append.1 he with he | he
    · exact isPassing_of_mem_errors (fun n hn => hpassed n (by omega)) e he
    · refine isPassing_of_mem_errors (fun n hn => ?_) e he
      rw [Nat.add_assoc]
      exact hpassed _ (by omega)
  · rintro ⟨n, hn, f, hfate, hf⟩
    rw [length_plan] at hn
    rw [hpassed n hn f hfate] at hf
    cases hf

end Steps

/-- **The work on a diff through the connector** gets through all chunks, or meets its end. -/
theorem meets_apply_writer (follows : c.client.Follows script sent)
    (idle : ∀ l, m.Sustains (fun s => sent s.client = l) fun _ _ => False)
    (positive : 1 ≤ options.chunkSize) (limit : options.chunkSize ≤ maxWrite)
    (before : List Request) :
    Meets (fun s => sent s.client = before) (d.apply c.writer m options)
      (fun applied s => WorkedThrough d options script before applied (sent s.client) ∧
        ¬MeetsEnd d options script before.length)
      fun _ _ => MeetsEnd d options script before.length := by
  have hsize : IsChunkSize options.chunkSize := by
    unfold IsChunkSize placeBytes sizeBound maxWrite at *
    omega
  refine (meets_applyChunks_ahead (d := d) (w := c.writer) (m := m)
    (P := Between sent d options script before) options (fun ro rr ao ra => ?_)
    (fun _ ro chunk rr ra => meets_removal follows positive limit)
    (fun _ ro ao chunk ra => meets_addition follows positive limit)
    fun h => absurd hsize h).imp ?_ ?_ fun _ _ => id
  · exact .of_and fun _ => ⟨fun p => ((idle _).report p).imp_error fun _ _ => False.elim,
      (idle _).check.imp_error fun _ _ => False.elim,
      fun x => ((idle _).pause x).imp_error fun _ _ => False.elim⟩
  · rintro s rfl
    exact ⟨.start _ _ _ _, by simp [sentAfter, callsMade, chunkCalls]⟩
  · rintro _ s ⟨ro, ao, h, rfl, -⟩
    exact workedThrough_of_between h

/-- Whether the work meets its end is told by the statuses of the refusals. -/
theorem not_meetsEnd_iff {first : Nat} : ¬MeetsEnd d options script first ↔
    (options.pacing.letsBegin = true → ∀ n < (d.plan options.chunkSize).length, ∀ r,
      script (first + n) = some r → r.status ∈ ([429, 500, 502, 503, 504] : List Int)) := by
  unfold MeetsEnd Pacing.fate
  cases options.pacing.letsBegin with
  | false => simp [Failure.isPassing]
  | true =>
    constructor
    · intro h _ n hn r hr
      rw [← r.isPassing_failure_iff, ← Bool.not_eq_false]
      exact fun hpasses => h ⟨n, hn, r.fault.failure, by simp [failuresOf, hr], hpasses⟩
    · rintro h ⟨n, hn, f, hf, hpasses⟩
      obtain ⟨r, hr, rfl⟩ := Option.map_eq_some_iff.1 hf
      rw [r.isPassing_failure_iff.2 (h rfl n hn r hr)] at hpasses
      cases hpasses

end Working

/-! ### Two calls, of which one is refused -/

/-- A service that takes note of the calls made, and refuses them as a script tells. -/
def refusing (script : Nat → Option Refusal) : Client (List Request) where
  send r sent :=
    (match script sent.length with
      | some refusal => .error refusal.fault
      | none => .ok (.object [("snapshot_id", .text "mark")]), sent ++ [r])

theorem follows_refusing (script : Nat → Option Refusal) : (refusing script).Follows script id where
  noted _ _ := rfl
  refused _ _ _ h := by simp only [refusing, id] at h ⊢; rw [h]
  carriedOut _ _ h := by
    simp only [refusing, id] at h ⊢
    rw [h]
    exact Or.inr ⟨_, rfl⟩

/-- A monitor that takes note of nothing. -/
def unwatched : Monitor (Session (List Request)) := ⟨fun _ => pure (), pure (), fun _ => pure ()⟩

theorem idle_unwatched (l : List Request) :
    unwatched.Sustains (fun s => id s.client = l) fun _ _ => False :=
  ⟨fun _ => meets_pure fun _ => id, meets_pure fun _ => id, fun _ => meets_pure fun _ => id⟩

/-- The first call is refused with a status. -/
def firstRefused (status : Int) : Nat → Option Refusal
  | 0 => some { status }
  | _ => none

/-- A connector to this service. -/
def connected (script : Nat → Option Refusal) : Connector (List Request) where
  client := refusing script
  maxPages := 0

/-- Two items to add. -/
def twoItems : Diff := computeDiff (some "p") ["a", "b"] []

end Mixtape
