import Mixtape.Proofs.Sync.Chunks
import Mixtape.Sync.Enrichment

/-!
# Features looked up in part

A lookup asks about every track once, batch by batch, and a batch that fails is put down as such. What
the other batches tell is merged into one table. An answer that tells of the tracks it was asked about,
and of no others, does not touch what another one told: no track is in two batches. So the table has
for each track what the answer to its own batch says, and nothing if that batch failed.

The calls are numbered, and what becomes of each is told by a script, which may be any function.

## Main definitions

* `TellsOf ids answer` — an answer about no other tracks.
* `Queried lookup script asked` — calls that are told by a script and noted.
* `told r id` — what the answer to its batch says of a track.

## Main results

* `mergeOutcomes_eq` — the merged table, for batches without a track in common.
* `fetchFeatures_partly` — **a lookup asks about every track once, and loses the failed batches only.**
-/

namespace Mixtape

open Action

variable {σ : Type} {ids : List String} {id : String}

/-! ### What answers tell -/

/-- The answer tells of no other tracks than these. -/
def TellsOf (ids : List String) (answer : Json) : Prop :=
  ∃ fields, featuresOf answer = .ok fields ∧ ∀ e ∈ fields, e.1 ∈ ids

/-- What the answer to its batch says of a track, null if it says nothing or the batch failed. -/
def told (r : Except Failure Json) (id : String) : Json :=
  match r with
  | .ok answer => answer.get id
  | .error _ => .null

/-- What is known of a track after one more outcome. -/
def knownAfter (id : String) (known : Json) (o : Outcome String Json) : Json :=
  match o.result with
  | .ok answer => (answer.field? id).getD known
  | .error _ => known

theorem lookupField_featuresOf {answer : Json} {fields : List (String × Json)}
    (h : featuresOf answer = .ok fields) (id : String) :
    Json.lookupField id fields = answer.field? id := by
  unfold featuresOf at h
  split at h
  · rename_i hfalsy
    obtain rfl := Except.ok.inj h
    cases answer with
    | object entries =>
      obtain rfl : entries = [] := by simpa [Json.isTruthy] using hfalsy
      rfl
    | _ => rfl
  · split at h
    · obtain rfl := Except.ok.inj h
      rfl
    · cases h

theorem featuresOf_object (fields : List (String × Json)) : featuresOf (.object fields) = .ok fields := by
  cases fields <;> rfl

/-- An answer does not tell of tracks it was not asked about. -/
theorem TellsOf.field?_eq_none {answer : Json} (h : TellsOf ids answer) (hid : id ∉ ids) :
    answer.field? id = none := by
  obtain ⟨fields, hfields, honly⟩ := h
  rw [← lookupField_featuresOf hfields, Option.eq_none_iff_forall_ne_some]
  exact fun value hvalue => hid (honly _ (Json.mem_of_lookupField hvalue))

/-! ### The merged table -/

/-- Every answer tells of the tracks of its batch only. -/
def Separate (os : List (Outcome String Json)) : Prop :=
  ∀ o ∈ os, ∀ answer, o.result = .ok answer → TellsOf o.items answer

/-- The table has for each track what the answers tell of it, the last one first. -/
theorem mergeOutcomes_eq_foldl (wanted : List String) {os : List (Outcome String Json)}
    (h : Separate os) : ∀ known : String → Json,
      mergeOutcomes (wanted.map fun id => (id, known id)) os =
        .ok (wanted.map fun id => (id, os.foldl (knownAfter id) (known id))) := by
  induction os with
  | nil => exact fun _ => rfl
  | cons o rest ih =>
    intro known
    have hrest := ih (fun o' ho' => h o' (List.mem_cons_of_mem _ ho')) fun id => knownAfter id (known id) o
    rw [mergeOutcomes]
    cases hresult : o.result with
    | error f =>
      simp only [knownAfter, hresult] at hrest
      rw [hrest]
      simp only [List.foldl_cons, knownAfter, hresult]
    | ok answer =>
      obtain ⟨fields, hfields, -⟩ := h o List.mem_cons_self answer hresult
      have hmerged : mergeFeatures (wanted.map fun id => (id, known id)) fields =
          wanted.map fun id => (id, knownAfter id (known id) o) := by
        simp only [mergeFeatures, List.map_map, Function.comp_def, knownAfter, hresult,
          lookupField_featuresOf hfields]
      dsimp only
      rw [hfields]
      exact (congrArg (mergeOutcomes · rest) hmerged).trans hrest

/-- What is known of a track stays as it is while the answers to other batches come in. -/
theorem foldl_knownAfter_of_not_mem {os : List (Outcome String Json)} (h : Separate os)
    (hid : id ∉ os.flatMap (·.items)) (known : Json) : os.foldl (knownAfter id) known = known := by
  induction os with
  | nil => rfl
  | cons o rest ih =>
    rw [List.flatMap_cons, List.mem_append, not_or] at hid
    have hkept : knownAfter id known o = known := by
      unfold knownAfter
      split
      · rename_i answer hresult
        rw [(h o List.mem_cons_self answer hresult).field?_eq_none hid.1]
        rfl
      · rfl
    rw [List.foldl_cons, hkept]
    exact ih (fun o' ho' => h o' (List.mem_cons_of_mem _ ho')) hid.2

/-- What is known of a track in the end is what the answer to its batch tells. -/
theorem foldl_knownAfter_of_mem {os : List (Outcome String Json)} (h : Separate os)
    (hnodup : (os.flatMap (·.items)).Nodup) {o : Outcome String Json} (ho : o ∈ os) (hid : id ∈ o.items) :
    os.foldl (knownAfter id) .null = told o.result id := by
  obtain ⟨before, after, rfl⟩ := List.append_of_mem ho
  rw [List.flatMap_append, List.flatMap_cons] at hnodup
  obtain ⟨-, hrest, hbefore⟩ := List.nodup_append.1 hnodup
  obtain ⟨-, -, hafter⟩ := List.nodup_append.1 hrest
  have hnotbefore : id ∉ before.flatMap (·.items) := fun hmem =>
    hbefore id hmem id (List.mem_append_left _ hid) rfl
  have hnotafter : id ∉ after.flatMap (·.items) := fun hmem => hafter id hid id hmem rfl
  rw [List.foldl_append, List.foldl_cons,
    foldl_knownAfter_of_not_mem (fun o' ho' => h o' (List.mem_append_left _ ho')) hnotbefore,
    foldl_knownAfter_of_not_mem
      (fun o' ho' => h o' (List.mem_append_right _ (List.mem_cons_of_mem _ ho'))) hnotafter]
  unfold knownAfter told
  cases o.result <;> rfl

/-- **The merged table** of batches without a track in common has for each track what the answer to its
own batch tells. -/
theorem mergeOutcomes_eq {os : List (Outcome String Json)} (h : Separate os)
    (hnodup : (os.flatMap (·.items)).Nodup) :
    mergeOutcomes ((os.flatMap (·.items)).map fun id => (id, .null)) os =
      .ok (os.flatMap fun o => o.items.map fun id => (id, told o.result id)) := by
  rw [mergeOutcomes_eq_foldl _ h fun _ => .null, List.map_flatMap]
  refine congrArg Except.ok (List.flatMap_congr fun o ho => List.map_congr_left fun id hid => ?_)
  rw [foldl_knownAfter_of_mem h hnodup ho hid]

/-! ### Calls told by a script -/

section Asking

variable {m : Monitor σ} {lookup : List String → Action σ Json} {asked : σ → List (List String)}
  {script : Nat → List String → Except Failure Json} {size : Int}

/-- The calls are told by a script and noted with what they ask about; they fail in ways that may pass
only, and their answers tell of the tracks they ask about only. -/
structure Queried (lookup : List String → Action σ Json)
    (script : Nat → List String → Except Failure Json) (asked : σ → List (List String)) : Prop where
  /-- A call ends as it is told, and is noted. -/
  ends : ∀ ids s, ∃ t, (lookup ids).runOn s = (script (asked s).length ids, t) ∧ asked t = asked s ++ [ids]
  /-- A failure may pass. -/
  passing : ∀ n ids f, script n ids = .error f → f.isPassing = true
  /-- An answer is one to what was asked. -/
  tells : ∀ n ids answer, script n ids = .ok answer → TellsOf ids answer

/-- What becomes of batches, the first of which has the call with number `first`. -/
def replies (script : Nat → List String → Except Failure Json) (first : Nat)
    (batches : List (List String)) : List (Outcome String Json) :=
  batches.mapIdx fun i batch => ⟨i, batch, script (first + i) batch⟩

theorem replies_concat (first : Nat) (batches : List (List String)) (batch : List String) :
    replies script first (batches ++ [batch]) = replies script first batches ++
      [⟨batches.length, batch, script (first + batches.length) batch⟩] := List.mapIdx_concat

theorem map_items_replies (first : Nat) (batches : List (List String)) :
    (replies script first batches).map (·.items) = batches :=
  List.ext_getElem (by simp [replies]) fun i _ _ => by simp [replies]

theorem Queried.separate (h : Queried lookup script asked) (first : Nat) (batches : List (List String)) :
    Separate (replies script first batches) := by
  intro o ho answer hanswer
  obtain ⟨i, hi, rfl⟩ := List.mem_mapIdx.1 ho
  exact h.tells _ _ answer hanswer

/-- What holds while batches are asked about: every outcome so far is the one that is told, and every
batch had its call, after those there were before. -/
def Asking (script : Nat → List String → Except Failure Json) (asked : σ → List (List String))
    (before : List (List String)) (os : List (Outcome String Json)) (s : σ) : Prop :=
  os = replies script before.length (os.map (·.items)) ∧ asked s = before ++ os.map (·.items)

/-- A call carries the work on to its own outcome. -/
theorem Queried.meets_call (h : Queried lookup script asked) (before : List (List String))
    (os : List (Outcome String Json)) (batch : List String) :
    Meets (Asking script asked before os) (lookup batch)
      (fun answer => Asking script asked before (os ++ [⟨os.length, batch, .ok answer⟩]))
      fun f s => f.isPassing = true ∧
        Asking script asked before (os ++ [⟨os.length, batch, .error f⟩]) s := by
  rintro s ⟨hos, hasked⟩
  obtain ⟨t, hrun, hnoted⟩ := h.ends batch s
  have hnumber : (asked s).length = before.length + os.length := by
    rw [hasked, List.length_append, List.length_map]
  have hnext : ∀ {r}, script (asked s).length batch = r →
      Asking script asked before (os ++ [⟨os.length, batch, r⟩]) t := by
    rintro r rfl
    refine ⟨?_, ?_⟩
    · rw [List.map_append, List.map_singleton, replies_concat, ← hos, List.length_map, hnumber]
    · rw [hnoted, hasked, List.map_append, List.map_singleton, List.append_assoc]
  rw [hrun]
  cases hr : script (asked s).length batch with
  | ok answer => exact hnext hr
  | error f => exact ⟨h.passing _ _ f hr, hnext hr⟩

/-- **All batches are asked about**, in order, whichever fail. -/
theorem Queried.meets_processChunks (h : Queried lookup script asked)
    (hm : ∀ l x, Meets (fun s => asked s = l) (m.pause x) (fun _ s => asked s = l) fun _ _ => False)
    (hsize : IsChunkSize size) (delay : Amount) (before : List (List String)) (items : List String) :
    Meets (fun s => asked s = before)
      (processChunks m { delay } (fun _ _ => pure ()) passingKinds lookup items size)
      (fun os s => os = replies script before.length (chunksOf size.toNat items) ∧
        asked s = before ++ chunksOf size.toNat items) fun _ _ => False := by
  refine (Mixtape.meets_processChunks (P := Asking script asked before) ?_ ?_ ?_ items
    fun hrefused => absurd hsize hrefused).imp ?_ ?_ fun _ _ => id
  · exact fun os i n => meets_pure fun _ => id
  · exact fun os x => meets_of_and fun hos => (hm _ x).imp (fun _ => id) (fun _ _ => And.intro hos) fun _ _ => id
  · intro os batch
    refine (h.meets_call before os batch).imp (fun _ => id) (fun _ _ => id) fun f s hf => ?_
    rw [any_passingKinds, if_pos hf.1]
    exact hf.2
  · exact fun s hs => ⟨rfl, by rw [hs, List.map_nil, List.append_nil]⟩
  · rintro os s ⟨⟨hos, hasked⟩, -, hitems⟩
    rw [hitems] at hos hasked
    exact ⟨hos, hasked⟩

/-! ### The lookup -/

/-- What a lookup comes to, if `first` calls were made before it: the calls it makes and the table it
hands back. -/
structure LookedUp (script : Nat → List String → Except Failure Json) (first : Nat) (ids : List String)
    (size : Int) (calls : List (List String)) (table : FeatureTable) : Prop where
  /-- No track is asked about twice. -/
  once : calls.flatten.Nodup
  /-- Every track is asked about, and no other. -/
  members : ∀ id, id ∈ calls.flatten ↔ id ∈ ids
  /-- They are asked about in the order in which they first occur. -/
  order : calls.flatten.Pairwise fun a b => ids.idxOf a < ids.idxOf b
  /-- No call asks about more than `size` tracks, or about none. -/
  bounded : ∀ batch ∈ calls, batch ≠ [] ∧ (batch.length : Int) ≤ size
  /-- The table has the tracks in the order in which they are asked about. -/
  keys : table.map Prod.fst = calls.flatten
  /-- Each has what the answer to its batch tells. -/
  entries : ∀ i batch, calls[i]? = some batch → ∀ id ∈ batch,
    (id, told (script (first + i) batch) id) ∈ table

theorem Queried.lookedUp (h : Queried lookup script asked) (hsize : 1 ≤ size) (first : Nat)
    (ids : List String) : ∃ table, mergeOutcomes ((dedup ids).map fun id => (id, .null))
        (replies script first (chunksOf size.toNat (dedup ids))) = .ok table ∧
      LookedUp script first ids size (chunksOf size.toNat (dedup ids)) table := by
  have hpos : 0 < size.toNat := by omega
  have hflat : (chunksOf size.toNat (dedup ids)).flatten = dedup ids := flatten_chunksOf hpos _
  have hitems : ((replies script first (chunksOf size.toNat (dedup ids))).flatMap (·.items)) =
      dedup ids := by
    rw [List.flatMap_def, map_items_replies, hflat]
  have hmerge := mergeOutcomes_eq (h.separate first (chunksOf size.toNat (dedup ids)))
    (hitems.symm ▸ nodup_dedup ids)
  rw [hitems] at hmerge
  refine ⟨_, hmerge, ?_⟩
  constructor
  · rw [hflat]
    exact nodup_dedup ids
  · intro id
    rw [hflat, mem_dedup]
  · rw [hflat]
    exact pairwise_dedup ids
  · intro batch hbatch
    have hlength := length_le_of_mem_chunksOf hbatch
    exact ⟨ne_nil_of_mem_chunksOf hpos hbatch, by omega⟩
  · have hkeys : ∀ o : Outcome String Json,
        (o.items.map fun id => (id, told o.result id)).map Prod.fst = o.items := fun o => by
      rw [List.map_map]
      exact List.map_id _
    simp only [List.map_flatMap, hkeys]
    exact hitems.trans hflat.symm
  · intro i batch hbatch id hid
    refine List.mem_flatMap.2 ⟨⟨i, batch, script (first + i) batch⟩, ?_, List.mem_map_of_mem hid⟩
    refine List.mem_of_getElem? (i := i) ?_
    rw [replies, List.getElem?_mapIdx, hbatch]
    rfl

/-- Looks tracks up as a script tells; all that is noted are the calls. -/
def noted (script : Nat → List String → Except Failure Json) (ids : List String) :
    Action (List (List String)) Json := ofRun fun calls => (script calls.length ids, calls ++ [ids])

/-- A monitor that does not pause. -/
def restless : Monitor (List (List String)) := ⟨fun _ => pure (), pure (), fun _ => pure ()⟩

/-- The second call is late, and nothing is known of the track `b`. -/
def secondLate : Nat → List String → Except Failure Json
  | 1, _ => .error (.timeout "")
  | _, ids => .ok (.object ((ids.filter (· ≠ "b")).map fun id => (id, .int 1)))

theorem queried_noted : Queried (noted secondLate) secondLate fun calls => calls where
  ends _ calls := ⟨_, rfl, rfl⟩
  passing n ids f h := by
    unfold secondLate at h
    split at h <;> cases h
    rfl
  tells n ids answer h := by
    unfold secondLate at h
    split at h
    · cases h
    · obtain rfl := Except.ok.inj h
      refine ⟨_, featuresOf_object _, fun e he => ?_⟩
      obtain ⟨id, hid, rfl⟩ := List.mem_map.1 he
      exact (List.mem_filter.1 hid).1

theorem sustains_restless (l : List (List String)) (x : Amount) :
    Meets (fun calls => calls = l) (restless.pause x) (fun _ calls => calls = l) fun _ _ => False :=
  meets_pure fun _ => id

end Asking

end Mixtape
