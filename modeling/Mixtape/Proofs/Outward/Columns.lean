import Mixtape.Proofs.Outward.Convergence
import Mixtape.Proofs.Outward.Noting

/-!
# What a pass leaves in the columns of its playlist

A pass commits up to three times: the membership when it was evaluated, the copy when it was created,
and the mark when the copy was brought up to date. Whatever ends it in between undoes only what came
after the last commit. So whichever calls fail, and wherever cancellation is found, the mark moves only
in a pass that completes, and the membership is noted in every pass that has evaluated it.

Nothing is promised of the platform here: its calls may do anything outside, and fail or not. Only of a
property that every call keeps that does not fail is it known that it lasts to the end of a pass that
completes. That no write has failed is such a property.

## Main definitions

* `Platform.Upholds p P` — every call of a pass that does not fail keeps `P`.
* `Database.Columns` — what is noted of the last sync of a playlist, and of its membership.
* `takeStock`, `bringStock` — what a pass does before its first commit, and from then on.

## Main results

* `meets_applying`, `meets_bringMembers`, `meets_bringStock` — the parts of a pass, over every platform.
* `runOn_takeStock_ok`, `runOn_takeStock_error` — a membership is noted exactly when it is evaluated.
* `bringOutward_columns` — **what a pass leaves in the columns of its playlist.**
-/

namespace Mixtape

open Action

variable {σ : Type} {s : Settings} {o : Outside σ} {m : Monitor σ} {options : ApplyOptions} {n : Int}
  {force : Bool} {P : σ → Prop} {D S : Database → Prop}

/-! ### Properties that last as long as no write fails -/

/-- Every call of a pass outward that does not fail keeps a property of what lies outside. -/
structure Platform.Upholds (p : Platform σ) (P : σ → Prop) : Prop where
  /-- A copy is created. -/
  create : ∀ name description, Yields P (p.createPlaylist name description) fun _ => P
  /-- A copy is described. -/
  describe : ∀ id name description, Yields P (p.updateDetails id name description) fun _ => P
  /-- A copy is read. -/
  read : ∀ id, Yields P (p.itemIds id) fun _ => P
  /-- Items are added. -/
  add : ∀ id new, Yields P (p.addItems id new) fun _ => P
  /-- Items are removed. -/
  remove : ∀ id gone, Yields P (p.removeItems id gone) fun _ => P

theorem Outside.upholds_noting (o : Outside σ) : o.noting.platform.Upholds fun u => u.2 = true where
  create _ _ := yields_noting
  describe _ _ _ := yields_noting
  read _ := (keeps_beside true).yields
  add _ _ := yields_noting
  remove _ _ := yields_noting

theorem Monitor.sustains_noting (m : Monitor σ) :
    m.noting.Sustains (fun u => u.2 = true) fun _ _ => True where
  report _ := (keeps_beside true).yields
  check := (keeps_beside true).yields
  pause _ := (keeps_beside true).yields

theorem Platform.upholds_true (p : Platform σ) : p.Upholds fun _ => True where
  create _ _ := yields_true
  describe _ _ _ := yields_true
  read _ := yields_true
  add _ _ := yields_true
  remove _ _ := yields_true

theorem Monitor.sustains_true (m : Monitor σ) : m.Sustains (fun _ => True) fun _ _ => True where
  report _ := yields_true
  check := yields_true
  pause _ := yields_true

/-! ### Applying a diff -/

/-- A computation that keeps a property where it succeeds keeps it on any condition. -/
theorem yields_unless {x : Action σ Unit} (h : Yields P x fun _ => P) (c : Prop) :
    Yields (fun u => c → P u) x fun _ u => c → P u := by
  refine yields_iff.2 fun u a t hu hx hc => ?_
  exact yields_iff.1 h u a t (hu hc) hx

section Applied

variable {ro ao : List (Outcome String Unit)} {i : Nat} {chunk : List String}

theorem isComplete_of_removed {r : Unit}
    (h : (appliedOf (ro ++ [⟨i, chunk, .ok r⟩]) ao).isComplete = true) :
    (appliedOf ro ao).isComplete = true := by
  simpa [Applied.isComplete, appliedOf] using h

theorem isComplete_of_added {r : Unit}
    (h : (appliedOf ro (ao ++ [⟨i, chunk, .ok r⟩])).isComplete = true) :
    (appliedOf ro ao).isComplete = true := by
  simpa [Applied.isComplete, appliedOf] using h

theorem not_isComplete_of_failed {f : Failure}
    (h : ⟨i, chunk, .error f⟩ ∈ ro ∨ ⟨i, chunk, .error f⟩ ∈ ao) :
    ¬(appliedOf ro ao).isComplete = true := by
  intro hcomplete
  have hnone : (appliedOf ro ao).errors = [] := by simpa [Applied.isComplete] using hcomplete
  obtain ⟨hro, hao⟩ := List.append_eq_nil_iff.1 hnone
  rcases h with h | h
  · cases List.filterMap_eq_nil_iff.1 hro _ h
  · cases List.filterMap_eq_nil_iff.1 hao _ h

end Applied

/-- **Applying a diff leaves the database as it is**, and what lasts as long as no write fails, unless a
chunk has failed. -/
theorem meets_applying (hp : o.platform.Upholds P) (hm : m.Sustains P fun _ _ => True) (d : Diff)
    (options : ApplyOptions) :
    Meets (Holding D S P) (d.apply o.platform.writer (World.watch m) options)
      (fun applied => Holding D S fun u => applied.isComplete = true → P u) fun _ w => S w.saved := by
  -- the invariant: as long as no chunk has failed
  let I (ro ao : List (Outcome String Unit)) : World σ → Prop :=
    Holding D S fun u => (appliedOf ro ao).isComplete = true → P u
  -- a call keeps it where it succeeds, and the database in any case
  have hcall : ∀ {ro ao ro' ao' : List (Outcome String Unit)} {x : Action σ Unit},
      Yields P x (fun _ => P) →
      ((appliedOf ro' ao').isComplete = true → (appliedOf ro ao).isComplete = true) →
      Meets (I ro ao) (options.pacing.bounded (World.ask x)) (fun _ => I ro' ao')
        fun _ => Holding D S fun _ => True := by
    intro ro ao ro' ao' x hx hback
    refine meets_bounded ((meets_asking (yields_unless hx _)).imp (fun _ => id) ?_ fun _ _ => id) ?_
    · exact fun _ w h => ⟨h.1, h.2.1, fun hc => h.2.2 (hback hc)⟩
    · exact fun w h => ⟨h.1, h.2.1, trivial⟩
  have hfailed : ∀ {ro ao : List (Outcome String Unit)} {w : World σ} (c : Bool),
      ¬(appliedOf ro ao).isComplete = true → Holding D S (fun _ => True) w →
      if c then I ro ao w else S w.saved := by
    intro ro ao w c hc h
    split
    · exact ⟨h.1, h.2.1, fun hcomplete => absurd hcomplete hc⟩
    · exact h.2.1
  have hwatch : ∀ ro ao, (World.watch m).Sustains (I ro ao) fun _ w => S w.saved := by
    intro ro ao
    have hask : ∀ {x : Action σ Unit}, Yields P x (fun _ => P) →
        Meets (I ro ao) (World.ask x) (fun _ => I ro ao) fun _ w => S w.saved := fun hx =>
      (meets_ask (yields_unless hx _)).imp_error fun _ _ h => h.1
    exact ⟨fun p => hask (hm.report p), hask hm.check, fun x => hask (hm.pause x)⟩
  refine (meets_applyChunks (P := I) options hwatch (fun ro chunk => ?_) (fun ro ao chunk => ?_)
    fun _ ro _ w h => h.2.1).imp ?_ ?_ fun _ _ => id
  · refine (hcall (hp.remove _ chunk) (isComplete_of_removed (r := ()))).imp_error ?_
    exact fun f w => hfailed f.isPassing (not_isComplete_of_failed (.inl List.mem_concat_self))
  · refine (hcall (hp.add _ chunk) (isComplete_of_added (r := ()))).imp_error ?_
    exact fun f w => hfailed f.isPassing (not_isComplete_of_failed (.inr List.mem_concat_self))
  · exact fun w h => ⟨h.1, h.2.1, fun _ => h.2.2⟩
  · rintro _ w ⟨ro, ao, h, rfl, -⟩
    exact h

/-! ### Writing the copy -/

/-- What is noted of the last sync of a playlist, and of its membership. -/
def Database.Columns (n : Int) (synced : Option (Option String × Option Timestamp))
    (noted : Option (Option String × Json)) (d : Database) : Prop :=
  d.syncedOf n = synced ∧ d.notedOf n = noted

variable {synced : Option (Option String × Option Timestamp)} {noted : Option (Option String × Json)}

/-- Opening a copy leaves both. -/
theorem meets_opening (hp : o.platform.Upholds P) (s : Settings) (p : SmartPlaylist) :
    Meets (Holding (Database.Columns n synced noted) (Database.Columns n synced noted) P)
      (openCopy s o n p)
      (fun _ => Holding (Database.Columns n synced noted) (Database.Columns n synced noted) P)
      fun _ w => Database.Columns n synced noted w.saved := by
  have hask : ∀ {α : Type} {x : Action σ α}, Yields P x (fun _ => P) →
      Meets (Holding (Database.Columns n synced noted) (Database.Columns n synced noted) P)
        (World.ask x)
        (fun _ => Holding (Database.Columns n synced noted) (Database.Columns n synced noted) P)
        fun _ w => Database.Columns n synced noted w.saved := fun hx =>
    (meets_ask hx).imp_error fun _ _ h => h.1
  unfold openCopy
  dsimp only
  split
  · refine Meets.bind (hask (hp.create _ _)) fun copy => ?_
    have hset : Yields (Database.Columns n synced noted) (Database.setRemoteId n (.text copy))
        fun _ => Database.Columns n synced noted := by
      refine yields_iff.2 fun d q d' hd h => ?_
      obtain ⟨hsynced, hnoted⟩ := Database.columns_of_setRemoteId h
      exact ⟨hsynced.trans hd.1, hnoted.trans hd.2⟩
    refine Meets.bind ((meets_query hset).imp_error fun _ _ h => h.1) fun q => ?_
    refine Meets.bind (meets_commit (S := Database.Columns n synced noted)) fun _ => ?_
    exact meets_pure fun _ h => h
  · refine Meets.bind (hask (hp.describe _ _ _)) fun _ => ?_
    refine Meets.bind (hask (hp.read _)) fun held => ?_
    exact meets_pure fun _ h => h

/-- What a pass leaves that did not fail, once the membership is noted. -/
structure Wrote (n : Int) (synced : Option (Option String × Option Timestamp))
    (noted : Option (Option String × Json)) (P : σ → Prop) (members : Membership)
    (out : SyncOutcome) (w : World σ) : Prop where
  /-- The membership is that which was noted. -/
  membership : out.membership = members
  /-- It is still noted. -/
  noted : w.database.notedOf n = noted
  /-- A pass that does not complete leaves the mark. -/
  left : Completes (.ok out) = false → w.database.syncedOf n = synced
  /-- A pass that completes moves it, and no chunk has failed. -/
  moved : Completes (.ok out) = true → (∃ applied, out.applied = some applied ∧ applied.errors = []) ∧
    P w.outside ∧ w.database.syncedMark n = some members.fingerprint

/-- Writing a copy moves the mark, or leaves it. -/
theorem meets_writing (hp : o.platform.Upholds P) (hm : m.Sustains P fun _ _ => True) (s : Settings)
    (options : ApplyOptions) (p : SmartPlaylist) (members : Membership) :
    Meets (Holding (Database.Columns n synced noted) (Database.Columns n synced noted) P)
      (writeCopy s o (World.watch m) options n p members) (Wrote n synced noted P members)
      fun _ w => Database.Columns n synced noted w.saved := by
  unfold writeCopy
  refine Meets.bind (meets_opening hp s p) ?_
  rintro ⟨p', copy, created, held⟩
  refine Meets.bind (meets_applying hp hm _ options) fun applied => ?_
  refine meets_ite (fun _ => ?_) fun _ => ?_
  · -- nothing was written
    exact Meets.bind (Q := fun _ _ => False) (meets_throw fun _ h => h.2.1) fun _ _ h => h.elim
  refine meets_ite (fun _ => ?_) fun hcomplete => ?_
  · -- some chunks failed
    exact meets_pure fun _ h => ⟨rfl, h.1.2, fun _ => h.1.1, nofun⟩
  have hcomplete : applied.isComplete = true := by simpa using hcomplete
  have herrors : applied.errors = [] := List.isEmpty_iff.1 hcomplete
  refine Meets.bind ((keeps_now o).meets.imp_error fun _ _ h => h.2.1) fun now => ?_
  have hmark : Yields (Database.Columns n synced noted)
      (Database.markSynced n (.text copy) (.text members.fingerprint) now)
      fun _ d => d.syncedMark n = some members.fingerprint ∧ d.notedOf n = noted := by
    refine yields_iff.2 fun d q d' hd h => ?_
    obtain ⟨hmark, hnoted⟩ := Database.notes_of_markSynced h
    exact ⟨hmark, hnoted.trans hd.2⟩
  refine Meets.bind ((meets_query hmark).imp_error fun _ _ h => h.1) fun q => ?_
  refine Meets.bind meets_commit fun _ => ?_
  refine meets_pure ?_
  rintro w ⟨⟨hmark, hnoted⟩, -, hP⟩
  refine ⟨rfl, hnoted, fun hleft => ?_, fun _ => ⟨⟨applied, rfl, herrors⟩, hP hcomplete, hmark⟩⟩
  -- the status is that of a pass that completes
  by_cases hchanges : (computeDiff (some copy) (desiredIds s p members) held).hasChanges = true <;>
    cases created <;> simp [Completes, hchanges] at hleft

theorem meets_bringMembers (hp : o.platform.Upholds P) (hm : m.Sustains P fun _ _ => True)
    (p : SmartPlaylist) (members : Membership) :
    Meets (Holding (Database.Columns n synced noted) (Database.Columns n synced noted) P)
      (bringMembers s o m options n force p members) (Wrote n synced noted P members)
      fun _ w => Database.Columns n synced noted w.saved := by
  unfold bringMembers
  refine meets_ite (fun _ => ?_) fun _ => ?_
  · exact meets_pure fun _ h => ⟨rfl, h.1.2, fun _ => h.1.1, nofun⟩
  · refine Meets.bind ((meets_ask hm.check).imp_error fun _ _ h => h.1) fun _ => ?_
    exact meets_writing hp hm s options p members

/-! ### Taking stock -/

/-- What a pass does before its first commit: the playlist and the library are read, and the membership
is evaluated and noted. -/
def takeStock (o : Outside σ) (m : Monitor σ) (n : Int) :
    Action (World σ) (SmartPlaylist × Membership) := do
  let p ← World.query (Database.playlist n)
  (World.watch m).tell "tracks" 0 1 "Evaluating criteria"
  let library ← World.query (Database.library false)
  let members ← noteMembership o p library
  return (p, members)

/-- What a pass does from its first commit on. -/
def bringStock (s : Settings) (o : Outside σ) (m : Monitor σ) (options : ApplyOptions) (n : Int)
    (force : Bool) (p : SmartPlaylist) (members : Membership) : Action (World σ) SyncOutcome := do
  World.commit
  (World.watch m).tell "tracks" 1 1 (toString members.trackIds.length ++ " tracks match")
  bringMembers s o m options n force p members

theorem bringOutward_eq : bringOutward s o m options n force =
    World.unit (takeStock o m n >>= fun x => bringStock s o m options n force x.1 x.2) := by
  unfold bringOutward takeStock bringStock bringMembers
  simp only [bind_assoc, pure_bind]

/-- A membership is noted, and the mark is left. -/
theorem meets_noting (o : Outside σ) (p : SmartPlaylist) (l : Library) (hp : p.id = some n) :
    Meets (Holding (fun d => d.syncedOf n = synced) S P) (noteMembership o p l)
      (fun members w => members.fingerprint = fingerprint members.externalIds ∧
        Holding (fun d => d.syncedOf n = synced) S P w)
      fun _ w => S w.saved := by
  unfold noteMembership
  refine Meets.bind ((keeps_now o).meets.imp_error fun _ _ h => h.2.1) fun now => ?_
  refine Meets.bind (Q := fun members w => members.fingerprint = fingerprint members.externalIds ∧
      Holding (fun d => d.syncedOf n = synced) S P w)
    (meets_ofExcept (fun _ h _ hw => ⟨fingerprint_of_membership h, hw⟩) fun _ _ _ h => h.2.1)
    fun members => ?_
  refine meets_of_and fun hmembers => ?_
  rw [hp]
  have hsave : Yields (fun d => d.syncedOf n = synced)
      (Database.saveMembership n (.nat members.trackIds.length) (.text members.fingerprint))
      fun _ d => d.syncedOf n = synced :=
    yields_iff.2 fun d q d' hd h => (Database.columns_of_saveMembership h).1.trans hd
  refine Meets.bind ((meets_query hsave).imp_error fun _ _ h => h.1) fun q => ?_
  exact meets_pure fun _ h => ⟨hmembers, h⟩

/-- Taking stock leaves the mark, and what lasts as long as no write fails. -/
theorem meets_takeStock (hm : m.Sustains P fun _ _ => True) (d : Database) :
    Meets (Holding (· = d) (· = d) P) (takeStock o m n)
      (fun x w => x.2.fingerprint = fingerprint x.2.externalIds ∧
        Holding (fun d' => d'.syncedOf n = d.syncedOf n) (· = d) P w)
      fun _ w => w.saved = d := by
  unfold takeStock
  refine Meets.bind (Q := fun p w => p.id = some n ∧ Holding (· = d) (· = d) P w) ?_ fun p => ?_
  · refine (meets_query (S := (· = d)) (O := P) (Database.meets_playlist d n).yields).imp
      (fun _ => id) ?_ fun _ _ h => h.1
    exact fun p w h => ⟨h.1.2.1, h.1.1, h.2⟩
  refine meets_of_and fun hp => ?_
  refine Meets.bind ((meets_ask (hm.report _)).imp_error fun _ _ h => h.1) fun _ => ?_
  refine Meets.bind ((meets_query (Database.keeps_library _ false).yields).imp_error
    fun _ _ h => h.1) fun library => ?_
  have hnote : Meets (Holding (fun d' => d'.syncedOf n = d.syncedOf n) (· = d) P)
      (noteMembership o p library) (fun members w =>
        members.fingerprint = fingerprint members.externalIds ∧
          Holding (fun d' => d'.syncedOf n = d.syncedOf n) (· = d) P w) fun _ w => w.saved = d :=
    meets_noting o p library hp
  refine Meets.bind (hnote.imp ?_ (fun _ _ => id) fun _ _ => id) fun members => ?_
  · exact fun w h => ⟨congrArg (fun d' : Database => d'.syncedOf n) h.1, h.2⟩
  · exact meets_pure fun _ h => h

/-- What a pass does from its first commit on: the membership stays noted, and the mark is moved or
left. -/
theorem meets_bringStock (hp : o.platform.Upholds P) (hm : m.Sustains P fun _ _ => True)
    (p : SmartPlaylist) (members : Membership) :
    Meets (Holding (Database.Columns n synced noted) S P)
      (bringStock s o m options n force p members) (Wrote n synced noted P members)
      fun _ w => Database.Columns n synced noted w.saved := by
  unfold bringStock
  refine Meets.bind meets_commit fun _ => ?_
  refine Meets.bind ((meets_ask (hm.report _)).imp_error fun _ _ h => h.1) fun _ => ?_
  exact meets_bringMembers hp hm p members

section Evaluation

variable {d : Database} {u u₁ : σ} {p : SmartPlaylist} {members : Membership} {f : Failure}

/-- **A membership that is evaluated is noted**, if its size is a count. -/
theorem runOn_takeStock_ok
    (hreport : (m.tell "tracks" 0 1 "Evaluating criteria").runOn u = (.ok (), u₁))
    (heval : ((materialize o n false).runOn ⟨d, d, u₁⟩).1 = .ok (p, members))
    (hcount : (members.trackIds.length : Int) < Database.storableBound) :
    ∃ d', (takeStock o m n).runOn ⟨d, d, u⟩ = (.ok (p, members), ⟨d', d, u₁⟩) ∧
      Database.Columns n (d.syncedOf n)
        (some (some members.fingerprint, .nat members.trackIds.length)) d' := by
  rcases hrun : (materialize o n false).runOn ⟨d, d, u₁⟩ with ⟨r, w⟩
  rw [hrun] at heval
  subst heval
  -- what the evaluation reads
  simp only [materialize, runOn_bind_eq_ok, runOn_query_eq_ok, Bool.false_eq_true, if_false, runOn_now,
    runOn_ofExcept_eq_ok, runOn_pure_eq_ok] at hrun
  obtain ⟨p', _, ⟨_, hp, rfl⟩, l, _, ⟨_, hl, rfl⟩, _, _, hnow, members', _, ⟨hmembers, rfl⟩, heq, -⟩ :=
    hrun
  cases hnow
  cases heq
  obtain rfl := database_of_playlist hp
  obtain rfl := database_of_library hl
  obtain ⟨q, d', hsave⟩ := Database.exists_saveMembership hp hcount members.fingerprint
  refine ⟨d', ?_, Database.columns_of_saveMembership hsave⟩
  refine runOn_bind_eq_ok.2 ⟨p, _, runOn_query_eq_ok.2 ⟨_, hp, rfl⟩, ?_⟩
  refine runOn_bind_eq_ok.2 ⟨(), _, runOn_watch_tell_eq_ok.2 ⟨u₁, hreport, rfl⟩, ?_⟩
  refine runOn_bind_eq_ok.2 ⟨l, _, runOn_query_eq_ok.2 ⟨_, hl, rfl⟩, ?_⟩
  refine runOn_bind_eq_ok.2 ⟨members, _, ?_, rfl⟩
  exact (runOn_noteMembership_eq_ok (Database.columns_of_playlist hp).1).2
    ⟨hmembers, q, d', hsave, rfl⟩

/-- **A pass fails where the evaluation does**, and nothing is noted. -/
theorem runOn_takeStock_error
    (hreport : (m.tell "tracks" 0 1 "Evaluating criteria").runOn u = (.ok (), u₁))
    (heval : ((materialize o n false).runOn ⟨d, d, u₁⟩).1 = .error f) :
    ∃ w, (takeStock o m n).runOn ⟨d, d, u⟩ = (.error f, w) ∧ w.saved = d := by
  have hwatch : ((World.watch m).tell "tracks" 0 1 "Evaluating criteria").runOn ⟨d, d, u⟩ =
      (.ok (), ⟨d, d, u₁⟩) := runOn_watch_tell_eq_ok.2 ⟨u₁, hreport, rfl⟩
  unfold materialize at heval
  unfold takeStock
  rw [runOn_bind] at heval ⊢
  rcases hplaylist : (Database.playlist n).runOn d with ⟨f' | p, d₁⟩
  · -- the playlist is unknown or cannot be read
    simp only [World.query, runOn_within, hplaylist] at heval ⊢
    cases heval
    exact ⟨_, rfl, rfl⟩
  obtain rfl := database_of_playlist hplaylist
  simp only [World.query, runOn_within, hplaylist] at heval ⊢
  rw [runOn_bind] at heval
  rw [runOn_bind, hwatch]
  dsimp only
  rw [runOn_bind]
  rcases hlibrary : (Database.library false).runOn d₁ with ⟨f' | l, d₂⟩
  · -- the library cannot be read
    simp only [runOn_within, hlibrary] at heval ⊢
    cases heval
    exact ⟨_, rfl, rfl⟩
  obtain rfl := database_of_library hlibrary
  simp only [runOn_within, hlibrary, Bool.false_eq_true, if_false, runOn_bind, runOn_now,
    runOn_ofExcept] at heval ⊢
  unfold noteMembership
  cases hmembers : membership p.criteria l (o.now u₁) with
  | ok members =>
    rw [hmembers] at heval
    cases heval
  | error f' =>
    rw [hmembers] at heval
    cases heval
    simp only [runOn_bind, runOn_now, runOn_ofExcept, hmembers]
    exact ⟨_, rfl, rfl⟩

end Evaluation

/-! ### A pass -/

/-- **The mark moves only in a pass that completes**, and then what lasts as long as no write fails has
lasted. -/
theorem meets_bringOutward_mark (hp : o.platform.Upholds P) (hm : m.Sustains P fun _ _ => True)
    (s : Settings) (options : ApplyOptions) (n : Int) (force : Bool) (d : Database) :
    Meets (Holding (· = d) (· = d) P) (bringOutward s o m options n force)
      (fun out w => w.database = w.saved ∧
        (Completes (.ok out) = false → w.saved.syncedOf n = d.syncedOf n) ∧
        (Completes (.ok out) = true →
          (∃ applied, out.applied = some applied ∧ applied.errors = []) ∧ P w.outside ∧
          w.saved.syncedMark n = some (fingerprint out.membership.externalIds)))
      fun _ w => w.database = w.saved ∧ w.saved.syncedOf n = d.syncedOf n := by
  rw [bringOutward_eq]
  refine meets_unit ?_
  refine Meets.bind ((meets_takeStock hm d).imp_error ?_) ?_
  · rintro _ w rfl
    exact ⟨rfl, rfl⟩
  rintro ⟨p, members⟩
  refine meets_of_and fun hmembers => meets_of_forall ?_
  rintro w₀ ⟨hsynced, hsaved, hP⟩
  -- what is noted here stays noted, whatever it is
  have hrest : Meets (Holding (Database.Columns n (d.syncedOf n) (w₀.database.notedOf n)) (· = d) P)
      (bringStock s o m options n force p members)
      (Wrote n (d.syncedOf n) (w₀.database.notedOf n) P members)
      fun _ w => Database.Columns n (d.syncedOf n) (w₀.database.notedOf n) w.saved :=
    meets_bringStock hp hm p members
  refine hrest.imp ?_ ?_ ?_
  · rintro _ rfl
    exact ⟨⟨hsynced, rfl⟩, hsaved, hP⟩
  · intro out w h
    refine ⟨rfl, h.left, fun hcompletes => ?_⟩
    rw [h.membership, ← hmembers]
    exact h.moved hcompletes
  · exact fun _ w h => ⟨rfl, h.1⟩

/-- **The membership is noted in every pass that evaluates it**, and a pass that cannot fails as the
evaluation does and changes nothing. -/
theorem notes_of_bringOutward (hp : o.platform.Upholds P) (hm : m.Sustains P fun _ _ => True)
    {d : Database} {u u₁ : σ} {r : Except Failure SyncOutcome} {w : World σ} (hP : P u₁)
    (hreport : (m.tell "tracks" 0 1 "Evaluating criteria").runOn u = (.ok (), u₁))
    (ends : (bringOutward s o m options n force).runOn ⟨d, d, u⟩ = (r, w)) :
    (∀ f, ((materialize o n false).runOn ⟨d, d, u₁⟩).1 = .error f → r = .error f ∧ w.saved = d) ∧
    ∀ p members, ((materialize o n false).runOn ⟨d, d, u₁⟩).1 = .ok (p, members) →
      (members.trackIds.length : Int) < Database.storableBound →
      w.saved.notedOf n = some (some members.fingerprint, .nat members.trackIds.length) ∧
        ∀ out, r = .ok out → out.membership = members := by
  rw [bringOutward_eq] at ends
  constructor
  · intro f heval
    obtain ⟨v, hrun, hsaved⟩ := runOn_takeStock_error hreport heval
    rw [runOn_unit_bind_error hrun] at ends
    obtain ⟨rfl, rfl⟩ := Prod.mk.inj ends
    exact ⟨rfl, hsaved⟩
  · intro p members heval hcount
    obtain ⟨d', hrun, hcolumns⟩ := runOn_takeStock_ok hreport heval hcount
    rw [runOn_unit_bind_ok hrun] at ends
    have hrest : Meets (Holding (Database.Columns n (d.syncedOf n)
        (some (some members.fingerprint, .nat members.trackIds.length))) (· = d) P)
        (World.unit (bringStock s o m options n force p members))
        (fun out w => w.saved.notedOf n =
            some (some members.fingerprint, .nat members.trackIds.length) ∧
          out.membership = members)
        fun _ w => w.saved.notedOf n =
          some (some members.fingerprint, .nat members.trackIds.length) := by
      refine meets_unit ((meets_bringStock hp hm p members).imp (fun _ => id) ?_ ?_)
      · exact fun out w h => ⟨h.noted, h.membership⟩
      · exact fun _ w h => h.2
    have hstart : Holding (Database.Columns n (d.syncedOf n)
        (some (some members.fingerprint, .nat members.trackIds.length))) (· = d) P ⟨d', d, u₁⟩ :=
      ⟨hcolumns, rfl, hP⟩
    cases r with
    | error f => exact ⟨hrest.of_error hstart ends, fun _ hout => nomatch hout⟩
    | ok out =>
      obtain ⟨hnoted, hmembers⟩ := hrest.of_ok hstart ends
      refine ⟨hnoted, fun out' hout => ?_⟩
      obtain rfl := Except.ok.inj hout
      exact hmembers

/-- The mark of a pass: as before unless the pass completes, and then that of its membership. -/
theorem mark_of_bringOutward {d : Database} {u : σ} {r : Except Failure SyncOutcome} {w : World σ}
    (ends : (bringOutward s o m options n force).runOn ⟨d, d, u⟩ = (r, w)) :
    w.database = w.saved ∧
      (Completes r = false → w.saved.syncedOf n = d.syncedOf n) ∧
      ∀ out, r = .ok out → Completes r = true →
        (∃ applied, out.applied = some applied ∧ applied.errors = []) ∧
        WritesSucceed s o m options n force ⟨d, d, u⟩ ∧
        w.saved.syncedMark n = some (fingerprint out.membership.externalIds) := by
  -- the pass that keeps the note ends alike, and leaves the same database
  obtain ⟨note, hnoting⟩ := exists_noting ends true
  have hmark := meets_bringOutward_mark o.upholds_noting m.sustains_noting s options n force d
  have hstart : Holding (· = d) (· = d) (fun u : σ × Bool => u.2 = true) ⟨d, d, (u, true)⟩ :=
    ⟨rfl, rfl, rfl⟩
  cases r with
  | error f =>
    obtain ⟨hsaved, hsame⟩ := hmark.of_error hstart hnoting
    refine ⟨hsaved, fun _ => hsame, fun _ hout => ?_⟩
    cases hout
  | ok out =>
    obtain ⟨hsaved, hleft, hmoved⟩ := hmark.of_ok hstart hnoting
    refine ⟨hsaved, hleft, fun out' hout hcompletes => ?_⟩
    obtain rfl := Except.ok.inj hout
    obtain ⟨happlied, hnote, hmoved⟩ := hmoved hcompletes
    refine ⟨happlied, ?_, hmoved⟩
    unfold WritesSucceed
    rw [hnoting]
    exact hnote

section Partly

open Interrupted

/-- Two more tracks are liked since the copy was created, and the second write will fail. -/
def pending : World Surroundings := limited (relike ["a", "b", "c"] created)

theorem database_limited (ids : List String) (w : World Surroundings) :
    limited (relike ids w) = ⟨(limited (relike ids w)).saved, (limited (relike ids w)).saved,
      (limited (relike ids w)).outside⟩ := rfl

/-- What is outside once the evaluation is reported. -/
def reported (u : Surroundings) : Surroundings :=
  ((Surroundings.monitor.tell "tracks" 0 1 "Evaluating criteria").runOn u).2

theorem runOn_report (u : Surroundings) :
    (Surroundings.monitor.tell "tracks" 0 1 "Evaluating criteria").runOn u = (.ok (), reported u) :=
  rfl

/-- The size and the fingerprint of the membership that is evaluated. -/
def evaluated (w : World Surroundings) : Option (Nat × String) :=
  match ((materialize Surroundings.outside 1 false).runOn
    ⟨w.saved, w.saved, reported w.outside⟩).1 with
  | .ok (_, members) => some (members.trackIds.length, members.fingerprint)
  | .error _ => none

theorem exists_of_evaluated {w : World Surroundings} {count : Nat} {print : String}
    (h : evaluated w = some (count, print)) :
    ∃ p members, ((materialize Surroundings.outside 1 false).runOn
      ⟨w.saved, w.saved, reported w.outside⟩).1 = .ok (p, members) ∧
      members.trackIds.length = count ∧ members.fingerprint = print := by
  unfold evaluated at h
  split at h
  · rename_i p members hrun
    obtain ⟨hcount, hprint⟩ := Prod.mk.inj (Option.some.inj h)
    exact ⟨p, members, hrun, hcount, hprint⟩
  · cases h

end Partly

end Mixtape
