import Mixtape.Outward.Basic
import Mixtape.Proofs.Database.Playlists
import Mixtape.Proofs.Platform
import Mixtape.Proofs.Sync.Chunks
import Mixtape.Proofs.Sync.Diff
import Mixtape.Proofs.World

/-!
# What a pass outward does

A pass that brings an outward copy up to date ends in one of four ways. It passes the copy over, it
makes the copy hold what is desired and moves the mark, it changes the copy in part and leaves the
mark, or it fails and leaves the mark.

## Main definitions

* `Database.Kept n copy mark d` — what every pass keeps of a playlist: a copy that was noted, and the
  mark unless the copy was brought up to date.
* `Brought` — what a pass has done that did not fail.

## Main results

* `meets_noteMembership`, `meets_openCopy`, `meets_applyOutward` — the parts of a pass.
* `meets_bringOutward` — **what a pass does.**
-/

namespace Mixtape

open Action

/-- A copy that was noted is still noted, and the mark is as it was. -/
def Database.Kept (n : Int) (copy mark : Option String) (d : Database) : Prop :=
  d.syncedMark n = mark ∧ ∀ c, copy = some c → d.copyOf n = some c

theorem Database.Noted.kept {n : Int} {criteria : Json} {copy copy' mark : Option String}
    {d : Database} (h : Noted n criteria copy' mark d) (hcopy : copy = none ∨ copy = copy') :
    d.Kept n copy mark := by
  refine ⟨h.syncedMark_eq, fun c hc => ?_⟩
  rcases hcopy with rfl | rfl
  · cases hc
  · rw [h.copyOf_eq, hc]

variable {σ : Type} {items : σ → String → List String}

/-- What a pass has done that did not fail. -/
inductive Brought (s : Settings) (items : σ → String → List String) (n : Int) (w : World σ)
    (out : SyncOutcome) (w' : World σ) : Prop
  /-- The copy is passed over. It holds what it held, and the mark is the fingerprint of the
  membership. -/
  | skipped (copy : String) (status : out.status = .skipped)
      (remote : out.playlist.remoteId = .text copy) (noted : w.saved.copyOf n = some copy)
      (held : items w'.outside copy = items w.outside copy)
      (mark : w.saved.syncedMark n = some out.membership.fingerprint)
      (kept : w'.saved.Kept n (w.saved.copyOf n) (w.saved.syncedMark n))
  /-- The copy holds what is desired, and the mark is the fingerprint of the membership. -/
  | complete (copy : String) (status : out.status ≠ .skipped ∧ out.status ≠ .incomplete)
      (remote : out.playlist.remoteId = .text copy)
      (noted : w.saved.copyOf n = none ∨ w.saved.copyOf n = some copy)
      (held : SameMembers (items w'.outside copy) (desiredIds s out.playlist out.membership))
      (kept : w'.saved.Kept n (some copy) (some out.membership.fingerprint))
  /-- The copy was changed in part. -/
  | incomplete (status : out.status = .incomplete)
      (kept : w'.saved.Kept n (w.saved.copyOf n) (w.saved.syncedMark n))

variable {n : Int} {criteria : Json} {copy mark : Option String} {S : Database → Prop}
  {O : σ → Prop}

/-! ### The parts of a pass -/

theorem fingerprint_of_membership {c : Criteria} {l : Library} {now : Timestamp} {m : Membership}
    (h : membership c l now = .ok m) : m.fingerprint = fingerprint m.externalIds := by
  unfold membership at h
  cases he : evaluate c l now with
  | error f => rw [he] at h; cases h
  | ok ids =>
    rw [he] at h
    cases h
    rfl

/-- Noting a membership changes nothing about the copy. -/
theorem meets_noteMembership (o : Outside σ) (p : SmartPlaylist) (l : Library)
    (hp : p.id = some n) :
    Meets (Holding (Database.Noted n criteria copy mark) S O) (noteMembership o p l)
      (fun m w => m.fingerprint = fingerprint m.externalIds ∧
        Holding (Database.Noted n criteria copy mark) S O w)
      fun _ w => S w.saved ∧ O w.outside := by
  unfold noteMembership
  refine Meets.bind ((keeps_now o).meets.imp_error fun _ _ h => h.2) fun now => ?_
  refine Meets.bind (Q := fun m w => m.fingerprint = fingerprint m.externalIds ∧
      Holding (Database.Noted n criteria copy mark) S O w)
    (meets_ofExcept (fun m hm w h => ⟨fingerprint_of_membership hm, h⟩) fun _ _ _ h => h.2)
    fun m => ?_
  refine meets_of_and fun hm => ?_
  rw [hp]
  refine Meets.bind (meets_query (Database.meets_saveMembership _ _)) fun _ => ?_
  exact meets_pure fun _ h => ⟨hm, h⟩

/-- The copy that is opened is the one that is noted, or a new one that is noted at once. What is
told of it is what it holds. -/
theorem meets_openCopy {o : Outside σ} (ho : o.platform.Honest items) (s : Settings)
    (p : SmartPlaylist) (hdocument : Criteria.ofDocument criteria = .ok p.criteria)
    (hremote : p.remoteId = .ofText? copy) :
    Meets
      (Holding (Database.Noted n criteria copy mark) (Database.Noted n criteria copy mark)
        fun _ => True)
      (openCopy s o n p)
      (fun (p', c, _, held) w => (copy = none ∨ copy = some c) ∧ p'.criteria = p.criteria ∧
        p'.remoteId = .text c ∧ Holding (Database.Noted n criteria (some c) mark)
          (Database.Noted n criteria (some c) mark) (fun o => items o c = held) w)
      fun _ w => w.saved.Kept n copy mark := by
  unfold openCopy
  cases copy with
  | none =>
    rw [hremote]
    refine Meets.bind ((meets_ask (ho.create _ _)).imp_error
      fun _ w h => h.1.kept (.inl rfl)) fun c => ?_
    refine Meets.bind ((meets_query (Database.meets_setRemoteId c)).imp_error
      fun _ w h => h.1.kept (.inl rfl)) fun p' => ?_
    refine Meets.bind (meets_commit (S := Database.Noted n criteria none mark)) fun _ => ?_
    refine meets_pure ?_
    rintro w ⟨⟨hnoted, hremote', hdocument'⟩, ⟨hsaved, -, -⟩, hitems⟩
    have : p'.criteria = p.criteria := Except.ok.inj (hdocument'.symm.trans hdocument)
    exact ⟨.inl rfl, this, hremote', hnoted, hsaved, hitems⟩
  | some c =>
    rw [hremote]
    refine meets_of_forall ?_
    rintro w₀ ⟨hd, hs, -⟩
    have hdescribe := meets_ask (D := Database.Noted n criteria (some c) mark)
      (S := Database.Noted n criteria (some c) mark)
      (ho.describe c (p.outwardName s) (p.outwardDescription s) c (items w₀.outside c))
    refine Meets.bind (hdescribe.imp ?_ (fun _ _ => id) fun _ w h => h.1.kept (.inr rfl))
      fun _ => ?_
    · rintro _ rfl
      exact ⟨hd, hs, rfl⟩
    refine Meets.bind ((meets_ask (ho.read c (items w₀.outside c))).imp_error
      fun _ w h => h.1.kept (.inr rfl)) fun held => ?_
    refine meets_pure ?_
    rintro w ⟨hd, hs, hheld, hitems⟩
    exact ⟨.inr rfl, rfl, hremote, hd, hs, hitems.trans hheld.symm⟩

variable {m : Monitor σ} {p : Platform σ} {c : String} {held desired : List String}

/-- Applying a diff to a copy leaves it with the items that were not removed and those that were
added; so a copy to which all of it was applied is brought to what is desired. -/
theorem meets_applyOutward (hp : p.Honest items) (hm : m.Quiet items) (options : ApplyOptions)
    {D : Database → Prop} :
    Meets (Holding D S fun o => items o c = held)
      ((computeDiff (some c) desired held).apply p.writer (World.watch m) options)
      (fun applied => Holding D S fun o =>
        applied.isComplete = true → items o c = broughtTo desired held)
      fun _ w => S w.saved := by
  -- the invariant: what the copy holds, in terms of what was removed and added so far
  let P (r a : List String) : World σ → Prop :=
    Holding D S fun o => items o c = held.filter (!r.contains ·) ++ a
  -- a call that changes the items by `f` carries the invariant on, if `f` does
  have hcall : ∀ (r a r' a' : List String) (y : Action σ Unit) (f : List String → List String),
      (∀ ids, Meets (fun o => items o c = ids) y (fun _ o => items o c = f ids)
        fun _ o => items o c = ids) →
      f (held.filter (!r.contains ·) ++ a) = held.filter (!r'.contains ·) ++ a' →
      Meets (P r a) (World.ask y) (fun _ => P r' a') fun _ => P r a := by
    intro r a r' a' y f hy hf
    refine meets_asking ((hy (held.filter (!r.contains ·) ++ a)).imp (fun _ => id) ?_ fun _ _ => id)
    exact fun _ o h => h.trans hf
  have hquiet : ∀ (r a : List String) (y : Action σ Unit),
      (∀ ids, Keeps (fun o => items o c = ids) y) → Keeps (P r a) (World.ask y) :=
    fun r a y hy => hcall r a r a y (fun ids => ids) hy rfl
  refine (meets_apply (P := P) (fun r a p => hquiet r a _ fun ids => (hm c ids).report p)
    (fun r a => hquiet r a _ fun ids => (hm c ids).check)
    (fun r a x => hquiet r a _ fun ids => (hm c ids).pause x)
    (fun r gone => hcall r [] (r ++ gone) [] _ _ (fun ids => hp.remove c ids gone) ?_)
    (fun r a new => hcall r a r (a ++ new) _ _ (fun ids => hp.add c ids new) ?_)
    options).imp ?_ ?_ ?_
  · rw [List.append_nil, List.append_nil, filter_filter_contains]
  · exact List.append_assoc _ _ _
  · rintro w ⟨hd, hs, hitems⟩
    refine ⟨hd, hs, hitems.trans ?_⟩
    exact ((List.append_nil _).trans (List.filter_eq_self.2 fun _ _ => rfl)).symm
  · rintro applied w ⟨⟨hd, hs, hitems⟩, hdone⟩
    refine ⟨hd, hs, fun hcomplete => ?_⟩
    obtain ⟨hremoved, hadded⟩ := hdone hcomplete
    rw [hitems, hremoved, hadded, change_computeDiff]
  · rintro _ w ⟨r, a, -, hs, -⟩
    exact hs

/-- What a pass does once it has come to write: the copy ends up with what is desired and the mark is
moved, or the mark stays. -/
theorem meets_writeCopy {o : Outside σ} (ho : o.platform.Honest items) (hm : m.Quiet items)
    (s : Settings) (options : ApplyOptions) (mark : Option String) (p : SmartPlaylist)
    (members : Membership)
    (hdocument : Criteria.ofDocument criteria = .ok p.criteria)
    (hremote : p.remoteId = .ofText? copy) :
    Meets
      (Holding (Database.Noted n criteria copy mark) (Database.Noted n criteria copy mark)
        fun _ => True)
      (writeCopy s o (World.watch m) options n p members)
      (fun out w => out.membership = members ∧
        ((out.status = .incomplete ∧ w.database.Kept n copy mark) ∨
          ∃ c, out.status ≠ .skipped ∧ out.status ≠ .incomplete ∧ (copy = none ∨ copy = some c) ∧
            out.playlist.remoteId = .text c ∧
            SameMembers (items w.outside c) (desiredIds s out.playlist members) ∧
            w.database.Kept n (some c) (some members.fingerprint)))
      fun _ w => w.saved.Kept n copy mark := by
  unfold writeCopy
  refine Meets.bind (meets_openCopy ho s p hdocument hremote) ?_
  rintro ⟨p', c, created, held⟩
  refine meets_of_and fun hcopy => meets_of_and fun hcriteria => meets_of_and fun hremote' => ?_
  refine Meets.bind ((meets_applyOutward ho hm options).imp_error
    fun _ _ h => h.kept hcopy) fun applied => ?_
  refine meets_ite (fun _ => ?_) fun _ => ?_
  · -- nothing was written
    exact Meets.bind (Q := fun _ _ => False) (meets_throw fun _ h => h.2.1.kept hcopy)
      fun _ _ h => h.elim
  refine meets_ite (fun _ => ?_) fun hcomplete => ?_
  · -- some chunks failed
    exact meets_pure fun _ h => ⟨rfl, .inl ⟨rfl, h.1.kept hcopy⟩⟩
  have hcomplete : applied.isComplete = true := by simpa using hcomplete
  refine Meets.bind ((keeps_now o).meets.imp_error fun _ _ h => h.2.1.kept hcopy) fun now => ?_
  refine Meets.bind ((meets_query (Database.meets_markSynced _ _ _)).imp_error
    fun _ _ h => h.1.kept hcopy) fun p'' => ?_
  refine Meets.bind meets_commit fun _ => ?_
  refine meets_pure ?_
  rintro w ⟨⟨hnoted, hremote'', hdocument''⟩, -, hitems⟩
  refine ⟨rfl, .inr ⟨c, ?_, ?_, hcopy, hremote'', ?_, hnoted.kept (.inr rfl)⟩⟩
  · cases created <;> cases (computeDiff (some c) (desiredIds s p members) held).hasChanges <;>
      simp
  · cases created <;> cases (computeDiff (some c) (desiredIds s p members) held).hasChanges <;>
      simp
  · have : desiredIds s p'' members = desiredIds s p members := by
      unfold desiredIds
      rw [Except.ok.inj (hdocument''.symm.trans hdocument)]
    change SameMembers _ (desiredIds s p'' members)
    rw [this, hitems hcomplete]
    exact sameMembers_broughtTo

/-! ### A pass -/

/-- A playlist is passed over only when a copy is noted and the mark is the fingerprint. -/
theorem eq_of_not_shouldSync {p : SmartPlaylist} {fingerprint : String} {force : Bool}
    (hremote : p.remoteId = .ofText? copy) (hmark : p.syncedFingerprint = .ofText? mark)
    (h : shouldSync p (.text fingerprint) force = false) :
    ∃ c, copy = some c ∧ mark = some fingerprint := by
  unfold shouldSync at h
  rw [hremote, hmark] at h
  cases copy with
  | none => simp [Json.ofText?, Json.isNull] at h
  | some c =>
    cases mark with
    | none => simp [Json.ofText?, Json.isNull] at h
    | some f =>
      have : f = fingerprint := by simpa [Json.ofText?, Json.isNull] using (Bool.or_eq_false_iff.1 h).2
      exact ⟨c, rfl, by rw [this]⟩

/-- **What a pass does** that starts from a committed database. -/
theorem meets_bringOutward {o : Outside σ} (ho : o.platform.Honest items) (hm : m.Quiet items)
    (s : Settings) (options : ApplyOptions) (n : Int) (force : Bool) {w : World σ}
    (hw : w.database = w.saved) :
    Meets (· = w) (bringOutward s o m options n force)
      (fun out w' => w'.database = w'.saved ∧
        out.membership.fingerprint = fingerprint out.membership.externalIds ∧
        Brought s items n w out w')
      fun _ w' => w'.database = w'.saved ∧
        w'.saved.Kept n (w.saved.copyOf n) (w.saved.syncedMark n) := by
  -- a failure leaves the last commit, which has kept the copy and the mark
  have hkept : w.saved.Kept n (w.saved.copyOf n) (w.saved.syncedMark n) :=
    ⟨rfl, fun _ h => h⟩
  refine meets_unit ?_
  -- the playlist is read
  refine Meets.bind (Q := fun p w' => p.id = some n ∧ ∃ criteria copy mark,
      (Database.Noted n criteria copy mark w.saved ∧
        Criteria.ofDocument criteria = .ok p.criteria ∧ p.remoteId = .ofText? copy ∧
        p.syncedFingerprint = .ofText? mark) ∧
      Holding (· = w.saved) (· = w.saved) (· = w.outside) w') ?_ fun p => ?_
  · refine (meets_query (S := (· = w.saved)) (O := (· = w.outside))
      (Database.meets_playlist w.saved n).yields).imp ?_ ?_ ?_
    · rintro _ rfl
      exact ⟨hw, rfl, rfl⟩
    · rintro p w' ⟨⟨hd, hp, criteria, copy, mark, hrow⟩, hs, ho⟩
      exact ⟨hp, criteria, copy, mark, hrow, hd, hs, ho⟩
    · rintro _ w' ⟨hs, -⟩
      exact ⟨rfl, hs ▸ hkept⟩
  refine meets_of_and fun hp => meets_of_exists fun criteria => meets_of_exists fun copy =>
    meets_of_exists fun mark => meets_of_and ?_
  rintro ⟨hnoted, hdocument, hremote, hmark⟩
  rw [hnoted.copyOf_eq, hnoted.syncedMark_eq]
  -- reports and looks for cancellation change no item
  have hwatch : ∀ (D : Database → Prop) {y : Action σ Unit},
      (∀ c ids, Keeps (fun t => items t c = ids) y) →
      Meets (Holding D (Database.Noted n criteria copy mark) (items · = items w.outside))
        (World.ask y)
        (fun _ => Holding D (Database.Noted n criteria copy mark) (items · = items w.outside))
        fun _ w' => w'.rollback.database = w'.rollback.saved ∧
          w'.rollback.saved.Kept n copy mark :=
    fun D _ hy => (meets_ask (keeps_items hy _)).imp_error fun _ _ h => ⟨rfl, h.1.kept (.inr rfl)⟩
  refine Meets.bind ((hwatch (Database.Noted n criteria copy mark) fun c ids => (hm c ids).report _).imp ?_
    (fun _ _ => id) fun _ _ => id) fun _ => ?_
  · rintro w' ⟨hd, hs, ho⟩
    exact ⟨hd ▸ hnoted, hs ▸ hnoted, congrArg items ho⟩
  refine Meets.bind ((meets_query (Database.keeps_library _ false).yields).imp_error
    fun _ w' h => ⟨rfl, h.1.kept (.inr rfl)⟩) fun library => ?_
  -- the membership is noted, and committed
  refine Meets.bind ((meets_noteMembership o p library hp).imp_error
    fun _ w' h => ⟨rfl, h.1.kept (.inr rfl)⟩) fun members => ?_
  refine meets_of_and fun hmembers => ?_
  refine Meets.bind meets_commit fun _ => ?_
  refine Meets.bind (hwatch _ fun c ids => (hm c ids).report _) fun _ => ?_
  refine meets_ite (fun hskip => ?_) fun _ => ?_
  · -- the playlist is passed over
    obtain ⟨c, rfl, rfl⟩ := eq_of_not_shouldSync hremote hmark (by simpa using hskip)
    refine meets_pure ?_
    rintro w' ⟨hd, -, ho⟩
    refine ⟨rfl, hmembers, .skipped c rfl hremote hnoted.copyOf_eq (congrFun ho c) hnoted.syncedMark_eq ?_⟩
    rw [hnoted.copyOf_eq, hnoted.syncedMark_eq]
    exact hd.kept (.inr rfl)
  refine Meets.bind (hwatch _ fun c ids => (hm c ids).check) fun _ => ?_
  refine (meets_writeCopy ho hm s options mark p members hdocument hremote).imp ?_ ?_ ?_
  · exact fun _ h => ⟨h.1, h.2.1, trivial⟩
  · rintro out w' ⟨rfl, ⟨hstatus, hkept'⟩ | ⟨c, h₁, h₂, hcopy, hremote', hitems, hkept'⟩⟩
    · refine ⟨rfl, hmembers, .incomplete hstatus ?_⟩
      rw [hnoted.copyOf_eq, hnoted.syncedMark_eq]
      exact hkept'
    · refine ⟨rfl, hmembers, .complete c ⟨h₁, h₂⟩ hremote' ?_ hitems hkept'⟩
      rw [hnoted.copyOf_eq]
      exact hcopy
  · exact fun _ _ h => ⟨rfl, h⟩

end Mixtape
