import Mixtape.Proofs.Outward.Gate

/-!
# Passes that are repeated

A pass that brings a copy up to date leaves a fixed point behind: the copy holds what is desired, the
items that stayed in their old order and the others after them, and the mark tells so. While nothing
is edited and the clock stands, another pass passes the copy over without a call; and if it is forced,
it looks at the copy and writes nothing.

That a call is not made is told by what a pass does not depend on: it ends in the same way whatever
that call would do.

## Main definitions

* `Evaluated` — what the first part of a pass does, up to the decision whether to look at the copy.
* `Platform.Answers p copy I` — while `I` holds, the copy can be described and read.
* `Marked` — a playlist whose mark is the fingerprint of the membership.
* `Completed` — what a pass did that brought the copy up to date.

## Main results

* `runOn_bringOutward_eq_ok` — a pass that succeeds, in its two parts.
* `exists_of_writeCopy`, `exists_completed_of_ok` — what a pass does that brings the copy up to date.
* `Marked.skips`, `Marked.rests` — a pass over a marked copy.
* `bringOutward_settles` — **a pass that brings a copy up to date brings it to a fixed point.**
-/

namespace Mixtape

open Action

variable {σ : Type} {items : σ → String → List String} {s : Settings} {o : Outside σ}
  {m : Monitor σ} {options : ApplyOptions} {n : Int} {force : Bool} {w w' : World σ}
  {out : SyncOutcome} {I : σ → Prop} {now : Timestamp} {copy : String}

/-- The same clock with another platform. -/
def Outside.withPlatform (o : Outside σ) (p : Platform σ) : Outside σ := { o with platform := p }

/-- The same platform but for its writes. -/
def Platform.withWrites (p : Platform σ) (writer : Writer σ) : Platform σ :=
  { p with addItems := writer.add, removeItems := writer.remove }

/-! ### The first part of a pass -/

/-- The first part of a pass: the playlist `p` and the library `l` are read, and the membership is
evaluated, noted and committed. It ends with the database `d`, and with `u` outside. -/
structure Evaluated (now : σ → Timestamp) (m : Monitor σ) (n : Int) (w : World σ)
    (p : SmartPlaylist) (l : Library) (members : Membership) (d : Database) (u : σ) : Prop where
  /-- The playlist is read. -/
  playlist : (Database.playlist n).runOn w.database = (.ok p, w.database)
  /-- The library is read. -/
  library : (Database.library false).runOn w.database = (.ok l, w.database)
  /-- The membership is evaluated between two reports. -/
  evaluated : ∃ u₀, (m.tell "tracks" 0 1 "Evaluating criteria").runOn w.outside = (.ok (), u₀) ∧
    membership p.criteria l (now u₀) = .ok members ∧
    (m.tell "tracks" 1 1 (toString members.trackIds.length ++ " tracks match")).runOn u₀ = (.ok (), u)
  /-- The membership is noted. -/
  noted : ∃ q, (Database.saveMembership n (.nat members.trackIds.length)
    (.text members.fingerprint)).runOn w.database = (.ok q, d)

/-- The second part of a pass: the copy is passed over, or it is looked at and written. -/
def bringMembers (s : Settings) (o : Outside σ) (m : Monitor σ) (options : ApplyOptions) (n : Int)
    (force : Bool) (p : SmartPlaylist) (members : Membership) : Action (World σ) SyncOutcome :=
  if !shouldSync p (.text members.fingerprint) force then
    pure { playlist := p, status := .skipped, membership := members }
  else do
    (World.watch m).check
    writeCopy s o (World.watch m) options n p members

theorem runOn_watch_tell_eq_ok {phase message : String} {current total : Int} {r : Unit} :
    ((World.watch m).tell phase current total message).runOn w = (.ok r, w') ↔
      ∃ u, (m.tell phase current total message).runOn w.outside = (.ok r, u) ∧
        w' = { w with outside := u } :=
  runOn_ask_eq_ok (x := m.report (.of phase current total message))

theorem runOn_watch_check_eq_ok {r : Unit} : (World.watch m).check.runOn w = (.ok r, w') ↔
    ∃ u, m.check.runOn w.outside = (.ok r, u) ∧ w' = { w with outside := u } :=
  runOn_ask_eq_ok (x := m.check)

theorem runOn_noteMembership_eq_ok {p : SmartPlaylist} {l : Library} {members : Membership}
    (hp : p.id = some n) : (noteMembership o p l).runOn w = (.ok members, w') ↔
      membership p.criteria l (o.now w.outside) = .ok members ∧
        ∃ q d, (Database.saveMembership n (.nat members.trackIds.length)
          (.text members.fingerprint)).runOn w.database = (.ok q, d) ∧
            w' = { w with database := d } := by
  simp only [noteMembership, runOn_bind_eq_ok, runOn_now, runOn_ofExcept_eq_ok, hp,
    runOn_query_eq_ok, runOn_pure_eq_ok]
  constructor
  · rintro ⟨_, _, hnow, members, _, ⟨hmembers, rfl⟩, q, _, ⟨d, hd, rfl⟩, rfl, rfl⟩
    cases hnow
    exact ⟨hmembers, q, d, hd, rfl⟩
  · rintro ⟨hmembers, q, d, hd, rfl⟩
    exact ⟨_, _, rfl, members, _, ⟨hmembers, rfl⟩, q, _, ⟨d, hd, rfl⟩, rfl, rfl⟩

theorem database_of_library {d d' : Database} {l : Library} {withDetached : Bool}
    (h : (Database.library withDetached).runOn d = (.ok l, d')) : d' = d :=
  (Database.keeps_library (· = d) withDetached).meets.of_ok rfl h

theorem database_of_playlist {d d' : Database} {p : SmartPlaylist}
    (h : (Database.playlist n).runOn d = (.ok p, d')) : d' = d :=
  (Database.runOn_playlist_eq_ok.1 h).2.symm

/-- **A pass that succeeds**, in its two parts. -/
theorem runOn_bringOutward_eq_ok :
    (bringOutward s o m options n force).runOn w = (.ok out, w') ↔
      ∃ p l members d u v, Evaluated o.now m n w p l members d u ∧
        (bringMembers s o m options n force p members).runOn ⟨d, d, u⟩ = (.ok out, v) ∧
        w' = { v with saved := v.database } := by
  simp only [bringOutward, runOn_unit_eq_ok, runOn_bind_eq_ok, runOn_query_eq_ok,
    runOn_watch_tell_eq_ok]
  constructor
  · rintro ⟨v, ⟨p, _, ⟨d₀, hp, rfl⟩, _, _, ⟨u₀, htell, rfl⟩, l, _, ⟨d₁, hl, rfl⟩, members, w₁, hnote,
      _, _, hcommit, _, _, ⟨u, htell', rfl⟩, hrest⟩, rfl⟩
    obtain rfl := database_of_playlist hp
    obtain rfl := database_of_library hl
    obtain ⟨hmembers, q, d, hnoted, rfl⟩ :=
      (runOn_noteMembership_eq_ok (Database.columns_of_playlist hp).1).1 hnote
    cases hcommit
    exact ⟨p, l, members, d, u, v, ⟨hp, hl, ⟨u₀, htell, hmembers, htell'⟩, q, hnoted⟩, hrest, rfl⟩
  · rintro ⟨p, l, members, d, u, v, ⟨hp, hl, ⟨u₀, htell, hmembers, htell'⟩, q, hnoted⟩, hrest, rfl⟩
    refine ⟨v, ⟨p, _, ⟨_, hp, rfl⟩, (), _, ⟨u₀, htell, rfl⟩, l, _, ⟨_, hl, rfl⟩, members, _,
      (runOn_noteMembership_eq_ok (Database.columns_of_playlist hp).1).2
        ⟨hmembers, q, d, hnoted, rfl⟩, (), _, rfl, (), _, ⟨u, htell', rfl⟩, hrest⟩, rfl⟩

/-! ### What is written to the copy -/

/-- The copy that is opened is the noted one, as it stands, or a new one that is empty. -/
theorem exists_of_openCopy (ho : o.platform.Honest items) {p p' : SmartPlaylist} {d : Database}
    {u : σ} {noted : Option String} {created : Bool} {held : List String}
    (hremote : p.remoteId = .ofText? noted)
    (h : (openCopy s o n p).runOn ⟨d, d, u⟩ = (.ok (p', copy, created, held), w')) :
    w'.saved = w'.database ∧ Database.Renoted n d w'.database ∧ items w'.outside copy = held ∧
      ((noted = none ∧ held = []) ∨ (noted = some copy ∧ held = items u copy)) := by
  unfold openCopy at h
  cases noted with
  | none =>
    rw [hremote] at h
    simp only [Json.ofText?, Json.text?, runOn_bind_eq_ok, runOn_ask_eq_ok, runOn_query_eq_ok] at h
    obtain ⟨c, _, ⟨u', hcreate, rfl⟩, q, _, ⟨d', hset, rfl⟩, _, _, hcommit, hout⟩ := h
    cases hcommit
    cases hout
    have hempty := (ho.create _ _).of_ok trivial hcreate
    exact ⟨rfl, (Database.noting_setRemoteId _).renoted hset, hempty, .inl ⟨rfl, rfl⟩⟩
  | some c =>
    rw [hremote] at h
    simp only [Json.ofText?, Json.text?, runOn_bind_eq_ok, runOn_ask_eq_ok] at h
    obtain ⟨_, _, ⟨u₁, hdescribe, rfl⟩, ids, _, ⟨u₂, hread, rfl⟩, hout⟩ := h
    cases hout
    have hsame : items u₁ copy = items u copy := (ho.describe copy _ _ copy _).meets.of_ok rfl hdescribe
    obtain ⟨hheld, hitems⟩ := (ho.read copy (items u copy)).of_ok hsame hread
    exact ⟨rfl, .refl n d, hitems.trans hheld.symm, .inr ⟨rfl, hheld⟩⟩

/-- **A copy that is written in full** is brought to what is desired, and the mark is moved. -/
theorem exists_of_writeCopy (ho : o.platform.Honest items) (hm : m.Quiet items) {p : SmartPlaylist}
    {members : Membership} {d : Database} {u : σ} {noted : Option String}
    (hremote : p.remoteId = .ofText? noted)
    (h : (writeCopy s o (World.watch m) options n p members).runOn ⟨d, d, u⟩ = (.ok out, w'))
    (hstatus : out.status ≠ .incomplete) :
    out.membership = members ∧ ∃ copy prev d₁ t,
      ((noted = none ∧ prev = []) ∨ (noted = some copy ∧ prev = items u copy)) ∧
      items w'.outside copy = broughtTo (desiredIds s p members) prev ∧
      Database.Renoted n d d₁ ∧
      (Database.markSynced n (.text copy) (.text members.fingerprint) t).runOn d₁ =
        (.ok out.playlist, w'.database) := by
  unfold writeCopy at h
  simp only [runOn_bind_eq_ok] at h
  obtain ⟨⟨p', copy, created, held⟩, w₁, hopen, applied, w₂, happly, h⟩ := h
  obtain ⟨hsaved, hrenoted, hitems, hprev⟩ := exists_of_openCopy ho hremote hopen
  -- the database is not touched while the diff is applied
  obtain ⟨hd, -, hbrought⟩ := (meets_applyOutward ho hm options (D := (· = w₁.database))
    (S := (· = w₁.database)) (c := copy)).of_ok ⟨rfl, hsaved, hitems⟩ happly
  split at h
  · obtain ⟨_, _, hthrow, -⟩ := runOn_bind_eq_ok.1 h
    cases hthrow
  split at h
  · cases h
    exact absurd rfl hstatus
  · rename_i hcomplete
    simp only [runOn_bind_eq_ok, runOn_now, runOn_query_eq_ok, runOn_pure_eq_ok] at h
    obtain ⟨t, _, hnow, q, _, ⟨d', hmark, rfl⟩, _, _, hcommit, rfl, rfl⟩ := h
    cases hnow
    cases hcommit
    refine ⟨rfl, copy, held, w₁.database, _, hprev, ?_, hrenoted, hd ▸ hmark⟩
    exact hbrought (by simpa using hcomplete)

/-! ### A copy that holds what is desired -/

/-- While `I` holds, the copy can be described and read. -/
structure Platform.Answers (p : Platform σ) (copy : String) (I : σ → Prop) : Prop where
  /-- The copy is given a name and a description. -/
  describe : ∀ name description,
    Meets I (p.updateDetails copy name description) (fun _ => I) fun _ _ => False
  /-- The items are read. -/
  read : Meets I (p.itemIds copy) (fun _ => I) fun _ _ => False

theorem Platform.Answers.holding {p : Platform σ} (h : p.Answers copy I) (honest : p.Honest items)
    (ids : List String) : p.Answers copy fun u => I u ∧ items u copy = ids where
  describe name description := by
    refine ((h.describe name description).imp (fun _ hu => hu.1) (fun _ _ => id) fun _ _ => id).and
      ((honest.describe copy name description copy ids).meets.imp (fun _ hu => hu.2)
        (fun _ _ => id) fun _ _ => id) |>.imp_error fun _ _ => And.left
  read := by
    refine (h.read.imp (fun _ hu => hu.1) (fun _ _ => id) fun _ _ => id).and
      ((honest.read copy ids).imp (fun _ hu => hu.2) (fun _ _ => And.right) fun _ _ => id)
        |>.imp_error fun _ _ => And.left

/-- A monitor that lets the work go on, and changes no item, does both at once. -/
theorem Monitor.Sustains.holding (h : m.Sustains I fun _ _ => False) (quiet : m.Quiet items)
    (copy : String) (ids : List String) :
    m.Sustains (fun u => I u ∧ items u copy = ids) fun _ _ => False := by
  have hboth : ∀ {x : Action σ Unit}, Meets I x (fun _ => I) (fun _ _ => False) →
      Keeps (fun u => items u copy = ids) x →
      Meets (fun u => I u ∧ items u copy = ids) x (fun _ u => I u ∧ items u copy = ids)
        fun _ _ => False :=
    fun hx hkeeps => ((hx.imp (fun _ hu => hu.1) (fun _ _ => id) fun _ _ => id).and
      (hkeeps.meets.imp (fun _ hu => hu.2) (fun _ _ => id) fun _ _ => id)).imp_error
        fun _ _ => And.left
  exact ⟨fun p => hboth (h.report p) ((quiet copy ids).report p),
    hboth h.check (quiet copy ids).check, fun x => hboth (h.pause x) ((quiet copy ids).pause x)⟩

section Evaluated

variable {p : SmartPlaylist} {l : Library} {members : Membership} {d : Database} {u : σ}

/-- The first part of a pass changes what is noted of the playlist. -/
theorem Evaluated.renoted (h : Evaluated o.now m n w p l members d u) :
    Database.Renoted n w.database d := by
  obtain ⟨q, hnoted⟩ := h.noted
  exact (Database.noting_saveMembership hnoted).renoted hnoted

/-- The first part of a pass changes no item. -/
theorem Evaluated.items_eq (h : Evaluated o.now m n w p l members d u) (quiet : m.Quiet items)
    (copy : String) : items u copy = items w.outside copy := by
  obtain ⟨u₀, htell, -, htell'⟩ := h.evaluated
  have hkept := (quiet copy (items w.outside copy)).report
  exact (hkept _).meets.of_ok ((hkept _).meets.of_ok rfl htell) htell'

end Evaluated

/-- **A copy that holds what is desired** is looked at, and not written. -/
theorem exists_writeCopy_unchanged {J : σ → Prop} (answers : o.platform.Answers copy J)
    (honest : o.platform.Honest items) {p : SmartPlaylist} {members : Membership} {d : Database}
    {u : σ} {ids : List String} (hu : J u) (hids : ∀ u, J u → items u copy = ids)
    (hdesired : SameMembers ids (desiredIds s p members)) (hremote : p.remoteId = .text copy)
    {q : SmartPlaylist} (hq : (Database.playlist n).runOn d = (.ok q, d)) :
    ∃ out v, out.status = .unchanged ∧ J v.outside ∧ ∀ writer,
      (writeCopy s (o.withPlatform (o.platform.withWrites writer)) (World.watch m) options n p
        members).runOn ⟨d, d, u⟩ = (.ok out, v) := by
  obtain ⟨⟨⟩, u₁, hdescribe, hu₁⟩ := (answers.describe (p.outwardName s)
    (p.outwardDescription s)).exists_runOn hu
  obtain ⟨held, u₂, hread, hu₂⟩ := answers.read.exists_runOn hu₁
  have hheld : held = ids := ((honest.read copy ids).of_ok (hids u₁ hu₁) hread).1
  have hnone : (computeDiff (some copy) (desiredIds s p members) held).hasChanges = false :=
    hasChanges_of_sameMembers (hheld ▸ hdesired)
  obtain ⟨q', d', hmark⟩ := (Database.noting_markSynced copy members.fingerprint
    (o.now u₂)).exists_runOn hq
  refine ⟨{ playlist := q', status := .unchanged, membership := members,
            diff := some (computeDiff (some copy) (desiredIds s p members) held),
            applied := some {} }, ⟨d', d', u₂⟩, rfl, hu₂, fun writer => ?_⟩
  have hopen : (openCopy s (o.withPlatform (o.platform.withWrites writer)) n p).runOn ⟨d, d, u⟩ =
      (.ok (p, copy, false, held), ⟨d, d, u₂⟩) := by
    unfold openCopy
    rw [hremote]
    exact runOn_bind_eq_ok.2 ⟨_, _, runOn_ask_eq_ok.2 ⟨u₁, hdescribe, rfl⟩,
      runOn_bind_eq_ok.2 ⟨_, _, runOn_ask_eq_ok.2 ⟨u₂, hread, rfl⟩, rfl⟩⟩
  have happly : ∀ writer : Writer (World σ),
      (computeDiff (some copy) (desiredIds s p members) held).apply writer (World.watch m) options =
        pure {} := by
    intro writer
    unfold Diff.apply
    rw [hnone]
    rfl
  unfold writeCopy
  refine runOn_bind_eq_ok.2 ⟨_, _, hopen, ?_⟩
  refine runOn_bind_eq_ok.2 ⟨{}, _, by rw [happly]; rfl, ?_⟩
  rw [if_neg (by decide), if_neg (by decide)]
  refine runOn_bind_eq_ok.2 ⟨_, _, rfl, runOn_bind_eq_ok.2 ⟨_, _,
    runOn_query_eq_ok.2 ⟨d', hmark, rfl⟩, runOn_bind_eq_ok.2 ⟨_, _, rfl, ?_⟩⟩⟩
  rw [hnone]
  rfl

/-! ### A copy that is marked -/

/-- The playlist `p` is stored with a copy, the membership in the stored library is `members` at the
time `now`, and the mark is its fingerprint. -/
structure Marked (n : Int) (now : Timestamp) (d : Database) (p : SmartPlaylist) (l : Library)
    (members : Membership) (copy : String) : Prop where
  /-- The playlist is stored. -/
  playlist : (Database.playlist n).runOn d = (.ok p, d)
  /-- The library is stored. -/
  library : (Database.library false).runOn d = (.ok l, d)
  /-- The membership is that of the library. -/
  membership : membership p.criteria l now = .ok members
  /-- The membership can be noted. -/
  noting : Database.Noting n
    (Database.saveMembership n (.nat members.trackIds.length) (.text members.fingerprint))
  /-- The copy is noted. -/
  remote : p.remoteId = .text copy
  /-- The mark is the fingerprint of the membership. -/
  mark : p.syncedFingerprint = .text members.fingerprint

namespace Marked

variable {p : SmartPlaylist} {l : Library} {members : Membership} {d : Database} {J : σ → Prop}

/-- The copy is not looked at, unless that is asked for. -/
theorem shouldSync_eq (h : Marked n now d p l members copy) (force : Bool) :
    shouldSync p (.text members.fingerprint) force = force := by
  have hsame : (Json.text members.fingerprint).isSame (.text members.fingerprint) = true :=
    Json.isSame_text.2 rfl
  rw [shouldSync, h.remote, h.mark, hsame]
  simp [Json.isNull]

/-- **The first part of a pass succeeds**, while the clock stands. -/
theorem evaluated (h : Marked n now d p l members copy) (calm : m.Sustains J fun _ _ => False)
    (clock : ∀ u, J u → o.now u = now) (hd : w.database = d) (hw : J w.outside) :
    ∃ d' u', Evaluated o.now m n w p l members d' u' ∧ J u' ∧
      ∃ q, (Database.playlist n).runOn d' = (.ok q, d') := by
  subst hd
  obtain ⟨⟨⟩, u₁, htell, hu₁⟩ := (calm.report _).exists_runOn hw
  obtain ⟨⟨⟩, u₂, htell', hu₂⟩ := (calm.report _).exists_runOn hu₁
  obtain ⟨q, d', hnoted⟩ := h.noting.exists_runOn h.playlist
  refine ⟨d', u₂, ⟨h.playlist, h.library, ⟨u₁, htell, ?_, htell'⟩, q, hnoted⟩, hu₂, q,
    h.noting.playlist hnoted⟩
  rw [clock u₁ hu₁]
  exact h.membership

/-- **A pass passes the copy over**, whatever the platform would do. -/
theorem skips (h : Marked n now d p l members copy) (calm : m.Sustains J fun _ _ => False)
    (clock : ∀ u, J u → o.now u = now) (hd : w.database = d) (hw : J w.outside) :
    ∃ out w', out.status = .skipped ∧ ∀ platform,
      (bringOutward s (o.withPlatform platform) m options n false).runOn w = (.ok out, w') := by
  obtain ⟨d', u', heval, -⟩ := h.evaluated calm clock hd hw
  refine ⟨{ playlist := p, status := .skipped, membership := members }, ⟨d', d', u'⟩, rfl,
    fun platform => ?_⟩
  refine runOn_bringOutward_eq_ok.2 ⟨_, _, _, _, _, ⟨d', d', u'⟩, heval, ?_, rfl⟩
  unfold bringMembers
  rw [h.shouldSync_eq]
  rfl

/-- **A forced pass finds nothing to write** to a copy that holds what is desired, whatever a write
would do. -/
theorem rests (h : Marked n now d p l members copy) (calm : m.Sustains J fun _ _ => False)
    (clock : ∀ u, J u → o.now u = now) (answers : o.platform.Answers copy J)
    (honest : o.platform.Honest items) {ids : List String} (hids : ∀ u, J u → items u copy = ids)
    (hdesired : SameMembers ids (desiredIds s p members)) (hd : w.database = d)
    (hw : J w.outside) :
    ∃ out w', out.status = .unchanged ∧ J w'.outside ∧ ∀ writer,
      (bringOutward s (o.withPlatform (o.platform.withWrites writer)) m options n true).runOn w =
        (.ok out, w') := by
  obtain ⟨d', u', heval, hu', q, hq⟩ := h.evaluated calm clock hd hw
  obtain ⟨⟨⟩, u₁, hcheck, hu₁⟩ := calm.check.exists_runOn hu'
  obtain ⟨out, v, hunchanged, hv, hwrites⟩ :=
    exists_writeCopy_unchanged answers honest hu₁ hids hdesired h.remote hq
  refine ⟨out, { v with saved := v.database }, hunchanged, hv, fun writer => ?_⟩
  refine runOn_bringOutward_eq_ok.2 ⟨_, _, _, _, _, v, heval, ?_, rfl⟩
  unfold bringMembers
  rw [h.shouldSync_eq]
  exact runOn_bind_eq_ok.2 ⟨(), _, runOn_watch_check_eq_ok.2 ⟨u₁, hcheck, rfl⟩, hwrites writer⟩

end Marked

/-! ### The fixed point -/

/-- What a pass from `w` to `w'` did that brought the copy up to date. The copy held `prev` before,
and the library was `l`. -/
structure Completed (s : Settings) (items : σ → String → List String) (n : Int) (now : Timestamp)
    (w w' : World σ) (out : SyncOutcome) (copy : String) (prev : List String) (l : Library) :
    Prop where
  /-- The copy is the one that was noted, as it stood, or a new one that was empty. -/
  noted : (w.saved.copyOf n = none ∧ prev = []) ∨
    (w.saved.copyOf n = some copy ∧ prev = items w.outside copy)
  /-- The library is the stored one, and so are the criteria. -/
  stored : (Database.library false).runOn w.saved = (.ok l, w.saved) ∧
    ∃ p, (Database.playlist n).runOn w.saved = (.ok p, w.saved) ∧
      p.criteria = out.playlist.criteria
  /-- The copy holds what it held of what is desired, and then the rest of what is desired. -/
  held : items w'.outside copy = broughtTo (desiredIds s out.playlist out.membership) prev
  /-- The copy is marked with the membership. -/
  marked : Marked n now w'.database out.playlist l out.membership copy

/-- **What a pass did that brought the copy up to date.** The criteria are evaluated at the time that
follows the first report. -/
theorem exists_completed_of_ok (honest : o.platform.Honest items) (quiet : m.Quiet items)
    (committed : w.database = w.saved)
    (ends : (bringOutward s o m options n force).runOn w = (.ok out, w'))
    (skipped : out.status ≠ .skipped) (incomplete : out.status ≠ .incomplete) :
    ∃ u, (m.tell "tracks" 0 1 "Evaluating criteria").runOn w.outside = (.ok (), u) ∧
      ∃ copy prev l, Completed s items n (o.now u) w w' out copy prev l := by
  obtain ⟨p, l, members, d, u, v, heval, hrest, rfl⟩ := runOn_bringOutward_eq_ok.1 ends
  unfold bringMembers at hrest
  split at hrest
  · cases hrest
    exact absurd rfl skipped
  obtain ⟨_, _, hwatched, hwrite⟩ := runOn_bind_eq_ok.1 hrest
  obtain ⟨u₁, hcheck, rfl⟩ := runOn_watch_check_eq_ok.1 hwatched
  obtain ⟨rfl, copy, prev, d₁, t, hnoted, hitems, hrenoted, hmark⟩ :=
    exists_of_writeCopy honest quiet (Database.columns_of_playlist heval.playlist).2.1 hwrite
      incomplete
  have hsame : items u₁ copy = items w.outside copy :=
    ((quiet copy (items u copy)).check.meets.of_ok rfl hcheck).trans (heval.items_eq quiet copy)
  -- the database differs from that before the pass in what is noted of the playlist
  have hmarking := Database.noting_markSynced (n := n) copy out.membership.fingerprint t
  have hrenoted' : Database.Renoted n w.database v.database :=
    (heval.renoted.trans hrenoted).trans (hmarking.renoted hmark)
  have hread : (Database.playlist n).runOn v.database = (.ok out.playlist, v.database) :=
    hmarking.playlist hmark
  obtain ⟨q, hq, hcriteria⟩ := hrenoted'.playlist heval.playlist
  rw [hread] at hq
  cases hq
  have hdesired : desiredIds s out.playlist out.membership = desiredIds s p out.membership := by
    unfold desiredIds
    rw [hcriteria]
  obtain ⟨hremote, hprint⟩ := Database.columns_of_markSynced hmark
  obtain ⟨q, hsave⟩ := heval.noted
  obtain ⟨u₀, htell, hmembers, -⟩ := heval.evaluated
  refine ⟨u₀, htell, copy, prev, l, ?_, ?_, ?_, ?_⟩
  · rw [← committed, ← hsame]
    exact hnoted
  · rw [← committed]
    exact ⟨heval.library, p, heval.playlist, hcriteria.symm⟩
  · rw [hdesired]
    exact hitems
  · refine ⟨hread, hrenoted'.library heval.library, ?_, Database.noting_saveMembership hsave, hremote,
      hprint⟩
    rw [hcriteria]
    exact hmembers

/-- While the clock stands, the time is known. -/
theorem completed_of_ok (honest : o.platform.Honest items) (quiet : m.Quiet items)
    (calm : m.Sustains I fun _ _ => False) (clock : ∀ u, I u → o.now u = now)
    (committed : w.database = w.saved) (start : I w.outside)
    (ends : (bringOutward s o m options n force).runOn w = (.ok out, w'))
    (skipped : out.status ≠ .skipped) (incomplete : out.status ≠ .incomplete) :
    ∃ copy prev l, Completed s items n now w w' out copy prev l := by
  obtain ⟨u, htell, h⟩ := exists_completed_of_ok honest quiet committed ends skipped incomplete
  rwa [clock u ((calm.report _).of_ok start htell)] at h

/-- **A pass that brings a copy up to date brings it to a fixed point**, from whatever the copy held
before, and however the writes are cut into chunks. While nothing is edited and the clock stands,
another pass passes the copy over, whatever the platform would do; and a forced one finds nothing to
write, whatever a write would do. -/
theorem bringOutward_settles (honest : o.platform.Honest items) (quiet : m.Quiet items)
    (calm : m.Sustains I fun _ _ => False) (clock : ∀ u, I u → o.now u = now)
    (committed : w.database = w.saved) (start : I w.outside)
    (ends : (bringOutward s o m options n force).runOn w = (.ok out, w'))
    (completed : out.status = .created ∨ out.status = .updated ∨ out.status = .unchanged) :
    ∃ copy prev l, Completed s items n now w w' out copy prev l ∧
      (∀ options u, I u → ∃ out₂ w₂, out₂.status = .skipped ∧ ∀ platform,
        (bringOutward s (o.withPlatform platform) m options n false).runOn
          { w' with outside := u } = (.ok out₂, w₂)) ∧
      ∀ options u, I u → items u copy = items w'.outside copy → o.platform.Answers copy I →
        ∃ out₂ w₂, out₂.status = .unchanged ∧ items w₂.outside copy = items w'.outside copy ∧
          ∀ writer, (bringOutward s (o.withPlatform (o.platform.withWrites writer)) m options n
            true).runOn { w' with outside := u } = (.ok out₂, w₂) := by
  have hstatus : out.status ≠ .skipped ∧ out.status ≠ .incomplete := by
    rcases completed with h | h | h <;> rw [h] <;> decide
  obtain ⟨copy, prev, l, h⟩ :=
    completed_of_ok honest quiet calm clock committed start ends hstatus.1 hstatus.2
  refine ⟨copy, prev, l, h, fun options₂ u hu => ?_, fun options₂ u hu hheld answers => ?_⟩
  · exact h.marked.skips calm clock rfl hu
  · -- from now on the items stay as they are
    obtain ⟨out₂, w₂, hunchanged, hw₂, hruns⟩ :=
      h.marked.rests (s := s) (w := { w' with outside := u }) (calm.holding quiet copy (items w'.outside copy))
        (fun u h => clock u h.1) (answers.holding honest (items w'.outside copy)) honest
        (fun _ h => h.2) (h.held ▸ sameMembers_broughtTo) rfl ⟨hu, hheld⟩
    exact ⟨out₂, w₂, hunchanged, hw₂.2, hruns⟩

/-! ### The account in memory -/

namespace Surroundings

/-- The clock stands, nothing fails, nobody asks for cancellation, and the account has the copy. -/
structure Standing (copy : String) (now : Timestamp) (u : Surroundings) : Prop where
  /-- The clock stands. -/
  clock : u.clock = now
  /-- No call is to fail. -/
  failing : u.failing = []
  /-- Nobody has asked for cancellation, and nobody will. -/
  calm : u.cancelled = false ∧ u.cancelAt = none ∧ u.checks = none
  /-- The account has the copy. -/
  has : (u.account.items.find? copy).isSome = true

theorem standing_monitor (copy : String) (now : Timestamp) :
    monitor.Sustains (Standing copy now) fun _ _ => False where
  report p := meets_modify fun u h => ⟨h.clock, h.failing, h.calm, h.has⟩
  check := by
    change Meets _ check _ _
    unfold check
    refine meets_get_bind fun u h => ?_
    rw [h.calm.1, h.calm.2.2]
    exact meets_pure fun _ hu => hu ▸ h
  pause x := meets_modify fun u h => ⟨h.clock, h.failing, h.calm, h.has⟩

theorem standing_note (copy : String) (now : Timestamp) (method : String) (arguments : List Json) :
    Meets (Standing copy now) (note method arguments) (fun _ => Standing copy now)
      fun _ _ => False := by
  unfold note
  refine meets_get_bind fun u h => ?_
  rw [h.failing, h.calm.1, h.calm.2.1]
  exact Meets.bind (Q := fun _ => Standing copy now)
    (meets_set fun _ _ => ⟨h.clock, rfl, ⟨rfl, rfl, h.calm.2.2⟩, h.has⟩) fun _ => meets_pure fun _ => id

theorem standing_platform (copy : String) (now : Timestamp) :
    platform.Answers copy (Standing copy now) where
  describe name description := by
    refine Meets.bind (standing_note copy now _ _) fun _ => meets_within fun u h => ?_
    refine meets_modify ?_
    rintro _ rfl
    exact ⟨h.clock, h.failing, h.calm, h.has⟩
  read := by
    refine Meets.bind (standing_note copy now _ _) fun _ => meets_within fun u h => ?_
    obtain ⟨ids, hids⟩ := Option.isSome_iff_exists.1 h.has
    unfold Account.itemsOf
    refine meets_get_bind ?_
    rintro _ rfl
    rw [hids]
    refine meets_pure ?_
    rintro _ rfl
    exact h

end Surroundings

namespace Repeated

open Interrupted

/-- Three liked tracks, and a copy with two of them and something else, each more than once. -/
def world : World Surroundings :=
  let d : Database := { playlists := [{ everything with remoteId := some "copy" }] }
  { database := withLiked ["a", "b", "c"] d
    saved := withLiked ["a", "b", "c"] d
    outside :=
      { clock := ⟨0, 0⟩, account := { items := [("copy", ["x", "b", "x", "a", "b"])] } } }

end Repeated

/-- The copy is brought up to date once, and is then left as it is. -/
theorem bringOutward_settles_mixed : ∃ out w' prev l,
    Interrupted.brought Repeated.world = (.ok out, w') ∧ out.status = .updated ∧
    w'.outside.itemsOn "copy" = ["b", "a", "b", "c"] ∧
    Completed {} Surroundings.itemsOn 1 ⟨0, 0⟩ Repeated.world w' out "copy" prev l ∧
      (∀ options u, Surroundings.Standing "copy" ⟨0, 0⟩ u → ∃ out₂ w₂, out₂.status = .skipped ∧
        ∀ platform, (bringOutward {} (Surroundings.outside.withPlatform platform)
          Surroundings.monitor options 1 false).runOn { w' with outside := u } = (.ok out₂, w₂)) ∧
      ∀ options u, Surroundings.Standing "copy" ⟨0, 0⟩ u →
        u.itemsOn "copy" = w'.outside.itemsOn "copy" →
        ∃ out₂ w₂, out₂.status = .unchanged ∧
          w₂.outside.itemsOn "copy" = w'.outside.itemsOn "copy" ∧
          ∀ writer, (bringOutward {} (Surroundings.outside.withPlatform
            (Surroundings.platform.withWrites writer)) Surroundings.monitor options 1 true).runOn
              { w' with outside := u } = (.ok out₂, w₂) := by
  have hseen : Interrupted.seen (Interrupted.brought Repeated.world) =
      some (.updated, .text "copy", ["a", "b", "c"], ["b", "a", "b", "c"]) := by
    decide +kernel
  rcases hpass : Interrupted.brought Repeated.world with ⟨f | out, w'⟩
  · rw [hpass] at hseen
    cases hseen
  · rw [hpass] at hseen
    simp only [Interrupted.seen, Option.some.injEq, Prod.mk.injEq] at hseen
    obtain ⟨hstatus, hremote, -, hitems⟩ := hseen
    rw [hremote] at hitems
    obtain ⟨copy, prev, l, hcompleted, hskips, hrests⟩ := bringOutward_settles
      Surroundings.honest_platform Surroundings.quiet_monitor
      (Surroundings.standing_monitor "copy" ⟨0, 0⟩) (fun u h => h.clock) rfl
      ⟨rfl, rfl, ⟨rfl, rfl, rfl⟩, rfl⟩ hpass (.inr (.inl hstatus))
    obtain rfl : copy = "copy" := by
      have := hcompleted.marked.remote
      rw [hremote] at this
      exact (Json.text.inj this).symm
    exact ⟨out, w', prev, l, rfl, hstatus, hitems, hcompleted, hskips, fun options u hu hheld =>
      hrests options u hu hheld (Surroundings.standing_platform "copy" ⟨0, 0⟩)⟩

end Mixtape
