import Mixtape.Proofs.Outward.Gate
import Mixtape.Proofs.Outward.Log

/-!
# One copy of a playlist

A copy is created when none is noted, and it is noted and committed before anything else is asked of
the platform. From then on the playlist has a copy, in every state that a failure can go back to; so no
second one is ever created, and all that is written is written to the first.

What a pass exchanges with the platform is kept in a log beside it: the copies that are created, and the
writes, whether they succeed or fail.

## Main definitions

* `Exchange` — an entry of the log.
* `exchanges` — the log of a pass.
* `Loyal before log after` — a copy is created only where there is none, and what is written is written
  to the copy; `before` is the copy before the log, `after` the one after it.
* `Database.Copied n copy d₀ d` — what passes over one playlist make of `d₀`.
* `CopyRun n w log w'` — a history of passes over one playlist, with its log.

## Main results

* `copied_bringOutward` — **a pass is loyal**, wherever it ends.
* `CopyRun.one_copy` — **there is one copy**, for good.
-/

namespace Mixtape

open Action

/-- What is exchanged with the platform about the copy of a playlist. -/
inductive Exchange where
  /-- A copy was created. -/
  | created (copy : String)
  /-- Something was written to a copy, or failed to be. -/
  | wrote (copy : Option String)
  deriving DecidableEq

/-- A copy is created only where there is none, and what is written is written to the copy. -/
inductive Loyal : Option String → List Exchange → Option String → Prop
  /-- Nothing is exchanged. -/
  | nil (copy : Option String) : Loyal copy [] copy
  /-- A copy is created, and is the copy from then on. -/
  | created {copy : String} {log : List Exchange} {after : Option String}
      (rest : Loyal (some copy) log after) : Loyal none (.created copy :: log) after
  /-- The copy is written to. -/
  | wrote {copy : String} {log : List Exchange} {after : Option String}
      (rest : Loyal (some copy) log after) : Loyal (some copy) (.wrote (some copy) :: log) after

namespace Loyal

variable {before between after : Option String} {log log' : List Exchange} {copy : String}

theorem append (h : Loyal before log between) (h' : Loyal between log' after) :
    Loyal before (log ++ log') after := by
  induction h with
  | nil => exact h'
  | created _ ih => exact .created (ih h')
  | wrote _ ih => exact .wrote (ih h')

/-- Where there is a copy, it stays, and all that is exchanged is written to it. -/
theorem of_some (h : Loyal before log after) (hcopy : before = some copy) :
    after = some copy ∧ ∀ e ∈ log, e = .wrote (some copy) := by
  induction h with
  | nil => exact ⟨hcopy, fun _ he => nomatch he⟩
  | created => cases hcopy
  | wrote _ ih =>
    obtain rfl := Option.some.inj hcopy
    obtain ⟨hafter, hlog⟩ := ih rfl
    refine ⟨hafter, fun e he => ?_⟩
    rcases List.mem_cons.1 he with rfl | he
    · rfl
    · exact hlog e he

/-- Where there is none, nothing is exchanged, or a copy is created and written to. -/
theorem of_none (h : Loyal none log after) : (log = [] ∧ after = none) ∨
    ∃ copy writes, log = .created copy :: writes ∧ (∀ e ∈ writes, e = .wrote (some copy)) ∧
      after = some copy := by
  cases h with
  | nil => exact .inl ⟨rfl, rfl⟩
  | created rest =>
    obtain ⟨hafter, hwrites⟩ := rest.of_some rfl
    exact .inr ⟨_, _, rfl, hwrites, hafter⟩

/-- A copy that there was not before was created. -/
theorem eq_or_created (h : Loyal before log after) :
    after = before ∨ ∃ copy, .created copy ∈ log ∧ after = some copy := by
  cases before with
  | some copy => exact .inl (h.of_some rfl).1
  | none =>
    rcases h.of_none with ⟨-, rfl⟩ | ⟨copy, writes, rfl, -, rfl⟩
    · exact .inl rfl
    · exact .inr ⟨copy, List.mem_cons_self, rfl⟩

end Loyal

/-! ### What is stored -/

namespace Database

variable {n : Int} {copy copy' : Option String} {d₀ d d' : Database} {r c : PlaylistRow} {id : String}

theorem mem_remoteIds : id ∈ d.remoteIds ↔ ∃ r ∈ d.playlists, r.remoteId = some id := by
  rw [remoteIds, mem_dedup, List.mem_filterMap]

theorem mem_remoteIds_of_copyOf (h : d.copyOf n = some id) : id ∈ d.remoteIds := by
  unfold copyOf at h
  obtain ⟨r, hr, hid⟩ := Option.bind_eq_some_iff.1 h
  exact mem_remoteIds.2 ⟨r, List.mem_of_find?_eq_some hr, hid⟩

/-- Another row brings no copy but its own. -/
theorem mem_remoteIds_withRow (h : id ∈ (d.withRow n c).remoteIds) :
    id ∈ d.remoteIds ∨ c.remoteId = some id := by
  obtain ⟨r, hr, hid⟩ := mem_remoteIds.1 h
  obtain ⟨q, hq, rfl⟩ := List.mem_map.1 hr
  split at hid
  · exact .inr hid
  · exact .inl (mem_remoteIds.2 ⟨q, hq, hid⟩)

/-- The playlist with a number can be read. -/
def Readable (n : Int) (d : Database) : Prop := ∃ p, (playlist n).runOn d = (.ok p, d)

/-- What passes over one playlist make of a database: they change the playlists alone, and add no copy
but that of the one. -/
structure Copied (n : Int) (copy : Option String) (d₀ d : Database) : Prop where
  /-- Everything but the playlists is the same. -/
  others : ∃ rows, d = { d₀ with playlists := rows }
  /-- The playlist has this copy. -/
  copyOf_eq : d.copyOf n = copy
  /-- No other copies have come. -/
  ids : ∀ id ∈ d.remoteIds, id ∈ d₀.remoteIds ∨ copy = some id

theorem copied_self (n : Int) (d : Database) : d.Copied n (d.copyOf n) d :=
  ⟨⟨_, rfl⟩, rfl, fun _ h => .inl h⟩

/-- The row of the playlist becomes another one, which keeps the copy if there is one. -/
theorem Copied.withRow (h : Copied n copy d₀ d) (hr : d.rowOf n = some r) (hid : c.id = n)
    (hc : c.remoteId = copy') (hcopy : copy = none ∨ copy' = copy) :
    Copied n copy' d₀ (d.withRow n c) where
  others := by
    obtain ⟨rows, rfl⟩ := h.others
    exact ⟨_, rfl⟩
  copyOf_eq := by rw [copyOf, rowOf_withRow hr hid, Option.bind_some, hc]
  ids id hmem := by
    rcases mem_remoteIds_withRow hmem with hmem | hnew
    · rcases h.ids id hmem with hold | hold
      · exact .inl hold
      · rcases hcopy with rfl | rfl
        · cases hold
        · exact .inr hold
    · exact .inr (hc ▸ hnew)

/-- A note of the playlist that keeps the copy if there is one. -/
theorem Copied.changed {f : PlaylistRow → Except Failure PlaylistRow} {p : SmartPlaylist}
    (h : Copied n copy d₀ d) (hnoting : Noting n (changePlaylist n f))
    (hf : ∀ r c, r.remoteId = copy → f r = .ok c → c.id = r.id ∧ c.remoteId = copy')
    (hcopy : copy = none ∨ copy' = copy) (hx : (changePlaylist n f).runOn d = (.ok p, d')) :
    Copied n copy' d₀ d' ∧ Readable n d' := by
  refine ⟨?_, p, hnoting.playlist hx⟩
  obtain ⟨r, c, -, hr, hc, -, rfl⟩ := runOn_changePlaylist_eq_ok.1 hx
  have hremote : r.remoteId = copy := by
    have := h.copyOf_eq
    rwa [copyOf, hr] at this
  obtain ⟨hid, hnew⟩ := hf r c hremote hc
  exact h.withRow hr (hid.trans (id_of_rowOf hr)) hnew hcopy

theorem yields_saveMembership (count fingerprint : Json) :
    Yields (fun d => Copied n copy d₀ d ∧ Readable n d) (saveMembership n count fingerprint)
      fun _ d => Copied n copy d₀ d ∧ Readable n d := by
  refine yields_iff.2 fun d p d' hd hx => hd.1.changed (noting_saveMembership hx) ?_ (.inr rfl) hx
  intro r c hremote hc
  obtain ⟨_, _, hc⟩ := exists_of_bind_eq_ok hc
  obtain ⟨_, _, hc⟩ := exists_of_bind_eq_ok hc
  cases hc
  exact ⟨rfl, hremote⟩

/-- **A new copy can be noted** of a playlist that can be read. -/
theorem meets_setRemoteId_of_readable (new : String) :
    Meets (fun d => Copied n none d₀ d ∧ Readable n d) (setRemoteId n (.text new))
      (fun _ d => Copied n (some new) d₀ d ∧ Readable n d) fun _ _ => False := by
  rintro d ⟨hd, p, hp⟩
  obtain ⟨q, d', hx⟩ := (noting_setRemoteId new).exists_runOn hp
  rw [hx]
  refine hd.changed (noting_setRemoteId new) ?_ (.inl rfl) hx
  intro r c _ hc
  cases hc
  exact ⟨rfl, rfl⟩

theorem yields_markSynced (copy fingerprint : String) (now : Timestamp) :
    Yields (fun d => Copied n (some copy) d₀ d ∧ Readable n d)
      (markSynced n (.text copy) (.text fingerprint) now)
      fun _ d => Copied n (some copy) d₀ d ∧ Readable n d := by
  refine yields_iff.2 fun d p d' hd hx =>
    hd.1.changed (noting_markSynced copy fingerprint now) ?_ (.inr rfl) hx
  intro r c _ hc
  cases hc
  exact ⟨rfl, rfl⟩

end Database

/-! ### What is exchanged -/

variable {σ : Type} {s : Settings} {o : Outside σ} {m : Monitor σ} {options : ApplyOptions} {n : Int}
  {force : Bool} {d₀ : Database} {copy : Option String}

/-- The copy that a call created, if it did. -/
def Exchange.ofCreate : Except Failure String → List Exchange
  | .ok copy => [.created copy]
  | .error _ => []

/-- The platform and the clock, with a log of what is exchanged. -/
def Outside.recording (o : Outside σ) : Outside (σ × List Exchange) where
  platform :=
    { createPlaylist := fun name description =>
        (o.platform.createPlaylist name description).recording Exchange.ofCreate
      updateDetails := fun id name description =>
        (o.platform.updateDetails id name description).recording fun _ => [.wrote (some id)]
      itemIds := fun id => (o.platform.itemIds id).unlogged
      addItems := fun id new => (o.platform.addItems id new).recording fun _ => [.wrote id]
      removeItems := fun id gone => (o.platform.removeItems id gone).recording fun _ => [.wrote id]
      likedTracks := o.platform.likedTracks.unlogged
      savedAlbums := o.platform.savedAlbums.unlogged
      userPlaylists := o.platform.userPlaylists.unlogged
      playlistTracks := fun id => (o.platform.playlistTracks id).unlogged
      recentPlays := fun limit => (o.platform.recentPlays limit).unlogged
      audioFeatures := fun ids => (o.platform.audioFeatures ids).unlogged }
  now u := o.now u.1

/-- A monitor that leaves the log. -/
def Monitor.recording (m : Monitor σ) : Monitor (σ × List Exchange) :=
  m.within Prod.fst fun t u => (t, u.2)

/-- What a pass exchanges with the platform, in order. -/
def exchanges (s : Settings) (o : Outside σ) (m : Monitor σ) (options : ApplyOptions) (n : Int)
    (force : Bool) (w : World σ) : List Exchange :=
  ((bringOutward s o.recording m.recording options n force).runOn
    ⟨w.database, w.saved, (w.outside, [])⟩).2.outside.2

theorem Outside.mirrors_recording (o : Outside σ) :
    o.recording.platform.Mirrors Prod.fst o.platform where
  create _ _ := Action.mirrors_recording
  describe _ _ _ := Action.mirrors_recording
  read _ := mirrors_unlogged
  add _ _ := Action.mirrors_recording
  remove _ _ := Action.mirrors_recording

theorem Monitor.mirrors_recording (m : Monitor σ) : m.recording.Mirrors Prod.fst m where
  report _ := mirrors_unlogged
  check := mirrors_unlogged
  pause _ := mirrors_unlogged

/-- **A pass that keeps the log of what is exchanged ends as it would without.** -/
theorem runOn_recording {w w' : World σ} {r : Except Failure SyncOutcome}
    (ends : (bringOutward s o m options n force).runOn w = (r, w')) :
    (bringOutward s o.recording m.recording options n force).runOn
      ⟨w.database, w.saved, (w.outside, [])⟩ =
        (r, ⟨w'.database, w'.saved, (w'.outside, exchanges s o m options n force w)⟩) :=
  runOn_beside o.mirrors_recording (fun _ => rfl) m.mirrors_recording ends []

/-! ### The parts of a pass -/

/-- Inside a pass that started from `d₀`: the copy is committed, and the log is loyal to it. -/
def Copying (n : Int) (d₀ : Database) (copy : Option String) : World (σ × List Exchange) → Prop :=
  Holding (fun d => d₀.Copied n copy d ∧ d.Readable n) (d₀.Copied n copy)
    fun u => Loyal (d₀.copyOf n) u.2 copy

/-- What is left wherever a pass ends. -/
def LeavesCopy (n : Int) (d₀ : Database) (w : World (σ × List Exchange)) : Prop :=
  ∃ copy, d₀.Copied n copy w.saved ∧ Loyal (d₀.copyOf n) w.outside.2 copy

theorem Copying.leaves {w : World (σ × List Exchange)} (h : Copying n d₀ copy w) :
    LeavesCopy n d₀ w := ⟨copy, h.2.1, h.2.2⟩

/-- What exchanges nothing changes nothing. -/
theorem keeps_unexchanged {α : Type} (x : Action σ α) :
    Keeps (Copying n d₀ copy) (World.ask x.unlogged) :=
  meets_asking (keeps_unlogged (L := fun log => Loyal (d₀.copyOf n) log copy))

/-- What is written to the copy is loyal, whether it succeeds or fails. -/
theorem keeps_written {α : Type} (x : Action σ α) (copy : String) :
    Keeps (Copying n d₀ (some copy))
      (World.ask (x.recording fun _ => [Exchange.wrote (some copy)])) := by
  have hwrite : ∀ log, Loyal (d₀.copyOf n) log (some copy) →
      Loyal (d₀.copyOf n) (log ++ [.wrote (some copy)]) (some copy) :=
    fun log h => h.append (.wrote (.nil _))
  exact meets_asking (meets_recording _ (L := fun log => Loyal (d₀.copyOf n) log (some copy))
    (Q := fun _ log => Loyal (d₀.copyOf n) log (some copy))
    (E := fun _ log => Loyal (d₀.copyOf n) log (some copy)) (fun log _ => hwrite log)
    fun log _ => hwrite log)

theorem leaves_noteMembership (o : Outside (σ × List Exchange)) {p : SmartPlaylist}
    (hp : p.id = some n) (l : Library) :
    Meets (Copying n d₀ copy) (noteMembership o p l) (fun _ => Copying n d₀ copy)
      fun _ => LeavesCopy n d₀ := by
  unfold noteMembership
  refine Meets.bind (meets_now o) fun now => ?_
  refine Meets.bind (Q := fun _ => Copying n d₀ copy)
    (meets_ofExcept (fun _ _ _ h => h) fun _ _ _ => Copying.leaves) fun members => ?_
  rw [hp]
  refine Meets.bind ((meets_query (Database.yields_saveMembership _ _)).imp_error ?_) fun _ =>
    meets_pure fun _ h => h
  exact fun _ _ h => ⟨copy, h⟩

/-- **A copy that was created is committed before anything else is asked of the platform**, and noting
it cannot fail. -/
theorem leaves_openCopy (s : Settings) (o : Outside σ) {p : SmartPlaylist}
    (hremote : p.remoteId = .ofText? copy) :
    Meets (Copying n d₀ copy) (openCopy s o.recording n p)
      (fun opened => Copying n d₀ (some opened.2.1)) fun _ => LeavesCopy n d₀ := by
  unfold openCopy
  rw [hremote]
  cases copy with
  | none =>
    refine Meets.bind (Q := fun c => Holding (fun d => d₀.Copied n none d ∧ d.Readable n)
      (d₀.Copied n none) fun u => Loyal (d₀.copyOf n) u.2 (some c)) ?_ fun c => ?_
    · have hcreate := meets_recording Exchange.ofCreate
        (x := o.platform.createPlaylist (p.outwardName s) (p.outwardDescription s))
        (L := fun log => Loyal (d₀.copyOf n) log none)
        (Q := fun c log => Loyal (d₀.copyOf n) log (some c))
        (E := fun _ log => Loyal (d₀.copyOf n) log none)
        (fun log c h => h.append (.created (.nil (some c))))
        fun log f h => (List.append_nil log).symm ▸ h
      exact (meets_ask hcreate).imp_error fun _ w h => ⟨none, h⟩
    refine Meets.bind (meets_query_of_certain (Database.meets_setRemoteId_of_readable c))
      fun p' => ?_
    refine Meets.bind meets_commit fun _ => meets_pure ?_
    exact fun w h => ⟨h.1, h.2.1.1, h.2.2⟩
  | some c =>
    refine Meets.bind ((keeps_written _ c).meets.imp_error fun _ _ => Copying.leaves) fun _ => ?_
    refine Meets.bind ((keeps_unexchanged _).meets.imp_error fun _ _ => Copying.leaves) fun held => ?_
    exact meets_pure fun _ h => h

theorem leaves_apply (o : Outside σ) (m : Monitor σ) (options : ApplyOptions) (c : String)
    (desired held : List String) :
    Meets (Copying n d₀ (some c))
      ((computeDiff (some c) desired held).apply o.recording.platform.writer
        (World.watch m.recording) options)
      (fun _ => Copying n d₀ (some c)) fun _ => LeavesCopy n d₀ := by
  refine (meets_apply (w := o.recording.platform.writer) (d := computeDiff (some c) desired held)
    (P := fun _ _ => Copying n d₀ (some c)) (fun _ _ p => keeps_unexchanged _)
    (fun _ _ => keeps_unexchanged _) (fun _ _ x => keeps_unexchanged _)
    (fun _ chunk => keeps_written (o.platform.removeItems (some c) chunk) c)
    (fun _ _ chunk => keeps_written (o.platform.addItems (some c) chunk) c) options).imp
    (fun _ h => h) (fun _ _ h => h.1) ?_
  rintro _ w ⟨-, -, h⟩
  exact h.leaves

theorem leaves_writeCopy (s : Settings) (o : Outside σ) (m : Monitor σ) (options : ApplyOptions)
    {p : SmartPlaylist} (hremote : p.remoteId = .ofText? copy) (members : Membership) :
    Meets (Copying n d₀ copy) (writeCopy s o.recording (World.watch m.recording) options n p members)
      (fun _ w => ∃ copy, Copying n d₀ copy w) fun _ => LeavesCopy n d₀ := by
  unfold writeCopy
  refine Meets.bind (leaves_openCopy s o hremote) ?_
  rintro ⟨p', c, created, held⟩
  refine Meets.bind (leaves_apply o m options c _ held) fun applied => ?_
  refine meets_ite (fun _ => ?_) fun _ => meets_ite (fun _ => ?_) fun _ => ?_
  · exact Meets.bind (Q := fun _ _ => False) (meets_throw fun _ => Copying.leaves)
      fun _ _ h => h.elim
  · exact meets_pure fun w h => ⟨some c, h⟩
  refine Meets.bind (meets_now _) fun now => ?_
  refine Meets.bind ((meets_query (Database.yields_markSynced _ _ _)).imp_error ?_) fun _ => ?_
  · exact fun _ _ h => ⟨some c, h⟩
  refine Meets.bind meets_commit fun _ => meets_pure ?_
  exact fun w h => ⟨some c, h.1, h.2.1.1, h.2.2⟩

/-! ### A pass -/

/-- **A pass is loyal**, wherever it ends: the copy is committed that the log tells of. -/
theorem leaves_bringOutward (s : Settings) (o : Outside σ) (m : Monitor σ) (options : ApplyOptions)
    (n : Int) (force : Bool) (d₀ : Database) :
    Meets (Holding (· = d₀) (· = d₀) fun u => u.2 = [])
      (bringOutward s o.recording m.recording options n force)
      (fun _ => LeavesCopy n d₀) fun _ => LeavesCopy n d₀ := by
  refine meets_unit ?_
  -- the playlist is read
  refine Meets.bind (Q := fun p w => p.id = some n ∧ p.remoteId = .ofText? (d₀.copyOf n) ∧
    Copying n d₀ (d₀.copyOf n) w) ?_ fun p => meets_of_and fun hp => meets_of_and fun hremote => ?_
  · have hread : Yields (· = d₀) (Database.playlist n) fun p d => p.id = some n ∧
        p.remoteId = .ofText? (d₀.copyOf n) ∧ d₀.Copied n (d₀.copyOf n) d ∧ d.Readable n := by
      refine yields_iff.2 ?_
      rintro _ p d rfl h
      obtain ⟨-, rfl⟩ := Database.runOn_playlist_eq_ok.1 h
      obtain ⟨hid, hremote, -⟩ := Database.columns_of_playlist h
      exact ⟨hid, hremote, Database.copied_self n _, p, h⟩
    have hlog : ∀ u : σ × List Exchange, u.2 = [] → Loyal (d₀.copyOf n) u.2 (d₀.copyOf n) := by
      intro u hu
      rw [hu]
      exact .nil _
    refine (meets_query hread).imp (fun _ h => h) ?_ ?_
    · rintro p w ⟨⟨hid, hremote, hd⟩, hsaved, hu⟩
      exact ⟨hid, hremote, hd, hsaved ▸ Database.copied_self n d₀, hlog _ hu⟩
    · rintro _ w ⟨hsaved, hu⟩
      exact ⟨_, hsaved ▸ Database.copied_self n d₀, hlog _ hu⟩
  have hquiet : ∀ {α : Type} (y : Action σ α), Meets (Copying n d₀ (d₀.copyOf n))
      (World.ask y.unlogged) (fun _ => Copying n d₀ (d₀.copyOf n))
      fun _ w => LeavesCopy n d₀ w.rollback :=
    fun y => (keeps_unexchanged y).meets.imp_error fun _ _ => Copying.leaves
  refine Meets.bind (hquiet _) fun _ => ?_
  refine Meets.bind ((meets_query (Database.keeps_library _ false).yields).imp_error ?_)
    fun l => ?_
  · exact fun _ _ h => ⟨_, h⟩
  refine Meets.bind (leaves_noteMembership _ hp l) fun members => ?_
  refine Meets.bind meets_commit fun _ => ?_
  refine Meets.bind ((hquiet _).imp ?_ (fun _ _ h => h) fun _ _ h => h) fun _ => ?_
  · exact fun w h => ⟨h.1, h.2.1.1, h.2.2⟩
  refine meets_ite (fun _ => meets_pure fun _ h => ⟨_, h.1.1, h.2.2⟩) fun _ => ?_
  refine Meets.bind (hquiet _) fun _ => ?_
  refine (leaves_writeCopy s o m options hremote members).imp (fun _ h => h) ?_ fun _ _ h => h
  rintro _ w ⟨copy, h⟩
  exact ⟨copy, h.1.1, h.2.2⟩

/-- **A pass is loyal**, whether it succeeds or fails. It changes the playlists alone, and adds no copy
but that of its own playlist. -/
theorem copied_bringOutward {w w' : World σ} {r : Except Failure SyncOutcome}
    (committed : w.database = w.saved)
    (ends : (bringOutward s o m options n force).runOn w = (r, w')) :
    w'.database = w'.saved ∧ w.saved.Copied n (w'.saved.copyOf n) w'.saved ∧
      Loyal (w.saved.copyOf n) (exchanges s o m options n force w) (w'.saved.copyOf n) := by
  have hleaves : LeavesCopy n w.saved
      ⟨w'.database, w'.saved, (w'.outside, exchanges s o m options n force w)⟩ := by
    have hpass := leaves_bringOutward s o m options n force w.saved
    have hstart : Holding (· = w.saved) (· = w.saved) (fun u : σ × List Exchange => u.2 = [])
        ⟨w.database, w.saved, (w.outside, [])⟩ := ⟨committed, rfl, rfl⟩
    have hrun := runOn_recording ends
    cases r with
    | ok out => exact hpass.of_ok hstart hrun
    | error f => exact hpass.of_error hstart hrun
  obtain ⟨copy, hcopied, hloyal⟩ := hleaves
  obtain rfl := hcopied.copyOf_eq
  exact ⟨committed_unit ends, hcopied, hloyal⟩

/-! ### Histories -/

/-- A history of passes over one playlist, with what they exchanged with the platform. Passes may be
forced or not, and may succeed, fail or be cancelled; they come in any order with changes of what lies
outside, and with changes of the database that leave the copy of the playlist. -/
inductive CopyRun (n : Int) : World σ → List Exchange → World σ → Prop
  /-- Nothing has happened yet. -/
  | start {w : World σ} (committed : w.database = w.saved) : CopyRun n w [] w
  /-- What lies outside changes. -/
  | outside {w₀ w : World σ} {log : List Exchange} (run : CopyRun n w₀ log w) (outside : σ) :
      CopyRun n w₀ log { w with outside }
  /-- The database changes. -/
  | edit {w₀ w : World σ} {log : List Exchange} (run : CopyRun n w₀ log w) (d : Database)
      (copy : d.copyOf n = w.saved.copyOf n) :
      CopyRun n w₀ log { w with database := d, saved := d }
  /-- A pass. -/
  | pass {w₀ w : World σ} {log : List Exchange} (run : CopyRun n w₀ log w) (s : Settings)
      (o : Outside σ) (m : Monitor σ) (options : ApplyOptions) (force : Bool)
      {r : Except Failure SyncOutcome} {w' : World σ}
      (ends : (bringOutward s o m options n force).runOn w = (r, w')) :
      CopyRun n w₀ (log ++ exchanges s o m options n force w) w'

namespace CopyRun

variable {w₀ w : World σ} {log : List Exchange}

theorem committed (run : CopyRun n w₀ log w) : w.database = w.saved := by
  induction run with
  | start committed => exact committed
  | outside _ _ ih => exact ih
  | edit => rfl
  | pass _ _ _ _ _ _ ends => exact committed_unit ends

/-- A history is loyal. -/
theorem loyal (run : CopyRun n w₀ log w) : Loyal (w₀.saved.copyOf n) log (w.saved.copyOf n) := by
  induction run with
  | start => exact .nil _
  | outside _ _ ih => exact ih
  | edit _ d copy ih => exact copy.symm ▸ ih
  | pass run s o m options force ends ih =>
    exact ih.append (copied_bringOutward run.committed ends).2.2

end CopyRun

/-! ### A copy that is written to at last -/

namespace Interrupted

/-- Cancellation is asked for while the next copy is created. -/
def cancelledAtOnce (w : World Surroundings) : World Surroundings :=
  { w with outside := { w.outside with cancelAt := some "create_playlist" } }

/-- Nobody asks for cancellation any more, but the next addition fails. -/
def refused (w : World Surroundings) : World Surroundings :=
  { w with outside := { w.outside with
      cancelAt := none, cancelled := false
      failing := [("add_items", .fatal { message := "revoked" })] } }

/-- What a pass that writes one track at a time exchanges with the platform. -/
def exchanged (w : World Surroundings) : List Exchange :=
  exchanges {} Surroundings.outside Surroundings.monitor ⟨1, {}⟩ 1 false w

/-- The pass was cancelled after the copy was created. -/
def untouched : World Surroundings := (brought (cancelledAtOnce world)).2

/-- The next pass was refused its first addition. -/
def denied : World Surroundings := (brought (refused untouched)).2

theorem copyRun_brought {w₀ w : World Surroundings} {log : List Exchange} (run : CopyRun 1 w₀ log w) :
    CopyRun 1 w₀ (log ++ exchanged w) (brought w).2 :=
  .pass run {} Surroundings.outside Surroundings.monitor ⟨1, {}⟩ false rfl

/-- What the three passes exchange with the platform. -/
def atLast : List Exchange := .created "created-1" :: List.replicate 4 (.wrote (some "created-1"))

theorem copyRun_denied : CopyRun 1 world atLast (brought denied).2 := by
  have hcancelled : CopyRun 1 world [] (cancelledAtOnce world) := .outside (.start rfl) _
  have hrefused : CopyRun 1 world ([] ++ exchanged (cancelledAtOnce world)) (refused untouched) :=
    .outside (copyRun_brought hcancelled) _
  have hlog : [] ++ exchanged (cancelledAtOnce world) ++ exchanged (refused untouched) ++
      exchanged denied = atLast := by decide +kernel
  rw [← hlog]
  exact copyRun_brought (copyRun_brought hrefused)

end Interrupted

/-! ### One copy -/

namespace CopyRun

open Interrupted

variable {w₀ w : World σ} {log : List Exchange}

/-- **There is one copy**, for good. From a playlist without a copy, a history exchanges nothing, or it
creates one copy before anything else; that copy is then the one that is stored, in that state and after
every history that follows, and all that is written, there and later, is written to it. -/
theorem one_copy (run : CopyRun n w₀ log w) (missing : w₀.saved.copyOf n = none) :
    (log = [] ∧ w.saved.copyOf n = none) ∨ ∃ copy writes, log = .created copy :: writes ∧
      (∀ e ∈ writes, e = .wrote (some copy)) ∧ w.saved.copyOf n = some copy ∧
      ∀ log' w', CopyRun n w log' w' →
        w'.saved.copyOf n = some copy ∧ ∀ e ∈ log', e = .wrote (some copy) := by
  have hloyal := run.loyal
  rw [missing] at hloyal
  rcases hloyal.of_none with h | ⟨copy, writes, hlog, hwrites, hcopy⟩
  · exact .inl h
  · exact .inr ⟨copy, writes, hlog, hwrites, hcopy, fun log' w' run' => run'.loyal.of_some hcopy⟩

/-- One pass is cancelled right after it created the copy, the next one is refused its write, and the
third one writes to the copy. -/
theorem one_copy_denied : ∃ log w, CopyRun 1 world log w ∧ world.saved.copyOf 1 = none ∧
    (brought (cancelledAtOnce world)).1.isOk = false ∧ (brought (refused untouched)).1.isOk = false ∧
    log = .created "created-1" :: List.replicate 4 (.wrote (some "created-1")) ∧
    ((log = [] ∧ w.saved.copyOf 1 = none) ∨ ∃ copy writes, log = .created copy :: writes ∧
      (∀ e ∈ writes, e = .wrote (some copy)) ∧ w.saved.copyOf 1 = some copy ∧
      ∀ log' w', CopyRun 1 w log' w' →
        w'.saved.copyOf 1 = some copy ∧ ∀ e ∈ log', e = .wrote (some copy)) :=
  ⟨_, _, copyRun_denied, rfl, by decide +kernel, by decide +kernel, rfl, copyRun_denied.one_copy rfl⟩

end CopyRun

end Mixtape
