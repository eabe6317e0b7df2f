import Mixtape.Proofs.Outward.Pass
import Mixtape.Proofs.Sync.Mirrors

/-!
# A pass that keeps a note of its failed writes

Whether a write of a pass has failed cannot be read off the database, and a platform need not tell. So a
note is kept along: it is made at the start of a pass, and lost when a call fails that writes to the
platform. The pass itself does not see the note, and ends as it would without.

## Main definitions

* `Outside.noting`, `Monitor.noting` — the platform and the monitor of a pass that keeps the note.
* `Platform.Mirrors g q p` — the calls of a pass answer alike, if only `g` is seen of what lies outside.
* `WritesSucceed` — the note still holds at the end of a pass.

## Main results

* `mirrors_bringOutward` — **a pass sees of the platform what its calls answer, and no more.**
* `runOn_beside`, `exists_noting` — a pass that keeps something beside, such as the note, ends as it would
  without.
-/

namespace Mixtape

open Action

variable {σ τ : Type} {s : Settings} {o : Outside σ} {m : Monitor σ} {options : ApplyOptions}
  {n : Int} {force : Bool}

/-! ### The note -/

/-- The platform and the clock, with a note that holds as long as no write has failed. -/
def Outside.noting (o : Outside σ) : Outside (σ × Bool) where
  platform :=
    { createPlaylist := fun name description => (o.platform.createPlaylist name description).noting
      updateDetails := fun id name description =>
        (o.platform.updateDetails id name description).noting
      itemIds := fun id => (o.platform.itemIds id).beside
      addItems := fun id new => (o.platform.addItems id new).noting
      removeItems := fun id gone => (o.platform.removeItems id gone).noting
      likedTracks := o.platform.likedTracks.beside
      savedAlbums := o.platform.savedAlbums.beside
      userPlaylists := o.platform.userPlaylists.beside
      playlistTracks := fun id => (o.platform.playlistTracks id).beside
      recentPlays := fun limit => (o.platform.recentPlays limit).beside
      audioFeatures := fun ids => (o.platform.audioFeatures ids).beside }
  now u := o.now u.1

/-- A monitor that leaves the note. -/
def Monitor.noting (m : Monitor σ) : Monitor (σ × Bool) := m.within Prod.fst fun t u => (t, u.2)

/-- No call of a pass that writes to the platform fails: the note still holds when it ends. -/
def WritesSucceed (s : Settings) (o : Outside σ) (m : Monitor σ) (options : ApplyOptions) (n : Int)
    (force : Bool) (w : World σ) : Prop :=
  ((bringOutward s o.noting m.noting options n force).runOn
    ⟨w.database, w.saved, (w.outside, true)⟩).2.outside.2 = true

/-! ### Passes on states of which only a part is seen -/

/-- The calls of a pass outward answer alike, and change what is seen alike. -/
structure Platform.Mirrors (g : τ → σ) (q : Platform τ) (p : Platform σ) : Prop where
  /-- A copy is created. -/
  create : ∀ name description,
    Action.Mirrors g (q.createPlaylist name description) (p.createPlaylist name description)
  /-- A copy is described. -/
  describe : ∀ id name description,
    Action.Mirrors g (q.updateDetails id name description) (p.updateDetails id name description)
  /-- A copy is read. -/
  read : ∀ id, Action.Mirrors g (q.itemIds id) (p.itemIds id)
  /-- Items are added. -/
  add : ∀ id new, Action.Mirrors g (q.addItems id new) (p.addItems id new)
  /-- Items are removed. -/
  remove : ∀ id gone, Action.Mirrors g (q.removeItems id gone) (p.removeItems id gone)

theorem Outside.mirrors_noting (o : Outside σ) : o.noting.platform.Mirrors Prod.fst o.platform where
  create _ _ := Action.mirrors_noting
  describe _ _ _ := Action.mirrors_noting
  read _ := mirrors_beside
  add _ _ := Action.mirrors_noting
  remove _ _ := Action.mirrors_noting

theorem Monitor.mirrors_noting (m : Monitor σ) : m.noting.Mirrors Prod.fst m where
  report _ := mirrors_beside
  check := mirrors_beside
  pause _ := mirrors_beside

section Mirroring

variable {g : τ → σ} {k : Monitor τ} {q : Outside τ}

theorem mirrors_watch (h : k.Mirrors g m) :
    (World.watch k).Mirrors (World.seen g) (World.watch m) where
  report p := mirrors_ask (h.report p)
  check := mirrors_ask h.check
  pause seconds := mirrors_ask (h.pause seconds)

theorem mirrors_apply (hp : q.platform.Mirrors g o.platform) (h : k.Mirrors g m) (d : Diff)
    (options : ApplyOptions) :
    Action.Mirrors (World.seen g) (d.apply q.platform.writer (World.watch k) options)
      (d.apply o.platform.writer (World.watch m) options) :=
  mirrors_diff_apply (mirrors_watch h) (fun _ => mirrors_bounded (mirrors_ask (hp.remove _ _)))
    (fun _ => mirrors_bounded (mirrors_ask (hp.add _ _))) rfl options.chunkSize

theorem mirrors_noteMembership (hnow : ∀ t, o.now (g t) = q.now t) (p : SmartPlaylist) (l : Library) :
    Action.Mirrors (World.seen g) (noteMembership q p l) (noteMembership o p l) := by
  unfold noteMembership
  refine (mirrors_now hnow).bind fun now => (mirrors_ofExcept _).bind fun members => ?_
  cases p.id with
  | none => exact mirrors_pure members
  | some id => exact (mirrors_query _).bind fun _ => mirrors_pure members

theorem mirrors_openCopy (hp : q.platform.Mirrors g o.platform) (s : Settings) (n : Int)
    (p : SmartPlaylist) : Action.Mirrors (World.seen g) (openCopy s q n p) (openCopy s o n p) := by
  unfold openCopy
  dsimp only
  split
  · refine (mirrors_ask (hp.create _ _)).bind fun copy => (mirrors_query _).bind fun p => ?_
    exact mirrors_commit.bind fun _ => mirrors_pure _
  · refine (mirrors_ask (hp.describe _ _ _)).bind fun _ => ?_
    exact (mirrors_ask (hp.read _)).bind fun held => mirrors_pure _

theorem mirrors_writeCopy (hp : q.platform.Mirrors g o.platform) (hnow : ∀ t, o.now (g t) = q.now t)
    (h : k.Mirrors g m) (s : Settings) (options : ApplyOptions) (n : Int) (p : SmartPlaylist)
    (members : Membership) :
    Action.Mirrors (World.seen g) (writeCopy s q (World.watch k) options n p members)
      (writeCopy s o (World.watch m) options n p members) := by
  unfold writeCopy
  refine (mirrors_openCopy hp s n p).bind ?_
  rintro ⟨p, copy, created, held⟩
  refine (mirrors_apply hp h _ options).bind fun applied => ?_
  refine mirrors_ite (mirrors_throw_bind _) (mirrors_ite (mirrors_pure _) ?_)
  refine (mirrors_now hnow).bind fun now => (mirrors_query _).bind fun p => ?_
  exact mirrors_commit.bind fun _ => mirrors_pure _

/-- **A pass sees of the platform what its calls answer, and no more**: on platforms that answer alike it
ends alike, with the same database. -/
theorem mirrors_bringOutward (hp : q.platform.Mirrors g o.platform)
    (hnow : ∀ t, o.now (g t) = q.now t) (h : k.Mirrors g m) (s : Settings) (options : ApplyOptions)
    (n : Int) (force : Bool) :
    Action.Mirrors (World.seen g) (bringOutward s q k options n force)
      (bringOutward s o m options n force) := by
  have hwatch := mirrors_watch h
  unfold bringOutward
  refine mirrors_unit ?_
  refine (mirrors_query _).bind fun p => (hwatch.report _).bind fun _ => ?_
  refine (mirrors_query _).bind fun l => (mirrors_noteMembership hnow p l).bind fun members => ?_
  refine mirrors_commit.bind fun _ => (hwatch.report _).bind fun _ => ?_
  refine mirrors_ite (mirrors_pure _) ?_
  exact hwatch.check.bind fun _ => mirrors_writeCopy hp hnow h s options n p members

end Mirroring

/-- A pass that keeps something beside ends as it would without. -/
theorem runOn_beside {w w' : World σ} {r : Except Failure SyncOutcome} {β : Type}
    {q : Outside (σ × β)} {k : Monitor (σ × β)} (hp : q.platform.Mirrors Prod.fst o.platform)
    (hnow : ∀ t, o.now t.1 = q.now t) (h : k.Mirrors Prod.fst m)
    (ends : (bringOutward s o m options n force).runOn w = (r, w')) (kept : β) :
    (bringOutward s q k options n force).runOn ⟨w.database, w.saved, (w.outside, kept)⟩ =
      (r, ⟨w'.database, w'.saved, (w'.outside, ((bringOutward s q k options n force).runOn
        ⟨w.database, w.saved, (w.outside, kept)⟩).2.outside.2)⟩) := by
  have hmirrors := mirrors_bringOutward hp hnow h s options n force
    ⟨w.database, w.saved, (w.outside, kept)⟩
  rcases hrun : (bringOutward s q k options n force).runOn
    ⟨w.database, w.saved, (w.outside, kept)⟩ with ⟨r', v⟩
  rw [hrun] at hmirrors
  obtain ⟨rfl, rfl⟩ := Prod.mk.inj (ends.symm.trans hmirrors)
  rfl

/-- A pass that keeps the note ends as it would without. -/
theorem exists_noting {w w' : World σ} {r : Except Failure SyncOutcome}
    (ends : (bringOutward s o m options n force).runOn w = (r, w')) (note : Bool) :
    ∃ note', (bringOutward s o.noting m.noting options n force).runOn
      ⟨w.database, w.saved, (w.outside, note)⟩ = (r, ⟨w'.database, w'.saved, (w'.outside, note')⟩) :=
  ⟨_, runOn_beside o.mirrors_noting (fun _ => rfl) m.mirrors_noting ends note⟩

end Mixtape
