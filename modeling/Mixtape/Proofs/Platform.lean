import Mixtape.Platform.Account
import Mixtape.Proofs.Action

/-!
# What a platform promises

The platform is told by its calls alone. What it promises of the playlists that can be written
concerns their items: a write takes full effect or none, a read tells the items, and a playlist that
was just created is empty. What it promises of the collections that are taken in is that they stay
the same for a while. The account in memory keeps these promises.

## Main definitions

* `Platform.Honest p items` — what `p` promises of the items it holds.
* `Platform.TellsOnly p T` — all tracks that `p` tells of have `T`.
* `Platform.Shows p v I` — while `I` holds of what lies outside, `p` tells of the collections `v`.
* `Monitor.Leaves m I`, `Monitor.Quiet m items` — what a monitor does changes nothing that matters.

## Main results

* `Surroundings.honest_platform`, `Surroundings.shows_platform`, `Surroundings.leaves_monitor` —
  **the account in memory.**
-/

namespace Mixtape

open Action

variable {σ : Type}

/-- What a platform promises of the items it holds: a write takes full effect, or fails and takes
none. -/
structure Platform.Honest (p : Platform σ) (items : σ → String → List String) : Prop where
  /-- A playlist that was just created is empty. -/
  create : ∀ name description, Yields (fun _ => True) (p.createPlaylist name description)
    fun copy s => items s copy = []
  /-- A name and a description are no items. -/
  describe : ∀ id name description copy ids,
    Keeps (fun s => items s copy = ids) (p.updateDetails id name description)
  /-- What is read are the items. -/
  read : ∀ copy ids, Meets (fun s => items s copy = ids) (p.itemIds copy)
    (fun held s => held = ids ∧ items s copy = ids) fun _ s => items s copy = ids
  /-- Items are added at the end. -/
  add : ∀ copy ids new, Meets (fun s => items s copy = ids) (p.addItems (some copy) new)
    (fun _ s => items s copy = ids ++ new) fun _ s => items s copy = ids
  /-- Every occurrence of an item is removed. -/
  remove : ∀ copy ids gone, Meets (fun s => items s copy = ids) (p.removeItems (some copy) gone)
    (fun _ s => items s copy = ids.filter (!gone.contains ·)) fun _ s => items s copy = ids

/-- All tracks that a platform tells of have a property. -/
structure Platform.TellsOnly (p : Platform σ) (T : RemoteTrack → Prop) : Prop where
  /-- The liked tracks. -/
  liked : Yields (fun _ => True) p.likedTracks fun ts _ => ∀ t ∈ ts, T t
  /-- The tracks of saved albums. -/
  albums : Yields (fun _ => True) p.savedAlbums fun as _ => ∀ a ∈ as, ∀ t ∈ a.tracks, T t
  /-- The tracks on playlists. -/
  tracks : ∀ id, Yields (fun _ => True) (p.playlistTracks id) fun ts _ => ∀ t ∈ ts, T t

theorem Platform.tellsOnly_true (p : Platform σ) : p.TellsOnly fun _ => True where
  liked := yields_iff.2 fun _ _ _ _ _ _ _ => trivial
  albums := yields_iff.2 fun _ _ _ _ _ _ _ _ _ => trivial
  tracks _ := yields_iff.2 fun _ _ _ _ _ _ _ => trivial

/-- What a monitor does keeps a property of what lies outside. -/
structure Monitor.Leaves (m : Monitor σ) (I : σ → Prop) : Prop where
  /-- Progress is noted. -/
  report : ∀ p, Keeps I (m.report p)
  /-- It is looked for cancellation. -/
  check : Keeps I m.check
  /-- A pause is made. -/
  pause : ∀ x, Keeps I (m.pause x)

theorem Monitor.leaves_true (m : Monitor σ) : m.Leaves fun _ => True where
  report _ := keeps_iff.2 fun _ _ => trivial
  check := keeps_iff.2 fun _ _ => trivial
  pause _ := keeps_iff.2 fun _ _ => trivial

/-- What a monitor does changes no item. -/
def Monitor.Quiet (m : Monitor σ) (items : σ → String → List String) : Prop :=
  ∀ copy ids, m.Leaves fun s => items s copy = ids

/-- What changes the items of no playlist changes none. -/
theorem keeps_items {items : σ → String → List String} {x : Action σ Unit}
    (h : ∀ copy ids, Keeps (fun s => items s copy = ids) x) (all : String → List String) :
    Keeps (fun s => items s = all) x := by
  rw [keeps_iff]
  rintro s rfl
  funext copy
  exact keeps_iff.1 (h copy (items s copy)) s rfl

/-- The collections a platform tells of. -/
structure View where
  /-- The liked tracks. -/
  liked : List RemoteTrack
  /-- The saved albums. -/
  albums : List RemoteAlbum
  /-- The user's playlists. -/
  playlists : List RemotePlaylist
  /-- The tracks on a playlist. -/
  tracksOf : String → List RemoteTrack

/-- While what lies outside has a property, a platform tells of the same collections. -/
structure Platform.Shows (p : Platform σ) (v : View) (I : σ → Prop) : Prop where
  /-- The liked tracks. -/
  liked : Yields I p.likedTracks fun ts s => ts = v.liked ∧ I s
  /-- The saved albums. -/
  albums : Yields I p.savedAlbums fun as s => as = v.albums ∧ I s
  /-- The user's playlists. -/
  playlists : Yields I p.userPlaylists fun ps s => ps = v.playlists ∧ I s
  /-- The tracks on a playlist. -/
  tracks : ∀ id, Yields I (p.playlistTracks id) fun ts s => ts = v.tracksOf id ∧ I s

namespace Surroundings

/-- The ids on a playlist of the account; one the account does not have holds none. -/
def itemsOn (s : Surroundings) (id : String) : List String := (s.account.items.find? id).getD []

variable {copy : String} {ids : List String}

/-- A property of the account is kept by whatever is noted of a call. -/
theorem keeps_note {I : Account → Prop} (method : String) (arguments : List Json) :
    Keeps (fun s => I s.account) (note method arguments) := by
  unfold note
  refine meets_get_bind ?_
  intro s hs
  refine Meets.bind (Q := fun _ t => t.account = s.account) (meets_set fun _ _ => rfl) fun _ => ?_
  split
  · refine meets_throw fun t ht => ?_
    rwa [ht]
  · refine meets_pure fun t ht => ?_
    rwa [ht]

/-- A call does to the account what its work does, or fails and does nothing. -/
theorem meets_call {α : Type} {P : Account → Prop} {Q : α → Account → Prop}
    {E : Failure → Account → Prop} {x : Action Account α} (method : String)
    (arguments : List Json) (h : Meets P x Q E) (hfail : ∀ f a, P a → E f a) :
    Meets (fun s => P s.account) (call method arguments x) (fun r s => Q r s.account)
      fun f s => E f s.account := by
  unfold call
  refine Meets.bind ((keeps_note method arguments).meets.imp_error
    fun f s => hfail f s.account) fun _ => ?_
  refine meets_within fun s hs => h.imp ?_ (fun _ _ => id) fun _ _ => id
  rintro _ rfl
  exact hs

theorem meets_changeItems (f : List String → List String) :
    Meets (fun a => (a.items.find? copy).getD [] = ids) (Account.changeItems (some copy) f)
      (fun _ a => (a.items.find? copy).getD [] = f ids)
      fun _ a => (a.items.find? copy).getD [] = ids := by
  unfold Account.changeItems Account.itemsOf
  refine Meets.bind (Q := fun held a => held = ids) ?_ fun held => ?_
  · refine meets_get_bind fun a ha => ?_
    cases h : a.items.find? copy with
    | none =>
      refine meets_throw ?_
      rintro _ rfl
      exact ha
    | some items =>
      rw [h] at ha
      exact meets_pure fun _ _ => ha
  · refine meets_modify ?_
    rintro a rfl
    change ((a.items.put copy (f held)).find? copy).getD [] = f held
    rw [Registry.find?_put_self]
    rfl

/-- A write changes the items of a playlist, or fails and changes nothing. -/
theorem meets_write (method : String) (new : List String) (f : List String → List String) :
    Meets (fun s => s.itemsOn copy = ids) (write method (some copy) new f)
      (fun _ s => s.itemsOn copy = f ids) fun _ s => s.itemsOn copy = ids := by
  unfold write
  refine Meets.bind (keeps_note (I := fun a => (a.items.find? copy).getD [] = ids) method _)
    fun _ => ?_
  refine meets_get_bind fun s hs => ?_
  refine Meets.bind (Q := fun _ t => t.itemsOn copy = ids) (meets_set fun _ _ => hs) fun _ => ?_
  split
  · exact meets_throw fun _ => id
  · refine meets_within fun t ht => (meets_changeItems f).imp ?_ (fun _ _ => id) fun _ _ => id
    rintro _ rfl
    exact ht

/-- **The account in memory keeps what a platform promises.** -/
theorem honest_platform : platform.Honest itemsOn where
  create name description := by
    refine meets_call (P := fun _ => True) (E := fun _ _ => True)
      (Q := fun copy a => (a.items.find? copy).getD [] = []) _ _ ?_ fun _ _ _ => trivial
    unfold Account.create
    refine meets_get_bind fun a _ => ?_
    refine Meets.bind (Q := fun _ a' =>
      (a'.items.find? (Account.createdId (a.created + 1))).getD [] = []) ?_ fun _ => ?_
    · refine meets_set fun _ _ => ?_
      rw [Registry.find?_put_self]
      rfl
    · exact meets_pure fun _ h => h
  describe number name description copy ids :=
    meets_call (P := fun a => (a.items.find? copy).getD [] = ids)
      (Q := fun _ a => (a.items.find? copy).getD [] = ids)
      (E := fun _ a => (a.items.find? copy).getD [] = ids) _ _ (meets_modify fun _ h => h)
      fun _ _ h => h
  read copy ids := by
    refine meets_call (P := fun a => (a.items.find? copy).getD [] = ids)
      (Q := fun held a => held = ids ∧ (a.items.find? copy).getD [] = ids)
      (E := fun _ a => (a.items.find? copy).getD [] = ids) _ _ ?_ fun _ _ h => h
    unfold Account.itemsOf
    refine meets_get_bind fun a ha => ?_
    cases h : a.items.find? copy with
    | none =>
      refine meets_throw ?_
      rintro _ rfl
      exact ha
    | some items =>
      refine meets_pure ?_
      rintro _ rfl
      exact ⟨by rw [← ha, h]; rfl, ha⟩
  add copy ids new := meets_write _ _ _
  remove copy ids gone := meets_write _ _ _

/-- **What the monitor of the account notes leaves the account.** -/
theorem leaves_monitor (I : Account → Prop) : monitor.Leaves fun s => I s.account where
  report p := keeps_modify fun _ h => h
  check := by
    change Keeps _ check
    unfold check
    refine meets_get_bind fun s hs => ?_
    refine meets_when (J := (· = s)) (meets_throw ?_) (fun _ h => h) fun _ => ?_
    · rintro _ rfl
      exact hs
    · rcases s.checks with _ | _ | n
      · exact meets_pure fun t ht => ht ▸ hs
      · exact meets_throw fun t ht => ht ▸ hs
      · exact meets_set fun _ _ => hs
  pause x := keeps_modify fun _ h => h

theorem quiet_monitor : monitor.Quiet itemsOn :=
  fun copy ids => leaves_monitor fun a => (a.items.find? copy).getD [] = ids

/-- What an account tells of. -/
def viewOf (a : Account) : View :=
  ⟨a.liked, a.albums, a.userPlaylists, fun id => (a.playlistTracks.find? id).getD []⟩

/-- **The account in memory tells of its collections.** -/
theorem shows_platform (a : Account) : platform.Shows (viewOf a) fun s => s.account = a := by
  have hread : ∀ {α : Type} (method : String) (arguments : List Json) (f : Account → α),
      Yields (fun s : Surroundings => s.account = a)
        (call method arguments (get >>= fun a => pure (f a)))
        fun r s => r = f a ∧ s.account = a := by
    intro α method arguments f
    refine meets_call (P := fun b => b = a) (Q := fun r b => r = f a ∧ b = a)
      (E := fun _ _ => True) _ _ ?_ fun _ _ _ => trivial
    refine meets_get_bind ?_
    rintro _ rfl
    exact meets_pure fun b hb => ⟨rfl, hb⟩
  exact ⟨hread _ _ _, hread _ _ _, hread _ _ _, fun id => hread _ _ _⟩

end Surroundings

end Mixtape
