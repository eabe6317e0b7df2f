import Mixtape.Authoring
import Mixtape.Outward.Basic
import Mixtape.Platform.Account
import Mixtape.Proofs.Criteria.TagReference
import Mixtape.Proofs.Database.Tags
import Mixtape.Proofs.World

/-!
# Renamed tags

Criteria are stored with the numbers of tags, and the numbers are what the tracks of a library are read
with. So the names of tags are nowhere looked at when a playlist is evaluated: of two databases that
differ in nothing but their tags, every step of the evaluation makes the same, and leaves them differing
in nothing but their tags. A tag that gets another name is such a difference.

## Main definitions

* `Database.withTags tags d`, `World.withTags tags saved w` — the state with other tags.

## Main results

* `membership_withTags` — a membership does not depend on the tags of the library.
* `mirrors_materialize_withTags` — the evaluation of a stored playlist does not look at tags.
* `materialize_renamed` — **a tag that gets another name changes no membership.**
-/

namespace Mixtape

open Action

variable {σ α β : Type} {tags : List Tag}

/-- The database with other tags. -/
def Database.withTags (tags : List Tag) (d : Database) : Database := { d with tags }

/-- The world with other tags in its database, and some database committed. -/
def World.withTags (tags : List Tag) (saved : Database) (w : World σ) : World σ :=
  { w with database := w.database.withTags tags, saved }

/-- The library with other tags. -/
def Library.withTags (tags : List Tag) (l : Library) : Library := { l with tags }

/-- A membership does not depend on the tags of the library. -/
theorem membership_withTags (c : Criteria) (l : Library) (now : Timestamp) :
    membership c (l.withTags tags) now = membership c l now := rfl

/-! ### Work on the database -/

namespace Database

theorem mirrors_playlistRow (id : Int) :
    Action.Mirrors (withTags tags) (playlistRow id) (playlistRow id) := by
  refine (mirrors_ofExcept _).bind fun _ => mirrors_get_bind fun d => ?_
  rw [show (d.withTags tags).playlists = d.playlists from rfl]
  cases d.playlists.find? (·.id == id) with
  | none => exact mirrors_throw _
  | some r => exact mirrors_pure r

theorem mirrors_playlist (id : Int) :
    Action.Mirrors (withTags tags) (Database.playlist id) (Database.playlist id) :=
  (mirrors_playlistRow id).bind fun r => mirrors_ofExcept r.playlist

theorem mirrors_changePlaylist (id : Int) (f : PlaylistRow → Except Failure PlaylistRow) :
    Action.Mirrors (withTags tags) (changePlaylist id f) (changePlaylist id f) :=
  (mirrors_playlistRow id).bind fun r => (mirrors_ofExcept (f r)).bind fun changed =>
    Action.Mirrors.bind (fun _ => rfl) fun _ => mirrors_ofExcept changed.playlist

/-- The library is the same but for its tags. -/
theorem runOn_library_withTags (tags : List Tag) (withDetached : Bool) (d : Database) :
    (library withDetached).runOn (d.withTags tags) =
      (((library withDetached).runOn d).1.map (Library.withTags (d.withTags tags).tagsByName),
        ((library withDetached).runOn d).2.withTags tags) := by
  unfold library
  rw [runOn_bind, runOn_bind, runOn_get, runOn_get]
  change ((Action.ofExcept ((d.tracks.filter fun r => withDetached || d.isHeld r.id).mapM d.readTrack) >>=
    fun ts => pure (⟨ts, (d.withTags tags).tagsByName⟩ : Library)).runOn _) = _
  rw [runOn_bind]
  dsimp only
  rw [runOn_bind, runOn_ofExcept, runOn_ofExcept]
  cases (d.tracks.filter fun r => withDetached || d.isHeld r.id).mapM d.readTrack <;> rfl

end Database

/-! ### Work on the world -/

variable {saved : Database}

theorem mirrors_query_withTags {x : Action Database α}
    (h : Action.Mirrors (Database.withTags tags) x x) :
    Action.Mirrors (World.withTags tags saved) (World.query x : Action (World σ) α) (World.query x) := by
  intro w
  simp only [World.query, World.withTags, runOn_within, h w.database]

/-- What is done with a library does not look at its tags. -/
theorem mirrors_library_bind {k : Library → Action (World σ) α} {withDetached : Bool}
    (h : ∀ l other, Action.Mirrors (World.withTags tags saved) (k l) (k (l.withTags other))) :
    Action.Mirrors (World.withTags tags saved) (World.query (Database.library withDetached) >>= k)
      (World.query (Database.library withDetached) >>= k) := by
  intro w
  have hlibrary := Database.runOn_library_withTags tags withDetached w.database
  rw [runOn_bind, runOn_bind, World.query, runOn_within, runOn_within]
  rw [show (w.withTags tags saved).database = w.database.withTags tags from rfl, hlibrary]
  rcases (Database.library withDetached).runOn w.database with ⟨f | l, d⟩
  · rfl
  · exact h l _ { w with database := d }

theorem mirrors_now_withTags (o : Outside σ) :
    Action.Mirrors (World.withTags tags saved) (World.now o) (World.now o) := fun _ => rfl

theorem mirrors_noteMembership_withTags (o : Outside σ) (p : SmartPlaylist) (l : Library) :
    Action.Mirrors (World.withTags tags saved) (noteMembership o p l) (noteMembership o p l) := by
  refine (mirrors_now_withTags o).bind fun now => (mirrors_ofExcept _).bind fun m => ?_
  cases p.id with
  | none => exact mirrors_pure m
  | some id =>
    exact (mirrors_query_withTags (Database.mirrors_changePlaylist id _)).bind fun _ => mirrors_pure m

/-- **The evaluation of a stored playlist does not look at tags.** -/
theorem mirrors_materialize_withTags (o : Outside σ) (id : Int) (persist : Bool) :
    Action.Mirrors (World.withTags tags saved) (materialize o id persist) (materialize o id persist) := by
  refine (mirrors_query_withTags (Database.mirrors_playlist id)).bind fun p =>
    mirrors_library_bind fun l other => ?_
  -- the membership in a library with other tags is the same term
  refine mirrors_ite (x := noteMembership o p l >>= fun m => pure (p, m)) ?_ ?_
  · exact (mirrors_noteMembership_withTags o p l).bind fun m => mirrors_pure (p, m)
  · exact (mirrors_now_withTags o).bind fun now =>
      (mirrors_ofExcept (membership p.criteria l now)).bind fun m => mirrors_pure (p, m)

theorem runOn_renameTag_eq_ok {d d' : Database} {now : Timestamp} {number : Int} {name : String}
    {tag : Tag} (h : (Database.renameTag now number name).runOn d = (.ok tag, d')) :
    d' = d.withTags d'.tags := by
  obtain ⟨-, -, -, rfl⟩ := Database.meets_renameTag.of_ok rfl h
  rfl

/-- **A tag that gets another name changes no membership.** What playlists store is as it was, criteria
and all, and whichever of them is evaluated then, the same comes out as before: the playlist with its
tracks, their ids and the fingerprint, or the same refusal. What is noted of it is the same too. -/
theorem materialize_renamed (o : Outside σ) {w w' : World σ} {now : Timestamp} {number : Int}
    {name : String} {tag : Tag}
    (h : (World.unit (World.query (Database.renameTag now number name))).runOn w = (.ok tag, w')) :
    w'.database.playlists = w.database.playlists ∧ ∀ id persist,
      ((World.unit (materialize o id persist)).runOn w').1 =
        ((World.unit (materialize o id persist)).runOn w).1 ∧
      ∀ p m v, (World.unit (materialize o id persist)).runOn w = (.ok (p, m), v) →
        ((World.unit (materialize o id persist)).runOn w').2.database =
          v.database.withTags w'.database.tags := by
  obtain ⟨d, hd, rfl⟩ := runOn_unit_query_eq_ok.1 h
  have hworld : ({ w with database := d, saved := d } : World σ) = w.withTags d.tags d := by
    rw [World.withTags, ← runOn_renameTag_eq_ok hd]
  rw [hworld]
  refine ⟨rfl, fun id persist => ?_⟩
  have hrun : (materialize o id persist).runOn (w.withTags d.tags d) = _ :=
    mirrors_materialize_withTags o id persist w
  refine ⟨?_, fun p m v hv => ?_⟩
  · rw [fst_runOn_unit, fst_runOn_unit, hrun]
  · obtain ⟨u, hu, rfl⟩ := runOn_unit_eq_ok.1 hv
    rw [hu] at hrun
    rw [runOn_unit_eq_ok.2 ⟨_, hrun, rfl⟩]
    rfl

namespace Evening

/-- A library of two liked tracks, one of them with a tag. -/
def library : Database where
  tracks := [
    { id := 1, externalId := "a", title := "A", artist := "X", addedAt := .utc 5 },
    { id := 2, externalId := "b", title := "B", artist := "Y", addedAt := .utc 6 }]
  tags := [{ id := 1, name := "Calm" }]
  tagLinks := [(2, 1)]
  sources := [⟨1, .likedSongs, "", none⟩, ⟨2, .likedSongs, "", none⟩]

/-- A playlist of the tracks with the tag was created, by the name of the tag. -/
def world : World Surroundings :=
  ((createSmartPlaylist Surroundings.outside "Evening" (Library.tagDocument "calm") .null).runOn
    ⟨library, library, { clock := .utc 11 }⟩).2

/-- The world after the tag was given another name. -/
def renamed : World Surroundings :=
  ((World.unit (World.query (Database.renameTag (.utc 12) 1 "Quiet"))).runOn world).2

/-- The playlist holds the same track before and after. -/
theorem materialize_renamed_evening :
    (∃ tag, (World.unit (World.query (Database.renameTag (.utc 12) 1 "Quiet"))).runOn world =
      (.ok tag, renamed)) ∧
    renamed.database.tags.map Tag.name = ["Quiet"] ∧
    renamed.database.playlists = world.database.playlists ∧
    (((World.unit (materialize Surroundings.outside 1 false)).runOn renamed).1.map
      fun r => r.2.externalIds) = .ok ["b"] := by
  have hrenamed : ((World.unit (World.query (Database.renameTag (.utc 12) 1 "Quiet"))).runOn world).1 =
      .ok { id := 1, name := "Quiet" } := by
    decide +kernel
  have hrun : (World.unit (World.query (Database.renameTag (.utc 12) 1 "Quiet"))).runOn world =
      (.ok { id := 1, name := "Quiet" }, renamed) := by
    rw [renamed, ← hrenamed]
  obtain ⟨hplaylists, hsame⟩ := materialize_renamed Surroundings.outside hrun
  have hbefore : (((World.unit (materialize Surroundings.outside 1 false)).runOn world).1.map
      fun r => r.2.externalIds) = .ok ["b"] := by
    decide +kernel
  refine ⟨⟨_, hrun⟩, by decide +kernel, hplaylists, ?_⟩
  rw [(hsame 1 false).1, hbefore]

end Evening

end Mixtape
