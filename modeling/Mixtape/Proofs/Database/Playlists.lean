import Mixtape.Database.Playlists
import Mixtape.Database.Tracks
import Mixtape.Proofs.Action

/-!
# What is stored of a playlist's outward copy

Two columns of a playlist's row concern its outward copy: the id of the copy, and the mark, which is
the fingerprint of what the copy was last known to hold. Every change of a playlist sets the columns
it names and leaves the others.

## Main definitions

* `Database.copyOf d n`, `Database.syncedMark d n` — the two columns.
* `Database.Noted n criteria copy mark d` — a row with these criteria and these two columns.
* `Database.Renoted n d d'` — `d'` differs from `d` in what is noted of one playlist.
* `Database.Noting n x` — `x` changes what is noted of one playlist.

## Main results

* `meets_playlist` — what a playlist that can be read says of its row.
* `meets_changePlaylist` — **what a change of a playlist does.**
* `meets_saveMembership`, `meets_setRemoteId`, `meets_markSynced` — its three uses in a sync.
* `Noting.renoted`, `Renoted.library`, `Renoted.playlist` — what is noted leaves the library, and the
  playlist but for its notes.
* `Noting.exists_runOn` — **a playlist that can be read can be noted of.**
-/

namespace Mixtape
namespace Database

open Action

/-- The row of the playlist with a number. -/
def rowOf (d : Database) (n : Int) : Option PlaylistRow := d.playlists.find? (·.id == n)

/-- The id of the outward copy of the playlist with a number. -/
def copyOf (d : Database) (n : Int) : Option String := (d.rowOf n).bind (·.remoteId)

/-- The mark of a playlist: the fingerprint of what its outward copy was last known to hold. -/
def syncedMark (d : Database) (n : Int) : Option String := (d.rowOf n).bind (·.syncedFingerprint)

/-- The playlist with a number is stored, with these criteria, this copy and this mark. -/
def Noted (n : Int) (criteria : Json) (copy mark : Option String) (d : Database) : Prop :=
  ∃ r, d.rowOf n = some r ∧ r.criteria = criteria ∧ r.remoteId = copy ∧ r.syncedFingerprint = mark

/-- What is noted of the last sync of a playlist: the mark, and when it was set. -/
def syncedOf (d : Database) (n : Int) : Option (Option String × Option Timestamp) :=
  (d.rowOf n).map fun r => (r.syncedFingerprint, r.lastSyncedAt)

/-- What is noted of the membership of a playlist: its fingerprint and its size. -/
def notedOf (d : Database) (n : Int) : Option (Option String × Json) :=
  (d.rowOf n).map fun r => (r.fingerprint, r.trackCount)

variable {n : Int} {criteria : Json} {copy mark : Option String} {d : Database}

theorem Noted.copyOf_eq (h : Noted n criteria copy mark d) : d.copyOf n = copy := by
  obtain ⟨r, hr, -, hcopy, -⟩ := h
  rw [copyOf, hr]
  exact hcopy

theorem Noted.syncedMark_eq (h : Noted n criteria copy mark d) : d.syncedMark n = mark := by
  obtain ⟨r, hr, -, -, hmark⟩ := h
  rw [syncedMark, hr]
  exact hmark

/-! ### Rows -/

theorem eq_of_named {p q : SmartPlaylist} (h : p.named = .ok q) : p = q := by
  unfold SmartPlaylist.named at h
  by_cases hname : p.name = ""
  · rw [if_pos hname] at h
    cases h
  · rw [if_neg hname] at h
    exact Except.ok.inj h

/-- What a row that can be read says of its playlist. -/
theorem playlist_ok {r : PlaylistRow} {p : SmartPlaylist} (h : r.playlist = .ok p) :
    Criteria.ofDocument r.criteria = .ok p.criteria ∧ p.remoteId = .ofText? r.remoteId ∧
      p.syncedFingerprint = .ofText? r.syncedFingerprint ∧ p.id = some r.id := by
  obtain ⟨c, hc, h⟩ := exists_of_bind_eq_ok h
  have := eq_of_named h
  subst this
  exact ⟨hc, rfl, rfl, rfl⟩

theorem id_of_rowOf {r : PlaylistRow} (h : d.rowOf n = some r) : r.id = n := by
  simpa using List.find?_some h

/-! ### Runs that succeed -/

variable {d' d₁ : Database} {r : PlaylistRow} {p p' : SmartPlaylist}

/-- The database with another row for the playlist with a number. -/
def withRow (d : Database) (n : Int) (c : PlaylistRow) : Database :=
  { d with playlists := changeWhere (·.id == n) (fun _ => c) d.playlists }

theorem rowOf_withRow {c : PlaylistRow} (hr : d.rowOf n = some r) (hc : c.id = n) :
    (d.withRow n c).rowOf n = some c := by
  have hrn : r.id = n := by simpa using List.find?_some hr
  have hfind : (changeWhere (·.id == n) (fun _ => c) d.playlists).find? (·.id == n) =
      (d.playlists.find? (·.id == n)).map fun q => if q.id == n then c else q :=
    find?_changeWhere PlaylistRow.id hc n
  unfold rowOf at hr
  rw [hr] at hfind
  unfold rowOf withRow
  rw [hfind]
  simp [hrn]

theorem runOn_playlistRow_eq_ok : (playlistRow n).runOn d = (.ok r, d') ↔
    storable n = .ok () ∧ d.rowOf n = some r ∧ d = d' := by
  simp only [playlistRow, runOn_bind_eq_ok, runOn_ofExcept_eq_ok, runOn_get]
  constructor
  · rintro ⟨_, _, ⟨hn, rfl⟩, _, _, h, hrow⟩
    cases h
    cases hfind : d.playlists.find? (·.id == n) with
    | none =>
      rw [hfind] at hrow
      cases hrow
    | some r' =>
      rw [hfind] at hrow
      obtain ⟨rfl, rfl⟩ := runOn_pure_eq_ok.1 hrow
      exact ⟨hn, hfind, rfl⟩
  · rintro ⟨hn, hrow, rfl⟩
    refine ⟨_, _, ⟨hn, rfl⟩, _, _, rfl, ?_⟩
    rw [show d.playlists.find? (·.id == n) = some r from hrow]
    rfl

/-- **A playlist is read** from its row, if it can be. -/
theorem runOn_playlist_eq_ok : (playlist n).runOn d = (.ok p, d') ↔
    (∃ r, storable n = .ok () ∧ d.rowOf n = some r ∧ r.playlist = .ok p) ∧ d = d' := by
  simp only [playlist, runOn_bind_eq_ok, runOn_ofExcept_eq_ok, runOn_playlistRow_eq_ok]
  constructor
  · rintro ⟨r, _, ⟨hn, hrow, rfl⟩, hp, rfl⟩
    exact ⟨⟨r, hn, hrow, hp⟩, rfl⟩
  · rintro ⟨⟨r, hn, hrow, hp⟩, rfl⟩
    exact ⟨r, _, ⟨hn, hrow, rfl⟩, hp, rfl⟩

/-- **A playlist is changed** in its row, if the change can be made and the row read again. -/
theorem runOn_changePlaylist_eq_ok {f : PlaylistRow → Except Failure PlaylistRow} :
    (changePlaylist n f).runOn d = (.ok p, d') ↔ ∃ r c, storable n = .ok () ∧
      d.rowOf n = some r ∧ f r = .ok c ∧ c.playlist = .ok p ∧ d' = d.withRow n c := by
  simp only [changePlaylist, runOn_bind_eq_ok, runOn_ofExcept_eq_ok, runOn_playlistRow_eq_ok,
    runOn_modify]
  constructor
  · rintro ⟨r, _, ⟨hn, hrow, rfl⟩, c, _, ⟨hc, rfl⟩, _, _, h, hp, rfl⟩
    cases h
    exact ⟨r, c, hn, hrow, hc, hp, rfl⟩
  · rintro ⟨r, c, hn, hrow, hc, hp, rfl⟩
    exact ⟨r, _, ⟨hn, hrow, rfl⟩, c, _, ⟨hc, rfl⟩, _, _, rfl, hp, rfl⟩

/-! ### Reading -/

theorem meets_playlistRow (d : Database) (n : Int) :
    Meets (· = d) (playlistRow n) (fun r d' => d' = d ∧ d.rowOf n = some r) fun _ d' => d' = d := by
  unfold playlistRow
  refine Meets.bind (Q := fun _ d' => d' = d)
    (meets_ofExcept (fun _ _ _ => id) fun _ _ _ => id) fun _ => ?_
  refine meets_get_bind ?_
  intro s hs
  subst hs
  cases h : s.playlists.find? (·.id == n) with
  | none => exact meets_throw fun _ => id
  | some r => exact meets_pure fun _ hd => ⟨hd, h⟩

/-- Looking a playlist up changes nothing, and what is read stands in the row. -/
theorem meets_playlist (d : Database) (n : Int) :
    Meets (· = d) (playlist n)
      (fun p d' => d' = d ∧ p.id = some n ∧ ∃ criteria copy mark, Noted n criteria copy mark d ∧
        Criteria.ofDocument criteria = .ok p.criteria ∧ p.remoteId = .ofText? copy ∧
        p.syncedFingerprint = .ofText? mark)
      fun _ d' => d' = d := by
  unfold playlist
  refine Meets.bind (meets_playlistRow d n) fun r => ?_
  refine meets_ofExcept ?_ fun _ _ _ h => h.1
  rintro p hp _ ⟨rfl, hr⟩
  obtain ⟨hcriteria, hcopy, hmark, hid⟩ := playlist_ok hp
  rw [id_of_rowOf hr] at hid
  exact ⟨rfl, hid, _, _, _, ⟨r, hr, rfl, rfl, rfl⟩, hcriteria, hcopy, hmark⟩

theorem keeps_library (I : Database → Prop) (withDetached : Bool) :
    Keeps I (library withDetached) :=
  Keeps.bind keeps_get fun _ => Keeps.bind (keeps_ofExcept _) fun _ => keeps_pure _

/-! ### Changing -/

/-- **What a change of a playlist does**: the row with the number becomes the changed one, and the
playlist handed back is read from it. -/
theorem rows_of_changePlaylist {f : PlaylistRow → Except Failure PlaylistRow}
    (hf : ∀ r c, f r = .ok c → c.id = r.id) (h : (changePlaylist n f).runOn d = (.ok p, d')) :
    ∃ r c, d.rowOf n = some r ∧ f r = .ok c ∧ d'.rowOf n = some c ∧ c.playlist = .ok p := by
  obtain ⟨r, c, -, hr, hc, hp, rfl⟩ := runOn_changePlaylist_eq_ok.1 h
  exact ⟨r, c, hr, hc, rowOf_withRow hr ((hf r c hc).trans (id_of_rowOf hr)), hp⟩

theorem meets_changePlaylist (d : Database) (n : Int)
    (f : PlaylistRow → Except Failure PlaylistRow) (hf : ∀ r c, f r = .ok c → c.id = r.id) :
    Meets (· = d) (changePlaylist n f)
      (fun p d' => ∃ r c, d.rowOf n = some r ∧ f r = .ok c ∧ d'.rowOf n = some c ∧
        c.playlist = .ok p)
      fun _ _ => True := by
  refine yields_iff.2 ?_
  rintro _ p d' rfl h
  exact rows_of_changePlaylist hf h

/-- Noting a new membership changes nothing about the outward copy. -/
theorem meets_saveMembership (count fingerprint : Json) :
    Meets (Noted n criteria copy mark) (saveMembership n count fingerprint)
      (fun _ => Noted n criteria copy mark) fun _ _ => True := by
  refine meets_of_forall ?_
  rintro d ⟨r, hr, hcriteria, hcopy, hmark⟩
  refine (meets_changePlaylist d n _ ?_).imp (fun _ => id) ?_ fun _ _ => id
  · intro r c hc
    obtain ⟨_, _, hc⟩ := exists_of_bind_eq_ok hc
    obtain ⟨_, _, hc⟩ := exists_of_bind_eq_ok hc
    cases hc
    rfl
  · rintro p d' ⟨r', c, hr', hc, hd', -⟩
    obtain rfl : r = r' := Option.some.inj (hr.symm.trans hr')
    obtain ⟨_, _, hc⟩ := exists_of_bind_eq_ok hc
    obtain ⟨_, _, hc⟩ := exists_of_bind_eq_ok hc
    cases hc
    exact ⟨_, hd', hcriteria, hcopy, hmark⟩

/-- Noting an outward copy sets its id and leaves the mark. -/
theorem meets_setRemoteId (new : String) :
    Meets (Noted n criteria copy mark) (setRemoteId n (.text new))
      (fun p d => Noted n criteria (some new) mark d ∧ p.remoteId = .text new ∧
        Criteria.ofDocument criteria = .ok p.criteria)
      fun _ _ => True := by
  refine meets_of_forall ?_
  rintro d ⟨r, hr, hcriteria, hcopy, hmark⟩
  refine (meets_changePlaylist d n _ ?_).imp (fun _ => id) ?_ fun _ _ => id
  · intro r c hc
    cases hc
    rfl
  · rintro p d' ⟨r', c, hr', hc, hd', hp⟩
    obtain rfl : r = r' := Option.some.inj (hr.symm.trans hr')
    cases hc
    obtain ⟨hdocument, hremote, -, -⟩ := playlist_ok hp
    exact ⟨⟨_, hd', hcriteria, rfl, hmark⟩, hremote, hcriteria ▸ hdocument⟩

/-- Noting that a copy was brought up to date sets its id and the mark. -/
theorem meets_markSynced (new fingerprint : String) (now : Timestamp) :
    Meets (Noted n criteria copy mark) (markSynced n (.text new) (.text fingerprint) now)
      (fun p d => Noted n criteria (some new) (some fingerprint) d ∧ p.remoteId = .text new ∧
        Criteria.ofDocument criteria = .ok p.criteria)
      fun _ _ => True := by
  refine meets_of_forall ?_
  rintro d ⟨r, hr, hcriteria, hcopy, hmark⟩
  refine (meets_changePlaylist d n _ ?_).imp (fun _ => id) ?_ fun _ _ => id
  · intro r c hc
    cases hc
    rfl
  · rintro p d' ⟨r', c, hr', hc, hd', hp⟩
    obtain rfl : r = r' := Option.some.inj (hr.symm.trans hr')
    cases hc
    obtain ⟨hdocument, hremote, -, -⟩ := playlist_ok hp
    exact ⟨⟨_, hd', hcriteria, rfl, rfl⟩, hremote, hcriteria ▸ hdocument⟩

/-! ### The same again -/

/-- What is read of a playlist stands in the columns of its copy. -/
theorem columns_of_playlist (h : (playlist n).runOn d = (.ok p, d')) :
    p.id = some n ∧ p.remoteId = .ofText? (d.copyOf n) ∧
      p.syncedFingerprint = .ofText? (d.syncedMark n) := by
  obtain ⟨⟨r, -, hrow, hp⟩, -⟩ := runOn_playlist_eq_ok.1 h
  obtain ⟨-, hcopy, hmark, hid⟩ := playlist_ok hp
  rw [id_of_rowOf hrow] at hid
  rw [copyOf, syncedMark, hrow]
  exact ⟨hid, hcopy, hmark⟩

/-- Whether a row can be read depends on its name and its criteria. -/
theorem exists_playlist_eq_ok {r' : PlaylistRow} (hp : r.playlist = .ok p) (hname : r'.name = r.name)
    (hcriteria : r'.criteria = r.criteria) :
    ∃ p', r'.playlist = .ok p' ∧ p'.criteria = p.criteria := by
  obtain ⟨c, hc, h⟩ := exists_of_bind_eq_ok hp
  have hnamed : r.name ≠ "" := by
    intro hempty
    rw [SmartPlaylist.named, if_pos hempty] at h
    cases h
  cases hread : r'.playlist with
  | error f =>
    rw [PlaylistRow.playlist, hcriteria, hc] at hread
    cases (if_neg (hname ▸ hnamed)).symm.trans hread
  | ok p' =>
    refine ⟨p', rfl, Except.ok.inj ((playlist_ok hread).1.symm.trans ?_)⟩
    rw [hcriteria]
    exact (playlist_ok hp).1

/-- A database that differs from another in what is noted of one playlist. -/
structure Renoted (n : Int) (d d' : Database) : Prop where
  /-- Everything but the playlists is the same. -/
  others : ∃ rows, d' = { d with playlists := rows }
  /-- The name and the criteria of the playlist are the same. -/
  row : ∀ r, d.rowOf n = some r →
    ∃ r', d'.rowOf n = some r' ∧ r'.name = r.name ∧ r'.criteria = r.criteria

theorem Renoted.refl (n : Int) (d : Database) : Renoted n d d := ⟨⟨_, rfl⟩, fun r h => ⟨r, h, rfl, rfl⟩⟩

theorem Renoted.trans (h : Renoted n d d₁) (h' : Renoted n d₁ d') : Renoted n d d' := by
  refine ⟨?_, fun r hr => ?_⟩
  · obtain ⟨rows, rfl⟩ := h.others
    obtain ⟨rows', rfl⟩ := h'.others
    exact ⟨rows', rfl⟩
  · obtain ⟨r₁, hr₁, hname₁, hcriteria₁⟩ := h.row r hr
    obtain ⟨r', hr', hname', hcriteria'⟩ := h'.row r₁ hr₁
    exact ⟨r', hr', hname'.trans hname₁, hcriteria'.trans hcriteria₁⟩

/-- The library is the same. -/
theorem Renoted.library {l : Library} {withDetached : Bool} (h : Renoted n d d')
    (hl : (library withDetached).runOn d = (.ok l, d)) :
    (library withDetached).runOn d' = (.ok l, d') := by
  obtain ⟨rows, rfl⟩ := h.others
  simp only [Database.library, runOn_bind_eq_ok, runOn_ofExcept_eq_ok, runOn_get] at hl ⊢
  obtain ⟨_, _, heq, tracks, _, ⟨htracks, rfl⟩, hl⟩ := hl
  cases heq
  obtain ⟨rfl, -⟩ := runOn_pure_eq_ok.1 hl
  exact ⟨_, _, rfl, tracks, _, ⟨htracks, rfl⟩, rfl⟩

/-- The playlist can still be read, with the same criteria. -/
theorem Renoted.playlist (h : Renoted n d d') (hp : (playlist n).runOn d = (.ok p, d)) :
    ∃ p', (playlist n).runOn d' = (.ok p', d') ∧ p'.criteria = p.criteria := by
  obtain ⟨⟨r, hn, hrow, hread⟩, -⟩ := runOn_playlist_eq_ok.1 hp
  obtain ⟨r', hrow', hname, hcriteria⟩ := h.row r hrow
  obtain ⟨p', hread', hp'⟩ := exists_playlist_eq_ok hread hname hcriteria
  exact ⟨p', runOn_playlist_eq_ok.2 ⟨⟨r', hn, hrow', hread'⟩, rfl⟩, hp'⟩

/-- A change of what is noted of a playlist: it can be made of every row, and leaves its number, its
name and its criteria. -/
def Noting (n : Int) (x : Action Database SmartPlaylist) : Prop :=
  ∃ f, x = changePlaylist n f ∧
    ∀ r, ∃ c, f r = .ok c ∧ c.id = r.id ∧ c.name = r.name ∧ c.criteria = r.criteria

/-- A membership that was noted of one row can be noted of every row. -/
theorem noting_saveMembership {count fingerprint : Json}
    (h : (saveMembership n count fingerprint).runOn d = (.ok p, d')) :
    Noting n (saveMembership n count fingerprint) := by
  obtain ⟨_, _, -, -, hc, -⟩ := runOn_changePlaylist_eq_ok.1 h
  obtain ⟨trackCount, hcount, hc⟩ := exists_of_bind_eq_ok hc
  obtain ⟨print, hprint, -⟩ := exists_of_bind_eq_ok hc
  refine ⟨_, rfl, fun r => ⟨{ r with trackCount, fingerprint := print }, ?_, rfl, rfl, rfl⟩⟩
  rw [hcount, hprint]
  rfl

theorem noting_setRemoteId (new : String) : Noting n (setRemoteId n (.text new)) :=
  ⟨_, rfl, fun _ => ⟨_, rfl, rfl, rfl, rfl⟩⟩

theorem noting_markSynced (new fingerprint : String) (now : Timestamp) :
    Noting n (markSynced n (.text new) (.text fingerprint) now) :=
  ⟨_, rfl, fun _ => ⟨_, rfl, rfl, rfl, rfl⟩⟩

variable {x : Action Database SmartPlaylist}

theorem Noting.renoted (hx : Noting n x) (h : x.runOn d = (.ok p, d')) : Renoted n d d' := by
  obtain ⟨f, rfl, hf⟩ := hx
  obtain ⟨r, c, -, hrow, hc, -, rfl⟩ := runOn_changePlaylist_eq_ok.1 h
  obtain ⟨c', hc', hid, hname, hcriteria⟩ := hf r
  obtain rfl : c = c' := Except.ok.inj (hc.symm.trans hc')
  refine ⟨⟨_, rfl⟩, fun r' hrow' => ?_⟩
  obtain rfl : r = r' := Option.some.inj (hrow.symm.trans hrow')
  exact ⟨c, rowOf_withRow hrow (hid.trans (id_of_rowOf hrow)), hname, hcriteria⟩

/-- What is handed back is what is then stored. -/
theorem Noting.playlist (hx : Noting n x) (h : x.runOn d = (.ok p, d')) :
    (playlist n).runOn d' = (.ok p, d') := by
  obtain ⟨f, rfl, hf⟩ := hx
  obtain ⟨r, c, hn, hrow, hc, hp, rfl⟩ := runOn_changePlaylist_eq_ok.1 h
  obtain ⟨c', hc', hid, -, -⟩ := hf r
  obtain rfl : c = c' := Except.ok.inj (hc.symm.trans hc')
  exact runOn_playlist_eq_ok.2
    ⟨⟨c, hn, rowOf_withRow hrow (hid.trans (id_of_rowOf hrow)), hp⟩, rfl⟩

/-- **A playlist that can be read can be noted of.** -/
theorem Noting.exists_runOn (hx : Noting n x) (hp : (Database.playlist n).runOn d = (.ok p, d)) :
    ∃ q d', x.runOn d = (.ok q, d') := by
  obtain ⟨f, rfl, hf⟩ := hx
  obtain ⟨⟨r, hn, hrow, hread⟩, -⟩ := runOn_playlist_eq_ok.1 hp
  obtain ⟨c, hc, -, hname, hcriteria⟩ := hf r
  obtain ⟨q, hq, -⟩ := exists_playlist_eq_ok hread hname hcriteria
  exact ⟨q, _, runOn_changePlaylist_eq_ok.2 ⟨r, c, hn, hrow, hc, hq, rfl⟩⟩

/-- What is handed back when a copy was noted to be up to date. -/
theorem columns_of_markSynced {new fingerprint : String} {now : Timestamp}
    (h : (markSynced n (.text new) (.text fingerprint) now).runOn d = (.ok p, d')) :
    p.remoteId = .text new ∧ p.syncedFingerprint = .text fingerprint := by
  obtain ⟨r, c, -, -, hc, hp, -⟩ := runOn_changePlaylist_eq_ok.1 h
  cases hc
  obtain ⟨-, hcopy, hmark, -⟩ := playlist_ok hp
  exact ⟨hcopy, hmark⟩

/-! ### The columns of a membership and of a sync -/

/-- A count is kept as it is, if it can be. -/
theorem neededCount_nat {count : Nat} {kept : Json} :
    Column.neededCount (.nat count) = .ok kept ↔ (count : Int) < storableBound ∧ kept = .nat count := by
  have hlow : -storableBound ≤ (count : Int) := Int.le_trans (by decide) (Int.natCast_nonneg count)
  rw [Json.nat, Column.neededCount_int, and_iff_right hlow]

/-- A new membership is noted, and the last sync stays as it was. -/
theorem columns_of_saveMembership {count : Nat} {fingerprint : String}
    (h : (saveMembership n (.nat count) (.text fingerprint)).runOn d = (.ok p, d')) :
    d'.syncedOf n = d.syncedOf n ∧ d'.notedOf n = some (some fingerprint, .nat count) := by
  obtain ⟨r, c, -, hr, hc, -, rfl⟩ := runOn_changePlaylist_eq_ok.1 h
  have hid : r.id = n := id_of_rowOf hr
  obtain ⟨kept, hkept, hc⟩ := exists_of_bind_eq_ok hc
  obtain ⟨-, rfl⟩ := neededCount_nat.1 hkept
  cases hc
  unfold syncedOf notedOf
  rw [rowOf_withRow hr, hr]
  · exact ⟨rfl, rfl⟩
  · exact hid

/-- A copy is noted, and the membership and the last sync stay as they were. -/
theorem columns_of_setRemoteId {copy : String}
    (h : (setRemoteId n (.text copy)).runOn d = (.ok p, d')) :
    d'.syncedOf n = d.syncedOf n ∧ d'.notedOf n = d.notedOf n := by
  obtain ⟨r, c, hr, hc, hr', -⟩ := rows_of_changePlaylist (fun r c hc => by cases hc; rfl) h
  cases hc
  unfold syncedOf notedOf
  rw [hr', hr]
  exact ⟨rfl, rfl⟩

/-- A sync is noted, and the membership stays as it was. -/
theorem notes_of_markSynced {copy fingerprint : String} {now : Timestamp}
    (h : (markSynced n (.text copy) (.text fingerprint) now).runOn d = (.ok p, d')) :
    d'.syncedMark n = some fingerprint ∧ d'.notedOf n = d.notedOf n := by
  obtain ⟨r, c, hr, hc, hr', -⟩ := rows_of_changePlaylist (fun r c hc => by cases hc; rfl) h
  cases hc
  unfold syncedMark notedOf
  rw [hr', hr]
  exact ⟨rfl, rfl⟩

/-- **A membership can be noted** of a playlist that can be read, if its size is a count. -/
theorem exists_saveMembership (hp : (playlist n).runOn d = (.ok p, d)) {count : Nat}
    (hcount : (count : Int) < storableBound) (fingerprint : String) :
    ∃ q d', (saveMembership n (.nat count) (.text fingerprint)).runOn d = (.ok q, d') := by
  refine Noting.exists_runOn ⟨_, rfl, fun r => ?_⟩ hp
  refine ⟨{ r with trackCount := .nat count, fingerprint := some fingerprint }, ?_, rfl, rfl, rfl⟩
  rw [neededCount_nat.2 ⟨hcount, rfl⟩]
  rfl

end Database
end Mixtape
