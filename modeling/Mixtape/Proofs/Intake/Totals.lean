import Mixtape.Proofs.Intake.Run

/-!
# Totals of albums and artists

The totals of albums and artists are brought up to date once, at the end of a pass, for those that
the pass has touched. Until then a pass does nothing to them but add new ones that count no track.
What a pass that fails has already committed is therefore missing from the totals, and stays missing
until a later pass touches the same album or artist.

## Main definitions

* `Database.OnlyAdds d d'` — the totals of `d` stand in `d'`, and new ones count no track.
* `Database.Off missed d` — the totals are off by what was missed.

## Main results

* `IntakeRun.off` — **after every history the totals are off by what was missed.**
* `IntakeRun.count_eq_iff` — after a pass that ends, the total of an album or artist is right exactly
  when the pass touched it or nothing was missed.
* `IntakeRun.count_ne_cutShort` — a total that is wrong after a pass that ends.
-/

namespace Mixtape

open Action

namespace Database

variable {d d' : Database} {missed : Missed} {k : OwnerKind}

/-- The totals of a database stand in another one, and new totals count no track. -/
structure OnlyAdds (d d' : Database) : Prop where
  /-- No totals are lost. -/
  keeps : ∀ k : OwnerKind, ∀ t ∈ k.totals d, t ∈ k.totals d'
  /-- Totals are as they were, or new. -/
  adds : ∀ k : OwnerKind, ∀ t ∈ k.totals d',
    t ∈ k.totals d ∨ (t.trackCount = 0 ∧ ∀ u ∈ k.totals d, u.id ≠ t.id)

theorem totals_congr (halbums : d'.albums = d.albums) (hartists : d'.artists = d.artists)
    (k : OwnerKind) : k.totals d' = k.totals d := by
  cases k with
  | album => exact halbums
  | artist => exact hartists

theorem OnlyAdds.congr {d₀ : Database} (h : OnlyAdds d₀ d) (halbums : d'.albums = d.albums)
    (hartists : d'.artists = d.artists) : OnlyAdds d₀ d' where
  keeps k t ht := totals_congr halbums hartists k ▸ h.keeps k t ht
  adds k t ht := h.adds k t (totals_congr halbums hartists k ▸ ht)

theorem OnlyAdds.refl (d : Database) : OnlyAdds d d := ⟨fun _ _ h => h, fun _ _ h => .inl h⟩

/-- Taking in tracks adds totals for the albums and artists that are told of them. -/
theorem exists_addTotals {now : Timestamp} {ts : List RemoteTrack} {r : List String × List String}
    (h : (takeIn now ts).runOn d = (.ok r, d')) (k : OwnerKind) :
    ∃ named, k.totals d' = addTotals named (k.totals d) ∧
      ∀ e ∈ named, ∃ t ∈ ts, k.toldOf t = some e.1 := by
  have htold : ∀ {j : Json} {id : String}, j.isTruthy = true → j.plain = id →
      Intake.ownerId j = some id := by
    rintro j _ hj rfl
    exact if_pos hj
  obtain ⟨⟨albums, halbums, hal⟩, artists, hartists, har⟩ := totals_takeIn h
  cases k with
  | album =>
    refine ⟨albums, halbums, fun e he => ?_⟩
    obtain ⟨t, ht, hgiven, hid⟩ := hal e he
    exact ⟨t, ht, htold hgiven hid⟩
  | artist =>
    refine ⟨artists, hartists, fun e he => ?_⟩
    obtain ⟨t, ht, hgiven, hid⟩ := har e he
    exact ⟨t, ht, htold hgiven hid⟩

/-- Totals for what has none leave those that there are. -/
theorem OnlyAdds.of_addTotals {d₀ : Database} (h : OnlyAdds d₀ d)
    (hd : ∀ k : OwnerKind, ∃ named, k.totals d' = addTotals named (k.totals d)) :
    OnlyAdds d₀ d' where
  keeps k t ht := by
    obtain ⟨named, hnamed⟩ := hd k
    rw [hnamed]
    exact List.mem_append_left _ (h.keeps k t ht)
  adds k t ht := by
    obtain ⟨named, hnamed⟩ := hd k
    rw [hnamed] at ht
    rcases List.mem_append.1 ht with ht | ht
    · exact h.adds k t ht
    · obtain ⟨e, he, rfl⟩ := List.mem_map.1 ht
      have hunknown := (List.mem_filter.1 he).2
      refine .inr ⟨rfl, fun u hu hid => ?_⟩
      -- the new totals have an id that none of those before them has
      have : (k.totals d).any (·.id == e.1) = true :=
        List.any_eq_true.2 ⟨u, h.keeps k u hu, by simpa using hid⟩
      rw [this] at hunknown
      cases hunknown

/-- The changes of a pass do nothing to totals but add new ones. -/
theorem stable_onlyAdds (d₀ : Database) : Intake.Stable (fun _ => True) fun d _ => OnlyAdds d₀ d where
  add {d d' t now ts r} s _ _ h htake := by
    have hadds : OnlyAdds d₀ d' := h.of_addTotals fun k => by
      obtain ⟨named, hnamed, -⟩ := exists_addTotals htake k
      exact ⟨named, hnamed⟩
    exact hadds.congr rfl rfl
  remove _ _ h := h.congr rfl rfl
  snapshot _ h := h.congr rfl rfl
  features _ h := h.congr rfl rfl

/-- The totals are off by what was missed; for what has no totals everything was missed. -/
structure Off (missed : Missed) (d : Database) : Prop where
  /-- Totals that there are. -/
  known : ∀ k : OwnerKind, ∀ t ∈ k.totals d,
    (t.trackCount : Int) + missed k t.id = d.countOf k t.id
  /-- Albums and artists without totals. -/
  unknown : ∀ (k : OwnerKind) (id : String), (∀ t ∈ k.totals d, t.id ≠ id) →
    missed k id = d.countOf k id

theorem totals_recomputed (d : Database) (k : OwnerKind) (touched : Touched) :
    k.totals (d.recomputed touched.albums touched.artists) =
      (k.totals d).map fun t => if (k.touched touched).contains t.id then
        d.totalsOver (k.idOf · == some t.id) t else t := by
  cases k <;> rfl

/-- A pass that fails leaves the totals off by what it has committed. -/
theorem Off.of_onlyAdds (h : Off missed d) (hadds : OnlyAdds d d') (touched : Touched) :
    Off (missedAfter missed false touched d d') d' where
  known k t ht := by
    rw [missedAfter, if_neg (by simp)]
    rcases hadds.adds k t ht with ht | ⟨hzero, hnew⟩
    · have := h.known k t ht
      omega
    · have := h.unknown k t.id hnew
      omega
  unknown k id hid := by
    rw [missedAfter, if_neg (by simp)]
    have := h.unknown k id fun t ht => hid t (hadds.keeps k t ht)
    omega

/-- A pass that ends leaves off only the totals that it did not touch. -/
theorem Off.of_recomputed (h : Off missed d) (hadds : OnlyAdds d d') (touched : Touched) :
    Off (missedAfter missed true touched d
      (d'.recomputed touched.albums touched.artists))
      (d'.recomputed touched.albums touched.artists) where
  known k t ht := by
    have hcount : (d'.recomputed touched.albums touched.artists).countOf k t.id =
      d'.countOf k t.id := rfl
    have hmem := ht
    rw [totals_recomputed] at ht
    obtain ⟨u, hu, rfl⟩ := List.mem_map.1 ht
    by_cases htouched : u.id ∈ k.touched touched
    · rw [if_pos (by simpa using htouched)] at hmem hcount ⊢
      rw [missedAfter, if_pos ⟨rfl, htouched, _, hmem, rfl⟩, hcount]
      exact Int.add_zero _
    · rw [if_neg (by simpa using htouched)] at hmem hcount ⊢
      rw [missedAfter, if_neg fun h => htouched h.2.1, hcount]
      rcases hadds.adds k u hu with hu | ⟨hzero, hnew⟩
      · have := h.known k u hu
        omega
      · have := h.unknown k u.id hnew
        omega
  unknown k id hid := by
    have hcount : (d'.recomputed touched.albums touched.artists).countOf k id =
      d'.countOf k id := rfl
    have hnone : ¬∃ t ∈ k.totals (d'.recomputed touched.albums touched.artists), t.id = id :=
      fun ⟨t, ht, hid'⟩ => hid t ht hid'
    rw [missedAfter, if_neg fun h => hnone h.2.2, hcount]
    have := h.unknown k id fun t ht hid' => hnone ?_
    · omega
    · -- the totals of an id stay totals of that id
      refine ⟨_, totals_recomputed d' k touched ▸ List.mem_map_of_mem (hadds.keeps k t ht), ?_⟩
      split
      · exact hid'
      · exact hid'

/-- A total after a pass that ends is right exactly when it was touched or nothing was missed. -/
theorem Off.total_eq_iff {touched : Touched} (h : Off (missedAfter missed true touched d d') d')
    {t : Totals} (ht : t ∈ k.totals d') :
    t.trackCount = d'.countOf k t.id ↔
      t.id ∈ k.touched touched ∨
        missed k t.id + ((d'.countOf k t.id : Int) - d.countOf k t.id) = 0 := by
  have hoff := h.known k t ht
  by_cases htouched : t.id ∈ k.touched touched
  · rw [missedAfter, if_pos ⟨rfl, htouched, t, ht, rfl⟩] at hoff
    constructor
    · exact fun _ => .inl htouched
    · intro _
      omega
  · rw [missedAfter, if_neg fun h => htouched h.2.1] at hoff
    constructor
    · intro h
      exact .inr (by omega)
    · rintro (h | h)
      · exact absurd h htouched
      · omega

end Database

namespace IntakeRun

variable {σ : Type} {w : World σ} {missed : Missed}

/-- **After every history the totals are off by what was missed.** -/
theorem off (run : IntakeRun w missed) : Database.Off missed w.saved := by
  induction run with
  | @start w committed tracks sources albums artists =>
    have htotals : ∀ k : OwnerKind, k.totals w.saved = [] := by
      rintro (_ | _)
      · exact albums
      · exact artists
    refine ⟨fun k t ht => ?_, fun k id _ => ?_⟩
    · rw [htotals] at ht
      cases ht
    · simp [Database.countOf, tracks]
  | outside run outside ih => exact ih
  | @edit w missed run d tracks sources albums artists ih =>
    have htotals := Database.totals_congr albums artists
    have hcount : ∀ k id, d.countOf k id = w.saved.countOf k id := by
      intro k id
      unfold Database.countOf Database.isHeld
      rw [tracks, sources]
    refine ⟨fun k t ht => ?_, fun k id hid => ?_⟩
    · exact (ih.known k t (htotals k ▸ ht)).trans (by rw [hcount])
    · exact (ih.unknown k id (htotals k ▸ hid)).trans (by rw [hcount])
  | @pass w missed run s o m pace options r w' ends ih =>
    have hstages := keeps_iff.1 ((Database.stable_onlyAdds w.saved).keeps_stages o m pace
      o.platform.tellsOnly_true s options) { world := w } ⟨run.committed ▸ .refl _, {}, .refl _⟩
    unfold touchedBy
    rw [runOn_takeInLibrary] at ends
    rcases hrun : (Intake.stages s o m pace options).runOn { world := w } with ⟨f | result, p⟩
    · rw [hrun] at ends hstages
      cases ends
      obtain ⟨-, t, hsaved⟩ := hstages
      exact ih.of_onlyAdds hsaved _
    · rw [hrun] at ends hstages
      cases ends
      exact ih.of_recomputed hstages.1 _

/-- **After a pass that ends, the total of an album or artist is right exactly when** the pass has
touched it, or what was missed before is made up for by what came and went in the pass. -/
theorem count_eq_iff (run : IntakeRun w missed) {s : Settings} {o : Outside σ} {m : Monitor σ}
    {pace : IntakePace} {options : IntakeOptions} {result : SyncResult} {w' : World σ}
    (ends : (takeInLibrary s o m pace options).runOn w = (.ok result, w')) (k : OwnerKind)
    {t : Totals} (ht : t ∈ k.totals w'.database) :
    t.trackCount = w'.database.countOf k t.id ↔
      t.id ∈ k.touched (touchedBy s o m pace options w) ∨
        missed k t.id + ((w'.database.countOf k t.id : Int) - w.database.countOf k t.id) = 0 := by
  have hnext := IntakeRun.pass run s o m pace options ends
  rw [hnext.committed] at ht ⊢
  rw [run.committed]
  exact hnext.off.total_eq_iff ht

/-! ### A pass that fails after it has committed -/

/-- A track of an album. -/
def single : RemoteTrack where
  externalId := "t"
  title := .text "Title"
  artist := .text "Artist"
  artistId := .text "artist"
  albumId := .text "album"

/-- An account with one liked track. -/
def liking : World Surroundings := Surroundings.beside { liked := [single] }

/-- The liked track was committed, then the pass failed. -/
def cutShort : World Surroundings :=
  (Surroundings.takenIn false (Surroundings.revoked "get_saved_albums" liking)).2

/-- What is seen of a pass: the albums, each with its total and the number of its tracks. -/
def seenAlbums : Except Failure SyncResult × World Surroundings → Option (List (Totals × Nat))
  | (.ok _, w) => some (w.database.albums.map fun t => (t, w.database.countOf .album t.id))
  | (.error _, _) => none

/-- The total of the album is right after a pass that has touched it. -/
theorem count_eq_liking : ∃ missed result w' t, IntakeRun liking missed ∧
    Surroundings.takenIn false liking = (.ok result, w') ∧
    t ∈ OwnerKind.album.totals w'.database ∧
    (t.trackCount = w'.database.countOf .album t.id ↔
      t.id ∈ OwnerKind.album.touched (touchedBy {} Surroundings.outside Surroundings.monitor
        ({} : Settings).intakePace { forceRefresh := false, features := false } liking) ∨
      missed .album t.id + ((w'.database.countOf .album t.id : Int) -
        liking.database.countOf .album t.id) = 0) := by
  obtain ⟨missed, run⟩ := Surroundings.run_beside { liked := [single] }
  have hseen : (seenAlbums (Surroundings.takenIn false liking)).map (·.map fun e =>
      (e.1.id, e.1.trackCount, e.2)) = some [("album", 1, 1)] := by decide +kernel
  rcases hpass : Surroundings.takenIn false liking with ⟨f | result, w'⟩
  · rw [hpass] at hseen
    cases hseen
  · rw [hpass] at hseen
    obtain ⟨t, ht⟩ : ∃ t, t ∈ w'.database.albums := by
      rcases halbums : w'.database.albums with _ | ⟨t, rest⟩
      · rw [seenAlbums, halbums] at hseen
        cases hseen
      · exact ⟨t, List.mem_cons_self⟩
    exact ⟨missed, result, w', t, run, rfl, ht, run.count_eq_iff hpass .album ht⟩

/-- The total of the album is wrong after a pass that ends: the pass before it has committed the
track and failed, and this one finds nothing to change. -/
theorem count_ne_cutShort : ∃ missed result w' t, IntakeRun cutShort missed ∧
    Surroundings.takenIn false cutShort = (.ok result, w') ∧
    t ∈ OwnerKind.album.totals w'.database ∧
    t.trackCount ≠ w'.database.countOf .album t.id := by
  obtain ⟨missed, run⟩ := Surroundings.run_takenIn
    (Surroundings.run_revoked (Surroundings.run_beside { liked := [single] }) "get_saved_albums")
    false
  have hseen : (seenAlbums (Surroundings.takenIn false cutShort)).map (·.map fun e =>
      (e.1.id, e.1.trackCount, e.2)) = some [("album", 0, 1)] := by decide +kernel
  rcases hpass : Surroundings.takenIn false cutShort with ⟨f | result, w'⟩
  · rw [hpass] at hseen
    cases hseen
  · rw [hpass] at hseen
    rcases halbums : w'.database.albums with _ | ⟨t, rest⟩
    · rw [seenAlbums, halbums] at hseen
      cases hseen
    · have ht : t ∈ OwnerKind.album.totals w'.database := by
        change t ∈ w'.database.albums
        rw [halbums]
        exact List.mem_cons_self
      refine ⟨missed, result, w', t, run, rfl, ht, ?_⟩
      simp only [seenAlbums, halbums, List.map_cons, Option.map_some, Option.some.injEq,
        List.cons.injEq, Prod.mk.injEq] at hseen
      rw [hseen.1.2.1, hseen.1.2.2]
      decide

end IntakeRun

end Mixtape
