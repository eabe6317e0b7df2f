import Mixtape.Proofs.Evaluation.Meaning

/-!
# When criteria can be evaluated

Two things keep criteria from being evaluated. A window of days may begin before the calendar, or
span more days than a span of time holds: a rule takes any positive number of days. And an album may
be something else than a text where it has to be read as one, which no track of the declared type
has. An album is read by a rule only if the rules before it have not decided, and by the order only
if the track is accepted.

## Main definitions

* `Logic.ReadsAlbum` — the rules come to read the album of a track.
* `Criteria.AlbumsFit` — every album that has to be read as a text can be.
* `Library.HasTextAlbums` — every album is a text or missing.

## Main results

* `evaluate_eq_ok_iff` — an evaluation that succeeds, in its parts.
* `Decide.isAnswered_iff`, `checkAlbums_eq_ok_iff` — what is looked at before the tracks are
  selected.
* `evaluate_total_iff` — **criteria can be evaluated exactly when their windows fit the calendar and
  the albums are texts where they are read.**
* `not_evaluate_total` — criteria of a document that cannot be evaluated.
-/

namespace Mixtape

open Action

variable {now : Timestamp} {c : Criteria} {l : Library} {rules : List Rule}
  {ps : List TrackPredicate}

/-! ### Albums that are read -/

/-- The rules, taken in order up to the first that decides, come to read the album of a track as a
text. With the logic of all rules one that fails decides, with the other one that holds. -/
def Logic.ReadsAlbum (g : Logic) (now : Timestamp) (rules : List Rule) (t : Track) : Prop :=
  ∃ before r after, rules = before ++ r :: after ∧ r.readsAlbum = true ∧
    ∀ q ∈ before, (q.Holds now t ↔ g = .and)

theorem Logic.not_readsAlbum_nil {g : Logic} {t : Track} : ¬g.ReadsAlbum now [] t := by
  rintro ⟨before, r, after, h, -⟩
  simp at h

theorem Logic.readsAlbum_cons {g : Logic} {r : Rule} {t : Track} :
    g.ReadsAlbum now (r :: rules) t ↔
      r.readsAlbum = true ∨ (r.Holds now t ↔ g = .and) ∧ g.ReadsAlbum now rules t := by
  constructor
  · rintro ⟨before, q, after, h, hq, hbefore⟩
    cases before with
    | nil =>
      cases h
      exact .inl hq
    | cons b before =>
      cases h
      obtain ⟨hb, hbefore⟩ := List.forall_mem_cons.1 hbefore
      exact .inr ⟨hb, before, q, after, rfl, hq, hbefore⟩
  · rintro (hr | ⟨hr, before, q, after, rfl, hq, hbefore⟩)
    · exact ⟨[], r, rules, rfl, hr, by simp⟩
    · exact ⟨r :: before, q, after, rfl, hq, List.forall_mem_cons.2 ⟨hr, hbefore⟩⟩

/-- **The rules have an answer** for a track unless they come to read an album that is no text. -/
theorem Decide.isAnswered_iff (h : Decide now rules ps) (g : Logic) (t : Track) :
    g.isAnswered t (rules.zip ps) = true ↔
      (g.ReadsAlbum now rules t → t.hasTextAlbum = true) := by
  induction h with
  | nil => exact iff_of_true rfl fun hreads => (Logic.not_readsAlbum_nil hreads).elim
  | @cons r p rules ps hp _ ih =>
    -- a predicate decides exactly when its rule does
    have hdecides : (p t == (g == .or)) = true ↔ ¬(r.Holds now t ↔ g = .and) := by
      rw [← hp t]
      cases g <;> cases p t <;> simp
    rw [List.zip_cons_cons, Logic.isAnswered, Logic.readsAlbum_cons]
    by_cases hread : r.readsAlbum = true ∧ ¬t.hasTextAlbum = true
    · -- the rule comes to read an album that is no text
      rw [if_pos (by simpa using hread)]
      exact iff_of_false Bool.false_ne_true fun h => hread.2 (h (.inl hread.1))
    · rw [if_neg (by simpa using hread), Bool.or_eq_true, hdecides, ih]
      constructor
      · rintro h (hr | ⟨hopen, hreads⟩)
        · exact not_not.1 fun htext => hread ⟨hr, htext⟩
        · exact h.elim (absurd hopen) (· hreads)
      · intro h
        by_cases hopen : r.Holds now t ↔ g = .and
        · exact .inr fun hreads => h (.inr ⟨hopen, hreads⟩)
        · exact .inl hopen

/-- Every album that has to be read as a text can be. -/
structure Criteria.AlbumsFit (now : Timestamp) (c : Criteria) (l : Library) : Prop where
  /-- An album the rules come to read is a text, or counts as not given. -/
  rules : ∀ t ∈ l.tracks, t.id.isSome = true → c.logic.ReadsAlbum now c.rules t →
    t.hasTextAlbum = true
  /-- An album that accepted tracks are ordered by is a text, or missing. -/
  order : c.orderBy = .album → ∀ t ∈ l.tracks, t.id.isSome = true → c.Accepts now t →
    t.album = .null ∨ ∃ a, t.album = .text a

/-- Every album of a library is a text or missing. -/
def Library.HasTextAlbums (l : Library) : Prop :=
  ∀ t ∈ l.tracks, t.album = .null ∨ ∃ a, t.album = .text a

theorem Library.HasTextAlbums.albumsFit (h : l.HasTextAlbums) : c.AlbumsFit now l where
  rules t ht _ _ := by
    obtain halbum | ⟨a, halbum⟩ := h t ht <;>
      simp [Track.hasTextAlbum, halbum, Json.text?, Json.isTruthy]
  order _ t ht _ _ := h t ht

/-- An album that is missing or a text is one that tracks can be ordered by. -/
theorem isUnordered_iff {j : Json} :
    (!j.isNull && j.text?.isNone) = true ↔ ¬(j = .null ∨ ∃ a, j = .text a) := by
  cases j <;> simp [Json.isNull, Json.text?]

theorem checkOrder_eq_ok_iff {f : OrderField} {ts : List Track} :
    checkOrder f ts = .ok () ↔
      (f = .album → ∀ t ∈ ts, t.album = .null ∨ ∃ a, t.album = .text a) := by
  have hnone : (ts.find? fun t => f == .album && !t.album.isNull && t.album.text?.isNone) = none ↔
      (f = .album → ∀ t ∈ ts, t.album = .null ∨ ∃ a, t.album = .text a) := by
    simp only [List.find?_eq_none, Bool.and_assoc, Bool.and_eq_true (f == OrderField.album),
      isUnordered_iff, beq_iff_eq, not_and, not_not]
    exact ⟨fun h hf t ht => h t ht hf, fun h t ht hf => h hf t ht⟩
  rw [← hnone, checkOrder]
  cases ts.find? fun t => f == .album && !t.album.isNull && t.album.text?.isNone <;> simp

/-- **The albums are looked at**, and nothing is refused, exactly when they fit. -/
theorem checkAlbums_eq_ok_iff (h : Decide now c.rules ps) :
    c.checkAlbums ps l = .ok () ↔ c.AlbumsFit now l := by
  have hrules : ((l.tracks.filter (·.id.isSome)).find? fun t =>
      !c.logic.isAnswered t (c.rules.zip ps)) = none ↔
      ∀ t ∈ l.tracks, t.id.isSome = true → c.logic.ReadsAlbum now c.rules t →
        t.hasTextAlbum = true := by
    simp only [List.find?_eq_none, List.mem_filter, Bool.not_eq_true', Bool.not_eq_false,
      h.isAnswered_iff, and_imp]
  have horder : checkOrder c.orderBy ((l.tracks.filter (·.id.isSome)).filter (c.logic.join ps)) =
      .ok () ↔ (c.orderBy = .album → ∀ t ∈ l.tracks, t.id.isSome = true → c.Accepts now t →
        t.album = .null ∨ ∃ a, t.album = .text a) := by
    simp only [checkOrder_eq_ok_iff, List.mem_filter, h.join_iff, and_imp]
    rfl
  unfold Criteria.checkAlbums
  dsimp only
  split
  · rename_i t hfind
    refine iff_of_false (by simp) fun hfit => ?_
    rw [hrules.2 hfit.rules] at hfind
    cases hfind
  · rename_i hfind
    rw [horder]
    exact ⟨fun ho => ⟨hrules.1 hfind, ho⟩, fun hfit => hfit.order⟩

/-! ### Evaluation -/

/-- **An evaluation that succeeds**, in its parts. -/
theorem evaluate_eq_ok_iff {ids : List Int} : evaluate c l now = .ok ids ↔
    ∃ ps, compileRules now c.rules = .ok ps ∧ c.checkAlbums ps l = .ok () ∧
      ids = (c.select (c.logic.join ps) l).filterMap Track.id := by
  constructor
  · intro h
    obtain ⟨ps, hps, h⟩ := exists_of_bind_eq_ok h
    obtain ⟨⟨⟩, halbums, h⟩ := exists_of_bind_eq_ok h
    exact ⟨ps, hps, halbums, (Except.ok.inj h).symm⟩
  · rintro ⟨ps, hps, halbums, rfl⟩
    unfold evaluate
    rw [hps]
    simp only [bind, Except.bind, halbums]
    rfl

/-- **Criteria can be evaluated exactly when their windows of days fit the calendar and the albums
are texts where they are read.** -/
theorem evaluate_total_iff (c : Criteria) (l : Library) (now : Timestamp) :
    (∃ ids, evaluate c l now = .ok ids) ↔ c.FitsCalendar now ∧ c.AlbumsFit now l := by
  constructor
  · rintro ⟨ids, h⟩
    obtain ⟨ps, hps, halbums, -⟩ := evaluate_eq_ok_iff.1 h
    exact ⟨exists_compileRules_iff.1 ⟨ps, hps⟩,
      (checkAlbums_eq_ok_iff (decide_of_compileRules hps)).1 halbums⟩
  · rintro ⟨hfits, halbums⟩
    obtain ⟨ps, hps⟩ := exists_compileRules_iff.2 hfits
    exact ⟨_, evaluate_eq_ok_iff.2 ⟨ps, hps,
      (checkAlbums_eq_ok_iff (decide_of_compileRules hps)).2 halbums, rfl⟩⟩

/-- Criteria of a document that cannot be evaluated: the days are more than the calendar has. -/
theorem not_evaluate_total : ∃ c f, Criteria.ofDocument (.object [("rules", .list
      [.object [("field", .text "dateAdded"), ("operator", .text "inLast"),
        ("daysValue", .int 1000000)]])]) = .ok c ∧
    evaluate c { tracks := [] } ⟨63852883200000000, 0⟩ = .error f := by
  refine ⟨{ rules := [.date .dateAdded .inLast 1000000 (by decide)] }, _, ?_, rfl⟩
  decide +kernel

end Mixtape
