import Mathlib.Data.List.Induction
import Mathlib.Data.List.Nodup
import Mixtape.Database.Tags
import Mixtape.Proofs.Action
import Mixtape.Text.CaseFold

/-!
# What tags are called

Two calls give tags their names. A new tag is refused if its name is blank, or if it is that of a tag
already there; but the two names are not brought into one form before they are compared: of the old one
only the ASCII letters lose their case, of the new one all letters do. A tag that gets another name is
not looked at in this way at all: what refuses a second tag of one name is the table, and it compares
names as they stand.

What it means that two names differ is left open: they differ by a `key`, which is the folding of a
text where case is to be ignored.

## Main definitions

* `Naming` — the two calls.
* `Database.Unambiguous key d` — no tag is without a name, and no two have one key.
* `Naming.Settles` — a creation adds a tag, or is refused because of its name.
* `Naming.Slips` — a call that passes the checks although it should not.
* `Naming.named` — the database that calls leave, the first of them made on an empty one.

## Main results

* `Database.meets_createTag`, `Database.meets_renameTag` — the ends of the two calls.
* `Naming.holds_iff` — one call on unambiguous names.
* `Naming.tellsApart_iff` — **names stay unambiguous as long as no call slips**, and no longer.
* `Naming.tellsApart_of_ascii` — creations in ASCII never slip.
-/

namespace Mixtape

open Action

variable {key : String → String} {d : Database} {now : Timestamp} {name : String} {id : Int}

/-- No tag is without a name, and no two tags have names of one key. -/
structure Database.Unambiguous (key : String → String) (d : Database) : Prop where
  /-- Every tag has a name. -/
  named : ∀ t ∈ d.tags, t.name ≠ ""
  /-- No two keys are the same. -/
  distinct : (d.tags.map fun t => key t.name).Nodup

namespace Database

/-! ### The ends of the two calls -/

/-- A tag is known by a name: what is compared is its own name in ASCII lower case and the lower case
of the other. -/
def Knows (d : Database) (name : String) : Prop :=
  ∃ t ∈ d.tags, Text.lowerAscii t.name = Text.lower name

/-- A tag bears exactly this name. -/
def Bears (d : Database) (name : String) : Prop := ∃ t ∈ d.tags, t.name = name

theorem knows_iff : (d.tags.any fun t => Text.lowerAscii t.name == Text.lower name) = true ↔
    d.Knows name := by
  simp only [List.any_eq_true, beq_iff_eq, Knows]

theorem bears_iff : d.tags.any (·.name == name) = true ↔ d.Bears name := by
  simp only [List.any_eq_true, beq_iff_eq, Bears]

/-- A row is refused if the values of some of its columns are taken. -/
theorem meets_requireFree {P : Database → Prop} {taken : Bool} {columns : List String} {s : Statement}
    {Q : Unit → Database → Prop} {E : Failure → Database → Prop}
    (hfree : ¬taken = true → ∀ e, P e → Q () e)
    (htaken : taken = true → ∀ m e, P e → E (.constraint m) e) :
    Meets P (Action.ofExcept (requireFree (!taken) columns s)) Q E := by
  unfold requireFree require
  intro e he
  cases taken with
  | true => exact htaken rfl _ e he
  | false => exact hfree Bool.false_ne_true e he

/-- **A creation** adds a tag with the next number, or is refused by its checks, or by the table. -/
theorem meets_createTag {color : Option String} :
    Meets (· = d) (createTag now name color)
      (fun tag e => (Text.trim name ≠ "" ∧ ¬d.Knows (Text.trim name) ∧ ¬d.Bears (Text.trim name)) ∧
        tag.name = Text.trim name ∧ tag.id = nextId (d.tags.map (·.id)) ∧
        e = { d with tags := d.tags ++ [tag] })
      fun f e => e = d ∧
        ((Text.trim name = "" ∨ d.Knows (Text.trim name)) ∧ (∃ m, f = .invalid m (some "name")) ∨
          (Text.trim name ≠ "" ∧ ¬d.Knows (Text.trim name) ∧ d.Bears (Text.trim name)) ∧
            ∃ m, f = .constraint m) := by
  unfold createTag
  refine meets_ite (fun hblank => ?_) fun hblank => ?_
  · exact fun e he => ⟨he, .inl ⟨.inl hblank, _, rfl⟩⟩
  refine meets_get_bind ?_
  rintro d rfl
  refine meets_ite (fun hknown => ?_) fun hknown => ?_
  · exact fun e he => ⟨he, .inl ⟨.inr (knows_iff.1 hknown), _, rfl⟩⟩
  have hknown : ¬d.Knows (Text.trim name) := fun h => hknown (knows_iff.2 h)
  refine Meets.bind (Q := fun _ e => e = d ∧ ¬d.Bears (Text.trim name))
    (meets_requireFree (fun hfree e he => ?_) fun htaken m e he => ?_) fun _ => ?_
  · exact ⟨he, fun h => hfree (bears_iff.2 h)⟩
  · exact ⟨he, .inr ⟨⟨hblank, hknown, bears_iff.1 htaken⟩, m, rfl⟩⟩
  · rintro _ ⟨rfl, hfree⟩
    refine And.intro ⟨hblank, hknown, hfree⟩ ?_
    cases color.filter (· ≠ "") <;> exact ⟨rfl, rfl, rfl⟩

/-- **A change of a name** is refused if no tag has the number, or by the table if another tag has
exactly the new name. -/
theorem meets_renameTag :
    Meets (· = d) (renameTag now id name)
      (fun _ e => storable id = .ok () ∧ (∃ t ∈ d.tags, t.id = id) ∧
        (∀ t ∈ d.tags, t.id ≠ id → t.name ≠ Text.trim name) ∧
        e = { d with
          tags := changeWhere (·.id == id) (fun t => { t with name := Text.trim name }) d.tags })
      fun _ e => e = d ∧ (storable id = .ok () → (∃ t ∈ d.tags, t.id = id) →
        ∃ t ∈ d.tags, t.id ≠ id ∧ t.name = Text.trim name) := by
  unfold renameTag
  refine Meets.bind (Q := fun _ e => e = d ∧ storable id = .ok ()) ?_ fun _ => ?_
  · refine meets_ofExcept (fun _ h e he => ⟨he, h⟩) fun f h e he => ⟨he, fun hok => ?_⟩
    rw [hok] at h
    cases h
  refine meets_get_bind ?_
  rintro d ⟨rfl, hok⟩
  dsimp only
  cases hfind : d.tags.find? (·.id == id) with
  | none =>
    refine meets_throw fun e he => ⟨he, fun _ ⟨t, ht, hid⟩ => ?_⟩
    exact absurd (beq_iff_eq.2 hid) (List.find?_eq_none.1 hfind t ht)
  | some t =>
  have hmem : ∃ t ∈ d.tags, t.id = id :=
    ⟨t, List.mem_of_find?_eq_some hfind, by simpa using List.find?_some hfind⟩
  have htaken : (d.tags.any fun t => t.id != id && t.name == Text.trim name) = true ↔
      ∃ t ∈ d.tags, t.id ≠ id ∧ t.name = Text.trim name := by
    simp only [List.any_eq_true, Bool.and_eq_true, bne_iff_ne, beq_iff_eq]
  refine Meets.bind (Q := fun _ e => e = d ∧ ∀ t ∈ d.tags, t.id ≠ id → t.name ≠ Text.trim name)
    (meets_requireFree (fun hfree e he => ?_) fun h m e he => ?_) fun _ => ?_
  · exact ⟨he, fun t ht hid hname => hfree (htaken.2 ⟨t, ht, hid, hname⟩)⟩
  · exact ⟨he, fun _ _ => htaken.1 h⟩
  · rintro _ ⟨rfl, hfree⟩
    exact ⟨hok, hmem, hfree, rfl⟩

/-! ### Names after a change -/

theorem unambiguous_empty : ({} : Database).Unambiguous key where
  named _ ht := absurd ht List.not_mem_nil
  distinct := List.nodup_nil

/-- One more tag. -/
theorem Unambiguous.append_iff {tag : Tag} (hd : d.Unambiguous key) :
    ({ d with tags := d.tags ++ [tag] } : Database).Unambiguous key ↔
      tag.name ≠ "" ∧ ∀ t ∈ d.tags, key t.name ≠ key tag.name := by
  constructor
  · rintro ⟨hnamed, hdistinct⟩
    refine ⟨hnamed tag (List.mem_append_right _ List.mem_cons_self), fun t ht => ?_⟩
    rw [List.map_append, List.nodup_append] at hdistinct
    exact hdistinct.2.2 _ (List.mem_map_of_mem ht) _ List.mem_cons_self
  · rintro ⟨hnamed, hnew⟩
    refine ⟨fun t ht => ?_, ?_⟩
    · rcases List.mem_append.1 ht with ht | ht
      · exact hd.named t ht
      · exact List.mem_singleton.1 ht ▸ hnamed
    · rw [List.map_append, List.nodup_append]
      refine ⟨hd.distinct, List.nodup_singleton _, fun k hk k' hk' => ?_⟩
      obtain ⟨t, ht, rfl⟩ := List.mem_map.1 hk
      obtain rfl := List.mem_singleton.1 hk'
      exact hnew t ht

/-- One tag under another name. -/
theorem Unambiguous.changeWhere_iff (hd : d.Unambiguous key) (hids : (d.tags.map (·.id)).Nodup)
    (hid : ∃ t ∈ d.tags, t.id = id) :
    ({ d with tags := changeWhere (·.id == id) (fun t => { t with name }) d.tags } :
        Database).Unambiguous key ↔
      name ≠ "" ∧ ∀ t ∈ d.tags, t.id ≠ id → key t.name ≠ key name := by
  obtain ⟨t, ht, rfl⟩ := hid
  have hone : ∀ u ∈ d.tags, u.id = t.id → u = t := fun u hu h =>
    List.inj_on_of_nodup_map hids hu ht h
  have hmem : ∀ u ∈ d.tags, (if u.id == t.id then { u with name } else u) ∈
      changeWhere (·.id == t.id) (fun t => { t with name }) d.tags := fun u hu =>
    List.mem_map_of_mem (f := fun u : Tag => if u.id == t.id then { u with name } else u) hu
  have hchanged : { t with name } ∈ changeWhere (·.id == t.id) (fun t => { t with name }) d.tags := by
    simpa using hmem t ht
  constructor
  · rintro ⟨hnamed, hdistinct⟩
    refine ⟨hnamed _ hchanged, fun u hu hother hkey => hother ?_⟩
    have hkept := hmem u hu
    rw [if_neg (by simpa using hother)] at hkept
    have hsame : u = { t with name } := List.inj_on_of_nodup_map hdistinct hkept hchanged hkey
    rw [hsame]
  · rintro ⟨hnamed, hnew⟩
    refine ⟨fun u hu => ?_, ?_⟩
    · obtain ⟨v, hv, rfl⟩ := List.mem_map.1 hu
      split
      · exact hnamed
      · exact hd.named v hv
    · unfold changeWhere
      rw [List.map_map, List.nodup_map_iff_inj_on hids.of_map]
      intro u hu v hv hkey
      simp only [Function.comp, beq_iff_eq] at hkey
      split at hkey <;> split at hkey
      · rw [hone u hu ‹_›, hone v hv ‹_›]
      · exact absurd hkey.symm (hnew v hv ‹_›)
      · exact absurd hkey (hnew u hu ‹_›)
      · exact List.inj_on_of_nodup_map hd.distinct hu hv hkey

end Database

/-! ### One call -/

/-- A call that gives a tag its name. -/
inductive Naming
  /-- A tag is created. -/
  | create (now : Timestamp) (name : String) (color : Option String)
  /-- A tag gets another name. -/
  | rename (now : Timestamp) (id : Int) (name : String)

namespace Naming

variable {c : Naming} {calls : List Naming}

/-- What the call does. -/
def action : Naming → Action Database Tag
  | create now name color => Database.createTag now name color
  | rename now id name => Database.renameTag now id name

/-- The database the call leaves, whether it succeeds or fails. -/
def after (c : Naming) (d : Database) : Database := (c.action.runOn d).2

/-- A creation is settled if it adds a tag of its name, or refuses the name and changes nothing. A change
of a name always is. -/
def Settles : Naming → Database → Prop
  | create now name color, d =>
    (∃ tag, tag.name = Text.trim name ∧
        (Database.createTag now name color).runOn d = (.ok tag, { d with tags := d.tags ++ [tag] })) ∨
      ∃ m, (Database.createTag now name color).runOn d = (.error (.invalid m (some "name")), d)
  | rename .., _ => True

/-- A call slips through the checks: a tag is created with a name whose key is that of a tag which the
comparison does not know by it; or a tag gets an empty name, or one that differs from that of another tag
but not in its key. -/
def Slips (key : String → String) : Naming → Database → Prop
  | create _ name _, d =>
    Text.trim name ≠ "" ∧ (∃ t ∈ d.tags, key t.name = key (Text.trim name)) ∧
      ¬d.Knows (Text.trim name)
  | rename _ id name, d =>
    Database.storable id = .ok () ∧ (∃ t ∈ d.tags, t.id = id) ∧
      (Text.trim name = "" ∨ ∃ t ∈ d.tags, t.id ≠ id ∧ t.name ≠ Text.trim name ∧
        key t.name = key (Text.trim name))

/-- A creation on unambiguous names. -/
theorem create_iff {color : Option String} (hd : d.Unambiguous key) :
    ((create now name color).after d).Unambiguous key ∧ (create now name color).Settles d ↔
      ¬(create now name color).Slips key d := by
  simp only [after, action, Settles, Slips]
  rcases hrun : (Database.createTag now name color).runOn d with ⟨f | tag, e⟩
  · obtain ⟨rfl, ⟨hrefused, m, rfl⟩ | ⟨⟨hnamed, hnew, t, ht, hname⟩, m, rfl⟩⟩ :=
      Database.meets_createTag.of_error rfl hrun
    · refine iff_of_true ⟨hd, .inr ⟨m, rfl⟩⟩ ?_
      rintro ⟨hnamed, -, hnew⟩
      exact hrefused.elim hnamed hnew
    · refine iff_of_false ?_ (not_not.2 ⟨hnamed, ⟨t, ht, congrArg key hname⟩, hnew⟩)
      rintro ⟨-, ⟨_, -, h⟩ | ⟨_, h⟩⟩ <;> cases h
  · obtain ⟨⟨hnamed, hnew, -⟩, hname, -, rfl⟩ := Database.meets_createTag.of_ok rfl hrun
    rw [and_iff_left (.inl ⟨tag, hname, rfl⟩), hd.append_iff, hname, and_iff_right hnamed]
    constructor
    · rintro hnokey ⟨-, ⟨t, ht, hkey⟩, -⟩
      exact hnokey t ht hkey
    · exact fun hslip t ht hkey => hslip ⟨hnamed, ⟨t, ht, hkey⟩, hnew⟩

/-- A change of a name, where names are unambiguous. -/
theorem rename_iff (hd : d.Unambiguous key) (hids : (d.tags.map (·.id)).Nodup) :
    ((rename now id name).after d).Unambiguous key ↔ ¬(rename now id name).Slips key d := by
  simp only [after, action, Slips]
  rcases hrun : (Database.renameTag now id name).runOn d with ⟨f | tag, e⟩
  · obtain ⟨rfl, htaken⟩ := Database.meets_renameTag.of_error rfl hrun
    refine iff_of_true hd ?_
    rintro ⟨hok, hid, hslip⟩
    obtain ⟨u, hu, hother, hname⟩ := htaken hok hid
    rcases hslip with hempty | ⟨t, ht, -, hdiffers, hkey⟩
    · exact hd.named u hu (hname.trans hempty)
    · refine hdiffers ?_
      rw [← hname] at hkey ⊢
      rw [List.inj_on_of_nodup_map hd.distinct ht hu hkey]
  · obtain ⟨hok, hid, hfree, rfl⟩ := Database.meets_renameTag.of_ok rfl hrun
    rw [hd.changeWhere_iff hids hid, and_iff_right hok, and_iff_right hid, not_or]
    refine and_congr_right fun _ => ⟨?_, ?_⟩
    · rintro hnokey ⟨t, ht, hother, -, hkey⟩
      exact hnokey t ht hother hkey
    · exact fun hslip t ht hother hkey => hslip ⟨t, ht, hother, hfree t ht hother, hkey⟩

/-- **One call** on unambiguous names leaves them unambiguous, and is settled, unless it slips. -/
theorem holds_iff (hd : d.Unambiguous key) (hids : (d.tags.map (·.id)).Nodup) :
    (c.after d).Unambiguous key ∧ c.Settles d ↔ ¬c.Slips key d := by
  cases c with
  | create now name color => exact create_iff hd
  | rename now id name => exact (and_iff_left trivial).trans (rename_iff hd hids)

/-- No call gives two tags one number. -/
theorem nodup_after (hids : (d.tags.map (·.id)).Nodup) : ((c.after d).tags.map (·.id)).Nodup := by
  cases c with
  | create now name color =>
    simp only [after, action]
    rcases hrun : (Database.createTag now name color).runOn d with ⟨f | tag, e⟩
    · obtain ⟨rfl, -⟩ := Database.meets_createTag.of_error rfl hrun
      exact hids
    · obtain ⟨-, -, hid, rfl⟩ := Database.meets_createTag.of_ok rfl hrun
      rw [List.map_append, List.nodup_append]
      refine ⟨hids, List.nodup_singleton _, fun i hi j hj => ?_⟩
      obtain rfl := List.mem_singleton.1 hj
      exact (Int.ne_of_lt (Database.lt_nextId hi)).trans_eq hid.symm
  | rename now id name =>
    simp only [after, action]
    rcases hrun : (Database.renameTag now id name).runOn d with ⟨f | tag, e⟩
    · obtain ⟨rfl, -⟩ := Database.meets_renameTag.of_error rfl hrun
      exact hids
    · obtain ⟨-, -, -, rfl⟩ := Database.meets_renameTag.of_ok rfl hrun
      have hsame : (Database.changeWhere (·.id == id) (fun t => { t with name := Text.trim name })
          d.tags).map (·.id) = d.tags.map (·.id) := by
        unfold Database.changeWhere
        rw [List.map_map]
        refine List.map_congr_left fun t _ => ?_
        simp only [Function.comp]
        split <;> rfl
      exact hsame ▸ hids

/-! ### Calls one after another -/

/-- The database calls leave, the first of them made on an empty one. -/
def named (calls : List Naming) : Database := calls.foldl (fun d c => c.after d) {}

@[simp] theorem named_nil : named [] = {} := rfl

@[simp] theorem named_append : named (calls ++ [c]) = c.after (named calls) := by
  rw [named, List.foldl_append]
  rfl

theorem nodup_named : ((named calls).tags.map (·.id)).Nodup := by
  induction calls using List.reverseRecOn with
  | nil => exact List.nodup_nil
  | append_singleton calls c ih => exact named_append ▸ nodup_after ih

/-- Names are unambiguous whenever calls have been made, and every creation is settled. -/
def TellsApart (key : String → String) (calls : List Naming) : Prop :=
  ∀ before, before <+: calls → (named before).Unambiguous key ∧
    ∀ c, before ++ [c] <+: calls → c.Settles (named before)

theorem tellsApart_of_not_slips
    (h : ∀ before c, before ++ [c] <+: calls → ¬c.Slips key (named before)) : TellsApart key calls := by
  intro before hbefore
  have hnames : (named before).Unambiguous key := by
    induction before using List.reverseRecOn with
    | nil => exact Database.unambiguous_empty
    | append_singleton before c ih =>
      have hd := ih ((List.prefix_append before [c]).trans hbefore)
      exact named_append ▸ ((holds_iff hd nodup_named).2 (h before c hbefore)).1
  exact ⟨hnames, fun c hc => ((holds_iff hnames nodup_named).2 (h before c hc)).2⟩

/-- **Names stay unambiguous as long as no call slips**, and no longer: at every moment of a history that
begins with an empty database no tag is without a name and no two have one key, and every creation adds
its tag or refuses the name as invalid, if and only if no call of the history slips through the checks. -/
theorem tellsApart_iff (key : String → String) (calls : List Naming) :
    TellsApart key calls ↔
      ∀ before c, before ++ [c] <+: calls → ¬c.Slips key (named before) := by
  refine ⟨fun h before c hcalls => ?_, tellsApart_of_not_slips⟩
  have hbefore := h before ((List.prefix_append before [c]).trans hcalls)
  rw [← holds_iff hbefore.1 nodup_named, ← named_append]
  exact ⟨(h _ hcalls).1, hbefore.2 c hcalls⟩

/-- **Names do not always stay unambiguous.** A tag with an accented capital is not known by the small
letter, so both are created, nor by the capital itself, so it is left to the table to refuse that; and a
tag may get an empty name, or that of another tag but for its case. -/
theorem not_tellsApart :
    ¬TellsApart Text.foldCase [.create (.utc 0) "É" none, .create (.utc 0) "é" none] ∧
      ¬TellsApart Text.foldCase [.create (.utc 0) "É" none, .create (.utc 0) "É" none] ∧
      ¬TellsApart Text.foldCase [.create (.utc 0) "a" none, .rename (.utc 0) 1 " "] ∧
      ¬TellsApart Text.foldCase
        [.create (.utc 0) "a" none, .create (.utc 0) "b" none, .rename (.utc 0) 2 "A"] := by
  refine ⟨fun h => ?_, fun h => ?_, fun h => ?_, fun h => ?_⟩
  · exact absurd (h _ List.prefix_rfl).1.distinct (by decide +kernel)
  · have hkind : ((Database.createTag (.utc 0) "É" none).runOn
        (named [.create (.utc 0) "É" none])).1.mapError Failure.name = .error "IntegrityError" := by
      decide +kernel
    rcases (h [_] ⟨[_], rfl⟩).2 _ List.prefix_rfl with ⟨tag, -, hrun⟩ | ⟨m, hrun⟩
    · rw [hrun] at hkind
      cases hkind
    · rw [hrun] at hkind
      exact absurd (Except.error.inj hkind) (by simp [Failure.name])
  · exact absurd (h _ List.prefix_rfl).1.named (by decide +kernel)
  · exact absurd (h _ List.prefix_rfl).1.distinct (by decide +kernel)

end Naming

/-! ### Names in ASCII -/

/-- A text whose characters are all ASCII. -/
def Text.IsAscii (s : String) : Prop := ∀ c ∈ s.toList, c.toNat < 128

namespace Text

variable {s : String}

theorem trim_subset (s : String) : (trim s).toList ⊆ s.toList := by
  have hdrop : ∀ cs : List Char, cs.dropWhile isBlank ⊆ cs := fun cs =>
    (List.dropWhile_suffix isBlank).subset
  unfold trim trimChars trimBy
  rw [String.toList_ofList]
  intro c hc
  exact hdrop _ (List.mem_reverse.1 (hdrop _ (List.mem_reverse.1 hc)))

theorem IsAscii.trim (h : IsAscii s) : IsAscii (trim s) := fun c hc => h c (trim_subset s hc)

/-- Of a text in ASCII the lower case is that of its ASCII letters. -/
theorem IsAscii.lower_eq (h : IsAscii s) : lower s = lowerAscii s := by
  have hafter : ∀ before cs : List Char, (∀ c ∈ cs, c.toNat < 128) → lowerAfter before cs =
      cs.map fun c => if 65 ≤ c.toNat ∧ c.toNat ≤ 90 then Char.ofNat (c.toNat + 32) else c := by
    intro before cs hcs
    induction cs generalizing before with
    | nil => rfl
    | cons c cs ih =>
      obtain ⟨hc, hcs⟩ := List.forall_mem_cons.1 hcs
      have hsigma : c ≠ 'Σ' := by
        rintro rfl
        exact absurd hc (by decide)
      rw [lowerAfter, if_neg hsigma, lowerChar, if_pos hc, ih _ hcs, List.map_cons]
      split <;> rfl
  rw [lower, lowerAscii, hafter _ _ h]

/-- A text in ASCII is folded to the lower case of its ASCII letters. -/
theorem IsAscii.foldCase_eq (h : IsAscii s) : foldCase s = lowerAscii s := by
  have hfold : ∀ c ∈ s.toList, foldChar c =
      [if 65 ≤ c.toNat ∧ c.toNat ≤ 90 then Char.ofNat (c.toNat + 32) else c] := by
    intro c hc
    rw [foldChar, if_pos (h c hc)]
    split <;> rfl
  rw [foldCase, lowerAscii, List.flatMap_congr hfold, List.map_eq_flatMap]

end Text

namespace Naming

variable {calls : List Naming}

/-- A creation with a name in ASCII. -/
def IsPlain : Naming → Prop
  | create _ name _ => Text.IsAscii name
  | rename .. => False

/-- Creations in ASCII give names in ASCII. -/
theorem isAscii_named (h : ∀ c ∈ calls, c.IsPlain) : ∀ t ∈ (named calls).tags, Text.IsAscii t.name := by
  induction calls using List.reverseRecOn with
  | nil => exact fun t ht => absurd ht List.not_mem_nil
  | append_singleton calls c ih =>
    have hcalls := ih fun c hc => h c (List.mem_append_left _ hc)
    have hc := h c (List.mem_append_right _ List.mem_cons_self)
    rw [named_append]
    cases c with
    | create now name color =>
      simp only [after, action]
      rcases hrun : (Database.createTag now name color).runOn (named calls) with ⟨f | tag, e⟩
      · obtain ⟨rfl, -⟩ := Database.meets_createTag.of_error rfl hrun
        exact hcalls
      · obtain ⟨-, hname, -, rfl⟩ := Database.meets_createTag.of_ok rfl hrun
        intro t ht
        rcases List.mem_append.1 ht with ht | ht
        · exact hcalls t ht
        · rw [List.mem_singleton.1 ht, hname]
          exact Text.IsAscii.trim hc
    | rename now id name => exact hc.elim

/-- **Tags that are only created, with names in ASCII, stay unambiguous**: for such names all three
ways of leaving case out of account are one. -/
theorem tellsApart_of_ascii (h : ∀ c ∈ calls, c.IsPlain) : TellsApart Text.foldCase calls := by
  refine tellsApart_of_not_slips fun before c hcalls => ?_
  have hplain : ∀ b ∈ before ++ [c], b.IsPlain := fun b hb => h b (hcalls.subset hb)
  have hnames := isAscii_named fun b hb => hplain b (List.mem_append_left _ hb)
  have hc := hplain c (List.mem_append_right _ List.mem_cons_self)
  cases c with
  | create now name color =>
    rintro ⟨-, ⟨t, ht, hkey⟩, hnew⟩
    have hname : Text.IsAscii (Text.trim name) := Text.IsAscii.trim hc
    refine hnew ⟨t, ht, ?_⟩
    rw [hname.lower_eq, ← hname.foldCase_eq, ← hkey, (hnames t ht).foldCase_eq]
  | rename now id name => exact hc.elim

end Naming

end Mixtape
