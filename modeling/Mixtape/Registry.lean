/-!
# Registries

A registry holds one value per key and keeps its keys in the order in which they were first put.

* `Registry` — keys with their values.
* `Registry.find?`, `Registry.put`, `Registry.erase` — looking up, setting and removing.
* `find?_put_self`, `find?_put_of_ne`, `find?_erase_self`, `find?_erase_of_ne` — what they do to
  later look-ups.
-/

namespace Mixtape

/-- Keys with their values, in the order in which the keys were first put. -/
abbrev Registry (α : Type) := List (String × α)

namespace Registry

variable {α : Type}

/-- The value of a key. -/
def find? (key : String) : Registry α → Option α
  | [] => none
  | (k, v) :: rest => if k = key then some v else find? key rest

/-- Sets the value of a key: in place if the key is there, at the end otherwise. -/
def put (key : String) (value : α) : Registry α → Registry α
  | [] => [(key, value)]
  | (k, v) :: rest => if k = key then (k, value) :: rest else (k, v) :: put key value rest

/-- Removes a key. -/
def erase (key : String) : Registry α → Registry α
  | [] => []
  | (k, v) :: rest => if k = key then erase key rest else (k, v) :: erase key rest

/-- Sets the value of a key that is not there; a key that is there keeps its value. -/
def putNew (key : String) (value : α) (r : Registry α) : Registry α :=
  match find? key r with
  | some _ => r
  | none => put key value r

/-- Entries put into a registry. -/
def putAll (r : Registry α) (entries : Registry α) : Registry α :=
  entries.foldl (fun r e => r.put e.1 e.2) r

/-- The keys, in order. -/
def keys (r : Registry α) : List String := r.map Prod.fst

@[simp] theorem find?_nil (key : String) : find? key ([] : Registry α) = none := rfl

@[simp] theorem find?_put_self (key : String) (value : α) (r : Registry α) :
    find? key (put key value r) = some value := by
  induction r with
  | nil => simp [put, find?]
  | cons e rest ih =>
    obtain ⟨k, v⟩ := e
    by_cases h : k = key <;> simp [put, find?, h, ih]

theorem find?_put_of_ne {key other : String} (h : other ≠ key) (value : α) (r : Registry α) :
    find? other (put key value r) = find? other r := by
  induction r with
  | nil => simp [put, find?, Ne.symm h]
  | cons e rest ih =>
    obtain ⟨k, v⟩ := e
    by_cases hk : k = key
    · subst hk; simp [put, find?, Ne.symm h]
    · simp [put, find?, hk, ih]

theorem find?_putNew_of_some {key : String} {value : α} {r : Registry α}
    (h : r.find? key = some value) (key' : String) (value' : α) :
    (r.putNew key' value').find? key = some value := by
  unfold putNew
  split
  · exact h
  · rename_i hfree
    have hne : key ≠ key' := by
      rintro rfl
      rw [hfree] at h
      cases h
    rw [find?_put_of_ne hne]
    exact h

@[simp] theorem find?_erase_self (key : String) (r : Registry α) : find? key (erase key r) = none := by
  induction r with
  | nil => rfl
  | cons e rest ih =>
    obtain ⟨k, v⟩ := e
    by_cases h : k = key <;> simp [erase, find?, h, ih]

theorem find?_erase_of_ne {key other : String} (h : other ≠ key) (r : Registry α) :
    find? other (erase key r) = find? other r := by
  induction r with
  | nil => rfl
  | cons e rest ih =>
    obtain ⟨k, v⟩ := e
    by_cases hk : k = key
    · subst hk; simp [erase, find?, Ne.symm h, ih]
    · simp [erase, find?, hk, ih]

@[simp] theorem mem_keys_put {key x : String} {value : α} {r : Registry α} :
    x ∈ (r.put key value).keys ↔ x = key ∨ x ∈ r.keys := by
  induction r with
  | nil => simp [put, keys]
  | cons e rest ih =>
    obtain ⟨k, v⟩ := e
    unfold put
    split
    · rename_i h
      subst h
      simp [keys]
    · change x ∈ k :: keys (put key value rest) ↔ x = key ∨ x ∈ k :: keys rest
      rw [List.mem_cons, List.mem_cons, ih]
      exact or_left_comm

theorem eq_or_mem_of_mem_put {key : String} {value : α} {e : String × α} {r : Registry α}
    (h : e ∈ r.put key value) : e = (key, value) ∨ e ∈ r := by
  induction r with
  | nil => exact .inl (List.mem_singleton.1 h)
  | cons f rest ih =>
    obtain ⟨k, v⟩ := f
    unfold put at h
    split at h
    · rename_i hk
      subst hk
      rcases List.mem_cons.1 h with h | h
      · exact .inl h
      · exact .inr (List.mem_cons_of_mem _ h)
    · rcases List.mem_cons.1 h with h | h
      · exact .inr (h ▸ List.mem_cons_self)
      · exact (ih h).imp id (List.mem_cons_of_mem _)

theorem mem_of_find? {key : String} {value : α} {r : Registry α}
    (h : r.find? key = some value) : (key, value) ∈ r := by
  induction r with
  | nil => cases h
  | cons e rest ih =>
    obtain ⟨k, v⟩ := e
    unfold find? at h
    split at h
    · rename_i hk
      cases h
      exact hk ▸ List.mem_cons_self
    · exact List.mem_cons_of_mem _ (ih h)

theorem exists_find?_of_mem_keys {key : String} {r : Registry α} (h : key ∈ r.keys) :
    ∃ value, r.find? key = some value := by
  induction r with
  | nil => cases h
  | cons e rest ih =>
    obtain ⟨k, v⟩ := e
    unfold find?
    split
    · exact ⟨v, rfl⟩
    · rename_i hk
      exact ih ((List.mem_cons.1 h).resolve_left fun h => hk h.symm)

end Registry

end Mixtape
