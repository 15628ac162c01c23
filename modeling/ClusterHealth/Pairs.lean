/-!
# `ClusterHealth.Pairs` — tables in order of insertion

A table as a list of pairs with distinct keys. Putting a key that is there replaces its value and
leaves it in its place; a new key goes to the end.
-/

namespace ClusterHealth.Pairs

variable {κ β : Type} [DecidableEq κ]

/-- The value of a key. -/
def get? (key : κ) (table : List (κ × β)) : Option β :=
  (table.find? fun entry => entry.1 = key).map (·.2)

/-- A table in which a key has a value. -/
def put (key : κ) (value : β) : List (κ × β) → List (κ × β)
  | [] => [(key, value)]
  | (k, v) :: rest => if k = key then (key, value) :: rest else (k, v) :: put key value rest

/-- A table without a key. -/
def erase (key : κ) (table : List (κ × β)) : List (κ × β) :=
  table.filter fun entry => entry.1 ≠ key

/-- The table that results from putting pairs one after the other. -/
def ofList (pairs : List (κ × β)) : List (κ × β) :=
  pairs.foldl (fun table (key, value) => put key value table) []

theorem get?_put_self (key : κ) (value : β) (table : List (κ × β)) :
    get? key (put key value table) = some value := by
  induction table with
  | nil => simp [put, get?]
  | cons entry rest ih =>
    obtain ⟨k, v⟩ := entry
    simp only [put]
    split
    · simp [get?]
    · next h => simpa [get?, h] using ih

theorem get?_put_ne {key other : κ} (h : other ≠ key) (value : β) (table : List (κ × β)) :
    get? other (put key value table) = get? other table := by
  induction table with
  | nil => simp [put, get?, Ne.symm h]
  | cons entry rest ih =>
    obtain ⟨k, v⟩ := entry
    simp only [put]
    split
    · next hk => subst hk; simp [get?, Ne.symm h]
    · by_cases hk : k = other
      · simp [get?, hk]
      · simpa [get?, hk] using ih

theorem get?_erase_self (key : κ) (table : List (κ × β)) : get? key (erase key table) = none := by
  simp [get?, erase]

theorem get?_erase_ne {key other : κ} (h : other ≠ key) (table : List (κ × β)) :
    get? other (erase key table) = get? other table := by
  induction table with
  | nil => rfl
  | cons entry rest ih =>
    obtain ⟨k, v⟩ := entry
    by_cases hk : k = key
    · subst hk
      simpa [erase, get?, Ne.symm h] using ih
    · by_cases ho : k = other
      · simp [erase, get?, ho, h]
      · simpa [erase, get?, hk, ho] using ih

/-- What is found in a table is one of its entries. -/
theorem mem_of_get? {key : κ} {value : β} {table : List (κ × β)} (h : get? key table = some value) :
    (key, value) ∈ table := by
  obtain ⟨⟨k, v⟩, hf, hv⟩ := Option.map_eq_some_iff.1 h
  have hk : k = key := by simpa using List.find?_some hf
  rw [← hk, ← hv]
  exact List.mem_of_find?_eq_some hf

/-- An entry of a table in which something was put is the new one, or was there before. -/
theorem mem_of_mem_put {key : κ} {value : β} {entry : κ × β} {table : List (κ × β)}
    (h : entry ∈ put key value table) : entry = (key, value) ∨ entry ∈ table := by
  induction table with
  | nil => exact .inl (by simpa [put] using h)
  | cons first rest ih =>
    simp only [put] at h
    split at h
    · rcases List.mem_cons.1 h with h | h
      · exact .inl h
      · exact .inr (List.mem_cons_of_mem _ h)
    · rcases List.mem_cons.1 h with h | h
      · exact .inr (by rw [h]; exact List.mem_cons_self)
      · exact (ih h).imp_right (List.mem_cons_of_mem _)

theorem mem_of_mem_erase {key : κ} {entry : κ × β} {table : List (κ × β)} (h : entry ∈ erase key table) :
    entry ∈ table :=
  (List.mem_filter.1 h).1

/-- What is put under one key leaves the entries of the others. -/
theorem mem_put_of_ne {key : κ} {value : β} {entry : κ × β} {table : List (κ × β)} (h : entry ∈ table)
    (hk : entry.1 ≠ key) : entry ∈ put key value table := by
  induction table with
  | nil => exact absurd h List.not_mem_nil
  | cons first rest ih =>
    simp only [put]
    split
    · next hfirst =>
      rcases List.mem_cons.1 h with rfl | h
      · exact absurd hfirst hk
      · exact List.mem_cons_of_mem _ h
    · rcases List.mem_cons.1 h with rfl | h
      · exact List.mem_cons_self
      · exact List.mem_cons_of_mem _ (ih h)

/-- Of two values that are put under a key the second one stays. -/
theorem put_put (key : κ) (value other : β) (table : List (κ × β)) :
    put key value (put key other table) = put key value table := by
  induction table with
  | nil => simp [put]
  | cons entry rest ih =>
    obtain ⟨k, v⟩ := entry
    by_cases hk : k = key
    · simp [put, hk]
    · simp [put, hk, ih]

theorem mem_erase_iff {key : κ} {entry : κ × β} {table : List (κ × β)} :
    entry ∈ erase key table ↔ entry ∈ table ∧ entry.1 ≠ key := by
  simp [erase]

/-- What was put under a key goes with it. -/
theorem erase_put_self (key : κ) (value : β) (table : List (κ × β)) :
    erase key (put key value table) = erase key table := by
  induction table with
  | nil => simp [put, erase]
  | cons entry rest ih =>
    obtain ⟨k, v⟩ := entry
    unfold erase at ih ⊢
    by_cases hk : k = key
    · simp [put, hk]
    · simp only [put, if_neg hk]
      rw [List.filter_cons_of_pos (by simpa using hk), List.filter_cons_of_pos (by simpa using hk), ih]

/-- A key that was not there, put and erased again. -/
theorem erase_put {key : κ} {value : β} {table : List (κ × β)} (h : ∀ entry ∈ table, entry.1 ≠ key) :
    erase key (put key value table) = table := by
  rw [erase_put_self]
  exact List.filter_eq_self.2 fun entry hentry => decide_eq_true (h entry hentry)

/-- What stands in a table with distinct keys is found. -/
theorem get?_of_mem {entry : κ × β} {table : List (κ × β)} (hkeys : (table.map Prod.fst).Nodup)
    (h : entry ∈ table) : get? entry.1 table = some entry.2 := by
  induction table with
  | nil => exact absurd h List.not_mem_nil
  | cons first rest ih =>
    rw [List.map_cons, List.nodup_cons] at hkeys
    rcases List.mem_cons.1 h with rfl | h
    · simp [get?]
    · have hne : first.1 ≠ entry.1 := fun he => hkeys.1 (he ▸ List.mem_map_of_mem h)
      have hrest := ih hkeys.2 h
      unfold get? at hrest ⊢
      rw [List.find?_cons_of_neg (by simpa using hne)]
      exact hrest

/-- Keys stay distinct. -/
theorem nodup_put {key : κ} {value : β} {table : List (κ × β)} (hkeys : (table.map Prod.fst).Nodup) :
    ((put key value table).map Prod.fst).Nodup := by
  induction table with
  | nil => simp [put]
  | cons first rest ih =>
    obtain ⟨k, v⟩ := first
    rw [List.map_cons, List.nodup_cons] at hkeys
    simp only [put]
    split
    · next hk =>
      rw [List.map_cons, List.nodup_cons]
      exact ⟨hk ▸ hkeys.1, hkeys.2⟩
    · next hk =>
      rw [List.map_cons, List.nodup_cons]
      refine ⟨fun hmem => ?_, ih hkeys.2⟩
      obtain ⟨entry, hentry, hsame⟩ := List.mem_map.1 hmem
      rcases mem_of_mem_put hentry with rfl | hold
      · exact hk hsame.symm
      · exact hkeys.1 (hsame ▸ List.mem_map_of_mem hold)

theorem nodup_erase {key : κ} {table : List (κ × β)} (hkeys : (table.map Prod.fst).Nodup) :
    ((erase key table).map Prod.fst).Nodup :=
  hkeys.sublist (List.filter_sublist.map Prod.fst)

end ClusterHealth.Pairs
