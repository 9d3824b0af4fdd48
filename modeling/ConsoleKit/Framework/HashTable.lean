import Mathlib.Data.List.AList

/-! # Hash tables

    A hash table is an association list without repeated keys.  `insert`
    replaces the value of a key that is there, `erase` removes a key, and
    `partition` takes out all entries that satisfy a predicate, as a walk
    over the table that steals entries does.
-/

abbrev HashTable (κ ν : Type) := AList fun _ : κ => ν

namespace HashTable

variable {κ ν : Type} [DecidableEq κ]

/-- The values, in the order of the table. -/
def values (t : HashTable κ ν) : List ν := t.entries.map fun e => e.2

/-- The entries that do not satisfy `p`. -/
def keep (t : HashTable κ ν) (p : κ → ν → Bool) : HashTable κ ν :=
  ⟨t.entries.filter fun e => !p e.1 e.2, t.nodupKeys.sublist List.filter_sublist⟩

/-- The entries that satisfy `p`, in the order of the table. -/
def stolen (t : HashTable κ ν) (p : κ → ν → Bool) : List (κ × ν) :=
  (t.entries.filter fun e => p e.1 e.2).map fun e => (e.1, e.2)

theorem mem_entries {t : HashTable κ ν} {k : κ} {v : ν} :
    ⟨k, v⟩ ∈ t.entries ↔ t.lookup k = some v :=
  AList.mem_lookup_iff.symm

theorem mem_values {t : HashTable κ ν} {v : ν} : v ∈ t.values ↔ ∃ k, t.lookup k = some v := by
  constructor
  · intro h
    obtain ⟨⟨k, _⟩, hmem, rfl⟩ := List.mem_map.mp h
    exact ⟨k, mem_entries.mp hmem⟩
  · rintro ⟨k, h⟩
    exact List.mem_map.mpr ⟨⟨k, v⟩, mem_entries.mpr h, rfl⟩

theorem lookup_keep {t : HashTable κ ν} {p : κ → ν → Bool} {k : κ} {v : ν} :
    (t.keep p).lookup k = some v ↔ t.lookup k = some v ∧ p k v = false := by
  rw [← mem_entries, ← mem_entries, keep, List.mem_filter]
  simp

theorem mem_stolen {t : HashTable κ ν} {p : κ → ν → Bool} {k : κ} {v : ν} :
    (k, v) ∈ t.stolen p ↔ t.lookup k = some v ∧ p k v = true := by
  rw [← mem_entries, stolen, List.mem_map]
  constructor
  · rintro ⟨⟨_, _⟩, hmem, h⟩
    cases h
    exact List.mem_filter.mp hmem
  · intro h
    exact ⟨⟨k, v⟩, List.mem_filter.mpr h, rfl⟩

omit [DecidableEq κ] in
theorem nodup_stolen (t : HashTable κ ν) (p : κ → ν → Bool) :
    ((t.stolen p).map Prod.fst).Nodup := by
  have h : (t.entries.filter fun e => p e.1 e.2).NodupKeys :=
    t.nodupKeys.sublist List.filter_sublist
  rw [stolen, List.map_map]
  exact h

theorem lookup_insert_iff {t : HashTable κ ν} {k k' : κ} {v v' : ν} :
    (t.insert k v).lookup k' = some v' ↔
      (k' = k ∧ v' = v) ∨ (k' ≠ k ∧ t.lookup k' = some v') := by
  by_cases h : k' = k
  · subst h
    rw [AList.lookup_insert]
    simp [eq_comm]
  · rw [AList.lookup_insert_ne h]
    simp [h]

theorem lookup_erase_iff {t : HashTable κ ν} {k k' : κ} {v : ν} :
    (t.erase k).lookup k' = some v ↔ k' ≠ k ∧ t.lookup k' = some v := by
  by_cases h : k' = k
  · subst h
    rw [AList.lookup_erase]
    simp
  · rw [AList.lookup_erase_ne h]
    simp [h]

theorem lookup_erase_eq (t : HashTable κ ν) (k k' : κ) :
    (t.erase k).lookup k' = if k' = k then none else t.lookup k' := by
  split
  · rename_i heq
    rw [heq]
    exact AList.lookup_erase _ _
  · rename_i hne
    exact AList.lookup_erase_ne hne

/-- There is at most one entry of a key. -/
theorem filter_entries (t : HashTable κ ν) (k : κ) :
    t.entries.filter (fun e => e.1 = k) = (t.lookup k).toList.map fun v => ⟨k, v⟩ := by
  obtain ⟨entries, hnodup⟩ := t
  show entries.filter (fun e => e.1 = k) = (entries.dlookup k).toList.map fun v => ⟨k, v⟩
  induction entries with
  | nil => rfl
  | cons e entries ih =>
    obtain ⟨k', v⟩ := e
    obtain ⟨hnotin, hnodup⟩ := List.nodupKeys_cons.mp hnodup
    by_cases hkey : k' = k
    · subst hkey
      have hrest : entries.filter (fun e => e.1 = k') = [] := by
        apply List.filter_eq_nil_iff.mpr
        intro e hmem heq
        have hkeys : e.1 ∈ entries.keys := List.mem_keys_of_mem hmem
        exact hnotin (by simpa [decide_eq_true_iff.mp heq] using hkeys)
      rw [List.filter_cons_of_pos (by simp), hrest, List.dlookup_cons_eq]
      rfl
    · rw [List.filter_cons_of_neg (by simpa using hkey), ih hnodup,
        List.dlookup_cons_ne _ _ (Ne.symm hkey)]

/-- A loop that collects the elements of a list by a key: the value of a key
    is collected from the elements with that key. -/
theorem lookup_foldl_insert {α : Type} (key : α → κ) (f : Option ν → α → ν) (as : List α)
    (t : HashTable κ ν) (k : κ) :
    (as.foldl (fun t a => t.insert (key a) (f (t.lookup (key a)) a)) t).lookup k =
      (as.filter fun a => key a = k).foldl (fun v a => some (f v a)) (t.lookup k) := by
  induction as generalizing t with
  | nil => rfl
  | cons a as ih =>
    rw [List.foldl_cons, ih]
    by_cases hkey : key a = k
    · subst hkey
      rw [List.filter_cons_of_pos (by simp), List.foldl_cons, AList.lookup_insert]
    · rw [List.filter_cons_of_neg (by simpa using hkey), AList.lookup_insert_ne (Ne.symm hkey)]

/-- The values after an insertion under a new key. -/
theorem mem_values_insert {t : HashTable κ ν} {k : κ} {v v' : ν} (h : t.lookup k = none) :
    v' ∈ HashTable.values (t.insert k v) ↔ v' = v ∨ v' ∈ t.values := by
  rw [mem_values, mem_values]
  constructor
  · rintro ⟨k', h'⟩
    rcases lookup_insert_iff.mp h' with ⟨-, rfl⟩ | ⟨-, h'⟩
    · exact .inl rfl
    · exact .inr ⟨k', h'⟩
  · rintro (rfl | ⟨k', h'⟩)
    · exact ⟨k, AList.lookup_insert _⟩
    · refine ⟨k', lookup_insert_iff.mpr (.inr ⟨?_, h'⟩)⟩
      rintro rfl
      rw [h] at h'
      cases h'

/-- The values after the key of `v`, its only one, is erased. -/
theorem mem_values_erase {t : HashTable κ ν} {k : κ} {v v' : ν} (h : t.lookup k = some v)
    (honly : ∀ k', t.lookup k' = some v → k' = k) :
    v' ∈ HashTable.values (t.erase k) ↔ v' ≠ v ∧ v' ∈ t.values := by
  rw [mem_values, mem_values]
  constructor
  · rintro ⟨k', h'⟩
    obtain ⟨hne, h'⟩ := lookup_erase_iff.mp h'
    refine ⟨?_, k', h'⟩
    rintro rfl
    exact hne (honly k' h')
  · rintro ⟨hne, k', h'⟩
    refine ⟨k', lookup_erase_iff.mpr ⟨?_, h'⟩⟩
    rintro rfl
    rw [h] at h'
    exact hne (Option.some.inj h').symm

/-- One more key than the table has entries are not all in it. -/
theorem exists_lookup_eq_none (t : HashTable κ ν) (f : Nat → κ)
    (hinj : ∀ i ≤ t.entries.length, ∀ j ≤ t.entries.length, f i = f j → i = j) :
    ∃ i ≤ t.entries.length, t.lookup (f i) = none := by
  by_contra hall
  have hsome : ∀ i ≤ t.entries.length, f i ∈ t.keys := by
    intro i hi
    by_contra hnot
    exact hall ⟨i, hi, AList.lookup_eq_none.mpr hnot⟩
  have hnodup : ((List.range (t.entries.length + 1)).map f).Nodup := by
    apply List.Nodup.map_on _ List.nodup_range
    intro i hi j hj heq
    exact hinj i (Nat.le_of_lt_succ (List.mem_range.mp hi)) j
      (Nat.le_of_lt_succ (List.mem_range.mp hj)) heq
  have hsubset : (List.range (t.entries.length + 1)).map f ⊆ t.keys := by
    intro k hk
    obtain ⟨i, hi, rfl⟩ := List.mem_map.mp hk
    exact hsome i (Nat.le_of_lt_succ (List.mem_range.mp hi))
  have hlength := (List.subperm_of_subset hnodup hsubset).length_le
  have hkeys : t.keys.length = t.entries.length := List.length_map _
  rw [List.length_map, List.length_range, hkeys] at hlength
  omega

end HashTable
