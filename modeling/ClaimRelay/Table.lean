/-! Tables: lists of entries, searched from the front.  `put` replaces the entry of a key where it
stands and adds a new key at the end, so a table built by `put` alone has each key once, in the
order in which the keys came. -/

namespace ClaimRelay

/-- A table from keys to values. -/
abbrev Table (κ α : Type) := List (κ × α)

namespace Table

variable {κ α : Type} [DecidableEq κ]

/-- The value of a key. -/
def get? : Table κ α → κ → Option α
  | [], _ => none
  | (k, v) :: rest, key => if k = key then some v else get? rest key

/-- The table in which `key` has the given value. -/
def put (key : κ) (value : α) : Table κ α → Table κ α
  | [] => [(key, value)]
  | (k, v) :: rest => if k = key then (k, value) :: rest else (k, v) :: put key value rest

/-- The table without `key`. -/
def erase (key : κ) : Table κ α → Table κ α
  | [] => []
  | (k, v) :: rest => if k = key then erase key rest else (k, v) :: erase key rest

@[simp] theorem get?_nil (key : κ) : get? ([] : Table κ α) key = none := rfl

theorem get?_put (table : Table κ α) (key other : κ) (value : α) :
    get? (put key value table) other = if key = other then some value else get? table other := by
  induction table with
  | nil => simp [put, get?]
  | cons entry rest ih =>
    obtain ⟨k, v⟩ := entry
    by_cases hk : k = key
    · subst hk
      by_cases h : k = other <;> simp [put, get?, h]
    · by_cases h : k = other
      · subst h
        simp [put, get?, hk, Ne.symm hk]
      · simp [put, get?, hk, h, ih]

theorem length_put (table : Table κ α) (key : κ) (value : α) :
    (put key value table).length = table.length + if (get? table key).isSome then 0 else 1 := by
  induction table with
  | nil => simp [put]
  | cons entry rest ih =>
    obtain ⟨k, v⟩ := entry
    by_cases hk : k = key
    · simp [put, get?, hk]
    · simp [put, get?, hk, ih]
      omega

theorem get?_erase (table : Table κ α) (key other : κ) :
    get? (erase key table) other = if key = other then none else get? table other := by
  induction table with
  | nil => simp [erase]
  | cons entry rest ih =>
    obtain ⟨k, v⟩ := entry
    grind [erase, get?]

theorem put_put (table : Table κ α) (key : κ) (first second : α) :
    put key second (put key first table) = put key second table := by
  induction table with
  | nil => simp [put]
  | cons entry rest ih =>
    obtain ⟨k, v⟩ := entry
    by_cases hk : k = key
    · simp [put, hk]
    · simp [put, hk, ih]

theorem erase_of_get?_eq_none {table : Table κ α} {key : κ} (h : get? table key = none) :
    erase key table = table := by
  induction table with
  | nil => rfl
  | cons entry rest ih =>
    obtain ⟨k, v⟩ := entry
    by_cases hk : k = key
    · simp [get?, hk] at h
    · rw [get?, if_neg hk] at h
      rw [erase, if_neg hk, ih h]

/-- What is put in for a key makes no difference once the key is erased. -/
theorem erase_put (table : Table κ α) (key : κ) (value : α) :
    erase key (put key value table) = erase key table := by
  induction table with
  | nil => simp [put, erase]
  | cons entry rest ih =>
    obtain ⟨k, v⟩ := entry
    by_cases hk : k = key
    · simp [put, erase, hk]
    · simp [put, erase, hk, ih]

theorem isSome_get? (table : Table κ α) (key : κ) :
    (get? table key).isSome ↔ key ∈ table.map (·.1) := by
  induction table with
  | nil => simp
  | cons entry rest ih =>
    obtain ⟨k, v⟩ := entry
    by_cases hk : k = key
    · simp [get?, hk]
    · rw [get?, if_neg hk, ih]
      simp [Ne.symm hk]

theorem keys_erase (table : Table κ α) (key : κ) :
    (erase key table).map (·.1) = (table.map (·.1)).filter (· ≠ key) := by
  induction table with
  | nil => rfl
  | cons entry rest ih =>
    obtain ⟨k, v⟩ := entry
    by_cases hk : k = key
    · simp [erase, hk, ih]
    · simp [erase, hk, ih]

theorem keys_put (table : Table κ α) (key : κ) (value : α) :
    (put key value table).map (·.1) =
      if (get? table key).isSome then table.map (·.1) else table.map (·.1) ++ [key] := by
  induction table with
  | nil => rfl
  | cons entry rest ih =>
    obtain ⟨k, v⟩ := entry
    by_cases hk : k = key
    · simp [put, get?, hk]
    · simp only [put, get?, if_neg hk, List.map_cons, ih]
      split <;> rfl

/-- A new value does not make a key occur twice. -/
theorem nodup_put {table : Table κ α} (h : (table.map (·.1)).Nodup) (key : κ) (value : α) :
    ((put key value table).map (·.1)).Nodup := by
  rw [keys_put]
  split
  · exact h
  · rename_i hnew
    rw [isSome_get?] at hnew
    rw [List.nodup_append]
    refine ⟨h, by simp, ?_⟩
    intro k hk other hother hsame
    rw [List.mem_singleton] at hother
    exact hnew (hother ▸ hsame ▸ hk)

theorem mem_of_get? {table : Table κ α} {key : κ} {value : α} (h : get? table key = some value) :
    (key, value) ∈ table := by
  induction table with
  | nil => simp at h
  | cons entry rest ih =>
    obtain ⟨k, v⟩ := entry
    by_cases hk : k = key
    · rw [get?, if_pos hk] at h
      rw [hk, Option.some.inj h]
      exact List.mem_cons_self
    · rw [get?, if_neg hk] at h
      exact List.mem_cons_of_mem _ (ih h)

theorem get?_of_mem {table : Table κ α} (h : (table.map (·.1)).Nodup) {key : κ} {value : α}
    (hmem : (key, value) ∈ table) : get? table key = some value := by
  induction table with
  | nil => simp at hmem
  | cons entry rest ih =>
    obtain ⟨k, v⟩ := entry
    obtain ⟨hnew, hrest⟩ := List.nodup_cons.mp h
    rcases List.mem_cons.mp hmem with heq | hmem
    · obtain ⟨rfl, rfl⟩ := Prod.mk.inj heq
      rw [get?, if_pos rfl]
    · have hne : k ≠ key := by
        rintro rfl
        exact hnew (List.mem_map.mpr ⟨(k, value), hmem, rfl⟩)
      rw [get?, if_neg hne, ih hrest hmem]

theorem get?_append (front back : Table κ α) (key : κ) :
    get? (front ++ back) key = (get? front key).or (get? back key) := by
  induction front with
  | nil => rfl
  | cons entry rest ih =>
    obtain ⟨k, v⟩ := entry
    by_cases hk : k = key
    · simp [get?, hk]
    · simp [get?, hk, ih]

/-- A key that the front of a table does not have is put in the back. -/
theorem put_append {front : Table κ α} {key : κ} (h : get? front key = none) (back : Table κ α)
    (value : α) : put key value (front ++ back) = front ++ put key value back := by
  induction front with
  | nil => rfl
  | cons entry rest ih =>
    obtain ⟨k, v⟩ := entry
    by_cases hk : k = key
    · simp [get?, hk] at h
    · rw [get?, if_neg hk] at h
      simp [put, hk, ih h]

end Table

end ClaimRelay
