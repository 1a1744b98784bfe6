/-
Tables: finite maps that remember in which order their keys came first.

A later binding of a key replaces the value and keeps the place of the key.
-/

namespace Abacus

/-- A finite map from keys to values, in order of first binding. -/
structure Table (κ ν : Type) where
  entries : List (κ × ν)
  keys_nodup : (entries.map Prod.fst).Nodup

namespace Table

variable {κ ν : Type}

def empty : Table κ ν := ⟨[], .nil⟩

def toList (t : Table κ ν) : List (κ × ν) := t.entries

def keys (t : Table κ ν) : List κ := t.entries.map Prod.fst

section

variable [DecidableEq κ]

/-- The value under a key in a list of entries. -/
def lookup (k : κ) : List (κ × ν) → Option ν
  | [] => none
  | (key, value) :: rest => if key = k then some value else lookup k rest

/-- The list of entries with one key bound anew. -/
def update (k : κ) (v : ν) : List (κ × ν) → List (κ × ν)
  | [] => [(k, v)]
  | (key, value) :: rest => if key = k then (k, v) :: rest else (key, value) :: update k v rest

theorem mem_keys_update {k x : κ} {v : ν} {entries : List (κ × ν)} :
    x ∈ (update k v entries).map Prod.fst ↔ x = k ∨ x ∈ entries.map Prod.fst := by
  induction entries with
  | nil => simp [update]
  | cons entry rest ih =>
    obtain ⟨key, value⟩ := entry
    by_cases h : key = k
    · subst h; simp [update]
    · simp only [update, if_neg h, List.map_cons, List.mem_cons, ih]
      constructor
      · rintro (h | h | h) <;> simp [h]
      · rintro (h | h | h) <;> simp [h]

theorem nodup_keys_update {k : κ} {v : ν} {entries : List (κ × ν)}
    (h : (entries.map Prod.fst).Nodup) : ((update k v entries).map Prod.fst).Nodup := by
  induction entries with
  | nil => simp [update]
  | cons entry rest ih =>
    obtain ⟨key, value⟩ := entry
    simp only [List.map_cons, List.nodup_cons] at h
    by_cases hk : key = k
    · subst hk; simpa [update] using h
    · simp only [update, if_neg hk, List.map_cons, List.nodup_cons, mem_keys_update, not_or]
      exact ⟨⟨hk, h.1⟩, ih h.2⟩

def find? (t : Table κ ν) (k : κ) : Option ν :=
  lookup k t.entries

def contains (t : Table κ ν) (k : κ) : Bool :=
  (t.find? k).isSome

def insert (t : Table κ ν) (k : κ) (v : ν) : Table κ ν :=
  ⟨update k v t.entries, nodup_keys_update t.keys_nodup⟩

/-- The table that binds the given pairs one after the other. -/
def ofList (pairs : List (κ × ν)) : Table κ ν :=
  pairs.foldl (fun t pair => t.insert pair.1 pair.2) empty

/-! ## What an operation does to the view -/

theorem lookup_update (k x : κ) (v : ν) (entries : List (κ × ν)) :
    lookup x (update k v entries) = if k = x then some v else lookup x entries := by
  induction entries with
  | nil => simp [update, lookup]
  | cons entry rest ih =>
    obtain ⟨key, value⟩ := entry
    by_cases hk : key = k
    · subst hk
      by_cases hx : key = x <;> simp [update, lookup, hx]
    · by_cases hx : key = x
      · subst hx
        simp [update, lookup, hk, Ne.symm hk]
      · simp [update, lookup, hk, hx, ih]

@[simp] theorem find?_empty (k : κ) : (empty : Table κ ν).find? k = none := rfl

theorem find?_insert (t : Table κ ν) (k x : κ) (v : ν) :
    (t.insert k v).find? x = if k = x then some v else t.find? x :=
  lookup_update k x v t.entries

theorem mem_keys_of_lookup {k : κ} {v : ν} {entries : List (κ × ν)} (h : lookup k entries = some v) :
    k ∈ entries.map Prod.fst := by
  induction entries with
  | nil => cases h
  | cons entry rest ih =>
    obtain ⟨key, value⟩ := entry
    by_cases hk : key = k
    · simp [hk]
    · rw [lookup, if_neg hk] at h
      exact List.mem_cons_of_mem _ (ih h)

theorem mem_keys_of_contains {t : Table κ ν} {k : κ} (h : t.contains k = true) : k ∈ t.keys := by
  obtain ⟨v, found⟩ := Option.isSome_iff_exists.mp h
  exact mem_keys_of_lookup found

theorem keys_update (k : κ) (v : ν) (entries : List (κ × ν)) :
    (update k v entries).map Prod.fst =
      if k ∈ entries.map Prod.fst then entries.map Prod.fst else entries.map Prod.fst ++ [k] := by
  induction entries with
  | nil => rfl
  | cons entry rest ih =>
    obtain ⟨key, value⟩ := entry
    by_cases hk : key = k
    · simp [update, hk]
    · simp only [update, if_neg hk, List.map_cons, ih, List.mem_cons, Ne.symm hk, false_or]
      split <;> simp

theorem keys_insert (t : Table κ ν) (k : κ) (v : ν) :
    (t.insert k v).keys = if k ∈ t.keys then t.keys else t.keys ++ [k] :=
  keys_update k v t.entries

theorem mem_keys_insert {t : Table κ ν} {k x : κ} {v : ν} :
    x ∈ (t.insert k v).keys ↔ x = k ∨ x ∈ t.keys :=
  mem_keys_update

/-! ## Pairs bound one after the other -/

/-- The table with pairs bound one after the other. -/
def insertAll (t : Table κ ν) (pairs : List (κ × ν)) : Table κ ν :=
  pairs.foldl (fun t pair => t.insert pair.1 pair.2) t

theorem mem_of_find?_insertAll {t : Table κ ν} {pairs : List (κ × ν)} {k : κ} {v : ν}
    (h : (t.insertAll pairs).find? k = some v) : (k, v) ∈ pairs ∨ t.find? k = some v := by
  induction pairs generalizing t with
  | nil => exact .inr h
  | cons pair pairs ih =>
    obtain ⟨key, value⟩ := pair
    rcases ih h with later | before
    · exact .inl (List.mem_cons_of_mem _ later)
    · rw [find?_insert] at before
      split at before
      next same =>
        cases before
        obtain rfl : key = k := same
        exact .inl List.mem_cons_self
      next => exact .inr before

theorem contains_insertAll {t : Table κ ν} {pairs : List (κ × ν)} {k : κ}
    (h : k ∈ pairs.map Prod.fst ∨ t.contains k = true) : (t.insertAll pairs).contains k = true := by
  induction pairs generalizing t with
  | nil => simpa [insertAll] using h
  | cons pair pairs ih =>
    apply ih
    rw [List.map_cons, List.mem_cons] at h
    rcases h with (rfl | later) | before
    · right
      rw [contains, find?_insert, if_pos rfl]
      rfl
    · exact .inl later
    · right
      rw [contains, find?_insert]
      split
      · rfl
      · exact before

end

end Table

end Abacus
