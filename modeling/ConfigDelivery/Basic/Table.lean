/-!
# Tables

Finite maps from texts, kept as a list of entries in the order in which their
keys first came. Main statements: looking a key up after an insertion or a
removal, and the keys afterwards.
-/

namespace ConfigDelivery

/-- A finite map from texts. -/
structure Table (Entry : Type) where
  entries : List (String × Entry) := []
  deriving Repr, Inhabited

namespace Table

variable {Entry : Type}

/-- The entry of a key in a list of entries. -/
def findIn (key : String) : List (String × Entry) → Option Entry
  | [] => none
  | (other, entry) :: rest => if other = key then some entry else findIn key rest

/-- Replace the entry of a key, or add it at the end. -/
def insertIn (key : String) (entry : Entry) : List (String × Entry) → List (String × Entry)
  | [] => [(key, entry)]
  | (other, old) :: rest =>
    if other = key then (key, entry) :: rest else (other, old) :: insertIn key entry rest

/-- The table without entries. -/
def empty : Table Entry := {}

/-- The entry of a key. -/
def find? (table : Table Entry) (key : String) : Option Entry := findIn key table.entries

/-- The table has an entry of a key. -/
def contains (table : Table Entry) (key : String) : Bool := (table.find? key).isSome

/-- Set the entry of a key. -/
def insert (table : Table Entry) (key : String) (entry : Entry) : Table Entry :=
  ⟨insertIn key entry table.entries⟩

/-- Drop the entry of a key. -/
def erase (table : Table Entry) (key : String) : Table Entry :=
  ⟨table.entries.filter fun entry => entry.1 ≠ key⟩

/-- The number of entries. -/
def size (table : Table Entry) : Nat := table.entries.length

/-- The keys of a table. -/
def keys (table : Table Entry) : List String := table.entries.map Prod.fst

/-- After an entry was put in, its key finds it, and every other key finds what it found before. -/
theorem findIn_insertIn (key other : String) (entry : Entry) (entries : List (String × Entry)) :
    findIn other (insertIn key entry entries)
      = if key = other then some entry else findIn other entries := by
  induction entries with
  | nil => simp [insertIn, findIn]
  | cons head rest ih =>
    obtain ⟨name, old⟩ := head
    by_cases same : name = key
    · subst same
      by_cases equal : name = other <;> simp [insertIn, findIn, equal]
    · by_cases equal : name = other
      · subst equal
        simp [insertIn, findIn, same, Ne.symm same]
      · simp [insertIn, findIn, same, equal, ih]

/-- Looking up after an insertion gives the new entry under its key and the old ones elsewhere. -/
@[simp] theorem find?_insert (table : Table Entry) (key other : String) (entry : Entry) :
    (table.insert key entry).find? other
      = if key = other then some entry else table.find? other :=
  findIn_insertIn key other entry table.entries

/-- Looking up after a removal finds nothing under the key and the old entries elsewhere. -/
@[simp] theorem find?_erase (table : Table Entry) (key other : String) :
    (table.erase key).find? other = if key = other then none else table.find? other := by
  obtain ⟨entries⟩ := table
  simp only [find?, erase]
  induction entries with
  | nil => simp [findIn]
  | cons head rest ih =>
    obtain ⟨name, old⟩ := head
    by_cases same : name = key
    · subst same
      by_cases equal : name = other
      · subst equal
        simpa [findIn] using ih
      · simpa [findIn, equal] using ih
    · by_cases equal : name = other
      · subst equal
        simp [findIn, same, Ne.symm same]
      · simpa [findIn, same, equal] using ih

/-- A table contains the keys it lists. -/
theorem contains_iff_mem_keys (table : Table Entry) (key : String) :
    table.contains key = true ↔ key ∈ table.keys := by
  obtain ⟨entries⟩ := table
  simp only [contains, find?, keys]
  induction entries with
  | nil => simp [findIn]
  | cons head rest ih =>
    obtain ⟨name, entry⟩ := head
    by_cases same : name = key
    · simp [findIn, same]
    · simp [findIn, same, Ne.symm same, ih]

/-- The size of a table is the number of its keys. -/
theorem size_eq_length_keys (table : Table Entry) : table.size = table.keys.length := by
  rw [size, keys, List.length_map]

/-- What is erased is no longer listed, and the others stay in their order. -/
@[simp] theorem keys_erase (table : Table Entry) (key : String) :
    (table.erase key).keys = table.keys.filter fun other => other ≠ key := by
  simp only [keys, erase, List.filter_map]
  rfl

/-- A key that was not there comes last. -/
theorem keys_insert_of_notMem (table : Table Entry) {key : String} (fresh : key ∉ table.keys)
    (entry : Entry) : (table.insert key entry).keys = table.keys ++ [key] := by
  obtain ⟨entries⟩ := table
  simp only [keys, insert] at fresh ⊢
  induction entries with
  | nil => rfl
  | cons head rest ih =>
    obtain ⟨name, old⟩ := head
    obtain ⟨different, fresh⟩ := List.ne_and_not_mem_of_not_mem_cons fresh
    rw [insertIn, if_neg (Ne.symm different), List.map_cons, List.map_cons, ih fresh,
      List.cons_append]

/-- A key that was there keeps its place. -/
theorem keys_insert_of_mem (table : Table Entry) {key : String} (present : key ∈ table.keys)
    (entry : Entry) : (table.insert key entry).keys = table.keys := by
  obtain ⟨entries⟩ := table
  simp only [keys, insert] at present ⊢
  induction entries with
  | nil => cases present
  | cons head rest ih =>
    obtain ⟨name, old⟩ := head
    rw [insertIn]
    split
    · rename_i same
      rw [List.map_cons, List.map_cons, same]
    · rename_i different
      have inside := (List.mem_cons.mp present).resolve_left (Ne.symm different)
      rw [List.map_cons, List.map_cons, ih inside]

/-- No key comes twice after an insertion either. -/
theorem nodup_keys_insert {table : Table Entry} (distinct : table.keys.Nodup) (key : String)
    (entry : Entry) : (table.insert key entry).keys.Nodup := by
  by_cases present : key ∈ table.keys
  · rw [keys_insert_of_mem table present]
    exact distinct
  · rw [keys_insert_of_notMem table present, List.nodup_append]
    refine ⟨distinct, by simp, ?_⟩
    rintro other inside last isLast rfl
    exact present (List.mem_singleton.mp isLast ▸ inside)

end Table

end ConfigDelivery
