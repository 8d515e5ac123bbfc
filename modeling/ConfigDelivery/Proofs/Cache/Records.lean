import ConfigDelivery.Cache.Records
/-!
# What a record cache holds

Keys of different kinds or of different identifiers never meet. A cache is faithful when the texts
that it answers are among those it holds, and it comes to hold a text only by being told to keep it,
until it is told to drop or to replace it. It may lose texts whenever it likes: nothing is said
about the time that it holds one.
-/

namespace ConfigDelivery.Cache

/-- No two configurations share a key. -/
theorem configKey_injective {left right : String} (same : configKey left = configKey right) :
    left = right := by
  simpa [configKey, ← String.toList_inj] using same

/-- No two codes share a key. -/
theorem codeKey_injective {left right : String} (same : codeKey left = codeKey right) :
    left = right := by
  simpa [codeKey, ← String.toList_inj] using same

/-- No configuration shares a key with a code. -/
theorem configKey_ne_codeKey (configId codeId : String) : configKey configId ≠ codeKey codeId := by
  simp [configKey, codeKey, ← String.toList_inj]

variable {State : Type}

/-- A cache is faithful to the texts that it `Holds` under its keys. -/
structure RecordCacheOps.Faithful (records : RecordCacheOps State)
    (Holds : State → String → String → Prop) : Prop where
  /-- A text that is answered is held. -/
  get_answers : ∀ {state now key text after},
    records.get state now key = (.ok (some text), after) → Holds state key text
  /-- Reading makes no text appear. -/
  get_holds : ∀ {state now key other text},
    Holds (records.get state now key).2 other text → Holds state other text
  /-- A text appears under the key that it is kept under, in place of the one before. -/
  set_holds : ∀ {state now key text timeToLive other held},
    Holds (records.set state now key text timeToLive).2 other held →
      (other = key ∧ held = text) ∨ (other ≠ key ∧ Holds state other held)
  /-- A key that is dropped holds nothing. -/
  remove_holds : ∀ {state key other held},
    Holds (records.remove state key).2 other held → other ≠ key ∧ Holds state other held

/-- The entries after an attempt to drop a key: all but its own, or all of them if it fails. -/
def dropped {Entry : Type} (entries : String → Option Entry) (key : String) :
    Except Failure Unit → String → Option Entry
  | .ok () => fun other => if other = key then none else entries other
  | .error _ => entries

/-- A cache drops its entries one by one. -/
def RecordCacheOps.Drops {Entry : Type} (records : RecordCacheOps State)
    (entries : State → String → Option Entry) : Prop :=
  ∀ state key, let (result, after) := records.remove state key
    entries after = dropped (entries state) key result

namespace MemoryRecordCache

/-- The entries of a cache in memory. -/
def entryOf (cache : MemoryRecordCache) : String → Option RecordEntry := cache.entries.find?

/-- The cache in memory drops its entries one by one. -/
theorem drops : ops.Drops entryOf := by
  intro cache key
  funext other
  simp only [ops, remove, entryOf, dropped, Table.find?_erase, eq_comm]

/-- There is an entry with a text, whether it has expired or not. -/
def Holds (cache : MemoryRecordCache) (key text : String) : Prop :=
  ∃ entry, cache.entries.find? key = some entry ∧ entry.value = text

theorem not_holds_empty (key text : String) : ¬ ({} : MemoryRecordCache).Holds key text := by
  rintro ⟨entry, found, _⟩
  cases found

/-- The cache in memory is faithful to its entries. -/
theorem faithful : ops.Faithful Holds where
  get_answers := by
    intro cache now key text after answered
    simp only [ops, get] at answered
    split at answered
    · cases answered
    · rename_i entry found
      split at answered <;> cases answered
      exact ⟨entry, found, rfl⟩
  get_holds := by
    rintro cache now key other text ⟨entry, found, rfl⟩
    simp only [ops, get] at found
    split at found
    · exact ⟨entry, found, rfl⟩
    · split at found
      · exact ⟨entry, found, rfl⟩
      · rw [Table.find?_erase] at found
        split at found
        · cases found
        · exact ⟨entry, found, rfl⟩
  set_holds := by
    rintro cache now key text timeToLive other held ⟨entry, found, rfl⟩
    simp only [ops, set, Table.find?_insert] at found
    split at found
    · rename_i same
      cases found
      exact .inl ⟨same.symm, rfl⟩
    · rename_i different
      exact .inr ⟨Ne.symm different, entry, found, rfl⟩
  remove_holds := by
    rintro cache key other held ⟨entry, found, rfl⟩
    simp only [ops, remove, Table.find?_erase] at found
    split at found
    · cases found
    · rename_i different
      exact ⟨Ne.symm different, entry, found, rfl⟩

end MemoryRecordCache

end ConfigDelivery.Cache
