import ConfigDelivery.Proofs.Basic.Simulation
import ConfigDelivery.Proofs.Cache.Records
import Mathlib.Data.List.Induction
/-!
# Record texts expire

A record cache in memory drops an expired text only when it is next read. What it answers is told by
the history of what was asked of it all the same: a text is answered from when it was last kept
until its time is over, unless its key was dropped. Which expired texts were read in between shows
in the size alone. The clock has an end: to keep a text until an instant beyond it is not possible,
and who asks for that is told so by a panic, after which the cache is what it was.
-/

namespace ConfigDelivery.Cache

/-- What can be asked of a record cache, with the time that the clock shows if the cache reads
it. -/
inductive RecordOperation where
  | get (now : Instant) (key : String)
  | set (now : Instant) (key value : String) (timeToLive : Duration)
  | remove (key : String)
  deriving DecidableEq, Repr

/-- What is answered: a text or nothing, that the operation is done, or a panic. -/
inductive RecordAnswer where
  | read (text? : Option String)
  | done
  | panicked
  deriving DecidableEq

namespace RecordOperation

/-- The key that an operation is about. -/
def key : RecordOperation → String
  | get _ key | set _ key _ _ | remove key => key

/-- The time that an operation reads off the clock. -/
def reading? : RecordOperation → Option Instant
  | get now _ | set now _ _ _ => some now
  | remove _ => none

/-- An operation asks to keep a text until an instant that the clock cannot show. -/
def Overflows : RecordOperation → Prop
  | set now _ _ timeToLive => now.after? timeToLive = none
  | get _ _ | remove _ => False

/-- An operation keeps a text under a key, or drops the key. One that panics does neither: it never
returns, and leaves what was there. -/
def Writes (key : String) : RecordOperation → Prop
  | get _ _ => False
  | set now other _ timeToLive => other = key ∧ (now.after? timeToLive).isSome = true
  | remove other => other = key

/-- An operation reads a key at an instant or later. -/
def ReadsSince (instant : Instant) (key : String) : RecordOperation → Prop
  | get now other => other = key ∧ instant ≤ now
  | set _ _ _ _ | remove _ => False

end RecordOperation

/-- The answers of a record cache in memory. -/
def ClockedCache.perform : Machine ClockedCache RecordOperation RecordAnswer
  | cache, .get now key =>
    let (text?, after) := cache.get now key
    (.read text?, after)
  | cache, .set now key value timeToLive =>
    let answer := if (now.after? timeToLive).isSome then .done else .panicked
    (answer, cache.set now key value timeToLive)
  | cache, .remove key => (.done, cache.remove key)

/-! ## Histories -/

variable {history since : List RecordOperation} {key value : String} {setAt : Instant}
  {timeToLive : Duration} {entry : RecordEntry}

/-- The last operation that wrote a key was to keep a text, and did, with the operations since
then. -/
def IsLastSet (history : List RecordOperation) (key value : String) (setAt : Instant)
    (timeToLive : Duration) (since : List RecordOperation) : Prop :=
  (setAt.after? timeToLive).isSome = true ∧
  ∃ earlier, history = earlier ++ .set setAt key value timeToLive :: since ∧
    ∀ operation ∈ since, ¬ operation.Writes key

/-- A text was kept, and since then its key was neither written nor read after the text had
expired. -/
def IsUncleared (history : List RecordOperation) (key : String) (entry : RecordEntry) : Prop :=
  ∃ setAt timeToLive since, IsLastSet history key entry.value setAt timeToLive since ∧
    entry.expiresAt = setAt + timeToLive ∧
    ∀ operation ∈ since, ¬ operation.ReadsSince entry.expiresAt key

/-- One more operation is the last that wrote the key, or it is one of those since then. -/
theorem isLastSet_concat (operation : RecordOperation) :
    IsLastSet (history ++ [operation]) key value setAt timeToLive since ↔
      ((setAt.after? timeToLive).isSome = true ∧ operation = .set setAt key value timeToLive ∧
        since = []) ∨
      ∃ before, since = before ++ [operation] ∧ ¬ operation.Writes key ∧
        IsLastSet history key value setAt timeToLive before := by
  constructor
  · rintro ⟨shown, earlier, split, unwritten⟩
    -- Without an operation since then, the new one is the set itself.
    rcases List.eq_nil_or_concat since with rfl | ⟨before, last, rfl⟩
    · exact .inl ⟨shown, List.singleton_inj.mp (List.append_inj' split rfl).2, rfl⟩
    · have split : history ++ [operation]
          = (earlier ++ .set setAt key value timeToLive :: before) ++ [last] := by simpa using split
      obtain ⟨sameHistory, sameLast⟩ := List.append_inj' split rfl
      obtain rfl := List.singleton_inj.mp sameLast
      rw [List.concat_eq_append, List.forall_mem_append, List.forall_mem_singleton] at unwritten
      exact .inr ⟨before, List.concat_eq_append, unwritten.2, shown, earlier, sameHistory,
        unwritten.1⟩
  · rintro (⟨shown, rfl, rfl⟩ | ⟨before, rfl, unwritten, shown, earlier, rfl, others⟩)
    · exact ⟨shown, history, rfl, by simp⟩
    · refine ⟨shown, earlier, by simp, ?_⟩
      rw [List.forall_mem_append, List.forall_mem_singleton]
      exact ⟨others, unwritten⟩

/-- What an operation makes of the texts that are kept and uncleared. -/
theorem isUncleared_concat (operation : RecordOperation) :
    IsUncleared (history ++ [operation]) key entry ↔
      (∃ setAt timeToLive, operation = .set setAt key entry.value timeToLive ∧
        (setAt.after? timeToLive).isSome = true ∧ entry.expiresAt = setAt + timeToLive) ∨
      (IsUncleared history key entry ∧ ¬ operation.Writes key ∧
        ¬ operation.ReadsSince entry.expiresAt key) := by
  constructor
  · rintro ⟨setAt, timeToLive, since, lastSet, expires, unread⟩
    rcases (isLastSet_concat operation).mp lastSet with
      ⟨shown, same, rfl⟩ | ⟨before, rfl, unwritten, earlier⟩
    · exact .inl ⟨setAt, timeToLive, same, shown, expires⟩
    · rw [List.forall_mem_append, List.forall_mem_singleton] at unread
      exact .inr ⟨⟨setAt, timeToLive, before, earlier, expires, unread.1⟩, unwritten, unread.2⟩
  · rintro (⟨setAt, timeToLive, same, shown, expires⟩ |
      ⟨⟨setAt, timeToLive, before, earlier, expires, unread⟩, unwritten, unreadNow⟩)
    · exact ⟨setAt, timeToLive, [], (isLastSet_concat operation).mpr (.inl ⟨shown, same, rfl⟩),
        expires, by simp⟩
    · refine ⟨setAt, timeToLive, before ++ [operation],
        (isLastSet_concat operation).mpr (.inr ⟨before, rfl, unwritten, earlier⟩), expires, ?_⟩
      rw [List.forall_mem_append, List.forall_mem_singleton]
      exact ⟨unread, unreadNow⟩

theorem not_isUncleared_nil : ¬ IsUncleared [] key entry := by
  rintro ⟨_, _, _, ⟨_, _, split, _⟩, _⟩
  simp at split

/-- As long as the clock shows no time after a text has expired, no read can have cleared it. -/
theorem isUncleared_iff_of_lt {now : Instant} (young : now < entry.expiresAt)
    (notBack : ∀ reading ∈ history.filterMap RecordOperation.reading?, reading ≤ now) :
    IsUncleared history key entry ↔ ∃ setAt timeToLive since,
      IsLastSet history key entry.value setAt timeToLive since ∧
      entry.expiresAt = setAt + timeToLive := by
  refine exists_congr fun setAt => exists_congr fun timeToLive => exists_congr fun since =>
    and_congr_right ?_
  rintro ⟨_, earlier, rfl, _⟩
  refine and_iff_left fun operation inside readsSince => ?_
  cases operation with
  | get readAt other =>
    have shown : readAt ≤ now := notBack readAt
      (List.mem_filterMap.mpr ⟨.get readAt other, by simp [inside], rfl⟩)
    exact Nat.not_lt.mpr (Nat.le_trans readsSince.2 shown) young
  | set | remove => exact readsSince

/-! ## The cache in memory -/

/-- A read leaves every entry but that of its key if it has expired. -/
theorem MemoryRecordCache.find?_get (cache : MemoryRecordCache) (now : Instant) (other : String) :
    (cache.get now other).2.entries.find? key = some entry ↔
      cache.entries.find? key = some entry ∧ ¬ (other = key ∧ entry.expiresAt ≤ now) := by
  unfold get
  split
  · rename_i absent
    refine (and_iff_left_of_imp fun found => ?_).symm
    rintro ⟨rfl, _⟩
    rw [absent] at found
    cases found
  · rename_i held found
    split
    · rename_i young
      refine (and_iff_left_of_imp fun same => ?_).symm
      rintro ⟨rfl, expired⟩
      obtain rfl := Option.some.inj (found.symm.trans same)
      exact Nat.not_lt.mpr expired young
    · rename_i old
      rw [Table.find?_erase]
      by_cases same : other = key
      · subst same
        rw [if_pos rfl, found]
        refine iff_of_false (Option.some_ne_none _).symm ?_
        rintro ⟨isHeld, unexpired⟩
        obtain rfl := Option.some.inj isHeld
        exact unexpired ⟨rfl, Nat.not_lt.mp old⟩
      · simp [same]

namespace ClockedCache

variable {cache other : ClockedCache} {now : Instant}

/-- As long as the clock can show the expiry, a text is kept as without an end. -/
theorem set_eq (cache : ClockedCache) (now : Instant) (key value : String)
    (timeToLive : Duration) :
    cache.set now key value timeToLive =
      if (now.after? timeToLive).isSome then
        { cache with texts := cache.texts.set now key value timeToLive }
      else { cache with overflowed := true } := by
  unfold set Instant.after?
  by_cases shown : now + timeToLive < Instant.limit
  · rw [if_pos shown]
    rfl
  · rw [if_neg shown]
    rfl

/-- The entry of a key. -/
def find? (cache : ClockedCache) (key : String) : Option RecordEntry :=
  cache.texts.entries.find? key

/-- What an operation makes of the entry of a key: it puts it there, or it finds and leaves it. -/
theorem find?_perform (cache : ClockedCache) (operation : RecordOperation) :
    (cache.perform operation).2.find? key = some entry ↔
      (∃ setAt timeToLive, operation = .set setAt key entry.value timeToLive ∧
        (setAt.after? timeToLive).isSome = true ∧ entry.expiresAt = setAt + timeToLive) ∨
      (cache.find? key = some entry ∧ ¬ operation.Writes key ∧
        ¬ operation.ReadsSince entry.expiresAt key) := by
  cases operation with
  | get readAt other =>
    refine (cache.texts.find?_get readAt other).trans ?_
    simp [RecordOperation.Writes, RecordOperation.ReadsSince, find?]
  | set setAt other value timeToLive =>
    obtain ⟨text, expiresAt⟩ := entry
    change (cache.set setAt other value timeToLive).find? key = _ ↔ _
    rw [set_eq]
    by_cases shown : (setAt.after? timeToLive).isSome = true
    · rw [if_pos shown]
      change (cache.texts.entries.insert other ⟨value, setAt + timeToLive⟩).find? key = _ ↔ _
      rw [Table.find?_insert]
      by_cases same : other = key
      · subst same
        rw [if_pos rfl]
        constructor
        · intro isEntry
          cases isEntry
          exact .inl ⟨setAt, timeToLive, rfl, shown, rfl⟩
        · rintro (⟨_, _, isSet, _, rfl⟩ | ⟨_, unwritten, _⟩)
          · cases isSet
            rfl
          · exact absurd ⟨rfl, shown⟩ unwritten
      · simp [RecordOperation.Writes, RecordOperation.ReadsSince, same, find?]
    · rw [if_neg shown]
      simp [RecordOperation.Writes, RecordOperation.ReadsSince, shown, find?]
  | remove other =>
    change (cache.texts.entries.erase other).find? key = _ ↔ _
    rw [Table.find?_erase]
    by_cases same : other = key <;>
      simp [RecordOperation.Writes, RecordOperation.ReadsSince, same, find?]

/-- No operation puts in a second entry for a key. -/
theorem nodup_keys_perform (operation : RecordOperation)
    (distinct : cache.texts.entries.keys.Nodup) :
    (cache.perform operation).2.texts.entries.keys.Nodup := by
  have erased (key : String) : (cache.texts.entries.erase key).keys.Nodup := by
    rw [Table.keys_erase]
    exact distinct.filter _
  cases operation with
  | get now key =>
    change (cache.texts.get now key).2.entries.keys.Nodup
    unfold MemoryRecordCache.get
    split
    · exact distinct
    · split
      · exact distinct
      · exact erased key
  | set now key value timeToLive =>
    change (cache.set now key value timeToLive).texts.entries.keys.Nodup
    rw [set_eq]
    split
    · exact Table.nodup_keys_insert distinct key _
    · exact distinct
  | remove key => exact erased key

/-- An operation panics that asks for an instant which the clock cannot show, and it alone. -/
theorem perform_panicked_iff (cache : ClockedCache) (operation : RecordOperation) :
    (cache.perform operation).1 = .panicked ↔ operation.Overflows := by
  cases operation with
  | get | remove => simp [perform, RecordOperation.Overflows]
  | set now key value timeToLive =>
    dsimp only [perform, RecordOperation.Overflows]
    cases now.after? timeToLive <;> simp

/-- An operation that panics leaves the texts as they are. -/
theorem texts_perform_of_overflows {operation : RecordOperation} (overflows : operation.Overflows) :
    (cache.perform operation).2.texts = cache.texts := by
  cases operation with
  | get | remove => exact overflows.elim
  | set now key value timeToLive =>
    change (cache.set now key value timeToLive).texts = _
    have unshown : ¬ (now.after? timeToLive).isSome = true :=
      Option.not_isSome_iff_eq_none.mpr overflows
    rw [set_eq, if_neg unshown]

/-- The cache in memory after some operations, which started without texts. -/
def reached (history : List RecordOperation) : ClockedCache :=
  Machine.after perform {} history

/-- The entries of a cache are the texts that were kept and not cleared since. -/
theorem find?_reached (history : List RecordOperation) (key : String) (entry : RecordEntry) :
    (reached history).find? key = some entry ↔ IsUncleared history key entry := by
  -- Both sides come apart by the last operation, and in the same way.
  induction history using List.reverseRecOn with
  | nil => exact iff_of_false (Option.some_ne_none entry).symm not_isUncleared_nil
  | append_singleton history operation ih =>
    rw [reached, Machine.after_concat, find?_perform, isUncleared_concat]
    exact or_congr_right (and_congr_left' ih)

/-- Whatever happened, there is one entry for a key at most. -/
theorem nodup_keys_reached (history : List RecordOperation) :
    (reached history).texts.entries.keys.Nodup := by
  induction history using List.reverseRecOn with
  | nil => exact List.nodup_nil
  | append_singleton history operation ih =>
    rw [reached, Machine.after_concat]
    exact nodup_keys_perform operation ih

/-- An operation on another key leaves the entry of a key as it is. -/
theorem find?_perform_of_ne {operation : RecordOperation} (different : operation.key ≠ key) :
    (cache.perform operation).2.find? key = cache.find? key := by
  refine Option.ext fun entry => ?_
  rw [find?_perform]
  cases operation <;>
    simp_all [RecordOperation.Writes, RecordOperation.ReadsSince, RecordOperation.key]

/-- The entry of a key is that of a cache which was asked about this key alone. -/
theorem find?_reached_filter (history : List RecordOperation) (key : String) :
    (reached (history.filter fun operation => operation.key = key)).find? key
      = (reached history).find? key := by
  induction history using List.reverseRecOn with
  | nil => rfl
  | append_singleton history operation ih =>
    unfold reached at ih ⊢
    rw [List.filter_append, Machine.after_concat]
    by_cases same : operation.key = key
    · rw [List.filter_cons_of_pos (by simpa using same), List.filter_nil, Machine.after_concat]
      refine Option.ext fun entry => ?_
      rw [find?_perform, find?_perform, ih]
    · rw [List.filter_cons_of_neg (by simpa using same), List.filter_nil, List.append_nil, ih,
        find?_perform_of_ne same]

/-- What is answered for a key follows from its entry. -/
theorem get_eq_some_iff : (cache.get now key).1 = some value ↔
    ∃ entry, cache.find? key = some entry ∧ entry.value = value ∧ now < entry.expiresAt := by
  unfold find?
  change (cache.texts.get now key).1 = some value ↔ _
  unfold MemoryRecordCache.get
  split
  · rename_i absent
    simp [absent]
  · rename_i held found
    by_cases young : now < held.expiresAt <;> simp [found, young]

/-- An answer depends on the entry of its key alone. -/
theorem get_congr (same : cache.find? key = other.find? key) (now : Instant) :
    (cache.get now key).1 = (other.get now key).1 := by
  refine Option.ext fun value => ?_
  rw [get_eq_some_iff, get_eq_some_iff, same]

/-- A cache in memory that started without texts answers, after any history, a key with the text
that it last kept under it, if its key was not dropped since and its time is not over. The clock
must not have shown a later time before; which expired texts were read makes no difference.
Operations on other keys make none either. The keys that are counted are those whose last text was
neither dropped nor read after it had expired. A text is kept whenever that is asked for, but where
the clock cannot show its expiry: that is answered by a panic, and the texts stay as they are. -/
theorem get_reached (history : List RecordOperation) :
    (∀ now key, (∀ reading ∈ history.filterMap RecordOperation.reading?, reading ≤ now) →
      ∀ value, ((reached history).get now key).1 = some value ↔ ∃ setAt timeToLive since,
        IsLastSet history key value setAt timeToLive since ∧ now < setAt + timeToLive) ∧
    (∀ now key, ((reached history).get now key).1
      = ((reached (history.filter fun operation => operation.key = key)).get now key).1) ∧
    (∃ keys : List String, keys.Nodup ∧ (reached history).size = keys.length ∧
      ∀ key, key ∈ keys ↔ ∃ value setAt timeToLive since,
        IsLastSet history key value setAt timeToLive since ∧
        ∀ operation ∈ since, ¬ operation.ReadsSince (setAt + timeToLive) key) ∧
    ∀ operation, (((reached history).perform operation).1 = .panicked ↔ operation.Overflows) ∧
      (operation.Overflows →
        (reached (history ++ [operation])).texts = (reached history).texts) := by
  refine ⟨fun now key notBack value => ?_, fun now key => ?_,
    ⟨(reached history).texts.entries.keys, nodup_keys_reached history,
      Table.size_eq_length_keys _, fun key => ?_⟩,
    fun operation => ⟨perform_panicked_iff _ operation, fun overflows => ?_⟩⟩
  · rw [get_eq_some_iff]
    constructor
    · rintro ⟨entry, found, rfl, young⟩
      obtain ⟨setAt, timeToLive, since, lastSet, expires⟩ :=
        (isUncleared_iff_of_lt young notBack).mp ((find?_reached history key entry).mp found)
      exact ⟨setAt, timeToLive, since, lastSet, expires ▸ young⟩
    · rintro ⟨setAt, timeToLive, since, lastSet, young⟩
      refine ⟨⟨value, setAt + timeToLive⟩, (find?_reached history key _).mpr ?_, rfl, young⟩
      exact (isUncleared_iff_of_lt young notBack).mpr ⟨setAt, timeToLive, since, lastSet, rfl⟩
  · exact get_congr (find?_reached_filter history key).symm now
  · rw [← Table.contains_iff_mem_keys, Table.contains, Option.isSome_iff_exists]
    constructor
    · rintro ⟨entry, found⟩
      obtain ⟨setAt, timeToLive, since, lastSet, expires, unread⟩ :=
        (find?_reached history key entry).mp found
      exact ⟨entry.value, setAt, timeToLive, since, lastSet, expires ▸ unread⟩
    · rintro ⟨value, setAt, timeToLive, since, lastSet, unread⟩
      exact ⟨⟨value, setAt + timeToLive⟩, (find?_reached history key _).mpr
        ⟨setAt, timeToLive, since, lastSet, rfl, unread⟩⟩
  · rw [reached, Machine.after_concat, texts_perform_of_overflows overflows, reached]

end ClockedCache

/-! ## Expired texts that are read and not read -/

namespace ReadsOfExpired

/-- Three keys are kept. The first expires, is read, and is kept again for longer; the second
expires and nothing reads it; the third is dropped. At last the first is to be kept for longer than
the clock goes. -/
def operations : List RecordOperation := [
  .set 0 "first" "old" 10, .set 1 "second" "unread" 0, .set 2 "third" "dropped" 90,
  .get 10 "first", .set 20 "first" "new" 50, .remove "third", .get 30 "third",
  .set 40 "first" "endless" Instant.limit]

/-- The first key is answered with the last text that was kept until that expires, and two keys are
counted. -/
theorem get_reached_expired :
    let cache := ClockedCache.reached operations
    (∀ reading ∈ operations.filterMap RecordOperation.reading?, reading ≤ 69) ∧
    (cache.get 69 "first").1 = some "new" ∧ (cache.get 70 "first").1 = none ∧ cache.size = 2 := by
  intro cache
  have notBack : ∀ reading ∈ operations.filterMap RecordOperation.reading?, reading ≤ 69 := by
    decide
  have lastSet : IsLastSet operations "first" "new" 20 50
      [.remove "third", .get 30 "third", .set 40 "first" "endless" Instant.limit] := by
    refine ⟨rfl, operations.take 4, rfl, ?_⟩
    simp [RecordOperation.Writes, Instant.after?]
  obtain ⟨answered, _⟩ := ClockedCache.get_reached operations
  have read := (answered 69 "first" notBack "new").mpr ⟨20, 50, _, lastSet, by decide⟩
  exact ⟨notBack, read, by decide, by decide⟩

end ReadsOfExpired

end ConfigDelivery.Cache
