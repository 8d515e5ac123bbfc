import ConfigDelivery.Basic.Failure
import ConfigDelivery.Basic.Table
import ConfigDelivery.Basic.Time
/-!
# Cache of record texts

Records on their way from the store are kept as texts under a key of their kind.
Any component with the three operations will do; each of them may fail. The one
in memory drops an expired entry when it is next read, so its size also counts
expired entries that nothing has read yet. The service keeps its texts in memory
on a clock that has an end.
-/

namespace ConfigDelivery.Cache

/-- The key of a configuration record. -/
def configKey (configId : String) : String := "config/" ++ configId

/-- The key of a code record. -/
def codeKey (codeId : String) : String := "code/" ++ codeId

/-- How long a record is kept, unless said otherwise. -/
def defaultRecordTimeToLive : Duration := Duration.ofSeconds 60

/-- The operations of a record cache whose contents are a `State`. -/
structure RecordCacheOps (State : Type) where
  get : State → Instant → String → Except Failure (Option String) × State
  set : State → Instant → String → String → Duration → Except Failure Unit × State
  remove : State → String → Except Failure Unit × State

/-- A record text and the first instant at which it is no longer answered. -/
structure RecordEntry where
  value : String
  expiresAt : Instant
  deriving DecidableEq, Repr

/-- Record texts in memory, with instants that never come to an end. -/
structure MemoryRecordCache where
  entries : Table RecordEntry := {}

namespace MemoryRecordCache

/-- The text of a key that has not expired; an expired one is dropped. -/
def get (cache : MemoryRecordCache) (now : Instant) (key : String) :
    Option String × MemoryRecordCache :=
  match cache.entries.find? key with
  | none => (none, cache)
  | some entry =>
    if now < entry.expiresAt then (some entry.value, cache)
    else (none, ⟨cache.entries.erase key⟩)

/-- Keep a text for some time, however long that is. -/
def set (cache : MemoryRecordCache) (now : Instant) (key value : String)
    (timeToLive : Duration) : MemoryRecordCache :=
  ⟨cache.entries.insert key ⟨value, now + timeToLive⟩⟩

/-- Drop the text of a key. -/
def remove (cache : MemoryRecordCache) (key : String) : MemoryRecordCache :=
  ⟨cache.entries.erase key⟩

/-- The number of texts, expired ones that nothing has read included. -/
def size (cache : MemoryRecordCache) : Nat := cache.entries.size

/-- The cache in memory never fails. -/
def ops : RecordCacheOps MemoryRecordCache where
  get cache now key := let (value, cache) := cache.get now key; (.ok value, cache)
  set cache now key value timeToLive := (.ok (), cache.set now key value timeToLive)
  remove cache key := (.ok (), cache.remove key)

end MemoryRecordCache

/-- Record texts in memory on a clock that has an end. To keep a text until an instant that the
clock cannot show keeps nothing and ends the request that asked for it; that this has happened is
remembered. -/
structure ClockedCache where
  texts : MemoryRecordCache := {}
  overflowed : Bool := false

namespace ClockedCache

/-- The text of a key that has not expired; an expired one is dropped. -/
def get (cache : ClockedCache) (now : Instant) (key : String) : Option String × ClockedCache :=
  let (value, texts) := cache.texts.get now key
  (value, { cache with texts })

/-- Keep a text until an instant that the clock can show. -/
def set (cache : ClockedCache) (now : Instant) (key value : String) (timeToLive : Duration) :
    ClockedCache :=
  match now.after? timeToLive with
  | some expiresAt => { cache with texts := ⟨cache.texts.entries.insert key ⟨value, expiresAt⟩⟩ }
  | none => { cache with overflowed := true }

/-- Drop the text of a key. -/
def remove (cache : ClockedCache) (key : String) : ClockedCache :=
  { cache with texts := cache.texts.remove key }

/-- The number of texts, expired ones that nothing has read included. -/
def size (cache : ClockedCache) : Nat := cache.texts.size

/-- The cache in memory, on a clock that has an end. -/
def ops : RecordCacheOps ClockedCache where
  get cache now key :=
    let (value, cache) := cache.get now key
    (.ok value, cache)
  set cache now key value timeToLive := (.ok (), cache.set now key value timeToLive)
  remove cache key := (.ok (), cache.remove key)

end ClockedCache

/-- What an unreachable record cache answers to every operation. -/
def cacheDown : Failure := ⟨"cache down", []⟩

/-- A record cache that cannot be reached. -/
def unreachableOps (State : Type) : RecordCacheOps State where
  get state _ _ := (.error cacheDown, state)
  set state _ _ _ _ := (.error cacheDown, state)
  remove state _ := (.error cacheDown, state)

end ConfigDelivery.Cache
