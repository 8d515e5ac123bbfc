import ConfigDelivery.Proofs.Cache.Records
import ConfigDelivery.Proofs.Delivery.Decision
import ConfigDelivery.Proofs.Record.RoundTrip
/-!
# What a request sees of kept records

With a cache in memory, what the look-ups of a request find depends on what is kept and stored when
the request comes, and not on their order: a kept record that is fresh and can be read, or else
what the store holds. After the request, the text of every record that was read from the store is
kept with a full time to live, and other texts are as they were or gone.
-/

namespace ConfigDelivery.Delivery

open ConfigDelivery.Cache (MemoryRecordCache RecordEntry codeKey configKey)

namespace LookUp

/-- The key that the text of a record is kept under. -/
def key : LookUp → String
  | config id => configKey id
  | code id => codeKey id

/-- No two look-ups have the same key. -/
theorem key_injective {lookUp other : LookUp} (same : lookUp.key = other.key) :
    lookUp = other := by
  cases lookUp <;> cases other
  · exact congrArg config (Cache.configKey_injective same)
  · exact absurd same (Cache.configKey_ne_codeKey _ _)
  · exact absurd same.symm (Cache.configKey_ne_codeKey _ _)
  · exact congrArg code (Cache.codeKey_injective same)

end LookUp

variable {Stored Engines Record : Type}

/-- The kept record that a request can use: one that is fresh and can be read, if it accepts cached
records. -/
def RecordKind.usable? (kind : RecordKind Stored Record) (cached : Bool) (id : String)
    (world : World Stored MemoryRecordCache Engines) : Option Record :=
  if cached then readKept kind.decoder (.ok (world.kept.get world.now (kind.key id)).1) else none

/-- What a request finds that looks a record up. -/
def RecordKind.sees (kind : RecordKind Stored Record) (cached : Bool) (id : String)
    (world : World Stored MemoryRecordCache Engines) : Except Failure (Option Record) :=
  match kind.usable? cached id world with
  | some record => .ok (some record)
  | none => kind.fetch world.stored id

namespace Components

variable (components : Components Stored MemoryRecordCache Engines)

/-- The store holds a record that a look-up is for, and this is its text. -/
def Stores (stored : Stored) : LookUp → String → Prop
  | .config id, text => ∃ config, components.store.getConfig stored id = .ok (some config) ∧
      text = config.document.render
  | .code id, text => ∃ code, components.store.getCode stored id = .ok (some code) ∧
      text = code.document.render

/-- What the look-ups of a request find. -/
def sight (cached : Bool) (world : World Stored MemoryRecordCache Engines) (configId : String) :
    Findings :=
  .of (components.configs.sees cached · world) (components.codes.sees cached · world) configId

/-- A request that looks a record up has to read it from the store. -/
def Misses (cached : Bool) (world : World Stored MemoryRecordCache Engines) : LookUp → Prop
  | .config id => components.configs.usable? cached id world = none
  | .code id => components.codes.usable? cached id world = none

/-- A text is kept that was read from the store at this moment. -/
def Written (world : World Stored MemoryRecordCache Engines) (key : String)
    (entry : RecordEntry) : Prop :=
  ∃ lookUp, key = lookUp.key ∧ components.Stores world.stored lookUp entry.value ∧
    entry.expiresAt = world.now + components.settings.recordTimeToLive

/-- The texts that are kept after some look-ups of a request. -/
structure Sighted (cached : Bool) (world : World Stored MemoryRecordCache Engines)
    (asked : List LookUp) (kept : MemoryRecordCache) : Prop where
  /-- A text is an old one, or was read from the store. -/
  entries : ∀ {key : String} {entry : RecordEntry}, kept.entries.find? key = some entry →
    world.kept.entries.find? key = some entry ∨ components.Written world key entry
  /-- Texts that can be used stay. -/
  usable : ∀ {lookUp : LookUp}, ¬ components.Misses cached world lookUp →
    kept.entries.find? lookUp.key = world.kept.entries.find? lookUp.key
  /-- What had to be read from the store has been read. -/
  asked : ∀ {lookUp : LookUp} {entry : RecordEntry}, lookUp ∈ asked →
    components.Misses cached world lookUp →
    kept.entries.find? lookUp.key = some entry →
    components.Written world lookUp.key entry ∨ ∀ text, ¬ components.Stores world.stored lookUp text

/-- A kind of record is the one that some look-ups are for. -/
structure Presents (kind : RecordKind Stored Record) (name : String → LookUp) : Prop where
  key : ∀ id, kind.key id = (name id).key
  stores : ∀ {stored id text}, components.Stores stored (name id) text ↔
    ∃ record, kind.fetch stored id = .ok (some record) ∧ text = (kind.document record).render
  misses : ∀ {cached world id}, components.Misses cached world (name id) ↔
    kind.usable? cached id world = none
  readText : ∀ record, kind.decoder.readText (kind.document record).render = some record

theorem presents_configs : components.Presents components.configs .config where
  key _ := rfl
  stores := Iff.rfl
  misses := Iff.rfl
  readText := Config.readText_render

theorem presents_codes : components.Presents components.codes .code where
  key _ := rfl
  stores := Iff.rfl
  misses := Iff.rfl
  readText := Code.readText_render

variable {components} {kind : RecordKind Stored Record} {name : String → LookUp} {cached : Bool}
  {world : World Stored MemoryRecordCache Engines} {asked : List LookUp}
  {kept : MemoryRecordCache}

/-- A kept record is used if the request allows it, the record has not expired, and it can be
read. -/
theorem usable?_eq_some_iff {id : String} {record : Record} :
    kind.usable? cached id world = some record ↔
      cached = true ∧ ∃ entry, world.kept.entries.find? (kind.key id) = some entry ∧
        world.now < entry.expiresAt ∧ kind.decoder.readText entry.value = some record := by
  unfold RecordKind.usable? MemoryRecordCache.get
  cases cached with
  | false => simp
  | true =>
    cases found : world.kept.entries.find? (kind.key id) with
    | none => simp [readKept]
    | some entry =>
      by_cases fresh : world.now < entry.expiresAt <;> simp [readKept, fresh]

/-- Whether a kept record is used depends on its own entry alone. -/
theorem usable?_congr {id : String}
    (same : kept.entries.find? (kind.key id) = world.kept.entries.find? (kind.key id)) :
    kind.usable? cached id { world with kept } = kind.usable? cached id world := by
  unfold RecordKind.usable? MemoryRecordCache.get
  dsimp only
  rw [same]
  cases world.kept.entries.find? (kind.key id) with
  | none => rfl
  | some entry => by_cases fresh : world.now < entry.expiresAt <;> simp [fresh]

/-- The texts after a key was read, whether its text can be used or not. -/
def looked (cached : Bool) (key : String) (now : Instant) (kept : MemoryRecordCache) :
    MemoryRecordCache :=
  if cached then (kept.get now key).2 else kept

/-- A look-up puts nothing into the cache. -/
theorem looked_find? {key other : String} {now : Instant} {entry : RecordEntry}
    (found : (looked cached key now kept).entries.find? other = some entry) :
    kept.entries.find? other = some entry := by
  unfold looked MemoryRecordCache.get at found
  split at found
  · split at found
    · exact found
    · split at found
      · exact found
      · rw [Table.find?_erase] at found
        split at found
        · cases found
        · exact found
  · exact found

/-- A look-up concerns the entry of its key alone. -/
theorem looked_find?_of_ne {key other : String} (different : key ≠ other) (now : Instant) :
    (looked cached key now kept).entries.find? other = kept.entries.find? other := by
  unfold looked MemoryRecordCache.get
  split
  · split
    · rfl
    · split
      · rfl
      · rw [Table.find?_erase, if_neg different]
  · rfl

/-- A look-up with a cache in memory. -/
theorem loadRecord_memory (memory : components.records = some MemoryRecordCache.ops)
    (kind : RecordKind Stored Record) (cached : Bool) (id : String)
    (world : World Stored MemoryRecordCache Engines) :
    components.loadRecord kind cached id world =
      match kind.usable? cached id world with
      | some record => (.ok (some record), world)
      | none =>
        let seen := { world with kept := looked cached (kind.key id) world.now world.kept }
        (kind.fetch world.stored id, { world with kept := components.refreshed kind id seen }) := by
  cases cached with
  | false =>
    rw [loadRecord_of_uncached _ _ _ _ (.inl rfl), fetchRecord_eq]
    rfl
  | true =>
    rw [loadRecord_of_cached _ _ _ _ memory]
    unfold RecordKind.usable? looked
    simp only [MemoryRecordCache.ops, if_true]
    cases readable : readKept kind.decoder
        (.ok (world.kept.get world.now (kind.key id)).1) with
    | none =>
      dsimp only
      rw [fetchRecord_eq]
    | some record =>
      have same : (world.kept.get world.now (kind.key id)).2 = world.kept := by
        unfold MemoryRecordCache.get at readable ⊢
        split
        · rfl
        · rename_i entry found
          rw [found] at readable
          by_cases fresh : world.now < entry.expiresAt
          · rw [if_pos fresh]
          · simp [readKept, fresh] at readable
      dsimp only
      rw [same]

/-- A text after a read of the store is that of the record that was read, or was there before. -/
theorem refreshed_find? (memory : components.records = some MemoryRecordCache.ops) {id key : String}
    {entry : RecordEntry}
    (found : (components.refreshed kind id world).entries.find? key = some entry) :
    (key = kind.key id ∧ ∃ record, kind.fetch world.stored id = .ok (some record) ∧
      entry = ⟨(kind.document record).render,
        world.now + components.settings.recordTimeToLive⟩) ∨
    world.kept.entries.find? key = some entry ∧
      (key = kind.key id → ∀ record, kind.fetch world.stored id ≠ .ok (some record)) := by
  unfold refreshed at found
  rw [memory] at found
  split at found
  · rename_i records record caching fetched
    cases caching
    simp only [MemoryRecordCache.ops, MemoryRecordCache.set, Table.find?_insert] at found
    split at found
    · rename_i same
      cases found
      exact .inl ⟨same.symm, record, fetched, rfl⟩
    · rename_i different
      exact .inr ⟨found, fun same => absurd same.symm different⟩
  · rename_i unfetched
    exact .inr ⟨found, fun _ record fetched => unfetched _ record rfl fetched⟩

/-- To keep a fetched record concerns the entry of its key alone. -/
theorem refreshed_find?_of_ne (memory : components.records = some MemoryRecordCache.ops)
    {id key : String} (different : kind.key id ≠ key) :
    (components.refreshed kind id world).entries.find? key = world.kept.entries.find? key := by
  unfold refreshed
  rw [memory]
  split
  · rename_i records record caching fetched
    cases caching
    simp only [MemoryRecordCache.ops, MemoryRecordCache.set, Table.find?_insert, if_neg different]
  · rfl

/-- A text of the key of a look-up that was read from the store is that of what the store holds. -/
theorem Written.readText (presents : components.Presents kind name) {id : String}
    {entry : RecordEntry} (written : components.Written world (kind.key id) entry) :
    ∃ record, kind.fetch world.stored id = .ok (some record) ∧
      kind.decoder.readText entry.value = some record := by
  obtain ⟨lookUp, same, stores, _⟩ := written
  rw [presents.key] at same
  obtain rfl := LookUp.key_injective same
  obtain ⟨record, fetched, text⟩ := presents.stores.mp stores
  exact ⟨record, fetched, text ▸ presents.readText record⟩

/-- A look-up that reads the store keeps the text of what it reads, and no other. -/
theorem Sighted.missed (sighted : components.Sighted cached world asked kept)
    (memory : components.records = some MemoryRecordCache.ops)
    (presents : components.Presents kind name) {id : String}
    (missed : components.Misses cached world (name id)) :
    components.Sighted cached world (asked ++ [name id])
      (components.refreshed kind id
        { world with kept := looked cached (kind.key id) world.now kept }) where
  entries {key entry} found := by
    rcases refreshed_find? memory found with ⟨rfl, record, fetched, rfl⟩ | ⟨old, _⟩
    · exact .inr ⟨name id, presents.key id, presents.stores.mpr ⟨record, fetched, rfl⟩, rfl⟩
    · exact sighted.entries (looked_find? old)
  usable {lookUp} usable := by
    have different : kind.key id ≠ lookUp.key := by
      intro same
      rw [presents.key] at same
      obtain rfl := LookUp.key_injective same
      exact usable missed
    rw [refreshed_find?_of_ne memory different, ← sighted.usable usable]
    exact looked_find?_of_ne different world.now
  asked {lookUp entry} isAsked misses found := by
    rcases refreshed_find? memory found with ⟨same, record, fetched, rfl⟩ | ⟨old, unfetched⟩
    · exact .inl ⟨name id, same.trans (presents.key id),
        presents.stores.mpr ⟨record, fetched, rfl⟩, rfl⟩
    · rcases List.mem_append.mp isAsked with before | here
      · exact sighted.asked before misses (looked_find? old)
      · obtain rfl := List.mem_singleton.mp here
        refine .inr fun text stores => ?_
        obtain ⟨record, fetched, _⟩ := presents.stores.mp stores
        exact unfetched (presents.key id).symm record fetched

/-- A text that became usable during a request was read from the store by it. -/
theorem Sighted.written (sighted : components.Sighted cached world asked kept)
    (presents : components.Presents kind name) {id : String}
    (missed : components.Misses cached world (name id)) {record : Record}
    (usable : kind.usable? cached id { world with kept } = some record) :
    ∃ entry, kept.entries.find? (kind.key id) = some entry ∧
      components.Written world (kind.key id) entry ∧
      kind.decoder.readText entry.value = some record := by
  obtain ⟨accepts, entry, found, fresh, read⟩ := usable?_eq_some_iff.mp usable
  refine ⟨entry, found, ?_, read⟩
  rcases sighted.entries found with old | written
  · have before := usable?_eq_some_iff.mpr ⟨accepts, entry, old, fresh, read⟩
    rw [presents.misses.mp missed] at before
    cases before
  · exact written

/-- A look-up finds what the request sees. -/
theorem Sighted.load (sighted : components.Sighted cached world asked kept)
    (memory : components.records = some MemoryRecordCache.ops)
    (presents : components.Presents kind name) (id : String) :
    ∃ found after, found = kind.sees cached id world ∧
      components.Sighted cached world (asked ++ [name id]) after ∧
      components.loadRecord kind cached id { world with kept }
        = (found, { world with kept := after }) := by
  have usableAgain (usable : ¬ components.Misses cached world (name id)) :
      kind.usable? cached id { world with kept } = kind.usable? cached id world := by
    refine usable?_congr ?_
    rw [presents.key]
    exact sighted.usable usable
  rw [loadRecord_memory memory]
  cases usable : kind.usable? cached id { world with kept } with
  | some record =>
    refine ⟨_, kept, ?_, ⟨sighted.entries, sighted.usable, ?_⟩, rfl⟩
    · by_cases missed : components.Misses cached world (name id)
      · obtain ⟨entry, _, written, read⟩ := sighted.written presents missed usable
        obtain ⟨stored, fetched, readStored⟩ := written.readText presents
        cases read.symm.trans readStored
        rw [RecordKind.sees, presents.misses.mp missed, fetched]
      · rw [usableAgain missed] at usable
        rw [RecordKind.sees, usable]
    · intro lookUp entry isAsked misses found
      rcases List.mem_append.mp isAsked with before | here
      · exact sighted.asked before misses found
      · obtain rfl := List.mem_singleton.mp here
        obtain ⟨entry', found', written, _⟩ := sighted.written presents misses usable
        rw [presents.key] at found' written
        cases found.symm.trans found'
        exact .inl written
  | none =>
    have missed : components.Misses cached world (name id) := by
      by_contra unmissed
      exact unmissed (presents.misses.mpr ((usableAgain unmissed).symm.trans usable))
    refine ⟨_, _, ?_, sighted.missed memory presents missed, rfl⟩
    rw [RecordKind.sees, presents.misses.mp missed]

/-- With a cache in memory, look-ups find what the request sees. -/
theorem finds_memory (memory : components.records = some MemoryRecordCache.ops) (cached : Bool)
    (world : World Stored MemoryRecordCache Engines) :
    components.Finds cached world (components.Sighted cached world)
      (fun id found => found = components.configs.sees cached id world)
      (fun id found => found = components.codes.sees cached id world) where
  config id sighted := sighted.load memory components.presents_configs id
  code id sighted := sighted.load memory components.presents_codes id

/-- A request comes to the decision on what it sees, and keeps what it read from the store. -/
theorem serve_memory (memory : components.records = some MemoryRecordCache.ops)
    (world : World Stored MemoryRecordCache Engines) (configId : String)
    (request : ConfigRequest) :
    let findings := components.sight request.cached world configId
    ∃ after, components.Sighted request.cached world (findings.lookUps configId request) after ∧
      (components.serve configId request).perform world
        = components.follow request.cached { world with kept := after }
          (findings.decision configId request) := by
  have initial : components.Sighted request.cached world [] world.kept :=
    ⟨fun found => .inl found, fun _ => rfl, nofun⟩
  exact (finds_memory memory request.cached world).serve_eq_of initial configId rfl

end Components

end ConfigDelivery.Delivery
