import ConfigDelivery.Proofs.Cache.Records
import ConfigDelivery.Proofs.Delivery.Decision
import ConfigDelivery.Proofs.Record.RoundTrip
/-!
# A record cache never shows

A request is answered as without a cache of record texts, as long as the cache lies to it about no
record: whatever a read of the cache answers may be a failure, nothing, a text that is no record, or
a text of the record that the store answers. Keeping a text may fail at any time, and a request that
does not accept cached records is answered so by every cache. The cache is any object with a state
of its own; only the states that a request can bring it to are spoken about.
-/

namespace ConfigDelivery.Delivery

open ConfigDelivery.Cache (RecordCacheOps)

variable {Stored Kept Engines Record : Type}

/-- An answer of a cache that does not lie about a record of the store. -/
inductive HonestAnswer (decoder : Json.Decoder Record) (stored : Except Failure (Option Record)) :
    Except Failure (Option String) → Prop where
  | failure (failure : Failure) : HonestAnswer decoder stored (.error failure)
  | miss : HonestAnswer decoder stored (.ok none)
  | undecodable {text} (unread : decoder.readText text = none) :
      HonestAnswer decoder stored (.ok (some text))
  | current {text record} (read : decoder.readText text = some record)
      (holds : stored = .ok (some record)) : HonestAnswer decoder stored (.ok (some text))

/-- An honest answer that is read is the record of the store. -/
theorem HonestAnswer.stored_of_read {decoder : Json.Decoder Record}
    {stored : Except Failure (Option Record)} {answer : Except Failure (Option String)}
    (honest : HonestAnswer decoder stored answer) {record : Record}
    (read : readKept decoder answer = some record) : stored = .ok (some record) := by
  cases honest with
  | failure => cases read
  | miss => cases read
  | undecodable unread => cases unread.symm.trans read
  | current readCurrent holds =>
    cases readCurrent.symm.trans read
    exact holds

namespace Components

variable (components : Components Stored Kept Engines)

/-- The states that looking records up can bring a cache to: it is read, under whatever key, and it
is given the texts of records that the store answers. -/
inductive Consulted (records : RecordCacheOps Kept) (world : World Stored Kept Engines) :
    Kept → Prop where
  | start : Consulted records world world.kept
  | read {kept} (key : String) (before : Consulted records world kept) :
      Consulted records world (records.get kept world.now key).2
  | givenConfig {kept id config} (before : Consulted records world kept)
      (stored : components.store.getConfig world.stored id = .ok (some config)) :
      Consulted records world (records.set kept world.now (Cache.configKey id)
        config.document.render components.settings.recordTimeToLive).2
  | givenCode {kept id code} (before : Consulted records world kept)
      (stored : components.store.getCode world.stored id = .ok (some code)) :
      Consulted records world (records.set kept world.now (Cache.codeKey id)
        code.document.render components.settings.recordTimeToLive).2

/-- The cache, if there is one, lies about no record, in whatever state look-ups can bring it to. -/
structure IsHonest (world : World Stored Kept Engines) : Prop where
  config : ∀ {records kept}, components.records = some records →
    components.Consulted records world kept → ∀ id,
      HonestAnswer Config.decoder (components.store.getConfig world.stored id)
        (records.get kept world.now (Cache.configKey id)).1
  code : ∀ {records kept}, components.records = some records →
    components.Consulted records world kept → ∀ id,
      HonestAnswer Code.decoder (components.store.getCode world.stored id)
        (records.get kept world.now (Cache.codeKey id)).1

variable {components} {world : World Stored Kept Engines}

/-- From an honest answer, or without one that can be read, a look-up finds what the store
answers. -/
theorem loadRecord_of_honest {records : RecordCacheOps Kept}
    (caching : components.records = some records) (kind : RecordKind Stored Record) (id : String)
    {kept : Kept} (consulted : components.Consulted records world kept)
    (honest : HonestAnswer kind.decoder (kind.fetch world.stored id)
      (records.get kept world.now (kind.key id)).1)
    (given : ∀ {kept record}, components.Consulted records world kept →
      kind.fetch world.stored id = .ok (some record) →
      components.Consulted records world (records.set kept world.now (kind.key id)
        (kind.document record).render components.settings.recordTimeToLive).2) :
    ∃ after, components.Consulted records world after ∧
      components.loadRecord kind true id { world with kept }
        = (kind.fetch world.stored id, { world with kept := after }) := by
  have reads := consulted.read (kind.key id)
  rw [components.loadRecord_of_cached kind id _ caching]
  dsimp only
  cases read : readKept kind.decoder (records.get kept world.now (kind.key id)).1 with
  | some record => exact ⟨_, reads, by rw [honest.stored_of_read read]⟩
  | none =>
    dsimp only
    rw [fetchRecord_eq]
    refine ⟨_, ?_, rfl⟩
    rcases components.refreshed_eq kind id
      { world with kept := (records.get kept world.now (kind.key id)).2 } with
      same | ⟨records', record, caching', fetched, same⟩
    · rw [same]
      exact reads
    · cases caching.symm.trans caching'
      rw [same]
      exact given reads fetched

/-- With an honest cache, whatever fails in it, what is found is what is stored. -/
theorem IsHonest.finds (honest : components.IsHonest world) {records : RecordCacheOps Kept}
    (caching : components.records = some records) :
    components.Finds true world (fun _ => components.Consulted records world)
      (fun id found => found = components.store.getConfig world.stored id)
      (fun id found => found = components.store.getCode world.stored id) where
  config id consulted := by
    obtain ⟨after, consulted, loaded⟩ := loadRecord_of_honest caching components.configs id
      consulted (honest.config caching consulted id) .givenConfig
    exact ⟨_, after, rfl, consulted, loaded⟩
  code id consulted := by
    obtain ⟨after, consulted, loaded⟩ := loadRecord_of_honest caching components.codes id
      consulted (honest.code caching consulted id) .givenCode
    exact ⟨_, after, rfl, consulted, loaded⟩

/-- A request comes to the decision on what the store answers, whatever an honest cache does. -/
theorem serve_of_honest (components : Components Stored Kept Engines)
    (world : World Stored Kept Engines) (configId : String) (request : ConfigRequest)
    (honest : request.cached = true → components.IsHonest world) :
    ∃ kept, (components.serve configId request).perform world
      = components.follow request.cached { world with kept }
        ((Findings.inStore components.store world.stored configId).decision configId request) := by
  by_cases uncached : request.cached = false ∨ components.records = none
  · obtain ⟨kept, _, served⟩ :=
      (components.finds_stored world uncached).serve_eq_of trivial configId rfl
    exact ⟨kept, served⟩
  · obtain ⟨accepts, caching⟩ := not_or.mp uncached
    have accepts : request.cached = true := by simpa using accepts
    obtain ⟨records, caching⟩ := Option.ne_none_iff_exists'.mp caching
    obtain ⟨kept, _, served⟩ :=
      ((honest accepts).finds caching).serve_eq_of .start configId accepts
    exact ⟨kept, accepts ▸ served⟩

/-- What follows a decision leaves the kept texts as they are, and does not depend on them. -/
theorem follow_kept (components : Components Stored Kept Engines) (cached : Bool)
    (world : World Stored Kept Engines) (kept : Kept)
    (decision : Except DeliveryError ServedScript) :
    components.follow cached { world with kept } decision =
      let (answer, after) := components.follow cached world decision
      (answer, { after with kept }) := by
  cases decision <;> rfl

/-- A request is answered as without a cache of record texts, with the same engines at the same time
afterwards: by every cache when it does not accept cached records, and else by every one that lies
about no record. -/
theorem serve_eq_cacheless (components : Components Stored Kept Engines)
    (world : World Stored Kept Engines) (configId : String) (request : ConfigRequest)
    (honest : request.cached = true → components.IsHonest world) :
    let cacheless := { components with records := none }
    let plain := (cacheless.serve configId request).perform world
    ∃ kept, (components.serve configId request).perform world
      = (plain.1, { plain.2 with kept }) := by
  intro cacheless plain
  have cachelessHonest : cacheless.IsHonest world := ⟨nofun, nofun⟩
  obtain ⟨kept, served⟩ := components.serve_of_honest world configId request honest
  obtain ⟨seen, plainServed⟩ :=
    cacheless.serve_of_honest world configId request fun _ => cachelessHonest
  have sameFollow (decision : Except DeliveryError ServedScript) :
      cacheless.follow request.cached { world with kept := seen } decision
        = components.follow request.cached { world with kept := seen } decision := by
    cases decision <;> rfl
  have samePlain : plain = _ := plainServed.trans ((sameFollow _).trans (follow_kept ..))
  rw [follow_kept] at served
  rw [samePlain]
  exact ⟨kept, served⟩

end Components

/-! ## A cache that is hardly there -/

namespace FlakyCache

open BrokenRollout (stable stored)

/-- A cache that counts its calls. It cannot be reached at first, then its texts are damaged, and in
the end it has the text of the released code version. It takes no text. -/
def records : RecordCacheOps Nat where
  get calls _ key :=
    let answer :=
      if calls = 0 then .error Cache.cacheDown
      else if calls ≤ 2 then .ok (some "\x7b")
      else if key = Cache.codeKey "stable" then .ok (some stable.document.render)
      else .ok none
    (answer, calls + 1)
  set calls _ _ _ _ := (.error Cache.cacheDown, calls + 1)
  remove calls _ := (.error Cache.cacheDown, calls + 1)

/-- A cache that has the text of the broken code version under every key. -/
def foreign : RecordCacheOps Nat where
  get calls _ _ := (.ok (some BrokenRollout.next.document.render), calls)
  set calls _ _ _ _ := (.ok (), calls)
  remove calls _ := (.ok (), calls)

/-- The components, with a cache or without one. -/
def components (records : Option (RecordCacheOps Nat)) :
    Components Store.MemoryStore Nat Unit where
  store := Store.MemoryStore.ops
  records
  engines := BrokenRollout.echo
  wallClock _ := .ok 0
  settings := {}

/-- The records, and a cache that was not called yet. -/
def world : World Store.MemoryStore Nat Unit := ⟨stored, 0, (), 0⟩

theorem isHonest_records : (components (some records)).IsHonest world where
  config := by
    rintro _ kept ⟨⟩ _ id
    dsimp only [records]
    split
    · exact .failure _
    · split
      · exact .undecodable (by decide)
      · rw [if_neg (Cache.configKey_ne_codeKey id "stable")]
        exact .miss
  code := by
    rintro _ kept ⟨⟩ _ id
    dsimp only [records]
    split
    · exact .failure _
    · split
      · exact .undecodable (by decide)
      · split
        · rename_i same
          cases Cache.codeKey_injective same
          exact .current (Code.readText_render stable) rfl
        · exact .miss

/-- The request that accepts cached records has three of them looked up: one finds the cache out of
reach, one a damaged text, and one the record of the store. The other request asks no cache. -/
theorem serve_eq_cacheless_flaky :
    (components (some records)).IsHonest world ∧
    (((components (some records)).serve "app" { cached := true }).perform world).1
      = (((components none).serve "app" { cached := true }).perform world).1 ∧
    (((components (some foreign)).serve "app" {}).perform world).1
      = (((components none).serve "app" {}).perform world).1 := by
  refine ⟨isHonest_records, ?_, ?_⟩
  · obtain ⟨kept, served⟩ := (components (some records)).serve_eq_cacheless world "app"
      { cached := true } fun _ => isHonest_records
    have same := congrArg Prod.fst served
    exact same
  · obtain ⟨kept, served⟩ := (components (some foreign)).serve_eq_cacheless world "app" {} nofun
    have same := congrArg Prod.fst served
    exact same

end FlakyCache

end ConfigDelivery.Delivery
