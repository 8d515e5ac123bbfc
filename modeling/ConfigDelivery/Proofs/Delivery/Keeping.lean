import ConfigDelivery.Proofs.Cache.Records
import ConfigDelivery.Proofs.Delivery.Runs
import ConfigDelivery.Proofs.Record.RoundTrip
/-!
# What kept texts say

A property of the records that the kept texts are the texts of. It survives every look-up as long
as the records of the store have it too, and what a look-up finds has it or comes from the store.
-/

namespace ConfigDelivery.Delivery

open ConfigDelivery.Cache (RecordCacheOps codeKey configKey)

variable {Stored Kept Engines : Type}

/-- Every kept text that can be read is that of a record with some property. -/
structure KeepsOnly (Holds : Kept → String → String → Prop) (ConfigKept : String → Config → Prop)
    (CodeKept : String → Code → Prop) (kept : Kept) : Prop where
  config : ∀ {id text record}, Holds kept (configKey id) text →
    Config.decoder.readText text = some record → ConfigKept id record
  code : ∀ {id text record}, Holds kept (codeKey id) text →
    Code.decoder.readText text = some record → CodeKept id record

namespace KeepsOnly

variable {Holds : Kept → String → String → Prop} {ConfigKept : String → Config → Prop}
  {CodeKept : String → Code → Prop} {kept after : Kept} {records : RecordCacheOps Kept}

/-- A cache that holds less keeps only what it kept. -/
theorem of_subset (only : KeepsOnly Holds ConfigKept CodeKept kept)
    (subset : ∀ {key text}, Holds after key text → Holds kept key text) :
    KeepsOnly Holds ConfigKept CodeKept after where
  config held read := only.config (subset held) read
  code held read := only.code (subset held) read

/-- After a configuration was set, the cache keeps only that one and what it kept. -/
theorem of_setConfig (faithful : records.Faithful Holds)
    (only : KeepsOnly Holds ConfigKept CodeKept kept) {id : String} {record : Config}
    (isKept : ConfigKept id record) (now : Instant) (timeToLive : Duration) :
    KeepsOnly Holds ConfigKept CodeKept
      (records.set kept now (configKey id) record.document.render timeToLive).2 where
  config held read := by
    rcases faithful.set_holds held with ⟨same, rfl⟩ | ⟨_, held⟩
    · rw [Config.readText_render] at read
      cases read
      exact Cache.configKey_injective same ▸ isKept
    · exact only.config held read
  code held read := by
    rcases faithful.set_holds held with ⟨same, _⟩ | ⟨_, held⟩
    · exact absurd same.symm (Cache.configKey_ne_codeKey _ _)
    · exact only.code held read

/-- After a code version was set, the cache keeps only that one and what it kept. -/
theorem of_setCode (faithful : records.Faithful Holds)
    (only : KeepsOnly Holds ConfigKept CodeKept kept) {id : String} {record : Code}
    (isKept : CodeKept id record) (now : Instant) (timeToLive : Duration) :
    KeepsOnly Holds ConfigKept CodeKept
      (records.set kept now (codeKey id) record.document.render timeToLive).2 where
  config held read := by
    rcases faithful.set_holds held with ⟨same, _⟩ | ⟨_, held⟩
    · exact absurd same (Cache.configKey_ne_codeKey _ _)
    · exact only.config held read
  code held read := by
    rcases faithful.set_holds held with ⟨same, rfl⟩ | ⟨_, held⟩
    · rw [Code.readText_render] at read
      cases read
      exact Cache.codeKey_injective same ▸ isKept
    · exact only.code held read

end KeepsOnly

namespace Components

variable (components : Components Stored Kept Engines)

/-- The cache of the components is faithful to the texts that are kept; without a cache there are
none. -/
structure IsFaithful (Holds : Kept → String → String → Prop) : Prop where
  cache : ∀ {records}, components.records = some records → records.Faithful Holds
  cacheless : components.records = none → ∀ {kept key text}, ¬ Holds kept key text

variable {components} {Record : Type} {kind : RecordKind Stored Record}
  {Holds : Kept → String → String → Prop} {ConfigKept : String → Config → Prop}
  {CodeKept : String → Code → Prop} {world : World Stored Kept Engines} {id : String}
  {found : Except Failure (Option Record)} {after : Kept}

/-- A look-up finds what the store holds, or the record of a kept text. -/
theorem IsFaithful.found_of_loaded (faithful : components.IsFaithful Holds)
    (loaded : components.Loaded kind id world found after) :
    found = kind.fetch world.stored id ∨
    ∃ text record, Holds world.kept (kind.key id) text ∧
      kind.decoder.readText text = some record ∧ found = .ok (some record) := by
  cases loaded with
  | kept caching answered read =>
    exact .inr ⟨_, _, (faithful.cache caching).get_answers answered, read, rfl⟩
  | fetched looked => exact .inl rfl

/-- A look-up drops texts and keeps that of the record that it read from the store. -/
theorem IsFaithful.lasting_of_loaded (faithful : components.IsFaithful Holds)
    (loaded : components.Loaded kind id world found after) {Lasting : Kept → Prop}
    (lasting : Lasting world.kept)
    (dropped : ∀ {kept later}, (∀ {key text}, Holds later key text → Holds kept key text) →
      Lasting kept → Lasting later)
    (refreshed : ∀ {records : RecordCacheOps Kept} {kept record}, records.Faithful Holds →
      kind.fetch world.stored id = .ok (some record) → Lasting kept →
      Lasting (records.set kept world.now (kind.key id) (kind.document record).render
        components.settings.recordTimeToLive).2) :
    Lasting after := by
  cases loaded with
  | @kept records text record after caching answered read =>
    have same : after = (records.get world.kept world.now (kind.key id)).2 := by rw [answered]
    rw [same]
    exact dropped (faithful.cache caching).get_holds lasting
  | @fetched seen looked =>
    have lasting : Lasting seen := by
      rcases looked with rfl | ⟨records, caching, rfl⟩
      · exact lasting
      · exact dropped (faithful.cache caching).get_holds lasting
    rcases components.refreshed_eq kind id { world with kept := seen } with
      same | ⟨records, record, caching, fetched, same⟩
    · rw [same]
      exact lasting
    · rw [same]
      exact refreshed (faithful.cache caching) fetched lasting

/-- With a faithful cache, what is found is what is stored or what was kept. -/
theorem IsFaithful.finds (faithful : components.IsFaithful Holds) (cached : Bool)
    (configs : ∀ {id record}, components.store.getConfig world.stored id = .ok (some record) →
      ConfigKept id record)
    (codes : ∀ {id record}, components.store.getCode world.stored id = .ok (some record) →
      CodeKept id record) :
    components.Finds cached world (fun _ => KeepsOnly Holds ConfigKept CodeKept)
      (fun id found => found = components.store.getConfig world.stored id ∨
        ∃ record, found = .ok (some record) ∧ ConfigKept id record)
      (fun id found => found = components.store.getCode world.stored id ∨
        ∃ record, found = .ok (some record) ∧ CodeKept id record) where
  config {_ kept} id only := by
    obtain ⟨found, after, loaded, answered⟩ :=
      components.loadRecord_loaded components.configs cached id { world with kept }
    refine ⟨found, after, ?_, ?_, answered⟩
    · rcases faithful.found_of_loaded loaded with same | ⟨text, record, held, read, same⟩
      · exact .inl same
      · exact .inr ⟨record, same, only.config held read⟩
    · refine faithful.lasting_of_loaded loaded only (fun subset only => only.of_subset subset) ?_
      intro records kept record faithful fetched only
      exact only.of_setConfig faithful (configs fetched) _ _
  code {_ kept} id only := by
    obtain ⟨found, after, loaded, answered⟩ :=
      components.loadRecord_loaded components.codes cached id { world with kept }
    refine ⟨found, after, ?_, ?_, answered⟩
    · rcases faithful.found_of_loaded loaded with same | ⟨text, record, held, read, same⟩
      · exact .inl same
      · exact .inr ⟨record, same, only.code held read⟩
    · refine faithful.lasting_of_loaded loaded only (fun subset only => only.of_subset subset) ?_
      intro records kept record faithful fetched only
      exact only.of_setCode faithful (codes fetched) _ _

/-- Dropping the text of a code version leaves none that is kept for it. -/
theorem IsFaithful.holds_of_forgotten (faithful : components.IsFaithful Holds) {kept : Kept}
    {codeId key text : String} (held : Holds (components.forgotten kept codeId) key text) :
    key ≠ codeKey codeId ∧ Holds kept key text := by
  unfold Components.forgotten at held
  split at held
  · rename_i cacheless
    exact absurd held (faithful.cacheless cacheless)
  · rename_i records caching
    exact (faithful.cache caching).remove_holds held

end Components

end ConfigDelivery.Delivery
