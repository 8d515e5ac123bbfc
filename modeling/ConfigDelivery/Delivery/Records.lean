import ConfigDelivery.Delivery.Components
import ConfigDelivery.Record.Codec
/-!
# Records on their way to a request

A request that accepts cached records is answered from the cache as far as its
texts decode; every record read from the store refreshes the cache. Nothing that
goes wrong with the cache is ever noticed.
-/

namespace ConfigDelivery.Delivery

open ConfigDelivery.Cache (RecordCacheOps)
open ConfigDelivery.Json (Decoder Document)

variable {Stored Kept Engines Record : Type}

/-- A kind of record: how it is found in the store, and how its text is read and written. -/
structure RecordKind (Stored Record : Type) where
  key : String → String
  fetch : Stored → String → Except Failure (Option Record)
  decoder : Decoder Record
  document : Record → Document

/-- The kept record of a key, if there is one and it can be read. -/
def keptRecord (records : RecordCacheOps Kept) (key : String) (decoder : Decoder Record) :
    StateM (World Stored Kept Engines) (Option Record) := do
  let world ← get
  let (found, kept) := records.get world.kept world.now key
  set { world with kept }
  match found with
  | .ok (some text) => return decoder.readText text
  | _ => return none

/-- Keep the text of a record, if that works. -/
def keepRecord (records : RecordCacheOps Kept) (timeToLive : Duration) (key text : String) :
    StateM (World Stored Kept Engines) Unit :=
  modify fun world =>
    { world with kept := (records.set world.kept world.now key text timeToLive).2 }

namespace Components

/-- Read a record from the store, and keep its text. -/
def fetchRecord (components : Components Stored Kept Engines) (kind : RecordKind Stored Record)
    (id : String) : StateM (World Stored Kept Engines) (Except Failure (Option Record)) := do
  let fetched := kind.fetch (← get).stored id
  match components.records, fetched with
  | some records, .ok (some record) =>
    keepRecord records components.settings.recordTimeToLive (kind.key id)
      (kind.document record).render
  | _, _ => pure ()
  return fetched

/-- Look a record up: in the cache when that is accepted, and else in the store. -/
def loadRecord (components : Components Stored Kept Engines) (kind : RecordKind Stored Record)
    (cached : Bool) (id : String) :
    StateM (World Stored Kept Engines) (Except Failure (Option Record)) := do
  match cached, components.records with
  | true, some records =>
    match ← keptRecord records (kind.key id) kind.decoder with
    | some record => return .ok (some record)
    | none => components.fetchRecord kind id
  | _, _ => components.fetchRecord kind id

/-- Configuration records. -/
def configs (components : Components Stored Kept Engines) : RecordKind Stored Config where
  key := Cache.configKey
  fetch := components.store.getConfig
  decoder := Config.decoder
  document := Config.document

/-- Code records. -/
def codes (components : Components Stored Kept Engines) : RecordKind Stored Code where
  key := Cache.codeKey
  fetch := components.store.getCode
  decoder := Code.decoder
  document := Code.document

/-- Drop the kept text of a code record, if that works. -/
def forgetCode (components : Components Stored Kept Engines) (codeId : String) :
    StateM (World Stored Kept Engines) Unit :=
  match components.records with
  | none => pure ()
  | some records =>
    modify fun world =>
      { world with kept := (records.remove world.kept (Cache.codeKey codeId)).2 }

end Components

end ConfigDelivery.Delivery
