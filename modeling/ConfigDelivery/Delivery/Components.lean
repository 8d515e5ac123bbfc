import ConfigDelivery.Cache.Records
import ConfigDelivery.Delivery.Error
import ConfigDelivery.Engine.Interface
import ConfigDelivery.Store.Interface
/-!
# Components of the delivery

The delivery works on a record store, a cache of record texts that it may lack,
and script engines. It knows them by their operations alone; what they hold, and
the time, make up the state that its actions carry along. An action that refuses
a request keeps what it changed before.
-/

namespace ConfigDelivery.Delivery

open ConfigDelivery.Cache (RecordCacheOps)
open ConfigDelivery.Engine (EngineOps)
open ConfigDelivery.Script (ScriptError)
open ConfigDelivery.Store (RecordStoreOps)

/-- How many errors a code version may have, unless said otherwise. -/
def defaultBreakThreshold : UInt32 := 10

/-- What the delivery can be told. -/
structure Settings where
  /-- How long a record text is kept. -/
  recordTimeToLive : Duration := Cache.defaultRecordTimeToLive
  /-- A code version with more errors than this is broken. -/
  breakThreshold : UInt32 := defaultBreakThreshold
  /-- What a caller must know to run unit tests. -/
  testSecret : Option String := none

/-- The components that the delivery works on. -/
structure Components (Stored Kept Engines : Type) where
  store : RecordStoreOps Stored
  records : Option (RecordCacheOps Kept)
  engines : EngineOps Engines
  /-- The seconds that a calendar clock shows at an instant. -/
  wallClock : Instant → Except Failure Nat
  settings : Settings

/-- What the components hold, and the time. -/
structure World (Stored Kept Engines : Type) where
  stored : Stored
  kept : Kept
  engines : Engines
  now : Instant

variable {Stored Kept Engines : Type}

/-- Something that the delivery does, and that may be refused. -/
abbrev Action (Stored Kept Engines Result : Type) : Type :=
  ExceptT DeliveryError (StateM (World Stored Kept Engines)) Result

/-- A decision that needs nothing from the components. -/
def conclude {Result : Type} (decision : Except DeliveryError Result) :
    Action Stored Kept Engines Result :=
  ExceptT.mk (pure decision)

namespace Components

/-- Read something from the store; a failure is told with its outermost message. -/
def read {Result : Type} (components : Components Stored Kept Engines)
    (fetch : RecordStoreOps Stored → Stored → Except Failure Result) :
    Action Stored Kept Engines Result := do
  match fetch components.store (← get).stored with
  | .ok result => return result
  | .error failure => throw (.internal failure.plain)

/-- Run a script and let its time pass. -/
def execute (components : Components Stored Kept Engines) (request : Engine.Request) :
    StateM (World Stored Kept Engines) (Except ScriptError String) := do
  let world ← get
  let response := components.engines.run world.engines world.now request
  set { world with engines := response.state, now := response.now }
  return response.outcome

end Components

/-- What a caller gives to show that a request is allowed; an empty secret is none. -/
def givenSecret : Option String → Except DeliveryError String
  | some secret => if secret.isEmpty then .error (.input "missing secret") else .ok secret
  | none => .error (.input "missing secret")

end ConfigDelivery.Delivery
