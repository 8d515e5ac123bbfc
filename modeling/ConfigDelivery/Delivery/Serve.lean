import ConfigDelivery.Delivery.Preparation
import ConfigDelivery.Delivery.Records
import ConfigDelivery.Targeting.Rollout
/-!
# Serving a configuration

The way of a request from the configuration's record over the choice of a code
version, its targeting rules and its parameters to the result of its script.
-/

namespace ConfigDelivery.Delivery

variable {Stored Kept Engines : Type}

/-- The identifier of the program that a configuration and a code version share. -/
def programId (configId codeId : String) : String := configId ++ "/" ++ codeId

/-- The refusal when a configuration has no record. -/
def configMissing (configId : String) : DeliveryError :=
  .input ("config record " ++ configId ++ " does not exist")

/-- A configuration that is served; any other is refused. -/
def requireActive (config : Config) : Except DeliveryError Unit :=
  if config.isActive then .ok () else .error (.forbidden "the config is not active")

namespace Components

/-- The record of a configuration that is served. -/
def activeConfig (components : Components Stored Kept Engines) (configId : String)
    (cached : Bool) : Action Stored Kept Engines Config := do
  match ← components.loadRecord components.configs cached configId with
  | .error failure => throw (.internal failure.plain)
  | .ok none => throw (configMissing configId)
  | .ok (some config) =>
    conclude (requireActive config)
    return config

/-- The record of a code version, which must be there. -/
def resolveCode (components : Components Stored Kept Engines) (cached : Bool) (codeId : String) :
    StateM (World Stored Kept Engines) (Except Failure Code) := do
  match ← components.loadRecord components.codes cached codeId with
  | .error failure => return .error failure
  | .ok none => return .error (Store.codeMissing codeId)
  | .ok (some code) => return .ok code

/-- The code version for a device. -/
def chooseCode (components : Components Stored Kept Engines) (config : Config)
    (deviceId : String) (cached : Bool) : Action Stored Kept Engines Targeting.Selection := do
  let chosen : StateM (World Stored Kept Engines) (Except Failure Targeting.Selection) :=
    Targeting.selectCode config deviceId (components.resolveCode cached)
  match ← chosen with
  | .error failure => throw (.internal failure.full)
  | .ok selection => return selection

/-- Serve a configuration to a request. The program is kept only when cached records are accepted
too. -/
def serve (components : Components Stored Kept Engines) (configId : String)
    (request : ConfigRequest) : Action Stored Kept Engines ConfigResponse := do
  let config ← components.activeConfig configId request.cached
  let ⟨code, _⟩ ← components.chooseCode config request.requestMeta.deviceId request.cached
  conclude (permit code request.requestMeta)
  let prepared ← conclude (prepare code request.params)
  -- Without an identifier the program is neither looked up nor kept.
  let cacheId := if request.cached then programId config.configId code.codeId else ""
  match ← components.execute ⟨prepared.language, cacheId, code.content, prepared.params⟩ with
  | .ok result => return ⟨result, code.codeId⟩
  | .error error => throw (.execution ("execution failed: " ++ error.message))

end Components

end ConfigDelivery.Delivery
