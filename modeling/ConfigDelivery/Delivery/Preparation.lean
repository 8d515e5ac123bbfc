import ConfigDelivery.Delivery.Error
import ConfigDelivery.Params.Schema
import ConfigDelivery.Record.Basic
import ConfigDelivery.Script.Language
import ConfigDelivery.Targeting.Eligibility
/-!
# Before a script runs

The decisions that need nothing but the code version and the request: whether
the code version works, whether the request is eligible for it, which parameters
it gets, and in which language it is written.
-/

namespace ConfigDelivery.Delivery

open ConfigDelivery.Script (Language)

/-- A script that may run: its language and its parameters as JSON text. -/
structure Prepared where
  language : Language
  params : String
  deriving DecidableEq, Repr

/-- The detail of a fault in the record of a code version. -/
def codeFault (code : Code) (fault : String) : DeliveryError :=
  .internal ("code " ++ code.codeId ++ ": " ++ fault)

/-- The language of a name. -/
def readLanguage (name : String) : Except DeliveryError Language :=
  (Language.read name).mapError .input

/-- The parameters that a code version gets, as JSON text. -/
def acceptParams (code : Code) (params : Json.Members) : Except DeliveryError String :=
  match validate code.params params with
  | .ok accepted => .ok (Json.Value.object accepted).render
  | .error fault =>
    if fault.isSchemaFault then .error (codeFault code fault.message)
    else .error (.input ("invalid parameters: " ++ fault.message))

/-- The script of a code version, for some parameters. -/
def prepare (code : Code) (params : Json.Members) : Except DeliveryError Prepared := do
  let params ← acceptParams code params
  let language ← readLanguage code.lang
  return ⟨language, params⟩

/-- A code version may be served for a request. -/
def permit (code : Code) (request : RequestMeta) : Except DeliveryError Unit :=
  if code.isBroken then .error (.forbidden "the requested config is broken")
  else
    match Targeting.evaluate code.rules request with
    | .error fault => .error (codeFault code fault.message)
    | .ok true => .ok ()
    | .ok false => .error (.rejected "request rejected by targeting rules")

end ConfigDelivery.Delivery
