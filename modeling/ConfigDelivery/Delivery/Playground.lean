import ConfigDelivery.Delivery.Components
import ConfigDelivery.Delivery.Preparation
/-!
# The playground

Running a piece of code that is not stored, on parameters that no schema checks.
-/

namespace ConfigDelivery.Delivery

variable {Stored Kept Engines : Type}

namespace Components

/-- Run a prepared script whose program is not kept. -/
def runOnce (components : Components Stored Kept Engines) (source : String)
    (prepared : Prepared) : Action Stored Kept Engines String := do
  match ← components.execute ⟨prepared.language, "", source, prepared.params⟩ with
  | .ok result => return result
  | .error error => throw (.execution error.message)

/-- Run code in a language. -/
def runPlayground (components : Components Stored Kept Engines) (language : String)
    (request : PlaygroundRequest) : Action Stored Kept Engines String := do
  let language ← conclude (readLanguage language)
  components.runOnce request.code ⟨language, (Json.Value.object request.params).render⟩

end Components

end ConfigDelivery.Delivery
