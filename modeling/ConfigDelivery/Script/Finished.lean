import ConfigDelivery.Script.Error
/-!
# The end of a run

What is known of a run of a compiled script when it is over, or has been given up.
-/

namespace ConfigDelivery.Script

/-- How a run went: its outcome, unless it ran out of steps, and the steps that it took. -/
structure Finished where
  outcome : Option (Except ScriptError String)
  steps : Nat

end ConfigDelivery.Script
