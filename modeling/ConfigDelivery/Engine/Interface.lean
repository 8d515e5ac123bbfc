import ConfigDelivery.Basic.Time
import ConfigDelivery.Script.Error
import ConfigDelivery.Script.Language
/-!
# Script engines

The operations that the service needs from its engines: running a script, and
telling how busy they are. A run may take time and may leave its compiled program
behind.
-/

namespace ConfigDelivery.Engine

open ConfigDelivery.Script (Language ScriptError)

/-- A script to be run: its language, the identifier under which its program may be kept, its
source, and its parameters as JSON text. -/
structure Request where
  language : Language
  cacheId : String
  source : String
  params : String
  deriving DecidableEq, Repr

/-- The end of a run: its outcome, the engines afterwards, and when that was. -/
structure Response (State : Type) where
  outcome : Except ScriptError String
  state : State
  now : Instant

/-- How many workers a language has, how many of them are busy, and how many programs are kept. -/
structure Health where
  size : Nat
  busy : Nat
  cachedPrograms : Nat
  deriving DecidableEq, Repr

/-- The operations of script engines whose workers and programs are a `State`. -/
structure EngineOps (State : Type) where
  run : State → Instant → Request → Response State
  health : State → Instant → Language → Health

end ConfigDelivery.Engine
