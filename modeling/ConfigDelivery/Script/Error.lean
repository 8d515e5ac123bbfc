import ConfigDelivery.Basic.Time
import ConfigDelivery.Text.Integer
/-!
# Failures of scripts

The ways in which running a script can fail, and their wording.
-/

namespace ConfigDelivery.Script

/-- Why a script gave no result. -/
inductive ScriptError where
  | badSyntax (detail : String)
  | runtime (detail : String)
  | timeout (after : Duration)
  | unavailable (detail : String)
  deriving DecidableEq, Repr

namespace ScriptError

/-- The wording of a script's failure; a timeout shows whole milliseconds. -/
def message : ScriptError → String
  | badSyntax detail => "syntax error: " ++ detail
  | runtime detail => "runtime error: " ++ detail
  | timeout after => "execution timeout: " ++ Text.integerText after.toMillis ++ "ms"
  | unavailable detail => "interpreter unavailable: " ++ detail

end ScriptError

end ConfigDelivery.Script
