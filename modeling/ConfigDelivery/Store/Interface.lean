import ConfigDelivery.Basic.Failure
import ConfigDelivery.Record.Basic
/-!
# Record stores

The operations that the delivery of configurations needs from a store. Reading
leaves the store as it is and may fail; writing and the recording of an error
report answer the store afterwards.
-/

namespace ConfigDelivery.Store

/-- The operations of a record store whose contents are a `State`. -/
structure RecordStoreOps (State : Type) where
  getConfig : State → String → Except Failure (Option Config)
  getCode : State → String → Except Failure (Option Code)
  getTestCase : State → String → Except Failure (Option TestCase)
  recordError : State → String → ErrorReport → UInt32 → Except Failure Code × State
  putConfig : State → Config → Except Failure Unit × State
  putCode : State → Code → Except Failure Unit × State
  putTestCase : State → TestCase → Except Failure Unit × State
  errorReports : State → String → Except Failure (List ErrorReport)

/-- An error count breaks a code version when it is above the threshold. -/
def tripsBreaker (errorCount threshold : UInt32) : Bool := threshold < errorCount

/-- The failure of recording an error for a code version that is not there. -/
def codeMissing (codeId : String) : Failure := ⟨"code record " ++ codeId ++ " does not exist", []⟩

/-- The methods of a store that can be made to fail. -/
inductive Method where
  | getConfig
  | getCode
  | getTestCase
  | recordError
  | put
  deriving DecidableEq, Repr

/-- The name of a store method. -/
def Method.name : Method → String
  | getConfig => "get_config"
  | getCode => "get_code"
  | getTestCase => "get_test_case"
  | recordError => "record_error"
  | put => "put"

/-- The failure of a store method that cannot work. -/
def Method.failure (method : Method) : Failure := ⟨method.name ++ " failed", ["disk on fire"]⟩

/-- A store in which some methods always fail and change nothing. -/
def RecordStoreOps.failing {State : Type} (ops : RecordStoreOps State) (methods : List Method) :
    RecordStoreOps State :=
  let fails (method : Method) : Bool := methods.contains method
  { getConfig := fun state id =>
      if fails .getConfig then .error (Method.failure .getConfig) else ops.getConfig state id
    getCode := fun state id =>
      if fails .getCode then .error (Method.failure .getCode) else ops.getCode state id
    getTestCase := fun state id =>
      if fails .getTestCase then .error (Method.failure .getTestCase) else ops.getTestCase state id
    recordError := fun state id report threshold =>
      if fails .recordError then (.error (Method.failure .recordError), state)
      else ops.recordError state id report threshold
    putConfig := fun state record =>
      if fails .put then (.error (Method.failure .put), state) else ops.putConfig state record
    putCode := fun state record =>
      if fails .put then (.error (Method.failure .put), state) else ops.putCode state record
    putTestCase := fun state record =>
      if fails .put then (.error (Method.failure .put), state) else ops.putTestCase state record
    errorReports := ops.errorReports }

end ConfigDelivery.Store
