import ConfigDelivery.Delivery.Records
import ConfigDelivery.Delivery.Serve
/-!
# Error reports

A client that knows a configuration's secret reports the failures of the code
versions that the configuration serves. Too many of them break a code version,
and a broken one takes no more reports.
-/

namespace ConfigDelivery.Delivery

variable {Stored Kept Engines : Type}

/-- A code version is one that a configuration serves. -/
def servesCode (config : Config) (codeId : String) : Bool :=
  codeId = config.releasedCode
    || (!config.grayReleaseCode.isEmpty && codeId = config.grayReleaseCode)

/-- The secret of a caller is the one of the configuration. -/
def requireConfigSecret (config : Config) (secret : String) : Except DeliveryError Unit :=
  if config.secret.isEmpty ∨ config.secret ≠ secret then
    .error (.forbidden "mismatched access secret")
  else .ok ()

/-- A caller may report the failures of a code version to a configuration. -/
def acceptsReport (config : Config) (configId codeId secret : String) :
    Except DeliveryError Unit := do
  requireConfigSecret config secret
  requireActive config
  if !servesCode config codeId then
    throw (.input ("code " ++ codeId ++ " is not a current version of config " ++ configId))

/-- The last second that a report can carry. -/
def lastSecond : Nat := 0x7fffffffffffffff

namespace Components

/-- A report with a time: its own, or that of the calendar clock. -/
def dated (components : Components Stored Kept Engines) (report : ErrorReport) :
    Action Stored Kept Engines ErrorReport := do
  if report.time ≤ 0 then
    match components.wallClock (← get).now with
    | .error failure => throw (.internal failure.plain)
    | .ok seconds => return { report with time := Int64.ofNat (min seconds lastSecond) }
  else return report

/-- Record a report in the store. -/
def record (components : Components Stored Kept Engines) (codeId : String)
    (report : ErrorReport) : Action Stored Kept Engines Code := do
  let world ← get
  let (result, stored) :=
    components.store.recordError world.stored codeId report components.settings.breakThreshold
  set { world with stored }
  match result with
  | .error failure => throw (.internal failure.full)
  | .ok code => return code

/-- Take a report on a code version of a configuration. -/
def reportError (components : Components Stored Kept Engines) (configId codeId : String)
    (secret : Option String) (report : ErrorReport) :
    Action Stored Kept Engines ReportOutcome := do
  let secret ← conclude (givenSecret secret)
  match ← components.read fun store stored => store.getConfig stored configId with
  | none => throw (configMissing configId)
  | some config =>
    conclude (acceptsReport config configId codeId secret)
    match ← components.read fun store stored => store.getCode stored codeId with
    | none => throw (.internal ("code record " ++ codeId ++ " does not exist"))
    | some code =>
      -- The limit is on the code version, which other configurations may serve too.
      if code.isBroken then
        throw (.forbidden "the code is already disabled due to errors")
      let report ← components.dated report
      let updated ← components.record codeId report
      components.forgetCode codeId
      return ⟨updated.codeId, updated.errorCount, updated.isBroken⟩

end Components

end ConfigDelivery.Delivery
