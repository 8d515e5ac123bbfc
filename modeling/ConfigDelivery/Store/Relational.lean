import ConfigDelivery.Json.Complaint
import ConfigDelivery.Record.Codec
import ConfigDelivery.Store.Interface
/-!
# Records in relational tables

Code versions are rows with a number of their own, so that error reports refer to
the row and survive it being written again. Rules and parameters are JSON texts,
counts and flags are signed 64-bit integers: a row can hold what is no record, and
then reading it fails. The recording of an error is one transaction, so any
failure in it leaves the tables as they were.
-/

namespace ConfigDelivery.Store

/-- A row of the table of configurations. -/
structure ConfigRow where
  configId : String
  releasedCode : String
  testCode : String
  grayReleaseCode : String
  percentage : Int64
  status : String
  secret : String
  deriving DecidableEq, Repr

/-- A row of the table of code versions. -/
structure CodeRow where
  rowId : Nat
  codeId : String
  lang : String
  rules : String
  params : String
  content : String
  isBroken : Int64
  errorCount : Int64
  deriving DecidableEq, Repr

/-- A row of the table of error reports; it refers to a row of the table of code versions. -/
structure ReportRow where
  rowId : Nat
  codeRef : Nat
  time : Int64
  message : String
  deriving DecidableEq, Repr

/-- The tables of a database, and the last row numbers given out. -/
structure Tables where
  configs : List ConfigRow := []
  codes : List CodeRow := []
  testCases : List TestCase := []
  reports : List ReportRow := []
  lastCodeRow : Nat := 0
  lastReportRow : Nat := 0
  deriving DecidableEq, Repr

/-- Replace the row that a test picks, or add a row at the end. -/
def replaceRow {Row : Type} (isSame : Row → Bool) (row : Row) : List Row → List Row
  | [] => [row]
  | head :: rest => if isSame head then row :: rest else head :: replaceRow isSame row rest

namespace ConfigRow

/-- The row of a configuration. -/
def ofConfig (config : Config) : ConfigRow :=
  { configId := config.configId
    releasedCode := config.releasedCode
    testCode := config.testCode
    grayReleaseCode := config.grayReleaseCode
    percentage := Int64.ofNat config.percentage.toNat
    status := config.status
    secret := config.secret }

/-- The configuration of a row, whose percentage must be an unsigned 32-bit number. -/
def config (row : ConfigRow) : Except Failure Config :=
  let percentage := row.percentage.toInt
  if 0 ≤ percentage ∧ percentage < 0x100000000 then
    .ok {
      configId := row.configId
      releasedCode := row.releasedCode
      testCode := row.testCode
      grayReleaseCode := row.grayReleaseCode
      percentage := UInt32.ofNat percentage.toNat
      status := row.status
      secret := row.secret }
  else
    .error ⟨"Integer " ++ Text.integerText percentage ++ " out of range at index 4", []⟩

end ConfigRow

namespace CodeRow

/-- The shape of stored rules. -/
def rulesShape : Json.Shape :=
  .list (.record "PlatformRule" [
    .mk "platform" true .string,
    .mk "rules" false (.list (.list (.record "Rule" [
      .mk "field" true .string,
      .mk "compare" true .string,
      .mk "value" true .string])))])

/-- The shape of stored parameters. -/
def paramsShape : Json.Shape :=
  .list (.record "ParamSpec" [.mk "name" true .string, .mk "type" true .string])

/-- The failure of a column that is not the data it should be. -/
def corrupt (what codeId : String) (cause : Option String) : Failure :=
  ⟨"corrupt " ++ what ++ " for code " ++ codeId, cause.toList⟩

/-- The count of errors in a column; it must be an unsigned 32-bit number. -/
def readCount (codeId : String) (count : Int64) : Except Failure UInt32 :=
  if 0 ≤ count.toInt ∧ count.toInt < 0x100000000 then .ok (UInt32.ofNat count.toInt.toNat)
  else .error (corrupt "error count" codeId none)

/-- The code version of a row. -/
def code (row : CodeRow) : Except Failure Code :=
  match (Json.Decoder.list PlatformRule.decoder).readText row.rules with
  | none => .error (corrupt "rules" row.codeId (Json.complaint? rulesShape row.rules))
  | some rules =>
    match (Json.Decoder.list ParamSpec.decoder).readText row.params with
    | none => .error (corrupt "params" row.codeId (Json.complaint? paramsShape row.params))
    | some params =>
      match readCount row.codeId row.errorCount with
      | .error failure => .error failure
      | .ok errorCount =>
        .ok {
          codeId := row.codeId
          lang := row.lang
          rules
          params
          content := row.content
          isBroken := row.isBroken ≠ 0
          errorCount }

/-- The row of a code version under a row number. -/
def ofCode (rowId : Nat) (code : Code) : CodeRow :=
  { rowId
    codeId := code.codeId
    lang := code.lang
    rules := (Code.rulesDocument code.rules).render
    params := (Code.paramsDocument code.params).render
    content := code.content
    isBroken := if code.isBroken then 1 else 0
    errorCount := Int64.ofNat code.errorCount.toNat }

end CodeRow

namespace Tables

/-- The tables without rows. -/
def empty : Tables := {}

/-- The row of a code version. -/
def codeRow? (tables : Tables) (codeId : String) : Option CodeRow :=
  tables.codes.find? fun row => row.codeId = codeId

/-- Read a configuration. -/
def getConfig (tables : Tables) (configId : String) : Except Failure (Option Config) :=
  match tables.configs.find? fun row => row.configId = configId with
  | none => .ok none
  | some row => row.config.map some

/-- Read a code version. -/
def getCode (tables : Tables) (codeId : String) : Except Failure (Option Code) :=
  match tables.codeRow? codeId with
  | none => .ok none
  | some row => row.code.map some

/-- Write a configuration. -/
def putConfig (tables : Tables) (config : Config) : Tables :=
  { tables with
    configs := replaceRow (fun row => row.configId = config.configId) (.ofConfig config)
      tables.configs }

/-- Write a code version: into the row it has, or into a new one. -/
def putCode (tables : Tables) (code : Code) : Tables :=
  match tables.codeRow? code.codeId with
  | some row =>
    { tables with
      codes := replaceRow (fun other => other.codeId = code.codeId) (.ofCode row.rowId code)
        tables.codes }
  | none =>
    { tables with
      codes := tables.codes ++ [.ofCode (tables.lastCodeRow + 1) code]
      lastCodeRow := tables.lastCodeRow + 1 }

/-- Write a unit test. -/
def putTestCase (tables : Tables) (testCase : TestCase) : Tables :=
  { tables with
    testCases := replaceRow (fun other => other.testId = testCase.testId) testCase
      tables.testCases }

/-- Append a report about a row of the table of code versions. -/
def addReport (tables : Tables) (codeRef : Nat) (report : ErrorReport) : Tables :=
  { tables with
    reports := tables.reports
      ++ [⟨tables.lastReportRow + 1, codeRef, report.time, report.message⟩]
    lastReportRow := tables.lastReportRow + 1 }

/-- Set the error tracking of a row of the table of code versions. -/
def setErrors (tables : Tables) (codeRef : Nat) (errorCount : UInt32) (isBroken : Bool) : Tables :=
  { tables with
    codes := tables.codes.map fun row =>
      if row.rowId = codeRef then
        { row with
          errorCount := Int64.ofNat errorCount.toNat
          isBroken := if isBroken then 1 else 0 }
      else row }

/-- Count a report against a code version and append it to the reports. The written row is read
again, and when that fails nothing was written. -/
def recordError (tables : Tables) (codeId : String) (report : ErrorReport) (threshold : UInt32) :
    Except Failure Code × Tables :=
  match tables.codeRow? codeId with
  | none => (.error (codeMissing codeId), tables)
  | some row =>
    -- The sum is checked, not the count in the row.
    match CodeRow.readCount codeId (row.errorCount + 1) with
    | .error failure => (.error failure, tables)
    | .ok errorCount =>
      let isBroken := row.isBroken ≠ 0 || tripsBreaker errorCount threshold
      let written := (tables.addReport row.rowId report).setErrors row.rowId errorCount isBroken
      match written.getCode codeId with
      | .error failure => (.error failure, tables)
      | .ok none => (.error ⟨"code record " ++ codeId ++ " vanished", []⟩, tables)
      | .ok (some code) => (.ok code, written)

/-- The reports about a code version, oldest first. -/
def errorReports (tables : Tables) (codeId : String) : List ErrorReport :=
  tables.reports.filterMap fun report =>
    if tables.codes.any fun row => row.rowId = report.codeRef && row.codeId = codeId then
      some ⟨report.time, report.message⟩
    else none

/-- The operations of the store in relational tables. -/
def ops : RecordStoreOps Tables where
  getConfig := getConfig
  getCode := getCode
  getTestCase tables id := .ok (tables.testCases.find? fun row => row.testId = id)
  recordError := recordError
  putConfig tables record := (.ok (), tables.putConfig record)
  putCode tables record := (.ok (), tables.putCode record)
  putTestCase tables record := (.ok (), tables.putTestCase record)
  errorReports tables id := .ok (tables.errorReports id)

/-- A column that can be overwritten past the store. -/
inductive Column where
  | rules (value : String)
  | params (value : String)
  | errorCount (value : Int64)
  | isBroken (value : Int64)
  | percentage (value : Int64)

/-- Overwrite a column of the rows of an identifier; the answer counts them. -/
def overwrite (tables : Tables) (id : String) (column : Column) : Nat × Tables :=
  let codes := tables.codes.filter fun row => row.codeId = id
  let change (set : CodeRow → CodeRow) : Nat × Tables :=
    (codes.length,
      { tables with codes := tables.codes.map fun row => if row.codeId = id then set row else row })
  match column with
  | .rules value => change fun row => { row with rules := value }
  | .params value => change fun row => { row with params := value }
  | .errorCount value => change fun row => { row with errorCount := value }
  | .isBroken value => change fun row => { row with isBroken := value }
  | .percentage value =>
    let configs := tables.configs.filter fun row => row.configId = id
    (configs.length,
      { tables with
        configs := tables.configs.map fun row =>
          if row.configId = id then { row with percentage := value } else row })

end Tables

end ConfigDelivery.Store
