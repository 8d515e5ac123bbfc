import ConfigDelivery.Basic.Table
import ConfigDelivery.Store.Interface
/-!
# Records in memory

The records of each kind under their identifiers, and one list of error reports
that outlives the code records it is about.
-/

namespace ConfigDelivery.Store

/-- Records in memory. -/
structure MemoryStore where
  configs : Table Config := {}
  codes : Table Code := {}
  testCases : Table TestCase := {}
  reports : List (String × ErrorReport) := []

namespace MemoryStore

/-- The store without records. -/
def empty : MemoryStore := {}

/-- The error count after one more report; the greatest count stays. -/
def nextCount (count : UInt32) : UInt32 :=
  if count = 0xffffffff then count else count + 1

/-- A code version after one more report. -/
def withError (code : Code) (threshold : UInt32) : Code :=
  let count := nextCount code.errorCount
  { code with errorCount := count, isBroken := code.isBroken || tripsBreaker count threshold }

/-- Count a report against a code version and append it to the reports. -/
def recordError (store : MemoryStore) (codeId : String) (report : ErrorReport)
    (threshold : UInt32) : Except Failure Code × MemoryStore :=
  match store.codes.find? codeId with
  | none => (.error (codeMissing codeId), store)
  | some code =>
    let updated := withError code threshold
    (.ok updated,
      { store with
        codes := store.codes.insert codeId updated
        reports := store.reports ++ [(codeId, report)] })

/-- The reports about a code version, oldest first. -/
def errorReports (store : MemoryStore) (codeId : String) : List ErrorReport :=
  (store.reports.filter fun entry => entry.1 = codeId).map Prod.snd

/-- The operations of the store in memory. -/
def ops : RecordStoreOps MemoryStore where
  getConfig store id := .ok (store.configs.find? id)
  getCode store id := .ok (store.codes.find? id)
  getTestCase store id := .ok (store.testCases.find? id)
  recordError := recordError
  putConfig store record :=
    (.ok (), { store with configs := store.configs.insert record.configId record })
  putCode store record :=
    (.ok (), { store with codes := store.codes.insert record.codeId record })
  putTestCase store record :=
    (.ok (), { store with testCases := store.testCases.insert record.testId record })
  errorReports store id := .ok (store.errorReports id)

end MemoryStore

end ConfigDelivery.Store
