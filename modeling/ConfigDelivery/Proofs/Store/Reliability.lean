import ConfigDelivery.Proofs.Store.Laws
/-!
# Stores that work

`RecordStoreOps.Reliable` says what the operations of a store do when none of them fails: how each
of them changes what the store answers to every reading, which is its `View`. Both stores of the
service are reliable. For the relational tables that rests on two facts: the rows of code versions
keep their numbers when they are written again, and reports refer to numbers that were given out.
-/

namespace ConfigDelivery.Store

variable {State : Type}

/-- What a store answers to every reading. -/
@[ext] structure View where
  config : String → Except Failure (Option Config)
  code : String → Except Failure (Option Code)
  testCase : String → Except Failure (Option TestCase)
  reports : String → Except Failure (List ErrorReport)

/-- What a store with some contents answers. -/
def RecordStoreOps.view (store : RecordStoreOps State) (state : State) : View where
  config := store.getConfig state
  code := store.getCode state
  testCase := store.getTestCase state
  reports := store.errorReports state

namespace View

/-- A configuration is there, in the place of one with its identifier. -/
def putConfig (view : View) (config : Config) : View :=
  { view with config := fun id =>
      if config.configId = id then .ok (some config) else view.config id }

/-- A code version is there, in the place of one with its identifier; the reports stay. -/
def putCode (view : View) (code : Code) : View :=
  { view with code := fun id => if code.codeId = id then .ok (some code) else view.code id }

/-- A unit test is there, in the place of one with its identifier. -/
def putTestCase (view : View) (testCase : TestCase) : View :=
  { view with testCase := fun id =>
      if testCase.testId = id then .ok (some testCase) else view.testCase id }

/-- A code version was updated by a report, which comes after the reports before it. -/
def addReport (view : View) (codeId : String) (report : ErrorReport) (updated : Code) : View :=
  { view with
    code := fun id => if codeId = id then .ok (some updated) else view.code id
    reports := fun id =>
      if codeId = id then (view.reports id).map (· ++ [report]) else view.reports id }

/-- Two views differ in one code version and its reports at most. -/
structure SameBut (codeId : String) (view other : View) : Prop where
  config : view.config = other.config
  testCase : view.testCase = other.testCase
  code : ∀ {id}, id ≠ codeId → view.code id = other.code id
  reports : ∀ {id}, id ≠ codeId → view.reports id = other.reports id

theorem SameBut.refl (codeId : String) (view : View) : view.SameBut codeId view :=
  ⟨rfl, rfl, fun _ => rfl, fun _ => rfl⟩

/-- A report concerns its own code version alone. -/
theorem addReport_sameBut (view : View) (codeId : String) (report : ErrorReport)
    (updated : Code) : (view.addReport codeId report updated).SameBut codeId view where
  config := rfl
  testCase := rfl
  code different := if_neg (Ne.symm different)
  reports different := if_neg (Ne.symm different)

end View

/-- The greatest number of errors that can be counted. -/
def greatestCount : UInt32 := 0xffffffff

/-- A count that is not at its greatest has one more. -/
theorem toNat_add_one_of_countable {count : UInt32} (countable : count ≠ greatestCount) :
    (count + 1).toNat = count.toNat + 1 := by
  have below := count.toNat_lt
  have different : count.toNat ≠ greatestCount.toNat :=
    fun same => countable (UInt32.toNat_inj.mp same)
  simp only [greatestCount, UInt32.toNat_ofNat] at different
  rw [UInt32.toNat_add, UInt32.toNat_one, Nat.mod_eq_of_lt (by omega)]

/-- A code version after one more report, when its errors can still be counted. -/
def reported (code : Code) (threshold : UInt32) : Code :=
  { code with
    errorCount := code.errorCount + 1
    isBroken := code.isBroken || tripsBreaker (code.errorCount + 1) threshold }

/-- What was done to a store has a result, keeps the contents valid and changes their view. -/
structure RecordStoreOps.HasEffect (store : RecordStoreOps State) (Valid : State → Prop)
    (state : State) {Result : Type} (done : Result × State) (result : Result)
    (change : View → View) : Prop where
  result_eq : done.1 = result
  valid : Valid done.2
  view_eq : store.view done.2 = change (store.view state)

/-- The promises of a store that works, for contents that are `Valid`. -/
structure RecordStoreOps.Reliable (store : RecordStoreOps State) (Valid : State → Prop) :
    Prop where
  /-- A code version stands under its own identifier. -/
  codeId_eq : ∀ {state id code}, Valid state →
    store.getCode state id = .ok (some code) → code.codeId = id
  putConfig : ∀ {state} config, Valid state →
    store.HasEffect Valid state (store.putConfig state config) (.ok ()) (·.putConfig config)
  putCode : ∀ {state} code, Valid state →
    store.HasEffect Valid state (store.putCode state code) (.ok ()) (·.putCode code)
  putTestCase : ∀ {state} testCase, Valid state →
    store.HasEffect Valid state (store.putTestCase state testCase) (.ok ())
      (·.putTestCase testCase)
  recordError_missing : ∀ {state id} report threshold, Valid state →
    store.getCode state id = .ok none →
      store.recordError state id report threshold = (.error (codeMissing id), state)
  recordError_found : ∀ {state id code} report threshold, Valid state →
    store.getCode state id = .ok (some code) → code.errorCount ≠ greatestCount →
      store.HasEffect Valid state (store.recordError state id report threshold)
        (.ok (reported code threshold)) (·.addReport id report (reported code threshold))
  /-- Whatever a code version and its count are, a report changes nothing else. -/
  recordError_sameBut : ∀ {state} id report threshold, Valid state →
    Valid (store.recordError state id report threshold).2 ∧
    (store.view (store.recordError state id report threshold).2).SameBut id (store.view state)

/-! ## The store in memory -/

namespace MemoryStore

/-- Below the greatest count, an error counts one more. -/
theorem withError_eq {code : Code} (countable : code.errorCount ≠ greatestCount)
    (threshold : UInt32) : withError code threshold = reported code threshold := by
  have counted : nextCount code.errorCount = code.errorCount + 1 := if_neg countable
  simp only [withError, counted, reported]

/-- An error of a code version that is found is recorded. -/
theorem recordError_of_found {store : MemoryStore} {id : String} {code : Code}
    (found : store.codes.find? id = some code) (report : ErrorReport) (threshold : UInt32) :
    store.recordError id report threshold
      = (.ok (withError code threshold),
          { store with
            codes := store.codes.insert id (withError code threshold)
            reports := store.reports ++ [(id, report)] }) := by
  simp only [recordError, found]

/-- A recorded error shows in its code version and the reports about it. -/
theorem view_recordError {store : MemoryStore} (indexed : store.IsIndexed) {id : String}
    {code : Code} (found : store.codes.find? id = some code) (report : ErrorReport)
    (threshold : UInt32) :
    (store.recordError id report threshold).2.IsIndexed ∧
    ops.view (store.recordError id report threshold).2
      = (ops.view store).addReport id report (withError code threshold) := by
  have recorded := recordError_of_found found report threshold
  obtain ⟨after, sameConfigs, read, _⟩ := lawful.recordError_ok indexed recorded
  rw [recorded]
  refine ⟨after, View.ext sameConfigs (funext read) rfl (funext fun other => ?_)⟩
  simp only [RecordStoreOps.view, ops, View.addReport, errorReports, List.filter_append,
    List.map_append]
  by_cases same : id = other
  · subst same
    simp [Except.map]
  · simp [same]

/-- The store in memory is reliable. -/
theorem reliable : ops.Reliable IsIndexed where
  codeId_eq := lawful.codeId_eq
  putConfig := by
    intro store config indexed
    have put : ops.putConfig store config = (.ok (), _) := rfl
    obtain ⟨valid, _, read⟩ := lawful.putConfig_ok indexed put
    exact ⟨rfl, valid, View.ext (funext read) rfl rfl rfl⟩
  putCode := by
    intro store code indexed
    have put : ops.putCode store code = (.ok (), _) := rfl
    obtain ⟨valid, _, read⟩ := lawful.putCode_ok indexed put
    exact ⟨rfl, valid, View.ext rfl (funext read) rfl rfl⟩
  putTestCase := by
    intro store testCase indexed
    refine ⟨rfl, ⟨indexed.configs, indexed.codes⟩, View.ext rfl rfl (funext fun id => ?_) rfl⟩
    simp only [RecordStoreOps.view, ops, Table.find?_insert, View.putTestCase]
    split <;> rfl
  recordError_missing := by
    intro store id report threshold indexed missing
    have missing : store.codes.find? id = none := Except.ok.inj missing
    simp only [ops, recordError, missing]
  recordError_found := by
    intro store id code report threshold indexed found countable
    have found : store.codes.find? id = some code := Except.ok.inj found
    have recorded := recordError_of_found found report threshold
    obtain ⟨valid, shown⟩ := view_recordError indexed found report threshold
    rw [← withError_eq countable]
    exact ⟨congrArg Prod.fst recorded, valid, shown⟩
  recordError_sameBut := by
    intro store id report threshold indexed
    cases found : store.codes.find? id with
    | none =>
      have same : (ops.recordError store id report threshold).2 = store := by
        simp only [ops, recordError, found]
      rw [same]
      exact ⟨indexed, .refl id _⟩
    | some code =>
      obtain ⟨after, shown⟩ := view_recordError indexed found report threshold
      exact ⟨after, shown ▸ View.addReport_sameBut ..⟩

end MemoryStore

/-! ## The store in relational tables -/

/-- The number of a row and the identifier of its code version: reports are found by these. -/
def CodeRow.identity (row : CodeRow) : Nat × String := (row.rowId, row.codeId)

/-- A column that is read as a count holds that count. -/
theorem CodeRow.eq_ofNat_of_readCount {codeId : String} {count : Int64} {errorCount : UInt32}
    (read : readCount codeId count = .ok errorCount) :
    count = Int64.ofNat errorCount.toNat :=
  Int64.toInt_inj.mp ((readCount_eq_ok_iff.mp read).trans (toInt_ofNat_toNat errorCount).symm)

/-- Below the greatest count, one more in the column is one more in the count. -/
theorem CodeRow.readCount_add_one {codeId : String} {count : Int64} {errorCount : UInt32}
    (read : readCount codeId count = .ok errorCount) (countable : errorCount ≠ greatestCount) :
    readCount codeId (count + 1) = .ok (errorCount + 1) := by
  rw [eq_ofNat_of_readCount read, ← readCount_ofNat codeId (errorCount + 1),
    toNat_add_one_of_countable countable, Int64.ofNat_add]
  rfl

/-- The error tracking of a code version is in the columns of its row. -/
theorem CodeRow.tracking_of_code {row : CodeRow} {code : Code} (read : row.code = .ok code) :
    readCount row.codeId row.errorCount = .ok code.errorCount ∧
    decide (row.isBroken ≠ 0) = code.isBroken := by
  obtain ⟨_, _, _, _, _, counted, rfl⟩ := CodeRow.code_eq_ok read
  exact ⟨counted, rfl⟩

/-- The row of a code version with other error tracking is read as that code version with it. -/
theorem CodeRow.code_tracked {row : CodeRow} {code : Code} (read : row.code = .ok code)
    (errorCount : UInt32) (isBroken : Bool) :
    CodeRow.code { row with
        errorCount := Int64.ofNat errorCount.toNat
        isBroken := if isBroken then 1 else 0 }
      = .ok { code with errorCount, isBroken } := by
  obtain ⟨rules, params, _, rulesRead, paramsRead, _, rfl⟩ := CodeRow.code_eq_ok read
  simp only [CodeRow.code, rulesRead, paramsRead, readCount_ofNat]
  rw [flag_ne_zero]

namespace Tables

/-- The rows of code versions are numbered, and reports refer to numbers that were given out. -/
structure IsReferenced (tables : Tables) : Prop extends IsNumbered tables where
  referenced : ∀ report ∈ tables.reports, report.codeRef ≤ tables.lastCodeRow

/-- In empty tables every report refers to a row. -/
theorem isReferenced_empty : empty.IsReferenced where
  toIsNumbered := isNumbered_empty
  referenced := by simp [empty]

/-! ### The reports about a code version -/

/-- Reports are found by the numbers and identifiers of rows alone. -/
theorem errorReports_of_identities {tables after : Tables}
    (sameRows : after.codes.map CodeRow.identity = tables.codes.map CodeRow.identity)
    (sameReports : after.reports = tables.reports) : after.errorReports = tables.errorReports := by
  funext id
  have found (tables : Tables) (report : ReportRow) :
      (tables.codes.any fun row => row.rowId = report.codeRef && row.codeId = id)
        = (tables.codes.map CodeRow.identity).any
            fun identity => identity.1 = report.codeRef && identity.2 = id := by
    rw [List.any_map]
    rfl
  simp only [errorReports, found, sameRows, sameReports]

/-- To set a count leaves the reports as they are. -/
theorem errorReports_setErrors (tables : Tables) (codeRef : Nat) (errorCount : UInt32)
    (isBroken : Bool) :
    (tables.setErrors codeRef errorCount isBroken).errorReports = tables.errorReports := by
  refine errorReports_of_identities ?_ rfl
  rw [setErrors, List.map_map]
  refine List.map_congr_left fun row _ => ?_
  simp only [Function.comp_apply, CodeRow.identity]
  split <;> rfl

/-- Code versions that are written again keep their reports, and a new one has none, for no report
refers to its number. -/
theorem errorReports_putCode {tables : Tables} (valid : tables.IsReferenced) (code : Code) :
    (tables.putCode code).errorReports = tables.errorReports := by
  unfold Tables.putCode
  cases found : tables.codeRow? code.codeId with
  | some row =>
    refine errorReports_of_identities ?_ rfl
    refine map_replaceRow CodeRow.codeId (.ofCode row.rowId code) found ?_
    rw [CodeRow.identity, CodeRow.identity, (codeRow?_eq_some found).2]
    rfl
  | none =>
    funext id
    refine List.filterMap_congr fun report inside => ?_
    have older : tables.lastCodeRow + 1 ≠ report.codeRef := by
      have := valid.referenced report inside
      omega
    simp [CodeRow.ofCode, older]

/-- A report is added behind those of its own code version. -/
theorem errorReports_addReport {tables : Tables} (numbered : tables.IsNumbered) {id : String}
    {row : CodeRow} (found : tables.codeRow? id = some row) (report : ErrorReport)
    (other : String) :
    (tables.addReport row.rowId report).errorReports other
      = if id = other then tables.errorReports other ++ [report]
        else tables.errorReports other := by
  obtain ⟨inside, sameId⟩ := codeRow?_eq_some found
  have refersTo : (tables.codes.any fun old => old.rowId = row.rowId && old.codeId = other)
      = decide (id = other) := by
    rw [Bool.eq_iff_iff]
    simp only [List.any_eq_true, Bool.and_eq_true, decide_eq_true_eq]
    constructor
    · rintro ⟨old, member, sameNumber, rfl⟩
      rw [numbered.eq_of_rowId_eq member inside sameNumber, sameId]
    · rintro rfl
      exact ⟨row, inside, rfl, sameId⟩
  simp only [errorReports, addReport, List.filterMap_append, List.filterMap_cons,
    List.filterMap_nil, refersTo]
  by_cases same : id = other <;> simp [same]

/-! ### The promises -/

/-- After a code version was written, every report still refers to a row. -/
theorem IsReferenced.putCode {tables : Tables} (valid : tables.IsReferenced) (code : Code) :
    (tables.putCode code).IsReferenced where
  toIsNumbered := valid.toIsNumbered.putCode code
  referenced := by
    unfold Tables.putCode
    split
    · exact valid.referenced
    · exact fun report inside => Nat.le_succ_of_le (valid.referenced report inside)

/-- A report about a row that is there. -/
theorem IsReferenced.track {tables : Tables} (valid : tables.IsReferenced) {row : CodeRow}
    (inside : row ∈ tables.codes) (report : ErrorReport) (errorCount : UInt32)
    (isBroken : Bool) :
    ((tables.addReport row.rowId report).setErrors row.rowId errorCount isBroken).IsReferenced where
  toIsNumbered :=
    have reported : (tables.addReport row.rowId report).IsNumbered :=
      ⟨valid.distinct, valid.givenOut⟩
    reported.setErrors ..
  referenced := by
    intro other mem
    rcases List.mem_append.mp mem with mem | mem
    · exact valid.referenced other mem
    · rw [List.mem_singleton.mp mem]
      exact valid.givenOut row inside

/-- What is seen after a code version was written is what was seen, with that one. -/
theorem view_putCode {tables : Tables} (valid : tables.IsReferenced) (code : Code) :
    ops.view (tables.putCode code) = (ops.view tables).putCode code := by
  have put : ops.putCode tables code = (.ok (), tables.putCode code) := rfl
  obtain ⟨_, sameConfigs, read⟩ := lawful.putCode_ok valid.toIsNumbered put
  refine View.ext sameConfigs (funext read) (funext fun id => ?_) (funext fun id => ?_)
  · simp only [RecordStoreOps.view, ops, View.putCode, Tables.putCode]
    split <;> rfl
  · exact congrArg Except.ok (congrFun (errorReports_putCode valid code) id)

/-- A test that was written is found, and the others are as before. -/
theorem testCase_putTestCase (tables : Tables) (testCase : TestCase) (other : String) :
    (tables.putTestCase testCase).testCases.find? (fun row => row.testId = other)
      = if testCase.testId = other then some testCase
        else tables.testCases.find? fun row => row.testId = other :=
  find?_replaceRow TestCase.testId testCase tables.testCases other

/-- A row that can be read is found as its code version. -/
theorem getCode_of_row {tables : Tables} {id : String} {row : CodeRow} {code : Code}
    (found : tables.codeRow? id = some row) (read : row.code = .ok code) :
    tables.getCode id = .ok (some code) := by
  rw [getCode, found]
  simp only [read]
  rfl

/-- A code version that is missing has no row. -/
theorem codeRow?_of_missing {tables : Tables} {id : String}
    (missing : tables.getCode id = .ok none) : tables.codeRow? id = none := by
  cases found : tables.codeRow? id with
  | none => rfl
  | some row =>
    rw [getCode, found] at missing
    cases read : row.code <;> simp [read, Except.map] at missing

/-- A code version whose errors can still be counted takes a report. -/
theorem recordError_of_row {tables : Tables} (numbered : tables.IsNumbered) {id : String}
    {row : CodeRow} {code : Code} (found : tables.codeRow? id = some row)
    (read : row.code = .ok code) (countable : code.errorCount ≠ greatestCount)
    (report : ErrorReport) (threshold : UInt32) :
    tables.recordError id report threshold
      = (.ok (reported code threshold),
          (tables.addReport row.rowId report).setErrors row.rowId (code.errorCount + 1)
            (reported code threshold).isBroken) := by
  obtain ⟨counted, broken⟩ := CodeRow.tracking_of_code read
  rw [(codeRow?_eq_some found).2] at counted
  have next := CodeRow.readCount_add_one counted countable
  have breaks : (decide (row.isBroken ≠ 0) || tripsBreaker (code.errorCount + 1) threshold)
      = (reported code threshold).isBroken := by
    rw [broken]
    rfl
  have reportAdded : (tables.addReport row.rowId report).IsNumbered :=
    ⟨numbered.distinct, numbered.givenOut⟩
  have written := codeRow?_setErrors reportAdded found (code.errorCount + 1)
    (reported code threshold).isBroken id
  rw [if_pos rfl] at written
  have rereads := getCode_of_row written (CodeRow.code_tracked read _ _)
  simp only [recordError, found, next, breaks, rereads]
  rfl

/-- A recorded error shows in its code version and the reports about it. -/
theorem view_of_recordError {tables after : Tables} (numbered : tables.IsNumbered) {id : String}
    {report : ErrorReport} {threshold : UInt32} {updated : Code}
    (recorded : tables.recordError id report threshold = (.ok updated, after)) :
    ops.view after = (ops.view tables).addReport id report updated := by
  obtain ⟨_, sameConfigs, read, _⟩ := lawful.recordError_ok numbered recorded
  obtain ⟨row, errorCount, found, rfl, _⟩ := recordError_eq_ok recorded
  refine View.ext sameConfigs (funext read) rfl (funext fun other => ?_)
  have reports := errorReports_addReport numbered found report other
  simp only [RecordStoreOps.view, ops, View.addReport, errorReports_setErrors, reports]
  split <;> rfl

/-- What is seen after an error was recorded is what was seen, with one more report. -/
theorem view_recordError {tables after : Tables} (valid : tables.IsReferenced) {id : String}
    {report : ErrorReport} {threshold : UInt32} {updated : Code}
    (recorded : tables.recordError id report threshold = (.ok updated, after)) :
    after.IsReferenced ∧ ops.view after = (ops.view tables).addReport id report updated := by
  refine ⟨?_, view_of_recordError valid.toIsNumbered recorded⟩
  obtain ⟨row, errorCount, found, rfl, _⟩ := recordError_eq_ok recorded
  exact valid.track (codeRow?_eq_some found).1 ..

/-- The store in relational tables is reliable. -/
theorem reliable : ops.Reliable IsReferenced where
  codeId_eq valid := lawful.codeId_eq valid.toIsNumbered
  putConfig := by
    intro tables config valid
    have put : ops.putConfig tables config = (.ok (), _) := rfl
    obtain ⟨numbered, _, read⟩ := lawful.putConfig_ok valid.toIsNumbered put
    exact ⟨rfl, ⟨numbered, valid.referenced⟩, View.ext (funext read) rfl rfl rfl⟩
  putCode := by
    intro tables code valid
    exact ⟨rfl, valid.putCode code, view_putCode valid code⟩
  putTestCase := by
    intro tables testCase valid
    refine ⟨rfl, ⟨⟨valid.distinct, valid.givenOut⟩, valid.referenced⟩, ?_⟩
    refine View.ext rfl rfl (funext fun id => ?_) rfl
    simp only [RecordStoreOps.view, ops, View.putTestCase, testCase_putTestCase]
    split <;> rfl
  recordError_missing := by
    intro tables id report threshold valid missing
    simp only [ops, recordError, codeRow?_of_missing missing]
  recordError_found := by
    intro tables id code report threshold valid found countable
    obtain ⟨row, found, read⟩ := getCode_eq_some found
    have recorded := recordError_of_row valid.toIsNumbered found read countable report threshold
    obtain ⟨after, shown⟩ := view_recordError valid recorded
    rw [show ops.recordError tables id report threshold = _ from recorded]
    exact ⟨rfl, after, shown⟩
  recordError_sameBut := by
    intro tables id report threshold valid
    rcases recorded : tables.recordError id report threshold with ⟨failure | updated, after⟩
    · have recorded : ops.recordError tables id report threshold = (.error failure, after) :=
        recorded
      obtain rfl := lawful.recordError_error recorded
      rw [recorded]
      exact ⟨valid, .refl id _⟩
    · obtain ⟨valid, shown⟩ := view_recordError valid recorded
      rw [show ops.recordError tables id report threshold = (.ok updated, after) from recorded,
        shown]
      exact ⟨valid, View.addReport_sameBut ..⟩

end Tables

end ConfigDelivery.Store
