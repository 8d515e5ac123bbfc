import ConfigDelivery.Proofs.Record.RoundTrip
import ConfigDelivery.Store.Memory
import ConfigDelivery.Store.Relational
import Mathlib.Data.List.Nodup
/-!
# What a record store promises

`RecordStoreOps.Lawful` says how the operations of a store act on what it answers: a record that was
written is the one that is read, under its own identifier and nowhere else, an error report changes
the error tracking of one code version, and an operation that fails leaves everything as it was.
Every operation may fail at any time. The promises are about the contents that the operations lead
to, and both stores of the service keep them.
-/

namespace ConfigDelivery.Store

variable {State : Type}

/-- A code version after one more report. -/
structure Counted (threshold : UInt32) (code updated : Code) : Prop where
  sameRest : updated = { code with
    errorCount := updated.errorCount
    isBroken := updated.isBroken }
  isBroken : updated.isBroken = (code.isBroken || tripsBreaker updated.errorCount threshold)

/-- The promises of a store, for contents that are `Valid`. -/
structure RecordStoreOps.Lawful (store : RecordStoreOps State) (Valid : State → Prop) : Prop where
  /-- A configuration stands under its own identifier. -/
  configId_eq : ∀ {state id config}, Valid state →
    store.getConfig state id = .ok (some config) → config.configId = id
  /-- A code version stands under its own identifier. -/
  codeId_eq : ∀ {state id code}, Valid state →
    store.getCode state id = .ok (some code) → code.codeId = id
  putConfig_ok : ∀ {state config after}, Valid state →
    store.putConfig state config = (.ok (), after) →
      Valid after ∧ store.getCode after = store.getCode state ∧
      ∀ id, store.getConfig after id
        = if config.configId = id then .ok (some config) else store.getConfig state id
  putConfig_error : ∀ {state config failure after},
    store.putConfig state config = (.error failure, after) → after = state
  putCode_ok : ∀ {state code after}, Valid state →
    store.putCode state code = (.ok (), after) →
      Valid after ∧ store.getConfig after = store.getConfig state ∧
      ∀ id, store.getCode after id
        = if code.codeId = id then .ok (some code) else store.getCode state id
  putCode_error : ∀ {state code failure after},
    store.putCode state code = (.error failure, after) → after = state
  putTestCase_ok : ∀ {state testCase after}, Valid state →
    store.putTestCase state testCase = (.ok (), after) →
      Valid after ∧ store.getConfig after = store.getConfig state ∧
      store.getCode after = store.getCode state
  putTestCase_error : ∀ {state testCase failure after},
    store.putTestCase state testCase = (.error failure, after) → after = state
  recordError_ok : ∀ {state id report threshold updated after}, Valid state →
    store.recordError state id report threshold = (.ok updated, after) →
      Valid after ∧ store.getConfig after = store.getConfig state ∧
      (∀ other, store.getCode after other
        = if id = other then .ok (some updated) else store.getCode state other) ∧
      ∀ code, store.getCode state id = .ok (some code) → Counted threshold code updated
  recordError_error : ∀ {state id report threshold failure after},
    store.recordError state id report threshold = (.error failure, after) → after = state

/-! ## What writing comes to, whether it works or not -/

namespace RecordStoreOps.Lawful

variable {store : RecordStoreOps State} {Valid : State → Prop} {state : State}

/-- To write a configuration, whether it works or not, concerns that configuration alone. -/
theorem putConfig_after (lawful : store.Lawful Valid) (valid : Valid state) (config : Config) :
    Valid (store.putConfig state config).2 ∧
    store.getCode (store.putConfig state config).2 = store.getCode state ∧
    ∀ id, store.getConfig (store.putConfig state config).2 id = store.getConfig state id ∨
      config.configId = id ∧
        store.getConfig (store.putConfig state config).2 id = .ok (some config) := by
  rcases put : store.putConfig state config with ⟨failure | _, after⟩
  · obtain rfl := lawful.putConfig_error put
    exact ⟨valid, rfl, fun id => .inl rfl⟩
  · obtain ⟨valid, sameCodes, read⟩ := lawful.putConfig_ok valid put
    refine ⟨valid, sameCodes, fun id => ?_⟩
    by_cases same : config.configId = id
    · exact .inr ⟨same, (read id).trans (if_pos same)⟩
    · exact .inl ((read id).trans (if_neg same))

/-- To write a code version, whether it works or not, concerns that code version alone. -/
theorem putCode_after (lawful : store.Lawful Valid) (valid : Valid state) (code : Code) :
    Valid (store.putCode state code).2 ∧
    store.getConfig (store.putCode state code).2 = store.getConfig state ∧
    ∀ id, store.getCode (store.putCode state code).2 id = store.getCode state id ∨
      code.codeId = id ∧ store.getCode (store.putCode state code).2 id = .ok (some code) := by
  rcases put : store.putCode state code with ⟨failure | _, after⟩
  · obtain rfl := lawful.putCode_error put
    exact ⟨valid, rfl, fun id => .inl rfl⟩
  · obtain ⟨valid, sameConfigs, read⟩ := lawful.putCode_ok valid put
    refine ⟨valid, sameConfigs, fun id => ?_⟩
    by_cases same : code.codeId = id
    · exact .inr ⟨same, (read id).trans (if_pos same)⟩
    · exact .inl ((read id).trans (if_neg same))

/-- To write a test, whether it works or not, concerns no configuration and no code version. -/
theorem putTestCase_after (lawful : store.Lawful Valid) (valid : Valid state)
    (testCase : TestCase) :
    Valid (store.putTestCase state testCase).2 ∧
    store.getConfig (store.putTestCase state testCase).2 = store.getConfig state ∧
    store.getCode (store.putTestCase state testCase).2 = store.getCode state := by
  rcases put : store.putTestCase state testCase with ⟨failure | _, after⟩
  · obtain rfl := lawful.putTestCase_error put
    exact ⟨valid, rfl, rfl⟩
  · exact lawful.putTestCase_ok valid put

end RecordStoreOps.Lawful

/-! ## The store in memory -/

/-- Every record stands under its own identifier. -/
structure MemoryStore.IsIndexed (store : MemoryStore) : Prop where
  configs : ∀ {id config}, store.configs.find? id = some config → config.configId = id
  codes : ∀ {id code}, store.codes.find? id = some code → code.codeId = id

/-- An empty memory is indexed. -/
theorem MemoryStore.isIndexed_empty : MemoryStore.empty.IsIndexed where
  configs := by simp [empty, Table.find?, Table.findIn]
  codes := by simp [empty, Table.find?, Table.findIn]

/-- The store in memory keeps the promises. -/
theorem MemoryStore.lawful : MemoryStore.ops.Lawful MemoryStore.IsIndexed where
  configId_eq := by
    intro store id config indexed found
    exact indexed.configs (Except.ok.inj found)
  codeId_eq := by
    intro store id code indexed found
    exact indexed.codes (Except.ok.inj found)
  putConfig_ok := by
    rintro store config after indexed ⟨⟩
    refine ⟨⟨?_, indexed.codes⟩, rfl, fun id => ?_⟩
    · intro id other found
      rw [Table.find?_insert] at found
      split at found
      · rename_i same
        rw [← Option.some.inj found]
        exact same
      · exact indexed.configs found
    · simp only [ops, Table.find?_insert]
      split <;> rfl
  putConfig_error := by
    rintro store config failure after ⟨⟩
  putCode_ok := by
    rintro store code after indexed ⟨⟩
    refine ⟨⟨indexed.configs, ?_⟩, rfl, fun id => ?_⟩
    · intro id other found
      rw [Table.find?_insert] at found
      split at found
      · rename_i same
        rw [← Option.some.inj found]
        exact same
      · exact indexed.codes found
    · simp only [ops, Table.find?_insert]
      split <;> rfl
  putCode_error := by
    rintro store code failure after ⟨⟩
  putTestCase_ok := by
    rintro store testCase after indexed ⟨⟩
    exact ⟨⟨indexed.configs, indexed.codes⟩, rfl, rfl⟩
  putTestCase_error := by
    rintro store testCase failure after ⟨⟩
  recordError_ok := by
    intro store id report threshold updated after indexed recorded
    simp only [ops, recordError] at recorded
    split at recorded
    · cases recorded
    · rename_i code found
      cases recorded
      refine ⟨⟨indexed.configs, ?_⟩, rfl, fun other => ?_, fun before same => ?_⟩
      · intro other entry found'
        rw [Table.find?_insert] at found'
        split at found'
        · rename_i same
          have sameId : code.codeId = id := indexed.codes found
          rw [← Option.some.inj found', ← same]
          exact sameId
        · exact indexed.codes found'
      · simp only [ops, Table.find?_insert]
        split <;> rfl
      · simp only [ops, found, Except.ok.injEq, Option.some.injEq] at same
        subst same
        exact ⟨rfl, rfl⟩
  recordError_error := by
    intro store id report threshold failure after recorded
    simp only [ops, recordError] at recorded
    split at recorded <;> cases recorded
    rfl

/-! ## The store in relational tables -/

section Rows

variable {Row : Type} (key : Row → String) (row : Row)

/-- After a row was replaced, its key finds it, and every other key finds what it found before. -/
theorem find?_replaceRow (rows : List Row) (other : String) :
    (replaceRow (fun old => key old = key row) row rows).find? (fun old => key old = other)
      = if key row = other then some row else rows.find? fun old => key old = other := by
  induction rows with
  | nil =>
    rw [replaceRow, List.find?_singleton]
    simp
  | cons head rest ih =>
    rw [replaceRow]
    by_cases replaced : key head = key row
    · rw [if_pos (by simpa using replaced), List.find?_cons, List.find?_cons, replaced]
      by_cases same : key row = other <;> simp [same]
    · rw [if_neg (by simpa using replaced), List.find?_cons, List.find?_cons, ih]
      by_cases same : key row = other
      · simp [same, same ▸ replaced]
      · simp [same]

/-- A part that a replaced row has in common with the old one is the same in all rows. -/
theorem map_replaceRow {Part : Type} {part : Row → Part} {old : Row} {rows : List Row}
    (found : rows.find? (fun old => key old = key row) = some old)
    (samePart : part row = part old) :
    (replaceRow (fun old => key old = key row) row rows).map part = rows.map part := by
  induction rows with
  | nil => cases found
  | cons head rest ih =>
    rw [replaceRow]
    by_cases replaced : key head = key row
    · rw [List.find?_cons_of_pos (by simpa using replaced)] at found
      obtain rfl : head = old := Option.some.inj found
      rw [if_pos (by simpa using replaced), List.map_cons, List.map_cons, samePart]
    · rw [List.find?_cons_of_neg (by simpa using replaced)] at found
      rw [if_neg (by simpa using replaced), List.map_cons, List.map_cons, ih found]

end Rows

/-- A count is the same as a signed number. -/
theorem toInt_ofNat_toNat (count : UInt32) :
    (Int64.ofNat count.toNat).toInt = count.toNat := by
  have bound : count.toNat < 2 ^ 32 := count.toNat_lt
  exact Int64.toInt_ofNat_of_lt (by omega)

/-- A configuration is read back from its row. -/
theorem ConfigRow.config_ofConfig (config : Config) : (ofConfig config).config = .ok config := by
  have bound : config.percentage.toNat < 2 ^ 32 := config.percentage.toNat_lt
  have kept := toInt_ofNat_toNat config.percentage
  have inRange : (config.percentage.toNat : Int) < 0x100000000 := by omega
  simp [ConfigRow.config, ofConfig, kept, inRange]

/-- A column is read as the count it is. -/
theorem CodeRow.readCount_eq_ok_iff {codeId : String} {stored : Int64} {count : UInt32} :
    readCount codeId stored = .ok count ↔ stored.toInt = count.toNat := by
  constructor
  · intro read
    unfold readCount at read
    split at read
    · rename_i inRange
      obtain rfl := Except.ok.inj read
      have small : stored.toInt.toNat < 2 ^ 32 := by omega
      rw [UInt32.toNat_ofNat_of_lt' small]
      omega
    · cases read
  · intro same
    have bound := count.toNat_lt
    have inRange : 0 ≤ stored.toInt ∧ stored.toInt < 0x100000000 := by omega
    rw [readCount, if_pos inRange, same, Int.toNat_natCast, UInt32.ofNat_toNat]

/-- A count is read back from its column. -/
theorem CodeRow.readCount_ofNat (codeId : String) (count : UInt32) :
    readCount codeId (Int64.ofNat count.toNat) = .ok count :=
  readCount_eq_ok_iff.mpr (toInt_ofNat_toNat count)

/-- A truth value is read back from its column. -/
theorem CodeRow.flag_ne_zero (flag : Bool) :
    decide ((if flag = true then 1 else 0 : Int64) ≠ 0) = flag := by
  cases flag <;> decide

/-- A code version is read back from its row. -/
theorem CodeRow.code_ofCode (rowId : Nat) (code : Code) : (ofCode rowId code).code = .ok code := by
  simp only [CodeRow.code, ofCode, Code.readText_rules, Code.readText_params, readCount_ofNat]
  exact congrArg (fun flag => Except.ok { code with isBroken := flag }) (flag_ne_zero _)

/-- What a row of a code version holds that can be read. -/
theorem CodeRow.code_eq_ok {row : CodeRow} {code : Code} (read : row.code = .ok code) :
    ∃ rules params errorCount,
      (Json.Decoder.list PlatformRule.decoder).readText row.rules = some rules ∧
      (Json.Decoder.list ParamSpec.decoder).readText row.params = some params ∧
      readCount row.codeId row.errorCount = .ok errorCount ∧
      code = {
        codeId := row.codeId
        lang := row.lang
        rules
        params
        content := row.content
        isBroken := row.isBroken ≠ 0
        errorCount } := by
  unfold CodeRow.code at read
  split at read
  · cases read
  · rename_i rules rulesRead
    split at read
    · cases read
    · rename_i params paramsRead
      split at read
      · cases read
      · rename_i errorCount counted
        exact ⟨rules, params, errorCount, rulesRead, paramsRead, counted,
          (Except.ok.inj read).symm⟩

namespace Tables

/-- The rows of code versions have numbers of their own, all of them given out before. -/
structure IsNumbered (tables : Tables) : Prop where
  distinct : (tables.codes.map CodeRow.rowId).Nodup
  givenOut : ∀ row ∈ tables.codes, row.rowId ≤ tables.lastCodeRow

/-- Empty tables are numbered. -/
theorem isNumbered_empty : empty.IsNumbered where
  distinct := List.nodup_nil
  givenOut := by simp [empty]

/-- A row that is found is in the table and has the identifier. -/
theorem codeRow?_eq_some {tables : Tables} {codeId : String} {row : CodeRow}
    (found : tables.codeRow? codeId = some row) : row ∈ tables.codes ∧ row.codeId = codeId := by
  refine ⟨List.mem_of_find?_eq_some found, ?_⟩
  simpa using List.find?_some found

/-- Rows with the same number are one row. -/
theorem IsNumbered.eq_of_rowId_eq {tables : Tables} (numbered : tables.IsNumbered)
    {row other : CodeRow} (inside : row ∈ tables.codes) (inside' : other ∈ tables.codes)
    (same : row.rowId = other.rowId) : row = other :=
  List.inj_on_of_nodup_map numbered.distinct inside inside' same

/-! ### Writing a code version -/

/-- To write a code version keeps tables numbered. -/
theorem IsNumbered.putCode {tables : Tables} (numbered : tables.IsNumbered) (code : Code) :
    (tables.putCode code).IsNumbered := by
  unfold Tables.putCode
  cases found : tables.codeRow? code.codeId with
  | some row =>
    have sameNumbers : (replaceRow (fun other => other.codeId = code.codeId)
        (CodeRow.ofCode row.rowId code) tables.codes).map CodeRow.rowId
          = tables.codes.map CodeRow.rowId :=
      map_replaceRow CodeRow.codeId (.ofCode row.rowId code) found rfl
    constructor
    · exact sameNumbers ▸ numbered.distinct
    · intro written inside
      have inside := List.mem_map_of_mem (f := CodeRow.rowId) inside
      rw [sameNumbers] at inside
      obtain ⟨old, inside, same⟩ := List.mem_map.mp inside
      exact same ▸ numbered.givenOut old inside
  | none =>
    constructor
    · rw [List.map_append, List.nodup_append]
      refine ⟨numbered.distinct, List.nodup_singleton _, ?_⟩
      intro number inside last isLast
      obtain ⟨row, member, rfl⟩ := List.mem_map.mp inside
      have bound := numbered.givenOut row member
      simp only [List.map_cons, List.map_nil, List.mem_singleton, CodeRow.ofCode] at isLast
      omega
    · intro row inside
      rcases List.mem_append.mp inside with inside | inside
      · exact Nat.le_succ_of_le (numbered.givenOut row inside)
      · rw [List.mem_singleton.mp inside]
        exact Nat.le_refl _

/-- After a code version was written, its identifier finds a row of it, and the others find what
they found. -/
theorem codeRow?_putCode (tables : Tables) (code : Code) :
    ∃ rowId, ∀ other, (tables.putCode code).codeRow? other
      = if code.codeId = other then some (.ofCode rowId code) else tables.codeRow? other := by
  unfold Tables.putCode
  cases found : tables.codeRow? code.codeId with
  | some row =>
    exact ⟨row.rowId, find?_replaceRow CodeRow.codeId (.ofCode row.rowId code) tables.codes⟩
  | none =>
    refine ⟨tables.lastCodeRow + 1, fun other => ?_⟩
    simp only [codeRow?, List.find?_append, List.find?_singleton] at found ⊢
    by_cases same : code.codeId = other
    · subst same
      simp [found, CodeRow.ofCode]
    · simp [same, CodeRow.ofCode]

/-- A code version that was written is read back, and the others are as before. -/
theorem getCode_putCode (tables : Tables) (code : Code) (other : String) :
    (tables.putCode code).getCode other
      = if code.codeId = other then .ok (some code) else tables.getCode other := by
  obtain ⟨rowId, written⟩ := tables.codeRow?_putCode code
  by_cases same : code.codeId = other
  · simp only [getCode, written, if_pos same, CodeRow.code_ofCode]
    rfl
  · simp only [getCode, written, if_neg same]

/-- A configuration that was written is read back, and the others are as before. -/
theorem getConfig_putConfig (tables : Tables) (config : Config) (other : String) :
    (tables.putConfig config).getConfig other
      = if config.configId = other then .ok (some config) else tables.getConfig other := by
  have written := find?_replaceRow ConfigRow.configId (.ofConfig config) tables.configs other
  simp only [getConfig, putConfig, show (ConfigRow.ofConfig config).configId = config.configId
    from rfl] at written ⊢
  rw [written]
  by_cases same : config.configId = other
  · simp only [if_pos same, ConfigRow.config_ofConfig]
    rfl
  · simp only [if_neg same]

/-- A configuration is found by its own identifier. -/
theorem configId_eq {tables : Tables} {id : String} {config : Config}
    (found : tables.getConfig id = .ok (some config)) : config.configId = id := by
  unfold getConfig at found
  split at found
  · cases found
  · rename_i row picked
    have sameId : row.configId = id := by simpa using List.find?_some picked
    unfold ConfigRow.config at found
    dsimp only at found
    split at found
    · rw [← Option.some.inj (Except.ok.inj found)]
      exact sameId
    · cases found

/-- A code version that is found is read from its row. -/
theorem getCode_eq_some {tables : Tables} {id : String} {code : Code}
    (found : tables.getCode id = .ok (some code)) :
    ∃ row, tables.codeRow? id = some row ∧ row.code = .ok code := by
  unfold getCode at found
  split at found
  · cases found
  · rename_i row picked
    refine ⟨row, picked, ?_⟩
    cases decoded : row.code with
    | error failure =>
      rw [decoded] at found
      cases found
    | ok read =>
      rw [decoded] at found
      cases found
      rfl

/-- A code version is found by its own identifier. -/
theorem codeId_eq {tables : Tables} {id : String} {code : Code}
    (found : tables.getCode id = .ok (some code)) : code.codeId = id := by
  obtain ⟨row, picked, decoded⟩ := getCode_eq_some found
  obtain ⟨rules, params, errorCount, _, _, _, rfl⟩ := CodeRow.code_eq_ok decoded
  exact (codeRow?_eq_some picked).2

/-! ### Recording an error -/

/-- To set a count changes the row of its number in place. -/
theorem codeRow?_setErrors_eq_map (tables : Tables) (codeRef : Nat) (errorCount : UInt32)
    (isBroken : Bool) (other : String) :
    (tables.setErrors codeRef errorCount isBroken).codeRow? other
      = (tables.codeRow? other).map fun old =>
          if old.rowId = codeRef then
            { old with
              errorCount := Int64.ofNat errorCount.toNat
              isBroken := if isBroken then 1 else 0 }
          else old := by
  have keepsId : ((fun row : CodeRow => decide (row.codeId = other)) ∘ fun old : CodeRow =>
      if old.rowId = codeRef then
        { old with
          errorCount := Int64.ofNat errorCount.toNat
          isBroken := if isBroken then 1 else 0 }
      else old) = fun row : CodeRow => decide (row.codeId = other) := by
    funext old
    by_cases same : old.rowId = codeRef <;> simp [same]
  rw [setErrors, codeRow?, List.find?_map, keepsId, codeRow?]

/-- To set a count concerns the row of one identifier. -/
theorem codeRow?_setErrors {tables : Tables} (numbered : tables.IsNumbered) {id : String}
    {row : CodeRow} (found : tables.codeRow? id = some row) (errorCount : UInt32)
    (isBroken : Bool) (other : String) :
    (tables.setErrors row.rowId errorCount isBroken).codeRow? other
      = if id = other then
          some { row with
            errorCount := Int64.ofNat errorCount.toNat
            isBroken := if isBroken then 1 else 0 }
        else tables.codeRow? other := by
  obtain ⟨inside, sameId⟩ := codeRow?_eq_some found
  rw [codeRow?_setErrors_eq_map]
  by_cases same : id = other
  · subst same
    rw [if_pos rfl, found, Option.map_some, if_pos rfl]
  · rw [if_neg same]
    cases picked : tables.codeRow? other with
    | none => rfl
    | some old =>
      obtain ⟨inside', sameId'⟩ := codeRow?_eq_some picked
      have differs : old.rowId ≠ row.rowId := by
        intro sameNumber
        have equal := numbered.eq_of_rowId_eq inside' inside sameNumber
        exact same (by rw [← sameId, ← sameId', equal])
      rw [Option.map_some, if_neg differs]

/-- A report that is recorded changes the row of its code version, which is read again. -/
theorem recordError_eq_ok {tables after : Tables} {id : String} {report : ErrorReport}
    {threshold : UInt32} {updated : Code}
    (recorded : tables.recordError id report threshold = (.ok updated, after)) :
    ∃ row errorCount, tables.codeRow? id = some row ∧
      after = (tables.addReport row.rowId report).setErrors row.rowId errorCount
        (row.isBroken ≠ 0 || tripsBreaker errorCount threshold) ∧
      after.getCode id = .ok (some updated) := by
  unfold recordError at recorded
  split at recorded
  · cases recorded
  · rename_i row found
    split at recorded
    · cases recorded
    · rename_i errorCount _
      dsimp only at recorded
      split at recorded <;> cases recorded
      rename_i written
      exact ⟨row, errorCount, found, rfl, written⟩

/-- To set a count keeps tables numbered. -/
theorem IsNumbered.setErrors {tables : Tables} (numbered : tables.IsNumbered) (codeRef : Nat)
    (errorCount : UInt32) (isBroken : Bool) :
    (tables.setErrors codeRef errorCount isBroken).IsNumbered := by
  have keepsNumber (row : CodeRow) :
      (if row.rowId = codeRef then
        { row with
          errorCount := Int64.ofNat errorCount.toNat
          isBroken := if isBroken then 1 else 0 }
      else row).rowId = row.rowId := by
    split <;> rfl
  constructor
  · rw [Tables.setErrors, List.map_map]
    have sameNumbers : tables.codes.map CodeRow.rowId = _ :=
      List.map_congr_left fun row _ => (keepsNumber row).symm
    exact sameNumbers ▸ numbered.distinct
  · intro row inside
    obtain ⟨old, member, rfl⟩ := List.mem_map.mp inside
    rw [keepsNumber old]
    exact numbered.givenOut old member

/-- The store in relational tables keeps the promises. -/
theorem lawful : ops.Lawful IsNumbered where
  configId_eq _ found := configId_eq found
  codeId_eq _ found := codeId_eq found
  putConfig_ok := by
    rintro tables config after numbered ⟨⟩
    exact ⟨⟨numbered.distinct, numbered.givenOut⟩, rfl, getConfig_putConfig tables config⟩
  putConfig_error := by
    rintro tables config failure after ⟨⟩
  putCode_ok := by
    rintro tables code after numbered ⟨⟩
    refine ⟨numbered.putCode code, ?_, getCode_putCode tables code⟩
    funext id
    simp only [ops, putCode]
    split <;> rfl
  putCode_error := by
    rintro tables code failure after ⟨⟩
  putTestCase_ok := by
    rintro tables testCase after numbered ⟨⟩
    exact ⟨⟨numbered.distinct, numbered.givenOut⟩, rfl, rfl⟩
  putTestCase_error := by
    rintro tables testCase failure after ⟨⟩
  recordError_ok := by
    intro tables id report threshold updated after numbered recorded
    obtain ⟨row, errorCount, found, rfl, written⟩ := recordError_eq_ok recorded
    have reported : (tables.addReport row.rowId report).IsNumbered :=
      ⟨numbered.distinct, numbered.givenOut⟩
    have tracked := codeRow?_setErrors reported found errorCount
      (row.isBroken ≠ 0 || tripsBreaker errorCount threshold)
    refine ⟨reported.setErrors _ _ _, rfl, fun other => ?_, fun code before => ?_⟩
    · by_cases same : id = other
      · subst same
        rw [if_pos rfl]
        exact written
      · simp only [ops, getCode, tracked, if_neg same]
        rfl
    · obtain ⟨row', found', decoded⟩ := getCode_eq_some before
      obtain rfl : row = row' := Option.some.inj (found.symm.trans found')
      obtain ⟨rules, params, _, rulesRead, paramsRead, _, rfl⟩ := CodeRow.code_eq_ok decoded
      obtain ⟨row', found', decoded⟩ := getCode_eq_some written
      rw [tracked, if_pos rfl] at found'
      obtain rfl := Option.some.inj found'
      obtain ⟨rules', params', count, rulesRead', paramsRead', counted, rfl⟩ :=
        CodeRow.code_eq_ok decoded
      obtain rfl : rules = rules' := Option.some.inj (rulesRead.symm.trans rulesRead')
      obtain rfl : params = params' := Option.some.inj (paramsRead.symm.trans paramsRead')
      rw [CodeRow.readCount_ofNat] at counted
      obtain rfl := Except.ok.inj counted
      refine ⟨rfl, ?_⟩
      exact CodeRow.flag_ne_zero _
  recordError_error := by
    intro tables id report threshold failure after recorded
    simp only [ops, recordError] at recorded
    split at recorded
    · cases recorded
      rfl
    · split at recorded
      · cases recorded
        rfl
      · split at recorded <;> cases recorded <;> rfl

end Tables

end ConfigDelivery.Store
