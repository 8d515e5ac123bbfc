import ConfigDelivery.Proofs.Store.Reliability
/-!
# Recording an error is one transaction

Whatever the columns of the tables hold, an error is recorded as a whole or not at all: a report is
appended and one row counts on, or every table stays as it was, even when it is only the reading of
the written row that fails. A row that cannot be read takes no report for the same reasons, with one
exception: its count is looked at after it was increased, so a count of minus one is not noticed.
-/

namespace ConfigDelivery.Store

/-- The counts of errors that a code version can have. -/
def IsCount (count : Int) : Prop := 0 ≤ count ∧ count < 0x100000000

namespace CodeRow

/-- The rules and the parameters of a row are the texts of such. -/
def HasReadableTexts (row : CodeRow) : Prop :=
  ((Json.Decoder.list PlatformRule.decoder).readText row.rules).isSome = true ∧
  ((Json.Decoder.list ParamSpec.decoder).readText row.params).isSome = true

/-- A row with other error tracking. -/
def tracked (row : CodeRow) (errorCount : UInt32) (isBroken : Bool) : CodeRow :=
  { row with
    errorCount := Int64.ofNat errorCount.toNat
    isBroken := if isBroken then 1 else 0 }

/-- A row is one of a broken code version when it counts some errors: it was before, or they are too
many. -/
def breaksAt (row : CodeRow) (errorCount threshold : UInt32) : Bool :=
  row.isBroken ≠ 0 || tripsBreaker errorCount threshold

/-! ## Counts in a column -/

/-- One more in a column is one more unless the column is at its greatest. -/
theorem toInt_add_one_iff (stored : Int64) :
    (stored + 1).toInt = stored.toInt + 1 ↔ stored ≠ Int64.maxValue := by
  have above := stored.le_toInt
  have below := stored.toInt_lt
  have one : (1 : Int64).toInt = 1 := by decide
  rw [Int64.toInt_add, one, ne_eq, ← Int64.toInt_inj, Int64.toInt_maxValue]
  constructor
  · intro same greatest
    rw [greatest] at same
    exact absurd same (by decide)
  · intro other
    exact Int.bmod_eq_of_le (by omega) (by omega)

/-- A column is read as a count if it is one. -/
theorem exists_readCount_iff (codeId : String) (stored : Int64) :
    (∃ count, readCount codeId stored = .ok count) ↔ IsCount stored.toInt := by
  constructor
  · rintro ⟨count, read⟩
    have bound := count.toNat_lt
    rw [readCount_eq_ok_iff.mp read]
    exact ⟨by omega, by omega⟩
  · intro inRange
    exact ⟨_, if_pos inRange⟩

/-- A count is checked after it was increased. The greatest integer of the column has no successor
there, and what stands in its place is no count. -/
theorem readCount_succ_eq_ok_iff {codeId : String} {stored : Int64} {count : UInt32} :
    readCount codeId (stored + 1) = .ok count ↔ count.toNat = stored.toInt + 1 := by
  rw [readCount_eq_ok_iff]
  by_cases greatest : stored = Int64.maxValue
  · subst greatest
    have bound := count.toNat_lt
    have wrapped : (Int64.maxValue + 1).toInt = -2 ^ 63 := by decide
    rw [wrapped, Int64.toInt_maxValue]
    omega
  · rw [(toInt_add_one_iff stored).mpr greatest]
    exact eq_comm

/-- One more than a column is read as a count if that is one. -/
theorem exists_readCount_succ_iff (codeId : String) (stored : Int64) :
    (∃ count, readCount codeId (stored + 1) = .ok count) ↔ IsCount (stored.toInt + 1) := by
  simp only [readCount_succ_eq_ok_iff]
  constructor
  · rintro ⟨count, same⟩
    have bound := count.toNat_lt
    exact ⟨by omega, by omega⟩
  · rintro ⟨positive, small⟩
    have small : (stored.toInt + 1).toNat < 2 ^ 32 := by omega
    refine ⟨UInt32.ofNat (stored.toInt + 1).toNat, ?_⟩
    rw [UInt32.toNat_ofNat_of_lt' small]
    omega

/-- Minus one is the one integer that is no count while its successor is. -/
theorem eq_neg_one_iff {stored : Int64} :
    stored = -1 ↔ IsCount (stored.toInt + 1) ∧ ¬ IsCount stored.toInt := by
  have below : (-1 : Int64).toInt = -1 := by decide
  rw [← Int64.toInt_inj, below, IsCount, IsCount]
  omega

/-! ## Rows that can be read -/

/-- A row is read as a code version when its texts can be and its count is one. -/
theorem exists_code_iff (row : CodeRow) :
    (∃ code, row.code = .ok code) ↔ row.HasReadableTexts ∧ IsCount row.errorCount.toInt := by
  constructor
  · rintro ⟨code, read⟩
    obtain ⟨rules, params, count, rulesRead, paramsRead, counted, _⟩ := code_eq_ok read
    exact ⟨⟨by rw [rulesRead]; rfl, by rw [paramsRead]; rfl⟩,
      (exists_readCount_iff row.codeId _).mp ⟨count, counted⟩⟩
  · rintro ⟨⟨rulesRead, paramsRead⟩, inRange⟩
    obtain ⟨rules, rulesRead⟩ := Option.isSome_iff_exists.mp rulesRead
    obtain ⟨params, paramsRead⟩ := Option.isSome_iff_exists.mp paramsRead
    obtain ⟨count, counted⟩ := (exists_readCount_iff row.codeId _).mpr inRange
    simp only [CodeRow.code, rulesRead, paramsRead, counted, Except.ok.injEq, exists_eq']

/-- A row with a count of its own is read when its texts can be. -/
theorem exists_code_tracked_iff (row : CodeRow) (errorCount : UInt32) (isBroken : Bool) :
    (∃ code, (row.tracked errorCount isBroken).code = .ok code) ↔ row.HasReadableTexts := by
  rw [exists_code_iff]
  refine and_iff_left ?_
  exact (exists_readCount_iff row.codeId _).mp ⟨errorCount, readCount_ofNat row.codeId errorCount⟩

end CodeRow

namespace Tables

/-! ## The writes -/

section Writes

variable {tables : Tables} {id : String} {row : CodeRow}

/-- The tables after the writes of a report: the row counts on and the report is appended. -/
def written (tables : Tables) (row : CodeRow) (report : ErrorReport) (errorCount : UInt32)
    (isBroken : Bool) : Tables :=
  (tables.addReport row.rowId report).setErrors row.rowId errorCount isBroken

/-- The written row is found in the place of the old one. -/
theorem getCode_written (found : tables.codeRow? id = some row) (report : ErrorReport)
    (errorCount : UInt32) (isBroken : Bool) :
    (tables.written row report errorCount isBroken).getCode id
      = (row.tracked errorCount isBroken).code.map some := by
  have rewritten : (tables.written row report errorCount isBroken).codeRow? id
      = some (row.tracked errorCount isBroken) := by
    have sameRows : (tables.addReport row.rowId report).codeRow? id = some row := found
    rw [written, codeRow?_setErrors_eq_map, sameRows, Option.map_some, if_pos rfl]
    rfl
  rw [getCode, rewritten]

/-- The writes touch one row of the code versions, for row numbers are distinct. -/
theorem written_eq (keyed : (tables.codes.map CodeRow.rowId).Nodup)
    (found : tables.codeRow? id = some row) (report : ErrorReport) (errorCount : UInt32)
    (isBroken : Bool) :
    ∃ before behind, tables.codes = before ++ row :: behind ∧
      tables.written row report errorCount isBroken = { tables with
        codes := before ++ row.tracked errorCount isBroken :: behind
        reports := tables.reports
          ++ [⟨tables.lastReportRow + 1, row.rowId, report.time, report.message⟩]
        lastReportRow := tables.lastReportRow + 1 } := by
  rw [codeRow?] at found
  obtain ⟨_, before, behind, split, _⟩ := List.find?_eq_some_iff_append.mp found
  refine ⟨before, behind, split, ?_⟩
  rw [split, List.map_append, List.map_cons, List.nodup_middle, List.nodup_cons,
    ← List.map_append] at keyed
  have others {old : CodeRow} (inside : old ∈ before ++ behind) : old.rowId ≠ row.rowId :=
    fun same => keyed.1 (same ▸ List.mem_map_of_mem inside)
  have untouched {rows : List CodeRow} (inside : ∀ old ∈ rows, old ∈ before ++ behind) :
      (rows.map fun old : CodeRow =>
        if old.rowId = row.rowId then old.tracked errorCount isBroken else old) = rows :=
    (List.map_congr_left fun old member => if_neg (others (inside old member))).trans
      (List.map_id rows)
  have codes : (tables.codes.map fun old : CodeRow =>
      if old.rowId = row.rowId then old.tracked errorCount isBroken else old)
        = before ++ row.tracked errorCount isBroken :: behind := by
    rw [split, List.map_append, List.map_cons, if_pos rfl,
      untouched fun old => List.mem_append_left behind,
      untouched fun old => List.mem_append_right before]
  exact congrArg (fun codes => { tables.addReport row.rowId report with codes }) codes

end Writes

/-! ## The transaction -/

/-- An error is recorded when the next count is one and the written row can be read. -/
theorem recordError_eq_ok_iff {tables after : Tables} {id : String} {report : ErrorReport}
    {threshold : UInt32} {updated : Code} :
    tables.recordError id report threshold = (.ok updated, after) ↔
      ∃ row count, tables.codeRow? id = some row ∧
        CodeRow.readCount id (row.errorCount + 1) = .ok count ∧
        (row.tracked count (row.breaksAt count threshold)).code
          = .ok updated ∧
        after = tables.written row report count
          (row.breaksAt count threshold) := by
  unfold recordError
  cases found : tables.codeRow? id with
  | none => simp
  | some row =>
    dsimp only
    cases counted : CodeRow.readCount id (row.errorCount + 1) with
    | error failure => simp [counted]
    | ok count =>
      dsimp only
      rw [← CodeRow.breaksAt]
      have reread := getCode_written found report count (row.breaksAt count threshold)
      rw [written] at reread
      rw [reread]
      cases read : (row.tracked count (row.breaksAt count threshold)).code with
      | error failure => simp [Except.map, counted, read]
      | ok code => simp [Except.map, counted, read, written, eq_comm]

/-- The row that a report is about counts one more error, and is marked as broken when it was or has
too many of them now. -/
theorem tracked_eq {row : CodeRow} {id : String} {count : UInt32} {threshold : UInt32}
    (counted : CodeRow.readCount id (row.errorCount + 1) = .ok count) :
    row.tracked count (row.breaksAt count threshold)
      = { row with
          errorCount := row.errorCount + 1
          isBroken := if row.isBroken ≠ 0 ∨ threshold < count then 1 else 0 } := by
  simp only [CodeRow.tracked, CodeRow.breaksAt, ← CodeRow.eq_ofNat_of_readCount counted,
    tripsBreaker, Bool.or_eq_true, decide_eq_true_eq]

/-- Reports are taken by the rows whose texts can be read and whose next count is one. -/
theorem exists_recordError_ok_iff (tables : Tables) (id : String) (report : ErrorReport)
    (threshold : UInt32) :
    (∃ code, (tables.recordError id report threshold).1 = .ok code) ↔
      ∃ row, tables.codeRow? id = some row ∧ row.HasReadableTexts ∧
        IsCount (row.errorCount.toInt + 1) := by
  constructor
  · rintro ⟨code, answered⟩
    obtain ⟨row, count, found, counted, read, _⟩ :=
      recordError_eq_ok_iff.mp (Prod.ext answered rfl)
    exact ⟨row, found, (row.exists_code_tracked_iff count _).mp ⟨code, read⟩,
      (CodeRow.exists_readCount_succ_iff id _).mp ⟨count, counted⟩⟩
  · rintro ⟨row, found, readable, inRange⟩
    obtain ⟨count, counted⟩ := (CodeRow.exists_readCount_succ_iff id _).mpr inRange
    obtain ⟨code, read⟩ := (row.exists_code_tracked_iff count
      (row.breaksAt count threshold)).mpr readable
    have recorded : tables.recordError id report threshold = (.ok code, _) :=
      recordError_eq_ok_iff.mpr ⟨row, count, found, counted, read, rfl⟩
    exact ⟨code, congrArg Prod.fst recorded⟩

/-- Recording an error is atomic, whatever the columns of the tables hold. Either the tables change
by one report, which refers to the row of the code version, and in that row by one more error and
the mark of a broken code version, and the code version is read from then on as it was answered; or
nothing changes. The latter also happens after both writes, when the texts of the row cannot be
read. -/
theorem recordError_atomic (tables : Tables) (keyed : (tables.codes.map CodeRow.rowId).Nodup)
    (id : String) (report : ErrorReport) (threshold : UInt32) :
    let (answer, after) := tables.recordError id report threshold
    (∀ code, answer = .ok code →
      ∃ before row behind, ∃ count : UInt32,
        tables.codeRow? id = some row ∧ tables.codes = before ++ row :: behind ∧
        count.toNat = row.errorCount.toInt + 1 ∧
        after = { tables with
          codes := before ++ { row with
            errorCount := row.errorCount + 1
            isBroken := if row.isBroken ≠ 0 ∨ threshold < count then 1 else 0 } :: behind
          reports := tables.reports
            ++ [⟨tables.lastReportRow + 1, row.rowId, report.time, report.message⟩]
          lastReportRow := tables.lastReportRow + 1 } ∧
        after.getCode id = .ok (some code)) ∧
    (∀ failure, answer = .error failure → after = tables) ∧
    ((∃ code, answer = .ok code) ↔
      ∃ row, tables.codeRow? id = some row ∧ row.HasReadableTexts ∧
        IsCount (row.errorCount.toInt + 1)) := by
  have succeeds := tables.exists_recordError_ok_iff id report threshold
  rcases recorded : tables.recordError id report threshold with ⟨answer, after⟩
  rw [recorded] at succeeds
  refine ⟨?_, ?_, succeeds⟩
  · rintro code rfl
    obtain ⟨row, count, found, counted, read, rfl⟩ := recordError_eq_ok_iff.mp recorded
    have reread := getCode_written found report count
      (row.breaksAt count threshold)
    rw [read] at reread
    obtain ⟨before, behind, split, written⟩ := written_eq keyed found report count
      (row.breaksAt count threshold)
    rw [tracked_eq counted] at written
    exact ⟨before, row, behind, count, found, split, CodeRow.readCount_succ_eq_ok_iff.mp counted,
      written, reread⟩
  · rintro failure rfl
    exact lawful.recordError_error recorded

end Tables

/-! ## A row that was overwritten past the store -/

namespace DamagedRow

/-- A code version. -/
def code : Code := { codeId := "100", lang := "starlark", content := "return 1" }

/-- The tables with the row of the code version, a column of which was overwritten. -/
def damaged (column : Tables.Column) : Tables :=
  ((Tables.empty.putCode code).overwrite "100" column).2

/-- A report about it. -/
def report : ErrorReport := { time := 1700000000, message := "boom" }

theorem keyed_damaged (column : Tables.Column) :
    ((damaged column).codes.map CodeRow.rowId).Nodup := by
  cases column <;>
    simp [damaged, Tables.overwrite, Tables.putCode, Tables.codeRow?, Tables.empty]

/-- Parameters that are no JSON are only met after both writes, which are undone then. A mark that
is no one counts as a mark all the same. -/
theorem recordError_atomic_damaged :
    ((damaged (.params "y")).codes.map CodeRow.rowId).Nodup ∧
    (∃ failure, (damaged (.params "y")).recordError "100" report 10
      = (.error failure, damaged (.params "y"))) ∧
    ∃ after, (damaged (.isBroken 7)).recordError "100" report 10
        = (.ok { code with errorCount := 1, isBroken := true }, after) ∧
      after.getCode "100" = .ok (some { code with errorCount := 1, isBroken := true }) := by
  refine ⟨keyed_damaged _, ?_, ?_⟩
  · have undone :=
      ((damaged (.params "y")).recordError_atomic (keyed_damaged _) "100" report 10).2.1
    have refused : ∃ failure, ((damaged (.params "y")).recordError "100" report 10).1
        = .error failure := ⟨_, rfl⟩
    obtain ⟨failure, refused⟩ := refused
    exact ⟨failure, Prod.ext refused (undone failure refused)⟩
  · have recorded :=
      ((damaged (.isBroken 7)).recordError_atomic (keyed_damaged _) "100" report 10).1
    have answered : ((damaged (.isBroken 7)).recordError "100" report 10).1
        = .ok { code with errorCount := 1, isBroken := true } := by decide
    obtain ⟨_, _, _, _, _, _, _, _, reread⟩ := recorded _ answered
    exact ⟨_, Prod.ext answered rfl, reread⟩

end DamagedRow

namespace Tables

/-! ## Rows that cannot be read -/

/-- A code version that cannot be read has a row that holds none. -/
theorem getCode_eq_error {tables : Tables} {id : String} {failure : Failure}
    (unreadable : tables.getCode id = .error failure) :
    ∃ row, tables.codeRow? id = some row ∧ ∀ code, row.code ≠ .ok code := by
  unfold getCode at unreadable
  cases found : tables.codeRow? id with
  | none =>
    rw [found] at unreadable
    cases unreadable
  | some row =>
    refine ⟨row, rfl, fun code read => ?_⟩
    simp only [found, read] at unreadable
    cases unreadable

/-- A row that cannot be read takes no report, but for one whose only damage is a count of minus
one: that is a count again when it was increased, so the report is taken and the row can be read
from then on. The increased count is the next integer, but for the greatest one of the column. -/
theorem recordError_of_unreadable (tables : Tables) (id : String) (report : ErrorReport)
    (threshold : UInt32) :
    let (answer, after) := tables.recordError id report threshold
    (∀ failure, tables.getCode id = .error failure →
      ∃ row, tables.codeRow? id = some row ∧
        (¬ (row.HasReadableTexts ∧ row.errorCount = -1) →
          (∃ failure, answer = .error failure) ∧ after = tables) ∧
        (row.HasReadableTexts ∧ row.errorCount = -1 →
          ∃ code, answer = .ok code ∧ code.errorCount = 0 ∧
            after.getCode id = .ok (some code))) ∧
    ∀ row, tables.codeRow? id = some row →
      ((row.errorCount + 1).toInt = row.errorCount.toInt + 1 ↔
        row.errorCount ≠ Int64.maxValue) := by
  have succeeds := tables.exists_recordError_ok_iff id report threshold
  rcases recorded : tables.recordError id report threshold with ⟨answer, after⟩
  rw [recorded] at succeeds
  refine ⟨?_, fun row _ => CodeRow.toInt_add_one_iff row.errorCount⟩
  intro failure unreadable
  obtain ⟨row, found, unread⟩ := getCode_eq_error unreadable
  refine ⟨row, found, fun noticed => ?_, fun ⟨readable, below⟩ => ?_⟩
  · cases answer with
    | error refusal => exact ⟨⟨refusal, rfl⟩, lawful.recordError_error recorded⟩
    | ok code =>
      obtain ⟨row', found', readable, inRange⟩ := succeeds.mp ⟨code, rfl⟩
      obtain rfl : row = row' := Option.some.inj (found.symm.trans found')
      have uncounted : ¬ IsCount row.errorCount.toInt := fun inRange =>
        have ⟨code, read⟩ := row.exists_code_iff.mpr ⟨readable, inRange⟩
        unread code read
      exact absurd ⟨readable, CodeRow.eq_neg_one_iff.mpr ⟨inRange, uncounted⟩⟩ noticed
  · obtain ⟨code, rfl⟩ := succeeds.mpr ⟨row, found, readable, (CodeRow.eq_neg_one_iff.mp below).1⟩
    obtain ⟨row', count, found', counted, read, rfl⟩ := recordError_eq_ok_iff.mp recorded
    obtain rfl : row = row' := Option.some.inj (found.symm.trans found')
    refine ⟨code, rfl, ?_, ?_⟩
    · have zero : count.toNat = 0 := by
        have next := CodeRow.readCount_succ_eq_ok_iff.mp counted
        rw [below] at next
        exact Int.ofNat_inj.mp next
      have sameCount := (CodeRow.tracking_of_code read).1
      rw [CodeRow.tracked, CodeRow.readCount_ofNat] at sameCount
      rw [← Except.ok.inj sameCount]
      exact UInt32.toNat_inj.mp zero
    · rw [getCode_written found, read]
      rfl

end Tables

namespace DamagedRow

/-- The greatest integer of the column has no successor there; what it is increased to is no count
either, so it is noticed. -/
theorem recordError_of_unreadable_greatest :
    (damaged (.errorCount Int64.maxValue)).getCode "100"
      = .error ⟨"corrupt error count for code 100", []⟩ ∧
    ∃ failure, (damaged (.errorCount Int64.maxValue)).recordError "100" report 10
      = (.error failure, damaged (.errorCount Int64.maxValue)) := by
  have unreadable : (damaged (.errorCount Int64.maxValue)).getCode "100"
      = .error ⟨"corrupt error count for code 100", []⟩ := by decide
  have stored : (damaged (.errorCount Int64.maxValue)).codeRow? "100"
      = some ⟨1, "100", "starlark", "[]", "[]", "return 1", 0, Int64.maxValue⟩ := by decide
  obtain ⟨row, found, noticed, _⟩ :=
    ((damaged (.errorCount Int64.maxValue)).recordError_of_unreadable "100" report 10).1 _
      unreadable
  obtain rfl := Option.some.inj (found.symm.trans stored)
  obtain ⟨⟨failure, refused⟩, same⟩ := noticed fun ⟨_, below⟩ => absurd below (by decide)
  exact ⟨unreadable, failure, Prod.ext refused same⟩

/-- A row whose only damage is a count of minus one cannot be read, and takes a report all the same:
it can be read from then on. And the greatest integer of the column is increased to one that is not
its successor. -/
theorem recordError_mends_count :
    (damaged (.errorCount (-1))).getCode "100"
      = .error ⟨"corrupt error count for code 100", []⟩ ∧
    (∃ after, (damaged (.errorCount (-1))).recordError "100" report 10 = (.ok code, after) ∧
      after ≠ damaged (.errorCount (-1)) ∧ after.getCode "100" = .ok (some code)) ∧
    ∃ row, (damaged (.errorCount Int64.maxValue)).codeRow? "100" = some row ∧
      (row.errorCount + 1).toInt ≠ row.errorCount.toInt + 1 := by
  have mended : (damaged (.errorCount (-1))).recordError "100" report 10
      = (.ok code, ((damaged (.errorCount (-1))).recordError "100" report 10).2) := by
    decide
  exact ⟨by decide, ⟨_, mended, by decide +kernel, by decide +kernel⟩, _, rfl,
    by decide⟩

end DamagedRow

end ConfigDelivery.Store
