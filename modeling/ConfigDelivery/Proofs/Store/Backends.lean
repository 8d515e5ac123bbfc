import ConfigDelivery.Proofs.Store.Transactions
/-!
# The stores of the service

Records are kept in memory or in relational tables, and methods of either store can be made to fail.
Both stores count and keep a report in the same way, whatever they hold, up to the greatest count of
errors: there the store in memory keeps the count and the relational tables take no more reports.
-/

namespace ConfigDelivery.Store

/-! ## Stores that are made to fail -/

namespace RecordStoreOps

variable {State : Type} {store : RecordStoreOps State} {methods : List Method} {state after : State}
  {id : String}

/-- What a failing store reads is what the store reads. -/
theorem failing_getConfig_eq_ok {found : Option Config}
    (read : (store.failing methods).getConfig state id = .ok found) :
    store.getConfig state id = .ok found := by
  dsimp only [failing] at read
  split at read
  · cases read
  · exact read

/-- What a failing store reads of code versions is what the store reads. -/
theorem failing_getCode_eq_ok {found : Option Code}
    (read : (store.failing methods).getCode state id = .ok found) :
    store.getCode state id = .ok found := by
  dsimp only [failing] at read
  split at read
  · cases read
  · exact read

/-- What a failing store records is what the store records. -/
theorem failing_recordError_eq_ok {report : ErrorReport} {threshold : UInt32} {updated : Code}
    (recorded : (store.failing methods).recordError state id report threshold
      = (.ok updated, after)) :
    store.recordError state id report threshold = (.ok updated, after) := by
  dsimp only [failing] at recorded
  split at recorded
  · cases recorded
  · exact recorded

/-- A store that fails changes nothing, whether it was made to or not. -/
theorem Lawful.failing_recordError_error {Valid : State → Prop} (lawful : store.Lawful Valid)
    {report : ErrorReport} {threshold : UInt32} {failure : Failure}
    (recorded : (store.failing methods).recordError state id report threshold
      = (.error failure, after)) : after = state := by
  dsimp only [failing] at recorded
  split at recorded
  · cases recorded
    rfl
  · exact lawful.recordError_error recorded

end RecordStoreOps

/-! ## The two stores -/

namespace MemoryStore

/-- The next count is one more, unless the count is at its greatest. -/
theorem toNat_nextCount (count : UInt32) :
    (nextCount count).toNat = count.toNat + 1 ∨
      count = greatestCount ∧ nextCount count = greatestCount := by
  by_cases greatest : count = greatestCount
  · exact .inr ⟨greatest, (if_pos greatest).trans greatest⟩
  · have counted : nextCount count = count + 1 := if_neg greatest
    rw [counted]
    exact .inl (toNat_add_one_of_countable greatest)

/-- A report breaks a code version that works if it is one too many. -/
theorem withError_of_works {code : Code} (works : code.isBroken = false) (threshold : UInt32) :
    withError code threshold = { code with
      errorCount := nextCount code.errorCount
      isBroken := threshold < nextCount code.errorCount } := by
  simp only [withError, works, Bool.false_or, tripsBreaker]

end MemoryStore

/-- The tables take no report about a code version with the greatest count. -/
theorem Tables.countable_of_recordError {tables after : Tables} {id : String}
    {report : ErrorReport} {threshold : UInt32} {code updated : Code}
    (found : tables.getCode id = .ok (some code))
    (recorded : tables.recordError id report threshold = (.ok updated, after)) :
    code.errorCount ≠ greatestCount := by
  intro greatest
  obtain ⟨row, count, picked, counted, _⟩ := recordError_eq_ok_iff.mp recorded
  obtain ⟨row', picked', read⟩ := getCode_eq_some found
  obtain rfl : row = row' := Option.some.inj (picked.symm.trans picked')
  have stored := CodeRow.readCount_eq_ok_iff.mp (CodeRow.tracking_of_code read).1
  have next := CodeRow.readCount_succ_eq_ok_iff.mp counted
  have bound := count.toNat_lt
  have limit : greatestCount.toNat = 0xffffffff := rfl
  rw [stored, greatest, limit] at next
  omega

/-- Where records are kept. -/
inductive Backend where
  | memory
  | relational
  deriving DecidableEq, Repr

namespace Backend

/-- What a store can hold. -/
def Contents : Backend → Type
  | memory => MemoryStore
  | relational => Tables

/-- The operations of a store. -/
def ops : (backend : Backend) → RecordStoreOps backend.Contents
  | memory => MemoryStore.ops
  | relational => Tables.ops

/-- In memory every record stands under its own identifier, and the rows of the tables are numbered.
What the columns of the tables hold is left open. -/
def Valid : (backend : Backend) → backend.Contents → Prop
  | memory => MemoryStore.IsIndexed
  | relational => Tables.IsNumbered

/-- Both stores are lawful. -/
theorem lawful : (backend : Backend) → backend.ops.Lawful backend.Valid
  | memory => MemoryStore.lawful
  | relational => Tables.lawful

/-- A report that a store takes: its code version counts on, the report comes after those before it,
and the store answers everything else as it did. -/
structure Takes (backend : Backend) (before after : backend.Contents) (id : String)
    (report : ErrorReport) (threshold : UInt32) (code updated : Code) : Prop where
  valid : backend.Valid after
  updated_eq : updated = MemoryStore.withError code threshold
  countable : backend = .relational → code.errorCount ≠ greatestCount
  view_eq : backend.ops.view after = (backend.ops.view before).addReport id report updated

/-- An error that is recorded is taken as the store promises. -/
theorem takes_of_recordError (backend : Backend) {before after : backend.Contents} {id : String}
    {report : ErrorReport} {threshold : UInt32} {code updated : Code}
    (valid : backend.Valid before) (found : backend.ops.getCode before id = .ok (some code))
    (recorded : backend.ops.recordError before id report threshold = (.ok updated, after)) :
    backend.Takes before after id report threshold code updated := by
  cases backend with
  | memory =>
    have found : MemoryStore.ops.getCode before id = .ok (some code) := found
    have stands := MemoryStore.recordError_of_found (Except.ok.inj found) report threshold
    obtain ⟨indexed, shown⟩ :=
      MemoryStore.view_recordError valid (Except.ok.inj found) report threshold
    obtain ⟨answer, contents⟩ := Prod.mk.inj (recorded.symm.trans stands)
    obtain rfl := Except.ok.inj answer
    subst contents
    rw [stands] at indexed shown
    exact ⟨indexed, rfl, Backend.noConfusion, shown⟩
  | relational =>
    have countable := Tables.countable_of_recordError found recorded
    obtain ⟨row, picked, read⟩ := Tables.getCode_eq_some found
    have stands := Tables.recordError_of_row valid picked read countable report threshold
    obtain ⟨answer, -⟩ := Prod.mk.inj (recorded.symm.trans stands)
    obtain ⟨numbered, -⟩ := Tables.lawful.recordError_ok valid recorded
    refine ⟨numbered, ?_, fun _ => countable, Tables.view_of_recordError valid recorded⟩
    rw [MemoryStore.withError_eq countable]
    exact Except.ok.inj answer

end Backend

end ConfigDelivery.Store
