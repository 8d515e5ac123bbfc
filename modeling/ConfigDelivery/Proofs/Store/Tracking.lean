import ConfigDelivery.Proofs.Store.Backends
import ConfigDelivery.Proofs.Store.Equivalence
/-!
# The error tracking of a code version

From when a code version is put into a store until it is put again, every report about it is counted
and kept, whatever else is asked of the store in between. Each report comes with a threshold of its
own: one count above the threshold of its time breaks the code version for good. The reports about
all code versions stand in one list or one table, and still no report touches another code version.
-/

namespace ConfigDelivery.Store

variable {State : Type}

/-- A report with the threshold that it is recorded under. -/
structure Recording where
  report : ErrorReport
  threshold : UInt32
  deriving DecidableEq, Repr

/-- The recording about a code version that an operation is. -/
def Operation.recording? (codeId : String) : Operation → Option Recording
  | .recordError id report threshold => if id = codeId then some ⟨report, threshold⟩ else none
  | _ => none

/-- The recordings about a code version among some operations, in their order. -/
def recordings (codeId : String) (operations : List Operation) : List Recording :=
  operations.filterMap (Operation.recording? codeId)

/-- An operation puts a code version, in the place of the one that is there. -/
def Operation.Rewrites (codeId : String) : Operation → Prop
  | .putCode code => code.codeId = codeId
  | _ => False

theorem recordings_append (codeId : String) (first second : List Operation) :
    recordings codeId (first ++ second) = recordings codeId first ++ recordings codeId second :=
  List.filterMap_append

theorem recordings_singleton (codeId : String) (operation : Operation) :
    recordings codeId [operation] = (operation.recording? codeId).toList := by
  rw [recordings, List.filterMap_cons]
  cases operation.recording? codeId <;> rfl

theorem recordings_append_none {codeId : String} {operation : Operation}
    (unrecorded : operation.recording? codeId = none) (earlier : List Recording) :
    earlier ++ (operation.recording? codeId).toList = earlier := by
  rw [unrecorded, Option.toList_none, List.append_nil]

/-- What some recordings made of a code version: each of them was counted, and it is broken when it
was before or when one of them made a count above its threshold. -/
structure HasCounted (code : Code) (recordings : List Recording) (current : Code) : Prop where
  sameRest : current = { code with
    errorCount := current.errorCount
    isBroken := current.isBroken }
  errorCount_eq : current.errorCount.toNat = code.errorCount.toNat + recordings.length
  isBroken_iff : current.isBroken = true ↔ code.isBroken = true ∨
    ∃ place recording, recordings[place]? = some recording ∧
      recording.threshold.toNat < code.errorCount.toNat + (place + 1)

namespace HasCounted

variable {code current : Code} {recordings : List Recording}

theorem nil (code : Code) : HasCounted code [] code where
  sameRest := rfl
  errorCount_eq := rfl
  isBroken_iff := by simp

/-- While the count and the recordings have room, one more can be counted. -/
theorem countable (counted : HasCounted code recordings current)
    (room : code.errorCount.toNat + recordings.length + 1 < UInt32.size) :
    current.errorCount ≠ greatestCount := by
  intro greatest
  have count := counted.errorCount_eq
  have limit : greatestCount.toNat + 1 = UInt32.size := rfl
  rw [greatest] at count
  omega

/-- One more report is counted, and breaks the code version when the count is above its
threshold. -/
theorem append (counted : HasCounted code recordings current)
    (room : code.errorCount.toNat + recordings.length + 1 < UInt32.size) (recording : Recording) :
    HasCounted code (recordings ++ [recording]) (reported current recording.threshold) := by
  have next : (current.errorCount + 1).toNat
      = code.errorCount.toNat + (recordings.length + 1) := by
    rw [toNat_add_one_of_countable (counted.countable room), counted.errorCount_eq, Nat.add_assoc]
  refine ⟨?_, ?_, ?_⟩
  · rw [reported, counted.sameRest]
  · rw [List.length_append, List.length_singleton]
    exact next
  · have breaks : (reported current recording.threshold).isBroken = true ↔
        current.isBroken = true ∨
          recording.threshold.toNat < code.errorCount.toNat + (recordings.length + 1) := by
      simp only [reported, tripsBreaker, Bool.or_eq_true, decide_eq_true_eq,
        UInt32.lt_iff_toNat_lt, next]
    rw [breaks, counted.isBroken_iff, or_assoc]
    refine or_congr_right ⟨?_, ?_⟩
    · rintro (⟨place, earlier, found, above⟩ | above)
      · have inside := (List.getElem?_eq_some_iff.mp found).1
        exact ⟨place, earlier, (List.getElem?_append_left inside).trans found, above⟩
      · exact ⟨recordings.length, recording, List.getElem?_concat_length, above⟩
    · rintro ⟨place, other, found, above⟩
      rcases Nat.lt_or_ge place recordings.length with inside | last
      · rw [List.getElem?_append_left inside] at found
        exact .inl ⟨place, other, found, above⟩
      · rw [List.getElem?_append_right last, List.getElem?_singleton] at found
        split at found
        · cases found
          obtain rfl : place = recordings.length := by omega
          exact .inr above
        · cases found

end HasCounted

/-! ## Any reliable store -/

namespace RecordStoreOps

variable {store : RecordStoreOps State} {Valid : State → Prop} {state : State}

/-- A code version that was put into a store stands there with what was recorded since, after the
reports that there were about it. -/
structure Tracks (store : RecordStoreOps State) (Valid : State → Prop) (code : Code)
    (history : List ErrorReport) (recordings : List Recording) (state : State) : Prop where
  valid : Valid state
  found : ∃ current, store.getCode state code.codeId = .ok (some current) ∧
    HasCounted code recordings current
  reports : store.errorReports state code.codeId
    = .ok (history ++ recordings.map Recording.report)

namespace Tracks

variable {code : Code} {history : List ErrorReport} {recordings : List Recording} {next : State}

/-- A code version that is written is tracked from there on. -/
theorem put (reliable : store.Reliable Valid) (valid : Valid state) (code : Code)
    (reports : store.errorReports state code.codeId = .ok history) :
    store.Tracks Valid code history [] (store.putCode state code).2 := by
  have effect := reliable.putCode code valid
  refine ⟨effect.valid, ⟨code, ?_, .nil code⟩, ?_⟩
  · exact (congrFun (congrArg View.code effect.view_eq) _).trans (if_pos rfl)
  · rw [List.map_nil, List.append_nil]
    exact (congrFun (congrArg View.reports effect.view_eq) _).trans reports

/-- Whatever shows a code version and its reports as they were leaves its tracking as it was. -/
theorem of_same (tracks : store.Tracks Valid code history recordings state) (valid : Valid next)
    (sameCode : store.getCode next code.codeId = store.getCode state code.codeId)
    (sameReports : store.errorReports next code.codeId
      = store.errorReports state code.codeId) :
    store.Tracks Valid code history recordings next where
  valid := valid
  found := sameCode ▸ tracks.found
  reports := sameReports ▸ tracks.reports

/-- The next report is taken: its answer is what is read from then on. -/
theorem recordError (tracks : store.Tracks Valid code history recordings state)
    (reliable : store.Reliable Valid)
    (room : code.errorCount.toNat + recordings.length + 1 < UInt32.size) (recording : Recording) :
    let (answer, after) :=
      store.recordError state code.codeId recording.report recording.threshold
    store.Tracks Valid code history (recordings ++ [recording]) after ∧
    ∃ updated, answer = .ok updated ∧ HasCounted code (recordings ++ [recording]) updated ∧
      store.getCode after code.codeId = .ok (some updated) := by
  obtain ⟨current, found, counted⟩ := tracks.found
  have effect := reliable.recordError_found recording.report recording.threshold tracks.valid
    found (counted.countable room)
  have counted := counted.append room recording
  have read : store.getCode
      (store.recordError state code.codeId recording.report recording.threshold).2 code.codeId
        = .ok (some (reported current recording.threshold)) :=
    (congrFun (congrArg View.code effect.view_eq) _).trans (if_pos rfl)
  refine ⟨⟨effect.valid, ⟨_, read, counted⟩, ?_⟩, _, effect.result_eq, counted, read⟩
  have reports := (congrFun (congrArg View.reports effect.view_eq) code.codeId).trans (if_pos rfl)
  refine reports.trans ((congrArg (Except.map (· ++ [recording.report])) tracks.reports).trans ?_)
  simp [Except.map]

/-- An operation records what it is about the code version. -/
theorem perform (tracks : store.Tracks Valid code history recordings state)
    (reliable : store.Reliable Valid) {operation : Operation}
    (unwritten : ¬ operation.Rewrites code.codeId)
    (room : code.errorCount.toNat
      + (recordings ++ (operation.recording? code.codeId).toList).length < UInt32.size) :
    store.Tracks Valid code history (recordings ++ (operation.recording? code.codeId).toList)
      (store.perform state operation).2 := by
  cases operation with
  | putConfig config =>
    have effect := reliable.putConfig config tracks.valid
    have shown := effect.view_eq
    rw [recordings_append_none rfl]
    exact tracks.of_same effect.valid (congrFun (congrArg View.code shown) _)
      (congrFun (congrArg View.reports shown) _)
  | putCode other =>
    have effect := reliable.putCode other tracks.valid
    have shown := effect.view_eq
    rw [recordings_append_none rfl]
    exact tracks.of_same effect.valid
      ((congrFun (congrArg View.code shown) _).trans (if_neg unwritten))
      (congrFun (congrArg View.reports shown) _)
  | putTestCase testCase =>
    have effect := reliable.putTestCase testCase tracks.valid
    have shown := effect.view_eq
    rw [recordings_append_none rfl]
    exact tracks.of_same effect.valid (congrFun (congrArg View.code shown) _)
      (congrFun (congrArg View.reports shown) _)
  | recordError id report threshold =>
    by_cases same : id = code.codeId
    · subst same
      rw [Operation.recording?, if_pos rfl, Option.toList_some] at room ⊢
      rw [List.length_append, List.length_singleton, ← Nat.add_assoc] at room
      exact (tracks.recordError reliable room ⟨report, threshold⟩).1
    · have unrecorded : (Operation.recordError id report threshold).recording? code.codeId
          = none := if_neg same
      rw [recordings_append_none unrecorded]
      obtain ⟨valid, other⟩ := reliable.recordError_sameBut id report threshold tracks.valid
      exact tracks.of_same valid (other.code (Ne.symm same)) (other.reports (Ne.symm same))
  | getConfig | getCode | getTestCase | errorReports =>
    rw [recordings_append_none rfl]
    exact tracks

/-- A series of operations records what they are about the code version, one after the other. -/
theorem after (tracks : store.Tracks Valid code history recordings state)
    (reliable : store.Reliable Valid) {operations : List Operation}
    (unwritten : ∀ operation ∈ operations, ¬ operation.Rewrites code.codeId)
    (room : code.errorCount.toNat
      + (recordings ++ Store.recordings code.codeId operations).length < UInt32.size) :
    store.Tracks Valid code history (recordings ++ Store.recordings code.codeId operations)
      (Machine.after store.perform state operations) := by
  induction operations generalizing recordings state with
  | nil =>
    rw [Store.recordings, List.filterMap_nil, List.append_nil]
    exact tracks
  | cons operation rest ih =>
    obtain ⟨first, others⟩ := List.forall_mem_cons.mp unwritten
    rw [← List.singleton_append, recordings_append, recordings_singleton, ← List.append_assoc]
      at room ⊢
    have step := tracks.perform reliable first (by
      rw [List.length_append] at room
      omega)
    exact ih step others room

end Tracks

end RecordStoreOps

/-! ## Both stores -/

namespace Backend

/-- A store without records. -/
def empty : (backend : Backend) → backend.Contents
  | memory => MemoryStore.empty
  | relational => Tables.empty

/-- What a store holds that only its operations have worked on. -/
def Intact : (backend : Backend) → backend.Contents → Prop
  | memory => MemoryStore.IsIndexed
  | relational => Tables.IsReferenced

/-- Both stores are reliable. -/
theorem reliable : (backend : Backend) → backend.ops.Reliable backend.Intact
  | memory => MemoryStore.reliable
  | relational => Tables.reliable

/-- An empty store is intact. -/
theorem intact_empty : (backend : Backend) → backend.Intact backend.empty
  | memory => MemoryStore.isIndexed_empty
  | relational => Tables.isReferenced_empty

/-- An intact store is valid. -/
theorem Intact.valid {backend : Backend} {contents : backend.Contents}
    (intact : backend.Intact contents) : backend.Valid contents := by
  cases backend with
  | memory => exact intact
  | relational => exact Tables.IsReferenced.toIsNumbered intact

/-- Operations leave a store intact. -/
theorem Intact.after {backend : Backend} {contents : backend.Contents}
    (intact : backend.Intact contents) (operations : List Operation) :
    backend.Intact (Machine.after backend.ops.perform contents operations) :=
  Machine.after_induction (fun operation => backend.reliable.valid_perform operation) intact
    operations

/-- The reports about a code version can always be read. -/
theorem exists_errorReports (backend : Backend) (contents : backend.Contents) (codeId : String) :
    ∃ history, backend.ops.errorReports contents codeId = .ok history := by
  cases backend <;> exact ⟨_, rfl⟩

/-- The error tracking of a code version has gone on: its count is not lower, and it is broken if it
was. -/
structure GoesOn (current later : Code) : Prop where
  errorCount : current.errorCount ≤ later.errorCount
  isBroken : current.isBroken = true → later.isBroken = true

theorem GoesOn.refl (code : Code) : GoesOn code code := ⟨UInt32.le_refl _, id⟩

theorem GoesOn.trans {first second third : Code} (start : GoesOn first second)
    (rest : GoesOn second third) : GoesOn first third :=
  ⟨UInt32.le_trans start.errorCount rest.errorCount, rest.isBroken ∘ start.isBroken⟩

/-- A code version with one more error goes on from what it was. -/
theorem goesOn_withError (code : Code) (threshold : UInt32) :
    GoesOn code (MemoryStore.withError code threshold) where
  errorCount := by
    rw [UInt32.le_iff_toNat_le]
    rcases MemoryStore.toNat_nextCount code.errorCount with next | ⟨greatest, same⟩
    · exact Nat.le_of_lt (Nat.lt_of_lt_of_eq (Nat.lt_succ_self _) next.symm)
    · exact Nat.le_of_eq (congrArg UInt32.toNat (greatest.trans same.symm))
  isBroken broken := by simp [MemoryStore.withError, broken]

/-- A code version that is there after an operation is there with its tracking gone on, unless it
was put again. That holds at every count, also at the greatest one. -/
theorem goesOn_perform (backend : Backend) {contents : backend.Contents}
    (intact : backend.Intact contents) {codeId : String} {current : Code}
    (found : backend.ops.getCode contents codeId = .ok (some current)) {operation : Operation}
    (unwritten : ¬ operation.Rewrites codeId) :
    ∃ later, backend.ops.getCode (backend.ops.perform contents operation).2 codeId
        = .ok (some later) ∧ GoesOn current later := by
  have reliable := backend.reliable
  cases operation with
  | putConfig config =>
    have shown := (reliable.putConfig config intact).view_eq
    exact ⟨current, (congrFun (congrArg View.code shown) _).trans found, .refl current⟩
  | putCode other =>
    have shown := (reliable.putCode other intact).view_eq
    have same := (congrFun (congrArg View.code shown) codeId).trans (if_neg unwritten)
    exact ⟨current, same.trans found, .refl current⟩
  | putTestCase testCase =>
    have shown := (reliable.putTestCase testCase intact).view_eq
    exact ⟨current, (congrFun (congrArg View.code shown) _).trans found, .refl current⟩
  | recordError id report threshold =>
    by_cases same : id = codeId
    · subst same
      change ∃ later,
        backend.ops.getCode (backend.ops.recordError contents id report threshold).2 id
          = .ok (some later) ∧ GoesOn current later
      rcases recorded : backend.ops.recordError contents id report threshold with
        ⟨failure | updated, after⟩
      · obtain rfl := backend.lawful.recordError_error recorded
        exact ⟨current, found, .refl current⟩
      · have takes := backend.takes_of_recordError intact.valid found recorded
        have read := (congrFun (congrArg View.code takes.view_eq) id).trans (if_pos rfl)
        exact ⟨updated, read, takes.updated_eq ▸ goesOn_withError current threshold⟩
    · obtain ⟨_, other⟩ := reliable.recordError_sameBut id report threshold intact
      exact ⟨current, (other.code (Ne.symm same)).trans found, .refl current⟩
  | getConfig | getCode | getTestCase | errorReports => exact ⟨current, found, .refl current⟩

/-- While a code version is not written again, it goes on. -/
theorem goesOn_after (backend : Backend) {contents : backend.Contents}
    (intact : backend.Intact contents) {codeId : String} {current : Code}
    (found : backend.ops.getCode contents codeId = .ok (some current))
    {operations : List Operation}
    (unwritten : ∀ operation ∈ operations, ¬ operation.Rewrites codeId) :
    ∃ later, backend.ops.getCode (Machine.after backend.ops.perform contents operations) codeId
        = .ok (some later) ∧ GoesOn current later := by
  induction operations generalizing contents current with
  | nil => exact ⟨current, found, .refl current⟩
  | cons operation rest ih =>
    obtain ⟨first, others⟩ := List.forall_mem_cons.mp unwritten
    obtain ⟨next, read, goesOn⟩ := backend.goesOn_perform intact found first
    have intact := intact.after [operation]
    obtain ⟨later, read, goesOn'⟩ := ih intact read others
    exact ⟨later, read, goesOn.trans goesOn'⟩

/-- A code version is put into a store that may have been used before, and any operations follow
that do not put it again. As long as all reports about it can be counted, its count is the one that
it was put with and one more for each report; it is broken if it was put so, or if one of these
counts was above the threshold of its report; and its history has grown by the reports in their
order. The next report is answered with the code version as it is read from then on, and changes
nothing of another one. However many reports there are, counts never go down and nothing that is
broken is mended. -/
theorem errors_tracked (backend : Backend) (before : List Operation) (code : Code)
    (operations : List Operation)
    (unwritten : ∀ operation ∈ operations, ¬ operation.Rewrites code.codeId) :
    let store := backend.ops
    let put := store.perform (Machine.after store.perform backend.empty before) (.putCode code)
    let reached := Machine.after store.perform put.2 operations
    let recorded := recordings code.codeId operations
    put.1 = .written (.ok ()) ∧
    (code.errorCount.toNat + recorded.length < UInt32.size → ∃ history current,
      store.getCode reached code.codeId = .ok (some current) ∧
      HasCounted code recorded current ∧
      store.errorReports put.2 code.codeId = .ok history ∧
      store.errorReports reached code.codeId
        = .ok (history ++ recorded.map Recording.report)) ∧
    (∀ report threshold,
      let (answer, after) := store.recordError reached code.codeId report threshold
      (code.errorCount.toNat + recorded.length + 1 < UInt32.size → ∃ updated,
        answer = .ok updated ∧ HasCounted code (recorded ++ [⟨report, threshold⟩]) updated ∧
        store.getCode after code.codeId = .ok (some updated)) ∧
      ∀ other, other ≠ code.codeId →
        store.getCode after other = store.getCode reached other ∧
        store.errorReports after other = store.errorReports reached other) ∧
    ∀ more, (∀ operation ∈ more, ¬ operation.Rewrites code.codeId) → ∃ current later,
      store.getCode reached code.codeId = .ok (some current) ∧
      store.getCode (Machine.after store.perform reached more) code.codeId = .ok (some later) ∧
      GoesOn current later := by
  intro store put reached recorded
  have used : backend.Intact (Machine.after store.perform backend.empty before) :=
    backend.intact_empty.after before
  obtain ⟨history, reports⟩ := backend.exists_errorReports
    (Machine.after store.perform backend.empty before) code.codeId
  have start : store.Tracks backend.Intact code history [] put.2 :=
    .put backend.reliable used code reports
  have intact : backend.Intact reached := start.valid.after operations
  have tracks (room : code.errorCount.toNat + recorded.length < UInt32.size) :
      store.Tracks backend.Intact code history recorded reached :=
    start.after backend.reliable unwritten room
  refine ⟨congrArg Answer.written (backend.reliable.putCode code used).result_eq, fun room => ?_,
    fun report threshold => ⟨fun room => ?_, fun other different => ?_⟩, fun more others => ?_⟩
  · obtain ⟨_, ⟨current, found, counted⟩, shown⟩ := tracks room
    have shownBefore := start.reports
    rw [List.map_nil, List.append_nil] at shownBefore
    exact ⟨history, current, found, counted, shownBefore, shown⟩
  · exact ((tracks (Nat.lt_of_succ_lt room)).recordError backend.reliable room
      ⟨report, threshold⟩).2
  · obtain ⟨_, same⟩ := backend.reliable.recordError_sameBut code.codeId report threshold intact
    exact ⟨same.code different, same.reports different⟩
  · obtain ⟨first, isThere, _⟩ := start.found
    obtain ⟨current, found, _⟩ := backend.goesOn_after start.valid isThere unwritten
    obtain ⟨later, foundLater, goesOn⟩ := backend.goesOn_after intact found others
    exact ⟨current, later, found, foundLater, goesOn⟩

end Backend

/-! ## Thresholds that change -/

namespace ChangingThresholds

/-- A code version. -/
def code (codeId : String) : Code := { codeId, lang := "starlark", content := "return 1" }

/-- A report from before the code version was put again with two errors. -/
def before : List Operation := [
  .putCode (code "first"),
  .putCode (code "second"),
  .recordError "first" { time := 1, message := "before" } 5]

/-- The second of three reports breaks the code version, for its threshold is lower than that of the
others; reports about another code version come in between. -/
def operations : List Operation := [
  .recordError "first" { time := 2, message := "one" } 9,
  .recordError "second" { time := 3, message := "other" } 0,
  .recordError "first" { time := 4, message := "two" } 3,
  .errorReports "first",
  .recordError "first" { time := 5, message := "three" } 9]

/-- The code version stays broken under the last, higher threshold. -/
theorem errors_tracked_broken :
    (∀ operation ∈ operations, ¬ operation.Rewrites "first") ∧
    let store := Backend.relational.ops
    let put := store.perform (Machine.after store.perform Backend.relational.empty before)
      (.putCode { code "first" with errorCount := 2 })
    let reached := Machine.after store.perform put.2 operations
    ∃ current, store.getCode reached "first" = .ok (some current) ∧
      current.errorCount.toNat = 5 ∧ current.isBroken = true := by
  have unwritten : ∀ operation ∈ operations, ¬ operation.Rewrites "first" := by
    simp [operations, Operation.Rewrites]
  obtain ⟨_, tracked, _⟩ := Backend.relational.errors_tracked before
    { code "first" with errorCount := 2 } operations unwritten
  obtain ⟨_, current, found, counted, _⟩ := tracked (by decide)
  refine ⟨unwritten, current, found, counted.errorCount_eq, counted.isBroken_iff.mpr (.inr ?_)⟩
  exact ⟨1, ⟨{ time := 4, message := "two" }, 3⟩, rfl, by decide⟩

end ChangingThresholds

end ConfigDelivery.Store
