import ConfigDelivery.Proofs.Basic.Simulation
import ConfigDelivery.Proofs.Store.Reliability
/-!
# The stores answer alike

Any series of operations on empty stores is answered alike by the relational tables and by the store
in memory, failures included. The two are held together by their views, which stay the same: that is
so for every reliable store, whatever it holds its records in. The errors of a code version are
counted up to the greatest count, at which one store goes on and the other fails; the series has no
report about a code version with that count.
-/

namespace ConfigDelivery.Store

variable {State : Type}

/-- What a store can be asked and told. -/
inductive Operation where
  | putConfig (config : Config)
  | putCode (code : Code)
  | putTestCase (testCase : TestCase)
  | getConfig (id : String)
  | getCode (id : String)
  | getTestCase (id : String)
  | recordError (id : String) (report : ErrorReport) (threshold : UInt32)
  | errorReports (id : String)

/-- What a store answers. -/
inductive Answer where
  | written (result : Except Failure Unit)
  | config (result : Except Failure (Option Config))
  | code (result : Except Failure (Option Code))
  | testCase (result : Except Failure (Option TestCase))
  | recorded (result : Except Failure Code)
  | reports (result : Except Failure (List ErrorReport))
  deriving DecidableEq

namespace RecordStoreOps

/-- Carry out an operation. -/
def perform (store : RecordStoreOps State) : Machine State Operation Answer
  | state, .putConfig config =>
    let (result, after) := store.putConfig state config
    (.written result, after)
  | state, .putCode code =>
    let (result, after) := store.putCode state code
    (.written result, after)
  | state, .putTestCase testCase =>
    let (result, after) := store.putTestCase state testCase
    (.written result, after)
  | state, .getConfig id => (.config (store.getConfig state id), state)
  | state, .getCode id => (.code (store.getCode state id), state)
  | state, .getTestCase id => (.testCase (store.getTestCase state id), state)
  | state, .recordError id report threshold =>
    let (result, after) := store.recordError state id report threshold
    (.recorded result, after)
  | state, .errorReports id => (.reports (store.errorReports state id), state)

/-- An operation is no report about a code version with the greatest count of errors. -/
def canCount (store : RecordStoreOps State) (state : State) : Operation → Bool
  | .recordError id _ _ =>
    match store.getCode state id with
    | .ok (some code) => code.errorCount ≠ greatestCount
    | _ => true
  | _ => true

/-- What is written is what is read afterwards, and no code version loses its reports by being
written. -/
structure Remembers (store : RecordStoreOps State) (state : State) : Prop where
  config : ∀ config, store.getConfig (store.putConfig state config).2 config.configId
    = .ok (some config)
  code : ∀ code, store.getCode (store.putCode state code).2 code.codeId = .ok (some code)
  testCase : ∀ testCase, store.getTestCase (store.putTestCase state testCase).2 testCase.testId
    = .ok (some testCase)
  reports : ∀ code id, store.errorReports (store.putCode state code).2 id
    = store.errorReports state id

namespace Reliable

variable {store : RecordStoreOps State} {Valid : State → Prop} {state : State}

/-- A reliable store remembers what is written. -/
theorem remembers (reliable : store.Reliable Valid) (valid : Valid state) :
    store.Remembers state where
  config config := by
    have shown := congrArg View.config (reliable.putConfig config valid).view_eq
    exact (congrFun shown _).trans (if_pos rfl)
  code code := by
    have shown := congrArg View.code (reliable.putCode code valid).view_eq
    exact (congrFun shown _).trans (if_pos rfl)
  testCase testCase := by
    have shown := congrArg View.testCase (reliable.putTestCase testCase valid).view_eq
    exact (congrFun shown _).trans (if_pos rfl)
  reports code id := by
    have shown := congrArg View.reports (reliable.putCode code valid).view_eq
    exact congrFun shown id

/-- No operation makes a reliable store invalid. -/
theorem valid_perform (reliable : store.Reliable Valid) (operation : Operation)
    (valid : Valid state) : Valid (store.perform state operation).2 := by
  cases operation with
  | putConfig config => exact (reliable.putConfig config valid).valid
  | putCode code => exact (reliable.putCode code valid).valid
  | putTestCase testCase => exact (reliable.putTestCase testCase valid).valid
  | recordError id report threshold =>
    exact (reliable.recordError_sameBut id report threshold valid).1
  | getConfig | getCode | getTestCase | errorReports => exact valid

end Reliable

end RecordStoreOps

/-! ## A reliable store and the one in memory -/

/-- A store shows what the store in memory shows, both with contents that are valid. -/
structure RecordStoreOps.IsLike (store : RecordStoreOps State) (Valid : State → Prop)
    (state : State) (memory : MemoryStore) : Prop where
  valid : Valid state
  indexed : memory.IsIndexed
  sameView : store.view state = MemoryStore.ops.view memory

namespace RecordStoreOps.IsLike

variable {store : RecordStoreOps State} {Valid : State → Prop} {state : State}
  {memory : MemoryStore}

/-- Operations of the same effect are answered alike, and the stores show the same afterwards. -/
theorem of_effect (alike : store.IsLike Valid state memory) {Result : Type} {result : Result}
    {change : View → View} {done : Result × State} {done' : Result × MemoryStore}
    (effect : store.HasEffect Valid state done result change)
    (effect' : MemoryStore.ops.HasEffect MemoryStore.IsIndexed memory done' result change) :
    done.1 = done'.1 ∧ store.IsLike Valid done.2 done'.2 := by
  refine ⟨effect.result_eq.trans effect'.result_eq.symm, effect.valid, effect'.valid, ?_⟩
  rw [effect.view_eq, effect'.view_eq, alike.sameView]

/-- A report is answered alike while errors can be counted. -/
theorem recordError (alike : store.IsLike Valid state memory) (reliable : store.Reliable Valid)
    {id : String} {report : ErrorReport} {threshold : UInt32}
    (counts : MemoryStore.ops.canCount memory (.recordError id report threshold) = true) :
    (store.recordError state id report threshold).1
      = (MemoryStore.ops.recordError memory id report threshold).1 ∧
    store.IsLike Valid (store.recordError state id report threshold).2
      (MemoryStore.ops.recordError memory id report threshold).2 := by
  have sameCode : store.getCode state id = MemoryStore.ops.getCode memory id :=
    congrFun (congrArg View.code alike.sameView) id
  cases found : memory.codes.find? id with
  | none =>
    have missing : MemoryStore.ops.getCode memory id = .ok none := congrArg Except.ok found
    rw [reliable.recordError_missing report threshold alike.valid (sameCode.trans missing),
      MemoryStore.reliable.recordError_missing report threshold alike.indexed missing]
    exact ⟨rfl, alike⟩
  | some code =>
    have stored : MemoryStore.ops.getCode memory id = .ok (some code) := congrArg Except.ok found
    have countable : code.errorCount ≠ greatestCount := by
      simpa only [canCount, stored, decide_eq_true_eq] using counts
    exact alike.of_effect
      (reliable.recordError_found report threshold alike.valid (sameCode.trans stored) countable)
      (MemoryStore.reliable.recordError_found report threshold alike.indexed stored countable)

/-- An operation is answered alike, and the stores show the same afterwards. -/
theorem perform (alike : store.IsLike Valid state memory) (reliable : store.Reliable Valid)
    {operation : Operation} (counts : MemoryStore.ops.canCount memory operation = true) :
    (store.perform state operation).1 = (MemoryStore.ops.perform memory operation).1 ∧
    store.IsLike Valid (store.perform state operation).2
      (MemoryStore.ops.perform memory operation).2 := by
  cases operation with
  | putConfig config =>
    obtain ⟨sameResult, alike⟩ := alike.of_effect
      (reliable.putConfig config alike.valid)
      (MemoryStore.reliable.putConfig config alike.indexed)
    exact ⟨congrArg Answer.written sameResult, alike⟩
  | putCode code =>
    obtain ⟨sameResult, alike⟩ := alike.of_effect
      (reliable.putCode code alike.valid) (MemoryStore.reliable.putCode code alike.indexed)
    exact ⟨congrArg Answer.written sameResult, alike⟩
  | putTestCase testCase =>
    obtain ⟨sameResult, alike⟩ := alike.of_effect
      (reliable.putTestCase testCase alike.valid)
      (MemoryStore.reliable.putTestCase testCase alike.indexed)
    exact ⟨congrArg Answer.written sameResult, alike⟩
  | recordError id report threshold =>
    obtain ⟨sameResult, alike⟩ := alike.recordError reliable counts
    exact ⟨congrArg Answer.recorded sameResult, alike⟩
  | getConfig id =>
    exact ⟨congrArg (fun view : View => Answer.config (view.config id)) alike.sameView, alike⟩
  | getCode id =>
    exact ⟨congrArg (fun view : View => Answer.code (view.code id)) alike.sameView, alike⟩
  | getTestCase id =>
    exact ⟨congrArg (fun view : View => Answer.testCase (view.testCase id)) alike.sameView, alike⟩
  | errorReports id =>
    exact ⟨congrArg (fun view : View => Answer.reports (view.reports id)) alike.sameView, alike⟩

end RecordStoreOps.IsLike

/-- Empty tables are like an empty memory. -/
theorem Tables.isLike_empty : Tables.ops.IsLike Tables.IsReferenced .empty .empty where
  valid := isReferenced_empty
  indexed := MemoryStore.isIndexed_empty
  sameView := rfl

/-- Empty stores answer every series of operations alike, in relational tables and in memory, as
long as there is no report about a code version with the greatest count of errors. After it both
answer what is written to them, and keep the reports about a code version that is written again. -/
theorem Tables.answers_eq_memory (operations : List Operation)
    (counts : Machine.allAdmitted MemoryStore.ops.perform MemoryStore.ops.canCount .empty
      operations = true) :
    Machine.answers ops.perform .empty operations
      = Machine.answers MemoryStore.ops.perform .empty operations ∧
    ops.Remembers (Machine.after ops.perform .empty operations) ∧
    MemoryStore.ops.Remembers (Machine.after MemoryStore.ops.perform .empty operations) := by
  have answers : Machine.answers ops.perform .empty operations
      = Machine.answers MemoryStore.ops.perform .empty operations :=
    Machine.answers_eq_of_simulation (fun alike counts => alike.perform reliable counts)
      isLike_empty counts
  have reached : IsReferenced (Machine.after ops.perform .empty operations) :=
    Machine.after_induction (fun operation => reliable.valid_perform operation)
      isReferenced_empty operations
  have reached' : MemoryStore.IsIndexed
      (Machine.after MemoryStore.ops.perform .empty operations) :=
    Machine.after_induction (fun operation => MemoryStore.reliable.valid_perform operation)
      MemoryStore.isIndexed_empty operations
  exact ⟨answers, reliable.remembers reached, MemoryStore.reliable.remembers reached'⟩

/-! ## A code version that is written again -/

namespace RewrittenCode

/-- A code version with rules and parameters. -/
def code (content : String) : Code where
  codeId := "first"
  lang := "starlark"
  rules := [⟨"iphone", [[⟨"version", ">=", "10"⟩]]⟩]
  params := [⟨"name", "string"⟩]
  content := content

/-- Two reports, the second of which breaks the code version; between them it is written again, and
in the end one about a code version that is not there. -/
def operations : List Operation := [
  .putCode (code "return 1"),
  .recordError "first" { time := 1, message := "oops" } 0,
  .putCode (code "return 2"),
  .recordError "first" { time := 2, message := "again" } 1,
  .recordError "first" { time := 3, message := "and again" } 1,
  .getCode "first",
  .errorReports "first",
  .recordError "second" { time := 4, message := "lost" } 1]

theorem answers_eq_memory_rewritten :
    Machine.allAdmitted MemoryStore.ops.perform MemoryStore.ops.canCount .empty operations
      = true ∧
    Machine.answers Tables.ops.perform .empty operations
      = Machine.answers MemoryStore.ops.perform .empty operations ∧
    Machine.answers MemoryStore.ops.perform .empty operations = [
      .written (.ok ()),
      .recorded (.ok { code "return 1" with errorCount := 1, isBroken := true }),
      .written (.ok ()),
      .recorded (.ok { code "return 2" with errorCount := 1 }),
      .recorded (.ok { code "return 2" with errorCount := 2, isBroken := true }),
      .code (.ok (some { code "return 2" with errorCount := 2, isBroken := true })),
      .reports (.ok [⟨1, "oops"⟩, ⟨2, "again"⟩, ⟨3, "and again"⟩]),
      .recorded (.error ⟨"code record second does not exist", []⟩)] := by
  have counts : Machine.allAdmitted MemoryStore.ops.perform MemoryStore.ops.canCount .empty
      operations = true := by decide
  exact ⟨counts, (Tables.answers_eq_memory operations counts).1, by decide⟩

end RewrittenCode

end ConfigDelivery.Store
