import ConfigDelivery.Proofs.Delivery.Secrets
/-!
# Failures are not told

Two services that differ only in how their stores describe failures answer every operation alike:
the same result, or refusals that differ in internal detail at most. The two run side by side. Up to
the point where a script runs or a report is recorded, each step of one comes to what the step of
the other comes to, and both keep the same texts. How long scripts take is not compared.
-/

namespace ConfigDelivery.Delivery

variable {Stored Stored' Kept Engines Engines' Result Result' Next Next' Record : Type}

/-- Two components fail both, whatever they say, or come to the same. -/
def SameFound (found found' : Except Failure Result) : Prop := found.toOption = found'.toOption

/-- Findings that are the same are both failures, or are one result. -/
theorem SameFound.elim {found found' : Except Failure Result} (same : SameFound found found') :
    (∃ failure failure', found = .error failure ∧ found' = .error failure') ∨
      ∃ result, found = .ok result ∧ found' = .ok result := by
  rcases found with failure | result <;> rcases found' with failure' | result'
  · exact .inl ⟨failure, failure', rfl, rfl⟩
  · cases same
  · cases same
  · cases same
    exact .inr ⟨result, rfl, rfl⟩

theorem SameFound.refl (found : Except Failure Result) : SameFound found found := rfl

/-- Two services in worlds where they differ in the descriptions of failures, and in how long
scripts take. -/
structure DifferInFailures (left : Components Stored Kept Engines)
    (leftWorld : World Stored Kept Engines) (right : Components Stored' Kept Engines')
    (rightWorld : World Stored' Kept Engines') : Prop where
  config : ∀ id, SameFound (left.store.getConfig leftWorld.stored id)
    (right.store.getConfig rightWorld.stored id)
  code : ∀ id, SameFound (left.store.getCode leftWorld.stored id)
    (right.store.getCode rightWorld.stored id)
  testCase : ∀ id, SameFound (left.store.getTestCase leftWorld.stored id)
    (right.store.getTestCase rightWorld.stored id)
  recordError : ∀ codeId report threshold,
    SameFound (left.store.recordError leftWorld.stored codeId report threshold).1
      (right.store.recordError rightWorld.stored codeId report threshold).1
  outcome : ∀ request, (left.engines.run leftWorld.engines leftWorld.now request).outcome
    = (right.engines.run rightWorld.engines rightWorld.now request).outcome
  health : ∀ language, left.engines.health leftWorld.engines leftWorld.now language
    = right.engines.health rightWorld.engines rightWorld.now language
  records : left.records = right.records
  wallClock : left.wallClock = right.wallClock
  settings : left.settings = right.settings
  kept : leftWorld.kept = rightWorld.kept
  now : leftWorld.now = rightWorld.now

/-- Two answers agree: their results do, or they are refusals that differ in internal detail at
most. -/
inductive AnswersAlike (agree : Result → Result' → Prop) :
    Except DeliveryError Result → Except DeliveryError Result' → Prop where
  | ok {result result'} (same : agree result result') :
      AnswersAlike agree (.ok result) (.ok result')
  | error {refusal refusal'} (alike : refusal.Alike refusal') :
      AnswersAlike agree (.error refusal) (.error refusal')

theorem AnswersAlike.refl (answer : Except DeliveryError Result) :
    AnswersAlike Eq answer answer := by
  cases answer with
  | ok result => exact .ok rfl
  | error refusal => exact .error (.inl rfl)

/-- Internal detail alone does not tell two refusals apart. -/
theorem AnswersAlike.internal {agree : Result → Result' → Prop} (detail detail' : String) :
    AnswersAlike agree (.error (.internal detail)) (.error (.internal detail')) :=
  .error (.inr ⟨detail, detail', rfl, rfl⟩)

/-! ## Side by side -/

section SideBySide

variable (leftWorld : World Stored Kept Engines) (rightWorld : World Stored' Kept Engines')

/-- Whatever texts are kept before, two steps come to results that agree, keep the same texts and
leave all else as it is. -/
def InStep (agree : Result → Result' → Prop)
    (first : World Stored Kept Engines → Result × World Stored Kept Engines)
    (second : World Stored' Kept Engines' → Result' × World Stored' Kept Engines') : Prop :=
  ∀ kept, ∃ result result' after,
    first { leftWorld with kept } = (result, { leftWorld with kept := after }) ∧
    second { rightWorld with kept } = (result', { rightWorld with kept := after }) ∧
    agree result result'

/-- Whatever texts are kept before, two steps come to results that agree. -/
def EndAlike (agree : Result → Result' → Prop)
    (first : World Stored Kept Engines → Result × World Stored Kept Engines)
    (second : World Stored' Kept Engines' → Result' × World Stored' Kept Engines') : Prop :=
  ∀ kept, agree (first { leftWorld with kept }).1 (second { rightWorld with kept }).1

variable {leftWorld rightWorld} {agree : Result → Result' → Prop}
  {agreeNext : Next → Next' → Prop}

theorem InStep.pure {result : Result} {result' : Result'} (same : agree result result') :
    InStep leftWorld rightWorld agree
      (pure result : StateM (World Stored Kept Engines) Result)
      (pure result' : StateM (World Stored' Kept Engines') Result') :=
  fun kept => ⟨result, result', kept, rfl, rfl, same⟩

/-- Actions in step are continued in step. -/
theorem InStep.bind {first : StateM (World Stored Kept Engines) Result}
    {second : StateM (World Stored' Kept Engines') Result'}
    {rest : Result → StateM (World Stored Kept Engines) Next}
    {rest' : Result' → StateM (World Stored' Kept Engines') Next'}
    (start : InStep leftWorld rightWorld agree first second)
    (next : ∀ result result', agree result result' →
      InStep leftWorld rightWorld agreeNext (rest result) (rest' result')) :
    InStep leftWorld rightWorld agreeNext (first >>= rest) (second >>= rest') := by
  intro kept
  obtain ⟨result, result', between, left, right, same⟩ := start kept
  obtain ⟨last, last', after, left', right', same'⟩ := next result result' same between
  refine ⟨last, last', after, ?_, ?_, same'⟩
  · simp only [Bind.bind, StateT.bind, left, left']
  · simp only [Bind.bind, StateT.bind, right, right']

section Actions

variable {first : Action Stored Kept Engines Result}
  {second : Action Stored' Kept Engines' Result'}
  {rest : Result → Action Stored Kept Engines Next}
  {rest' : Result' → Action Stored' Kept Engines' Next'}

/-- A refusal ends both of two actions in step. -/
theorem InStep.action_bind
    (start : InStep leftWorld rightWorld (AnswersAlike agree) first.perform second.perform)
    (next : ∀ result result', agree result result' →
      InStep leftWorld rightWorld (AnswersAlike agreeNext) (rest result).perform
        (rest' result').perform) :
    InStep leftWorld rightWorld (AnswersAlike agreeNext) (first >>= rest).perform
      (second >>= rest').perform := by
  intro kept
  obtain ⟨answer, answer', between, left, right, same⟩ := start kept
  rw [Action.perform_bind, Action.perform_bind, left, right]
  cases same with
  | ok same => exact next _ _ same between
  | error alike => exact ⟨_, _, between, rfl, rfl, .error alike⟩

/-- Actions in step that are continued to like ends end alike. -/
theorem InStep.endAlike_bind
    (start : InStep leftWorld rightWorld (AnswersAlike agree) first.perform second.perform)
    (next : ∀ result result', agree result result' →
      EndAlike leftWorld rightWorld (AnswersAlike agreeNext) (rest result).perform
        (rest' result').perform) :
    EndAlike leftWorld rightWorld (AnswersAlike agreeNext) (first >>= rest).perform
      (second >>= rest').perform := by
  intro kept
  obtain ⟨answer, answer', between, left, right, same⟩ := start kept
  rw [Action.perform_bind, Action.perform_bind, left, right]
  cases same with
  | ok same => exact next _ _ same between
  | error alike => exact .error alike

/-- After a step that may leave the services apart, results alone are compared. -/
theorem EndAlike.action_bind
    (start : EndAlike leftWorld rightWorld (AnswersAlike agree) first.perform second.perform)
    (next : ∀ result result', agree result result' → ∀ leftAfter rightAfter,
      AnswersAlike agreeNext ((rest result).perform leftAfter).1
        ((rest' result').perform rightAfter).1) :
    EndAlike leftWorld rightWorld (AnswersAlike agreeNext) (first >>= rest).perform
      (second >>= rest').perform := by
  intro kept
  have same := start kept
  rw [Action.perform_bind, Action.perform_bind]
  rcases left : first.perform { leftWorld with kept } with ⟨answer, leftAfter⟩
  rcases right : second.perform { rightWorld with kept } with ⟨answer', rightAfter⟩
  rw [left, right] at same
  cases same with
  | ok same => exact next _ _ same leftAfter rightAfter
  | error alike => exact .error alike

/-- A look-up in step is continued in step. -/
theorem InStep.lift_bind {loaded : StateM (World Stored Kept Engines) Result}
    {loaded' : StateM (World Stored' Kept Engines') Result'}
    (start : InStep leftWorld rightWorld agree loaded loaded')
    (next : ∀ result result', agree result result' →
      InStep leftWorld rightWorld (AnswersAlike agreeNext) (rest result).perform
        (rest' result').perform) :
    InStep leftWorld rightWorld (AnswersAlike agreeNext)
      ((liftM loaded : Action Stored Kept Engines Result) >>= rest).perform
      ((liftM loaded' : Action Stored' Kept Engines' Result') >>= rest').perform := by
  intro kept
  obtain ⟨result, result', between, left, right, same⟩ := start kept
  rw [Action.perform_lift_bind, Action.perform_lift_bind, left, right]
  exact next _ _ same between

end Actions

/-- A decision of its own is the same beside either store. -/
theorem InStep.conclude (decision : Except DeliveryError Result) :
    InStep leftWorld rightWorld (AnswersAlike Eq)
      (Delivery.conclude decision : Action Stored Kept Engines Result).perform
      (Delivery.conclude decision : Action Stored' Kept Engines' Result).perform :=
  fun kept => ⟨decision, decision, kept, rfl, rfl, .refl decision⟩

end SideBySide

/-- Two reports on a test that took differently long. -/
def SameVerdict (report report' : TestReport) : Prop :=
  report.succeed = report'.succeed ∧ report.message = report'.message

/-- A test is judged alike however long it took. -/
theorem judge_alike (test : TestCase) (output : String) (duration duration' : Duration) :
    AnswersAlike SameVerdict (judge test output duration) (judge test output duration') := by
  unfold judge
  cases Json.readValue? test.output with
  | none => exact .error (.inl rfl)
  | some expected => exact .ok ⟨rfl, rfl⟩

namespace DifferInFailures

variable {left : Components Stored Kept Engines} {leftWorld : World Stored Kept Engines}
  {right : Components Stored' Kept Engines'} {rightWorld : World Stored' Kept Engines'}
  (differ : DifferInFailures left leftWorld right rightWorld)

/-! ## Records -/

/-- Reads that find the same keep in step. -/
theorem read_inStep {fetch : Store.RecordStoreOps Stored → Stored → Except Failure Result}
    {fetch' : Store.RecordStoreOps Stored' → Stored' → Except Failure Result}
    (same : SameFound (fetch left.store leftWorld.stored) (fetch' right.store rightWorld.stored)) :
    InStep leftWorld rightWorld (AnswersAlike Eq) (left.read fetch).perform
      (right.read fetch').perform := by
  intro kept
  refine ⟨_, _, kept, left.read_perform fetch _, right.read_perform fetch' _, ?_⟩
  rcases same.elim with ⟨failure, failure', found, found'⟩ | ⟨result, found, found'⟩
  · rw [found, found']
    exact .internal failure.plain failure'.plain
  · rw [found, found']
    exact .ok rfl

include differ

/-- A record is read from both stores and kept in both caches. -/
theorem fetchRecord_inStep {kind : RecordKind Stored Record}
    {fetch' : Stored' → String → Except Failure (Option Record)} {id : String}
    (same : SameFound (kind.fetch leftWorld.stored id) (fetch' rightWorld.stored id)) :
    InStep leftWorld rightWorld SameFound (left.fetchRecord kind id)
      (right.fetchRecord { kind with fetch := fetch' } id) := by
  intro kept
  rw [Components.fetchRecord_eq, Components.fetchRecord_eq]
  refine ⟨_, _, _, rfl, ?_, same⟩
  simp only [Components.refreshed, differ.records, differ.settings, differ.now]
  rcases same.elim with ⟨failure, failure', found, found'⟩ | ⟨result, found, found'⟩
  · rw [found, found']
    cases right.records <;> rfl
  · rw [found, found']

/-- Records that are found the same are loaded in step, and are kept alike. -/
theorem loadRecord_inStep (kind : RecordKind Stored Record)
    {fetch' : Stored' → String → Except Failure (Option Record)} {id : String}
    (same : SameFound (kind.fetch leftWorld.stored id) (fetch' rightWorld.stored id))
    (cached : Bool) :
    InStep leftWorld rightWorld SameFound (left.loadRecord kind cached id)
      (right.loadRecord { kind with fetch := fetch' } cached id) := by
  intro kept
  by_cases uncached : cached = false ∨ right.records = none
  · rw [left.loadRecord_of_uncached kind id _ (differ.records ▸ uncached),
      right.loadRecord_of_uncached _ id _ uncached]
    exact differ.fetchRecord_inStep same kept
  · obtain ⟨accepts, caching⟩ := not_or.mp uncached
    obtain rfl : cached = true := by simpa using accepts
    obtain ⟨records, caching⟩ := Option.ne_none_iff_exists'.mp caching
    rcases looked : records.get kept rightWorld.now (kind.key id) with ⟨answer, after⟩
    have looked' : records.get kept leftWorld.now (kind.key id) = (answer, after) := by
      rw [differ.now, looked]
    rw [left.loadRecord_of_looked kind id { leftWorld with kept } (differ.records.trans caching)
        looked',
      right.loadRecord_of_looked _ id { rightWorld with kept } caching looked]
    dsimp only
    cases readKept kind.decoder answer with
    | some record => exact ⟨_, _, _, rfl, rfl, .refl _⟩
    | none => exact differ.fetchRecord_inStep same after

/-- Configurations are loaded in step. -/
theorem loadConfig_inStep (configId : String) (cached : Bool) :
    InStep leftWorld rightWorld SameFound (left.loadRecord left.configs cached configId)
      (right.loadRecord right.configs cached configId) :=
  differ.loadRecord_inStep left.configs (differ.config configId) cached

/-- Code versions are resolved in step. -/
theorem resolveCode_inStep (cached : Bool) (codeId : String) :
    InStep leftWorld rightWorld SameFound (left.resolveCode cached codeId)
      (right.resolveCode cached codeId) := by
  refine InStep.bind
    (differ.loadRecord_inStep left.codes (differ.code codeId) cached) ?_
  intro found found' same
  rcases same.elim with ⟨failure, failure', rfl, rfl⟩ | ⟨_ | code, rfl, rfl⟩
  · exact .pure rfl
  · exact .pure (.refl _)
  · exact .pure (.refl _)

/-! ## The choice of a code version -/

/-- A gray code version whose look-up fails gives way in both services, for whatever reason. -/
theorem selectCode_inStep (config : Config) (deviceId : String) (cached : Bool) :
    InStep leftWorld rightWorld SameFound
      (Targeting.selectCode config deviceId (left.resolveCode cached))
      (Targeting.selectCode config deviceId (right.resolveCode cached)) := by
  unfold Targeting.selectCode
  generalize stable_def : left.resolveCode cached config.releasedCode >>= _ = stable
  generalize stable_def' : right.resolveCode cached config.releasedCode >>= _ = stable'
  have released : InStep leftWorld rightWorld SameFound stable stable' := by
    rw [← stable_def, ← stable_def']
    refine (differ.resolveCode_inStep cached config.releasedCode).bind fun found found' same => ?_
    rcases same.elim with ⟨failure, failure', rfl, rfl⟩ | ⟨code, rfl, rfl⟩
    · exact .pure rfl
    · exact .pure (.refl _)
  by_cases hit : Targeting.isGrayHit config deviceId = true
  · rw [if_pos hit, if_pos hit]
    refine (differ.resolveCode_inStep cached config.grayReleaseCode).bind
      fun found found' same => ?_
    rcases same.elim with ⟨failure, failure', rfl, rfl⟩ | ⟨code, rfl, rfl⟩
    · exact released
    · dsimp only
      by_cases broken : code.isBroken = true
      · rw [if_pos broken, if_pos broken]
        exact released
      · rw [if_neg broken, if_neg broken]
        exact .pure (.refl _)
  · rw [if_neg hit, if_neg hit]
    exact released

/-- The configuration to serve is chosen in step. -/
theorem activeConfig_inStep (configId : String) (cached : Bool) :
    InStep leftWorld rightWorld (AnswersAlike Eq) (left.activeConfig configId cached).perform
      (right.activeConfig configId cached).perform := by
  refine InStep.lift_bind (differ.loadConfig_inStep configId cached) fun found found' same => ?_
  rcases same.elim with ⟨failure, failure', rfl, rfl⟩ | ⟨_ | config, rfl, rfl⟩
  · exact fun kept => ⟨_, _, kept, rfl, rfl, .internal _ _⟩
  · exact fun kept => ⟨_, _, kept, rfl, rfl, .refl _⟩
  · refine (InStep.conclude (requireActive config)).action_bind fun _ _ _ => ?_
    exact fun kept => ⟨_, _, kept, rfl, rfl, .refl _⟩

/-- The code version for a device is chosen in step. -/
theorem chooseCode_inStep (config : Config) (deviceId : String) (cached : Bool) :
    InStep leftWorld rightWorld (AnswersAlike Eq) (left.chooseCode config deviceId cached).perform
      (right.chooseCode config deviceId cached).perform := by
  refine InStep.lift_bind (differ.selectCode_inStep config deviceId cached)
    fun found found' same => ?_
  rcases same.elim with ⟨failure, failure', rfl, rfl⟩ | ⟨selection, rfl, rfl⟩
  · exact fun kept => ⟨_, _, kept, rfl, rfl, .internal _ _⟩
  · exact fun kept => ⟨_, _, kept, rfl, rfl, .refl _⟩

/-! ## Operations -/

/-- Actions that end alike give like answers. -/
theorem of_endAlike {agree : Result → Result' → Prop}
    {first : World Stored Kept Engines → Result × World Stored Kept Engines}
    {second : World Stored' Kept Engines' → Result' × World Stored' Kept Engines'}
    (ends : EndAlike leftWorld rightWorld agree first second) :
    agree (first leftWorld).1 (second rightWorld).1 := by
  have same := ends leftWorld.kept
  have here : { rightWorld with kept := leftWorld.kept } = rightWorld := by rw [differ.kept]
  rwa [here] at same

/-- A script comes to the same outcome in both services, however long it takes. -/
theorem execute_endAlike {agree : Result → Result' → Prop} (request : Engine.Request)
    {rest : Except Script.ScriptError String → Action Stored Kept Engines Result}
    {rest' : Except Script.ScriptError String → Action Stored' Kept Engines' Result'}
    (next : ∀ outcome leftAfter rightAfter, AnswersAlike agree
      ((rest outcome).perform leftAfter).1 ((rest' outcome).perform rightAfter).1) :
    EndAlike leftWorld rightWorld (AnswersAlike agree)
      ((liftM (left.execute request) : Action Stored Kept Engines _) >>= rest).perform
      ((liftM (right.execute request) : Action Stored' Kept Engines' _) >>= rest').perform := by
  intro kept
  rw [Action.perform_lift_bind, Action.perform_lift_bind, Components.execute_eq,
    Components.execute_eq]
  dsimp only
  rw [← differ.outcome]
  exact next _ _ _

/-- A script that is run beside either store ends alike. -/
theorem runOnce_endAlike (source : String) (prepared : Prepared) :
    EndAlike leftWorld rightWorld (AnswersAlike Eq) (left.runOnce source prepared).perform
      (right.runOnce source prepared).perform := by
  refine differ.execute_endAlike _ fun outcome leftAfter rightAfter => ?_
  cases outcome with
  | ok result => exact .refl (.ok result)
  | error error => exact .refl (.error (.execution error.message))

/-- Stores that differ in the texts of failures answer requests alike. -/
theorem serve_alike (configId : String) (request : ConfigRequest) :
    AnswersAlike Eq ((left.serve configId request).perform leftWorld).1
      ((right.serve configId request).perform rightWorld).1 := by
  refine differ.of_endAlike ((differ.activeConfig_inStep configId request.cached).endAlike_bind ?_)
  rintro config _ rfl
  refine (differ.chooseCode_inStep config request.requestMeta.deviceId
    request.cached).endAlike_bind ?_
  rintro ⟨code, isGray⟩ _ rfl
  refine (InStep.conclude (permit code request.requestMeta)).endAlike_bind ?_
  rintro _ _ _
  refine (InStep.conclude (prepare code request.params)).endAlike_bind ?_
  rintro prepared _ rfl
  refine differ.execute_endAlike _ fun outcome leftAfter rightAfter => ?_
  cases outcome with
  | ok result => exact .refl (.ok _)
  | error error => exact .refl (.error _)

/-- Stores that differ in the texts of failures run scripts on trial alike. -/
theorem runPlayground_alike (language : String) (request : PlaygroundRequest) :
    AnswersAlike Eq ((left.runPlayground language request).perform leftWorld).1
      ((right.runPlayground language request).perform rightWorld).1 := by
  refine differ.of_endAlike ((InStep.conclude (readLanguage language)).endAlike_bind ?_)
  rintro language _ rfl
  exact differ.runOnce_endAlike _ _

/-- Stores that differ in the texts of failures judge tests alike. -/
theorem runTest_alike (testId : String) (secret : Option String) :
    AnswersAlike SameVerdict ((left.runTest testId secret).perform leftWorld).1
      ((right.runTest testId secret).perform rightWorld).1 := by
  refine differ.of_endAlike ?_
  unfold Components.runTest
  rw [← differ.settings]
  refine (InStep.conclude (requireTestSecret left.settings secret)).endAlike_bind ?_
  rintro _ _ _
  refine (read_inStep ?_).endAlike_bind ?_
  · exact differ.testCase testId
  rintro (_ | test) _ rfl
  · exact fun _ => .error (.inl rfl)
  refine (read_inStep ?_).endAlike_bind ?_
  · exact differ.code test.codeId
  rintro (_ | code) _ rfl
  · exact fun _ => .error (.inl rfl)
  dsimp only
  cases Json.readMembers? test.input with
  | none => exact fun _ => .error (.inl rfl)
  | some input =>
    refine (InStep.conclude (prepare code input)).endAlike_bind ?_
    rintro prepared _ rfl kept
    rw [Action.perform_get_bind, Action.perform_get_bind]
    refine (differ.runOnce_endAlike code.content prepared).action_bind ?_ kept
    rintro output _ rfl leftAfter rightAfter
    exact judge_alike test output _ _

/-- Reports are dated in step. -/
theorem dated_inStep (report : ErrorReport) :
    InStep leftWorld rightWorld (AnswersAlike Eq) (left.dated report).perform
      (right.dated report).perform := by
  intro kept
  refine ⟨_, _, kept, left.dated_perform report _, right.dated_perform report _, ?_⟩
  simp only [Components.datedReport, differ.wallClock, differ.now]
  exact .refl _

/-- Reports are recorded with like ends. -/
theorem record_endAlike (codeId : String) (report : ErrorReport) :
    EndAlike leftWorld rightWorld (AnswersAlike Eq) (left.record codeId report).perform
      (right.record codeId report).perform := by
  intro kept
  rw [Components.record_perform, Components.record_perform, differ.settings]
  dsimp only
  rcases (differ.recordError codeId report right.settings.breakThreshold).elim with
    ⟨failure, failure', found, found'⟩ | ⟨updated, found, found'⟩
  · rw [found, found']
    exact .internal failure.full failure'.full
  · rw [found, found']
    exact .ok rfl

/-- Stores that differ in the texts of failures answer reports alike. -/
theorem reportError_alike (configId codeId : String) (secret : Option String)
    (report : ErrorReport) :
    AnswersAlike Eq ((left.reportError configId codeId secret report).perform leftWorld).1
      ((right.reportError configId codeId secret report).perform rightWorld).1 := by
  refine differ.of_endAlike ((InStep.conclude (givenSecret secret)).endAlike_bind ?_)
  rintro given _ rfl
  refine (read_inStep ?_).endAlike_bind ?_
  · exact differ.config configId
  rintro (_ | config) _ rfl
  · exact fun _ => .error (.inl rfl)
  refine (InStep.conclude (acceptsReport config configId codeId given)).endAlike_bind ?_
  rintro _ _ _
  refine (read_inStep ?_).endAlike_bind ?_
  · exact differ.code codeId
  rintro (_ | code) _ rfl
  · exact fun _ => .error (.inl rfl)
  dsimp only
  by_cases broken : code.isBroken = true
  · rw [if_pos broken, if_pos broken]
    exact fun _ => .error (.inl rfl)
  · rw [if_neg broken, if_neg broken]
    refine (differ.dated_inStep report).endAlike_bind ?_
    rintro dated _ rfl
    refine (differ.record_endAlike codeId dated).action_bind ?_
    rintro updated _ rfl leftAfter rightAfter
    rw [Action.perform_lift_bind, Action.perform_lift_bind]
    exact .refl (.ok _)

end DifferInFailures

end ConfigDelivery.Delivery
