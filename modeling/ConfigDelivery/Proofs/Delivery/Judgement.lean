import ConfigDelivery.Proofs.Delivery.Testing
import ConfigDelivery.Proofs.Engine.Identity
import ConfigDelivery.Proofs.Json.Values
/-!
# Judgements of unit tests

A unit test is judged by values: its output is right when it stands for the value that is expected.
How the stored input and the expected output are written makes no difference: a test whose texts are
replaced by others of the same values has the same verdict with the same message, or is refused for
the same reason. Only the refusal of an input that is no object says where in the text that was
found. The sign of a zero is part of an input, since a script can tell it, but not of what is
expected.
-/

namespace ConfigDelivery.Delivery

open ConfigDelivery.Engine (Engines Interpreters installed)
open ConfigDelivery.Json (Value)
open ConfigDelivery.Script (ScriptError)

variable {Stored Kept EngineState : Type}

/-! ## The value of an output -/

/-- The value that the output of a script stands for: that of its text, or the string of itself. -/
inductive StandsFor (output : String) : Value → Prop where
  | text {value : Value} (isText : value.IsText output) : StandsFor output value
  | string (noText : ∀ value : Value, ¬ value.IsText output) : StandsFor output (.string output)

/-- Every output stands for one value: what it is read as, or its text. -/
theorem standsFor_iff {output : String} {value : Value} :
    StandsFor output value ↔ outputValue output = value := by
  unfold outputValue
  cases read : Json.readValue? output with
  | none =>
    have noText (value : Value) : ¬ value.IsText output := by
      rw [← Json.readValue?_eq_some_iff, read]
      exact Option.some_ne_none value ∘ Eq.symm
    constructor
    · rintro (isText | _)
      · exact absurd isText (noText _)
      · rfl
    · rintro rfl
      exact .string noText
  | some found =>
    have isText : found.IsText output := Json.readValue?_eq_some_iff.mp read
    constructor
    · rintro (other | noText)
      · rw [← Json.readValue?_eq_some_iff, read] at other
        exact Option.some.inj other
      · exact absurd isText (noText _)
    · rintro rfl
      exact .text isText

/-- A report on an output tells whether it stands for the expected value, but for the signs of
zeros. -/
structure IsJudged (test : TestCase) (output : String) (report : TestReport) : Prop where
  values : ∃ expected actual : Value, expected.IsText test.output ∧ StandsFor output actual ∧
    (report.succeed = true ↔ actual.unsigned = expected.unsigned)
  message : report.message = if report.succeed then "success" else "wrong output:\n" ++ output

/-- A test that is judged compares the expected value with that of the output. -/
theorem judge_eq_ok {test : TestCase} {output : String} {duration : Duration} {report : TestReport}
    (judged : judge test output duration = .ok report) : IsJudged test output report := by
  unfold judge at judged
  split at judged
  · cases judged
  · rename_i expected read
    cases judged
    exact ⟨⟨expected, _, Json.readValue?_eq_some_iff.mp read, standsFor_iff.mpr rfl,
      Value.same_iff ..⟩, rfl⟩

/-! ## Texts of the same value -/

/-- The same text, or another one of what is the same value in some respect. -/
inductive IsRewrittenText (respect : Value → Value) (text : String) : String → Prop where
  | unchanged : IsRewrittenText respect text text
  | rewritten {value value' : Value} {other : String} (before : value.IsText text)
      (after : value'.IsText other) (same : respect value = respect value') :
      IsRewrittenText respect text other

/-- A unit test whose texts are of the same input and of the same expected output. -/
structure IsRewrittenTest (test other : TestCase) : Prop where
  codeId : other.codeId = test.codeId
  input : IsRewrittenText id test.input other.input
  output : IsRewrittenText Value.unsigned test.output other.output

/-- Answers to two tests of the same values: reports that differ in the time at most, one refusal,
or the refusals of two inputs that are no object, each with the place in its own text. -/
inductive SameJudgement (test other : TestCase) :
    Except DeliveryError TestReport → Except DeliveryError TestReport → Prop where
  | reported {report report' : TestReport} (succeed : report'.succeed = report.succeed)
      (message : report'.message = report.message) :
      SameJudgement test other (.ok report) (.ok report')
  | refused (refusal : DeliveryError) : SameJudgement test other (.error refusal) (.error refusal)
  | badInput {value : Value} (before : value.IsText test.input) (after : value.IsText other.input)
      (noObject : ∀ members, value ≠ .object members) :
      SameJudgement test other (.error (badTestInput test.input))
        (.error (badTestInput other.input))

namespace IsRewrittenTest

variable {test other : TestCase}

/-- The inputs have the same members; or they are the same text, or texts of one value that is no
object. -/
theorem requiredInput_eq (rewritten : IsRewrittenTest test other) :
    requiredInput other.input = requiredInput test.input ∨
    requiredInput test.input = .error (badTestInput test.input) ∧
    requiredInput other.input = .error (badTestInput other.input) ∧
    SameJudgement test other (.error (badTestInput test.input))
      (.error (badTestInput other.input)) := by
  have texts := rewritten.input
  generalize isInput : other.input = text at texts
  cases texts with
  | unchanged => exact .inl rfl
  | @rewritten value value' _ before after same =>
    obtain rfl : value = value' := same
    subst isInput
    rw [requiredInput, requiredInput, Json.readMembers?, Json.readMembers?,
      Json.readValue?_eq_some_iff.mpr before, Json.readValue?_eq_some_iff.mpr after]
    cases value with
    | object members => exact .inl rfl
    | null | bool _ | number _ | string _ | array _ =>
      exact .inr ⟨rfl, rfl, .badInput before after fun _ same => Value.noConfusion same⟩

example : requiredInput "\n[1]" = .error (.input
    "invalid JSON input: invalid type: sequence, expected a map at line 2 column 0") := by
  decide +kernel

/-- An output has the same verdict by either test. -/
theorem judge_sameJudgement (rewritten : IsRewrittenTest test other) (output : String)
    (duration duration' : Duration) :
    SameJudgement test other (judge test output duration) (judge other output duration') := by
  have texts := rewritten.output
  unfold judge
  generalize other.output = text at texts
  cases texts with
  | unchanged =>
    cases Json.readValue? test.output with
    | none => exact .refused _
    | some expected => exact .reported rfl rfl
  | @rewritten expected expected' _ before after same =>
    have sameVerdict :
        (outputValue output).same expected' = (outputValue output).same expected := by
      rw [Bool.eq_iff_iff, Value.same_iff, Value.same_iff, same]
    rw [Json.readValue?_eq_some_iff.mpr before, Json.readValue?_eq_some_iff.mpr after]
    dsimp only
    rw [sameVerdict]
    exact .reported rfl rfl

end IsRewrittenTest

/-- Tests that are rewritten judge every outcome of their script alike. -/
theorem TestedScript.answer_sameJudgement {test other : TestCase}
    (rewritten : IsRewrittenTest test other) {script : TestedScript} (same : script.test = test)
    (outcome : Except ScriptError String) (duration duration' : Duration) :
    SameJudgement test other (script.answer outcome duration)
      ({ script with test := other }.answer outcome duration') := by
  subst same
  cases outcome with
  | error error => exact .refused _
  | ok output => exact rewritten.judge_sameJudgement output duration duration'

namespace Components

section Engines

variable (components : Components Stored Kept EngineState)

/-- Scripts whose programs are not kept have the same outcomes in two worlds. -/
def SameOutcomes (world other : World Stored Kept EngineState) : Prop :=
  ∀ request : Engine.Request, request.cacheId = "" →
    (components.engines.run other.engines other.now request).outcome
      = (components.engines.run world.engines world.now request).outcome

variable {components} {stored stored' : Stored} {testId : String} {test other : TestCase}

/-- A unit test with rewritten texts comes to the same script, or to a refusal for the same
reason. -/
theorem testDecision_rewritten
    (found : components.store.getTestCase stored testId = .ok (some test))
    (foundOther : components.store.getTestCase stored' testId = .ok (some other))
    (sameCode : components.store.getCode stored' test.codeId
      = components.store.getCode stored test.codeId)
    (rewritten : IsRewrittenTest test other) (secret : Option String) :
    components.testDecision stored' testId secret
      = (components.testDecision stored testId secret).map ({ · with test := other }) ∨
    ∃ refusal refusal', components.testDecision stored testId secret = .error refusal ∧
      components.testDecision stored' testId secret = .error refusal' ∧
      SameJudgement test other (.error refusal) (.error refusal') := by
  rw [testDecision, testDecision, found, foundOther, requiredTest, requiredTest]
  cases requireTestSecret components.settings secret with
  | error refusal => exact .inl rfl
  | ok granted =>
    rw [ok_bind, ok_bind, ok_bind, ok_bind, rewritten.codeId, sameCode]
    cases requiredCode testId test.codeId (components.store.getCode stored test.codeId) with
    | error refusal => exact .inl rfl
    | ok code =>
      rw [ok_bind, ok_bind]
      rcases rewritten.requiredInput_eq with same | ⟨bad, badOther, sameVerdict⟩
      · rw [same]
        cases requiredInput test.input with
        | error refusal => exact .inl rfl
        | ok input =>
          rw [ok_bind, ok_bind]
          cases prepare code input <;> exact .inl rfl
      · rw [bad, badOther]
        exact .inr ⟨_, _, rfl, rfl, sameVerdict⟩

end Engines

/-- A report judges the output that the test's script had. -/
theorem exists_isJudged (components : Components Stored Kept EngineState) {testId : String}
    {secret : Option String} {world : World Stored Kept EngineState} {report : TestReport}
    (answered : ((components.runTest testId secret).perform world).1 = .ok report) :
    ∃ script output, components.FindsTest world.stored testId script ∧
      (components.engines.run world.engines world.now script.request).outcome = .ok output ∧
      IsJudged script.test output report := by
  rw [runTest_eq] at answered
  cases decided : components.testDecision world.stored testId secret with
  | error refusal =>
    rw [decided] at answered
    cases answered
  | ok script =>
    rw [decided, followTest] at answered
    obtain ⟨-, finds⟩ := (components.testDecision_eq_ok_iff ..).mp decided
    obtain ⟨output, ran, judged⟩ := bind_eq_ok answered
    refine ⟨script, output, finds, ?_, judge_eq_ok judged⟩
    cases outcome : (components.engines.run world.engines world.now script.request).outcome with
    | error error =>
      rw [outcome] at ran
      cases ran
    | ok result =>
      rw [outcome] at ran
      cases ran
      rfl

/-- A unit test with rewritten texts is judged alike where its script has the same outcome. -/
theorem runTest_sameJudgement {components : Components Stored Kept EngineState} {testId : String}
    {world later : World Stored Kept EngineState} {test other : TestCase}
    (found : components.store.getTestCase world.stored testId = .ok (some test))
    (foundOther : components.store.getTestCase later.stored testId = .ok (some other))
    (sameCode : components.store.getCode later.stored test.codeId
      = components.store.getCode world.stored test.codeId)
    (rewritten : IsRewrittenTest test other) (sameOutcomes : components.SameOutcomes world later)
    (secret : Option String) :
    SameJudgement test other ((components.runTest testId secret).perform world).1
      ((components.runTest testId secret).perform later).1 := by
  rw [runTest_eq, runTest_eq]
  rcases testDecision_rewritten found foundOther sameCode rewritten secret with
    same | ⟨refusal, refusal', isRefused, isRefusedLater, sameVerdict⟩
  · rw [same]
    cases decided : components.testDecision world.stored testId secret with
    | error refusal => exact .refused refusal
    | ok script =>
      obtain ⟨-, finds⟩ := (components.testDecision_eq_ok_iff ..).mp decided
      have isTest : script.test = test :=
        Option.some.inj (Except.ok.inj (finds.test.symm.trans found))
      have outcomes := sameOutcomes script.request rfl
      dsimp only [Except.map, followTest]
      rw [← outcomes]
      exact TestedScript.answer_sameJudgement rewritten isTest ..
  · rw [isRefused, isRefusedLater]
    exact sameVerdict

/-- A report judges the output of the test's script by its value. When the texts of the test are
replaced by others of the same values, the verdict and its message are the same, or the refusal but
for the place that it tells. -/
theorem runTest_judges (components : Components Stored Kept EngineState) (testId : String)
    (secret : Option String) (world : World Stored Kept EngineState) :
    (∀ {report}, ((components.runTest testId secret).perform world).1 = .ok report →
      ∃ script output, components.FindsTest world.stored testId script ∧
        (components.engines.run world.engines world.now script.request).outcome = .ok output ∧
        IsJudged script.test output report) ∧
    ∀ {later : World Stored Kept EngineState} {test other : TestCase},
      components.store.getTestCase world.stored testId = .ok (some test) →
      components.store.getTestCase later.stored testId = .ok (some other) →
      components.store.getCode later.stored test.codeId
        = components.store.getCode world.stored test.codeId →
      IsRewrittenTest test other → components.SameOutcomes world later →
      SameJudgement test other ((components.runTest testId secret).perform world).1
        ((components.runTest testId secret).perform later).1 := by
  refine ⟨components.exists_isJudged, ?_⟩
  intro later test other found foundOther sameCode rewritten sameOutcomes
  exact runTest_sameJudgement found foundOther sameCode rewritten sameOutcomes secret

/-- Engines at rest with the same time limit give the same outcomes. -/
theorem sameOutcomes_of_resting {interpreters : Interpreters}
    {components : Components Stored Kept (Engines interpreters)}
    (concrete : components.engines = Engines.ops)
    {world other : World Stored Kept (Engines interpreters)}
    (rests : world.engines.IsResting) (otherRests : other.engines.IsResting)
    (sameLimit : other.engines.timeout = world.engines.timeout) :
    components.SameOutcomes world other := by
  rintro ⟨language, cacheId, source, params⟩ rfl
  rw [concrete]
  dsimp only [Engines.ops]
  rw [rests.run_unnamed, otherRests.run_unnamed, sameLimit]

end Components

/-! ## A test that is written in another way -/

namespace ReorderedTest

/-- A code version that puts its parameter into an object. -/
def code : Code :=
  { codeId := "stable", lang := "starlark", params := [⟨"n", "int"⟩],
    content := "return \x7b\"b\": 2, \"a\": p[\"n\"]\x7d" }

/-- A test of it. -/
def test : TestCase :=
  { testId := "order", codeId := "stable", input := "\x7b\"n\": 1\x7d",
    output := "\x7b\"a\": 1, \"b\": 2\x7d" }

/-- The test with blanks, an escape, a repeated name and another order of members. -/
def reordered : TestCase :=
  { test with
    input := "\x7b \"n\": null, \"\\u006e\": 1 \x7d"
    output := "\n\x7b\"b\": 2, \"a\": 0, \"a\": 1\x7d\n" }

/-- The records in memory. -/
def stored : Store.MemoryStore where
  codes := ⟨[("stable", code)]⟩
  testCases := ⟨[("order", test)]⟩

/-- The components, without a cache of record texts. -/
def components : Components Store.MemoryStore Unit (Engines installed) where
  store := Store.MemoryStore.ops
  records := none
  engines := Engines.ops
  wallClock _ := .ok 0
  settings := { testSecret := some "key" }

/-- The records, at the start. -/
def world : World Store.MemoryStore Unit (Engines installed) := ⟨stored, (), .single installed, 0⟩

/-- A minute later, with the test written in the other way. -/
def later : World Store.MemoryStore Unit (Engines installed) :=
  { world with
    stored := (components.store.putTestCase stored reordered).2
    now := Duration.ofSeconds 60 }

/-- The input of the test. -/
def input : Value := .object [("n", .number (.integer 1 (by decide)))]

/-- What is expected. -/
def expected : Value :=
  .object [("a", .number (.integer 1 (by decide))), ("b", .number (.integer 2 (by decide)))]

theorem isRewrittenTest_reordered : IsRewrittenTest test reordered where
  codeId := rfl
  input := by
    have before : input.IsText test.input := by decide +kernel
    have after : input.IsText reordered.input := by decide +kernel
    exact .rewritten before after rfl
  output := by
    have before : expected.IsText test.output := by decide +kernel
    have after : expected.IsText reordered.output := by decide +kernel
    exact .rewritten before after rfl

/-- The test succeeds, and succeeds as well when it is written in the other way. -/
theorem runTest_judges_reordered :
    ∃ report report' script output,
      ((components.runTest "order" (some "key")).perform world).1 = .ok report ∧
      ((components.runTest "order" (some "key")).perform later).1 = .ok report' ∧
      (report.succeed = true ∧ report.message = "success") ∧
      (report'.succeed = true ∧ report'.message = "success") ∧
      components.FindsTest world.stored "order" script ∧ IsJudged script.test output report := by
  have rests : (Engines.single installed).IsResting := Engines.isResting_single
  have succeeds : ((components.runTest "order" (some "key")).perform world).1.toOption.map
      (fun report => (report.succeed, report.message)) = some (true, "success") := by
    decide +kernel
  obtain ⟨judges, rewrites⟩ := components.runTest_judges "order" (some "key") world
  have sameVerdict := @rewrites later test reordered rfl rfl rfl isRewrittenTest_reordered
    (components.sameOutcomes_of_resting rfl rests rests rfl)
  generalize answered : ((components.runTest "order" (some "key")).perform world).1 = answer
    at sameVerdict succeeds
  generalize ((components.runTest "order" (some "key")).perform later).1 = answer' at sameVerdict
  cases sameVerdict with
  | refused | badInput => cases succeeds
  | @reported report report' succeed message =>
    obtain ⟨succeeds, success⟩ := Prod.mk.inj (Option.some.inj succeeds)
    obtain ⟨script, output, finds, -, judged⟩ := judges answered
    exact ⟨report, report', script, output, rfl, rfl, ⟨succeeds, success⟩,
      ⟨succeed.trans succeeds, message.trans success⟩, finds, judged⟩

end ReorderedTest

end ConfigDelivery.Delivery
