import ConfigDelivery.Delivery.UnitTest
import ConfigDelivery.Proofs.Delivery.Decision
/-!
# What a unit test comes to

The decision on a unit test is an order of gates, like that on a request for a configuration: the
caller's secret, the records of the test and of its code version, the test's input, and what the
code version makes of it. A test that passes them has one script run, and the answer is a judgement
on its output or its failure.
-/

namespace ConfigDelivery.Delivery

open ConfigDelivery.Script (Language ScriptError)

variable {Stored Kept Engines : Type}

/-- Parameters fit if they pass the declarations of the code version. -/
theorem fittingParams_eq_ok_iff {code : Code} {params passed : Json.Members} :
    fittingParams code params = .ok passed ↔ validate code.params params = .ok passed := by
  rw [fittingParams, validate_eq]
  rcases code.params.findSome? (paramFault? params) with _ | fault | fault | fault <;> simp

/-- A code version has a language if its name is that of one. -/
theorem codeLanguage_eq_ok_iff {code : Code} {language : Language} :
    codeLanguage code = .ok language ↔ Language.read? code.lang = some language := by
  unfold codeLanguage
  cases Language.read? code.lang <;> simp

/-- What a code version makes of its parameters. -/
theorem prepare_eq_ok_iff {code : Code} {params : Json.Members} {prepared : Prepared} :
    prepare code params = .ok prepared ↔
      (∃ passed, validate code.params params = .ok passed ∧
        prepared.params = (Json.Value.object passed).render) ∧
      Language.read? code.lang = some prepared.language := by
  obtain ⟨language, text⟩ := prepared
  rw [Components.prepare_eq]
  constructor
  · intro isPrepared
    obtain ⟨passed, fitting, isPrepared⟩ := bind_eq_ok isPrepared
    obtain ⟨language, isLanguage, isPrepared⟩ := bind_eq_ok isPrepared
    cases isPrepared
    exact ⟨⟨passed, fittingParams_eq_ok_iff.mp fitting, rfl⟩,
      codeLanguage_eq_ok_iff.mp isLanguage⟩
  · rintro ⟨⟨passed, validated, rfl⟩, isLanguage⟩
    rw [fittingParams_eq_ok_iff.mpr validated, ok_bind, codeLanguage_eq_ok_iff.mpr isLanguage]
    rfl

/-- A script that a unit test comes to. -/
structure TestedScript where
  test : TestCase
  code : Code
  prepared : Prepared

/-- The record of a unit test, which must exist. -/
def requiredTest (testId : String) :
    Except Failure (Option TestCase) → Except DeliveryError TestCase
  | .error failure => .error (.internal failure.plain)
  | .ok none => .error (.input ("test record " ++ testId ++ " does not exist"))
  | .ok (some test) => .ok test

/-- The record of a test's code version, which must exist. -/
def requiredCode (testId codeId : String) : Except Failure (Option Code) → Except DeliveryError Code
  | .error failure => .error (.internal failure.plain)
  | .ok none =>
    .error (.internal ("code record " ++ codeId ++ " for test " ++ testId ++ " does not exist"))
  | .ok (some code) => .ok code

/-- The members of the input of a unit test, which must be the text of an object. -/
def requiredInput (input : String) : Except DeliveryError Json.Members :=
  match Json.readMembers? input with
  | none => .error (badTestInput input)
  | some members => .ok members

/-- A test that is required has to be stored. -/
theorem requiredTest_eq_ok_iff {testId : String} {found : Except Failure (Option TestCase)}
    {test : TestCase} : requiredTest testId found = .ok test ↔ found = .ok (some test) := by
  rcases found with failure | _ | record <;> simp [requiredTest]

/-- The code version of a test has to be stored. -/
theorem requiredCode_eq_ok_iff {testId codeId : String} {found : Except Failure (Option Code)}
    {code : Code} : requiredCode testId codeId found = .ok code ↔ found = .ok (some code) := by
  rcases found with failure | _ | record <;> simp [requiredCode]

/-- The input of a test has to be an object. -/
theorem requiredInput_eq_ok_iff {input : String} {members : Json.Members} :
    requiredInput input = .ok members ↔ Json.readMembers? input = some members := by
  rw [requiredInput]
  cases Json.readMembers? input <;> simp

namespace TestedScript

/-- What an engine is asked for a script, whose program is not kept. -/
def request (script : TestedScript) : Engine.Request :=
  ⟨script.prepared.language, "", script.code.content, script.prepared.params⟩

/-- What the outcome of a script is answered with that took some time. -/
def answer (script : TestedScript) (outcome : Except ScriptError String) (duration : Duration) :
    Except DeliveryError TestReport := do
  let output ← outcome.mapError (.execution ·.message)
  judge script.test output duration

end TestedScript

namespace Components

variable (components : Components Stored Kept Engines)

/-- What a unit test comes to: a refusal by the first gate that it fails, or a script. -/
def testDecision (stored : Stored) (testId : String) (secret : Option String) :
    Except DeliveryError TestedScript := do
  requireTestSecret components.settings secret
  let test ← requiredTest testId (components.store.getTestCase stored testId)
  let code ← requiredCode testId test.codeId (components.store.getCode stored test.codeId)
  let input ← requiredInput test.input
  let prepared ← prepare code input
  return ⟨test, code, prepared⟩

/-- A unit test and its code version are found, and the code version accepts the test's input. -/
structure FindsTest (stored : Stored) (testId : String) (script : TestedScript) : Prop where
  test : components.store.getTestCase stored testId = .ok (some script.test)
  code : components.store.getCode stored script.test.codeId = .ok (some script.code)
  input : ∃ input passed, Json.readMembers? script.test.input = some input ∧
    validate script.code.params input = .ok passed ∧
    script.prepared.params = (Json.Value.object passed).render
  language : Language.read? script.code.lang = some script.prepared.language

/-- A script is tested for whoever shows the secret, if everything the test needs is found. -/
theorem testDecision_eq_ok_iff (stored : Stored) (testId : String) (secret : Option String)
    (script : TestedScript) :
    components.testDecision stored testId secret = .ok script ↔
      requireTestSecret components.settings secret = .ok () ∧
      components.FindsTest stored testId script := by
  obtain ⟨test, code, prepared⟩ := script
  constructor
  · intro decided
    obtain ⟨granted, isGranted, decided⟩ := bind_eq_ok decided
    obtain ⟨test, found, decided⟩ := bind_eq_ok decided
    obtain ⟨code, isCode, decided⟩ := bind_eq_ok decided
    obtain ⟨input, isInput, decided⟩ := bind_eq_ok decided
    obtain ⟨prepared, isPrepared, decided⟩ := bind_eq_ok decided
    cases decided
    obtain ⟨⟨passed, validated, text⟩, language⟩ := prepare_eq_ok_iff.mp isPrepared
    exact ⟨isGranted, requiredTest_eq_ok_iff.mp found, requiredCode_eq_ok_iff.mp isCode,
      ⟨input, passed, requiredInput_eq_ok_iff.mp isInput, validated, text⟩, language⟩
  · rintro ⟨granted, found, isCode, ⟨input, passed, isInput, validated, text⟩, language⟩
    have isPrepared := prepare_eq_ok_iff.mpr ⟨⟨passed, validated, text⟩, language⟩
    rw [testDecision, granted, ok_bind, requiredTest_eq_ok_iff.mpr found, ok_bind,
      requiredCode_eq_ok_iff.mpr isCode, ok_bind, requiredInput_eq_ok_iff.mpr isInput, ok_bind,
      isPrepared, ok_bind]
    rfl

/-- Answer a decision: a refusal as it is, and a script after a run of it. -/
def followTest (world : World Stored Kept Engines) :
    Except DeliveryError TestedScript → Except DeliveryError TestReport × World Stored Kept Engines
  | .error refusal => (.error refusal, world)
  | .ok script =>
    let response := components.engines.run world.engines world.now script.request
    (script.answer response.outcome (response.now - world.now),
      { world with engines := response.state, now := response.now })

/-- A script is run whose program is not kept, and its failure is one of the execution. -/
theorem runOnce_eq (source : String) (prepared : Prepared) (world : World Stored Kept Engines) :
    (components.runOnce source prepared).perform world =
      let response := components.engines.run world.engines world.now
        ⟨prepared.language, "", source, prepared.params⟩
      (response.outcome.mapError (.execution ·.message),
        { world with engines := response.state, now := response.now }) := by
  rw [runOnce, Action.perform_lift_bind, execute_eq]
  dsimp only
  split <;> rename_i outcome <;> rw [outcome] <;> rfl

/-- `runTest` answers the decision on what the store holds. -/
theorem runTest_eq (testId : String) (secret : Option String)
    (world : World Stored Kept Engines) :
    (components.runTest testId secret).perform world
      = components.followTest world (components.testDecision world.stored testId secret) := by
  rw [runTest, testDecision, Action.perform_bind, Action.perform_conclude]
  cases requireTestSecret components.settings secret with
  | error refusal => rfl
  | ok granted =>
    dsimp only
    rw [ok_bind, read_bind_world]
    rcases components.store.getTestCase world.stored testId with failure | _ | test
    · rfl
    · rfl
    · rw [requiredTest, ok_bind]
      dsimp only
      rw [read_bind_world]
      rcases components.store.getCode world.stored test.codeId with failure | _ | code
      · rfl
      · rfl
      · rw [requiredCode, ok_bind]
        dsimp only
        rw [requiredInput]
        cases Json.readMembers? test.input with
        | none => rfl
        | some input =>
          dsimp only
          rw [ok_bind]
          rw [Action.perform_bind, Action.perform_conclude]
          cases prepare code input with
          | error refusal => rfl
          | ok prepared =>
            rw [ok_bind]
            dsimp only [pure, Except.pure]
            rw [Action.perform_get_bind, Action.perform_bind, runOnce_eq, followTest]
            dsimp only [TestedScript.request, TestedScript.answer]
            cases (components.engines.run world.engines world.now
                ⟨prepared.language, "", code.content, prepared.params⟩).outcome with
            | error error => rfl
            | ok output => rfl

end Components

end ConfigDelivery.Delivery
