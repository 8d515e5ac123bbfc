import ConfigDelivery.Delivery.Playground
import ConfigDelivery.Json.Complaint
/-!
# Unit tests

A stored unit test runs its code version on its input and compares what comes
out with the expected output, as JSON values. An output that is no JSON text
stands for the string of itself.
-/

namespace ConfigDelivery.Delivery

open ConfigDelivery.Json (Value)

variable {Stored Kept Engines : Type}

/-- The secret of a caller is the one that the service was told. -/
def requireTestSecret (settings : Settings) (secret : Option String) :
    Except DeliveryError Unit := do
  let secret ← givenSecret secret
  match settings.testSecret with
  | none => throw (.internal "test secret is not configured on this server")
  | some expected =>
    if expected.isEmpty then throw (.internal "test secret is not configured on this server")
    else if secret ≠ expected then throw (.forbidden "wrong access secret")

/-- The value that the output of a script stands for. -/
def outputValue (output : String) : Value := (Json.readValue? output).getD (.string output)

/-- The refusal of the input of a test, which is no JSON object. -/
def badTestInput (input : String) : DeliveryError :=
  .input ("invalid JSON input: " ++ Json.membersComplaint input)

/-- The refusal of the expected output of a test, which is no JSON text. -/
def badExpectation (output : String) : DeliveryError :=
  .input ("fail to parse JSON from expected output: " ++ Json.valueComplaint output)

/-- The verdict on the output of a test that took some time. -/
def judge (test : TestCase) (output : String) (duration : Duration) :
    Except DeliveryError TestReport :=
  match Json.readValue? test.output with
  | none => .error (badExpectation test.output)
  | some expected =>
    let succeed := (outputValue output).same expected
    .ok ⟨duration, succeed, if succeed then "success" else "wrong output:\n" ++ output⟩

namespace Components

/-- Run a stored unit test. -/
def runTest (components : Components Stored Kept Engines) (testId : String)
    (secret : Option String) : Action Stored Kept Engines TestReport := do
  conclude (requireTestSecret components.settings secret)
  match ← components.read fun store stored => store.getTestCase stored testId with
  | none => throw (.input ("test record " ++ testId ++ " does not exist"))
  | some test =>
    match ← components.read fun store stored => store.getCode stored test.codeId with
    | none =>
      throw (.internal
        ("code record " ++ test.codeId ++ " for test " ++ testId ++ " does not exist"))
    | some code =>
      match Json.readMembers? test.input with
      | none => throw (badTestInput test.input)
      | some input =>
        let prepared ← conclude (prepare code input)
        let startedAt := (← get).now
        let output ← components.runOnce code.content prepared
        conclude (judge test output ((← get).now - startedAt))

end Components

end ConfigDelivery.Delivery
