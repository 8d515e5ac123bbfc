import ConfigDelivery.Engine.Installed
import ConfigDelivery.Proofs.Delivery.Programs
import ConfigDelivery.Proofs.Delivery.Testing
import ConfigDelivery.Proofs.Json.Values
import ConfigDelivery.Proofs.Params.Validation
import ConfigDelivery.Service.ScriptCommand
/-!
# Previews of a script

Before a code version is out, its script can be tried in the playground, by a unit test and from a
file. All of them ask for the same run as a request that does not accept cached records: the script
goes by no identifier, so its program comes from its source, and it gets the text of the validated
parameters. From a file it runs on engines of its own, whose time limit may be another one.
-/

namespace ConfigDelivery.Engine

open ConfigDelivery.Script

namespace Interpreter

variable {Program : Type} {interpreter : Interpreter Program} {timeout : Duration}
  {compiled : Except ScriptError Program} {params : String} {outcome : Except ScriptError String}

/-- A script comes to its outcome within a time limit: with its run, or as it does not compile. -/
inductive EndsInTime (interpreter : Interpreter Program) (timeout : Duration) (params : String) :
    Except ScriptError Program → Except ScriptError String → Prop where
  | ran {program : Program} {outcome : Except ScriptError String} {steps : Nat}
      (run : interpreter.run program params (stepLimit timeout) = ⟨some outcome, steps⟩)
      (inTime : overhead + steps / stepsPerMicrosecond ≤ timeout) :
      EndsInTime interpreter timeout params (.ok program) outcome
  | refused {error : ScriptError} (inTime : overhead ≤ timeout) :
      EndsInTime interpreter timeout params (.error error) (.error error)

/-- A run that ends in time has its outcome for a verdict. -/
theorem EndsInTime.verdict_eq (ends : interpreter.EndsInTime timeout params compiled outcome) :
    interpreter.verdict timeout compiled params = outcome := by
  cases ends with
  | ran run inTime =>
    simp only [verdict, activity, run, Pool.Activity.answer, if_pos inTime]
    rfl
  | refused inTime =>
    simp only [verdict, atOnce, Pool.Activity.answer, if_pos inTime]
    rfl

/-- A result is only given in time. -/
theorem endsInTime_of_verdict {result : String}
    (verdict : interpreter.verdict timeout compiled params = .ok result) :
    interpreter.EndsInTime timeout params compiled (.ok result) := by
  cases compiled with
  | error error =>
    simp only [Interpreter.verdict, atOnce, Pool.Activity.answer] at verdict
    split at verdict <;> cases verdict
  | ok program =>
    simp only [Interpreter.verdict, activity, Pool.Activity.answer] at verdict
    rcases run : interpreter.run program params (stepLimit timeout) with ⟨_ | outcome, steps⟩
    · simp only [run] at verdict
      by_cases stoppable : interpreter.isStoppable = true
      · simp only [if_pos stoppable] at verdict
        cases verdict
      · simp only [if_neg stoppable] at verdict
        split at verdict <;> cases verdict
    · simp only [run] at verdict
      split at verdict
      · rename_i inTime
        obtain rfl : outcome = .ok result := verdict
        exact .ran run inTime
      · cases verdict

end Interpreter

/-- One worker for each language can be had with every time limit. -/
theorem Engines.exists_new (interpreters : Interpreters) (timeout : Duration) :
    ∃ engines, Engines.new interpreters { poolSize := 1, timeout } 0 = .ok engines :=
  ⟨_, rfl⟩

end ConfigDelivery.Engine

namespace ConfigDelivery

open ConfigDelivery.Json

/-! ## Nesting of parameters -/

/-- What a schema passes on is nested no deeper than what it was given. -/
theorem validate_isNested {schema : List ParamSpec} {params passed : Members} {depth : Nat}
    (nested : (Value.object params).IsNested depth)
    (validated : validate schema params = .ok passed) : (Value.object passed).IsNested depth := by
  obtain ⟨faultless, rfl⟩ := (validate_eq_ok_iff schema params passed).mp validated
  have ordered := isOrdered_acceptedParams schema params
  cases nested with
  | object _ nested =>
    refine .object ordered fun member mem => ?_
    have found := ordered.find?_of_mem mem
    obtain ⟨last, _, passes⟩ := (find?_acceptedParams faultless _ _).mp found
    obtain ⟨name, value⟩ := member
    cases passes with
    | unchanged given _ => exact nested (last.name, value) (Value.mem_of_find? given)
    | whole => exact .number _

/-- The members of a document that can be read are nested no deeper than it is. -/
theorem Json.Decoder.isNested_of_members {depth : Nat} {document : Document} {members : Members}
    (read : Decoder.members depth document = some members) :
    (Value.object members).IsNested depth := by
  unfold Decoder.members at read
  split at read
  · rename_i denotes
    cases read
    exact document.isNested_of_value? denotes
  · cases read

/-- The parameters of a request that arrives as a text are nested no deeper than a text may be. -/
theorem ConfigRequest.isNested_of_readText {text : String} {request : ConfigRequest}
    (read : ConfigRequest.decoder.readText text = some request) :
    (Value.object request.params).IsNested depthLimit := by
  simp only [Decoder.readText, decoder, Decoder.record, depthLimit, Option.bind_eq_bind,
    Option.bind_eq_some_iff] at read
  obtain ⟨document, -, fields, -, built⟩ := read
  split at built
  · rename_i requestMeta cached params
    simp only [Option.bind_eq_some_iff, Option.pure_def, Option.some.injEq] at built
    obtain ⟨_, -, _, -, members, given, rfl⟩ := built
    cases params with
    | none =>
      cases given
      exact .object Value.isOrdered_nil fun _ mem => absurd mem List.not_mem_nil
    | some params => exact (Decoder.isNested_of_members given).mono (by decide)
  · cases built

end ConfigDelivery

namespace ConfigDelivery.Delivery

open ConfigDelivery.Engine (Engines Interpreters installed)
open ConfigDelivery.Json (Value)
open ConfigDelivery.Script (ScriptError)
open ConfigDelivery.Service (ScriptArguments runScript scriptCommand)

/-! ## The same run by every way -/

/-- The parameters of a script are validated, and its language is that of its code version. -/
theorem Findings.prepared_of_decision {findings : Findings} {configId : String}
    {request : ConfigRequest} {script : ServedScript}
    (decided : findings.decision configId request = .ok script) :
    validate script.code.params request.params = .ok script.params ∧
    codeLanguage script.code = .ok script.language := by
  unfold Findings.decision at decided
  obtain ⟨config, _, decided⟩ := bind_eq_ok decided
  obtain ⟨code, _, decided⟩ := bind_eq_ok decided
  obtain ⟨_, _, decided⟩ := bind_eq_ok decided
  obtain ⟨params, fitting, decided⟩ := bind_eq_ok decided
  obtain ⟨language, read, decided⟩ := bind_eq_ok decided
  cases decided
  exact ⟨fittingParams_eq_ok_iff.mp fitting, read⟩

namespace ServedScript

variable (interpreters : Interpreters)

/-- What the interpreter makes of a script within a time limit. -/
def verdict (script : ServedScript) (timeout : Duration) : Except ScriptError String :=
  interpreters.scriptVerdict script.language timeout script.code.content
    (Value.object script.params).render

/-- A script comes to its outcome within a time limit. -/
def EndsInTime (script : ServedScript) (timeout : Duration)
    (outcome : Except ScriptError String) : Prop :=
  (interpreters.of script.language).EndsInTime timeout (Value.object script.params).render
    ((interpreters.of script.language).compile "" script.code.content) outcome

/-- A command line asks for the source of a script, on a text of its parameters. -/
structure IsCommanded (script : ServedScript) (contentOf : String → Option String)
    (arguments : List String) (given : ScriptArguments) : Prop where
  read : ScriptArguments.read arguments = .ok given
  language : given.language = script.code.lang
  source : contentOf given.file = some script.code.content
  params : (Value.object script.params).IsText given.params

end ServedScript

/-- A script that is run from the command line prints its verdict and a line end. -/
theorem runScript_eq (interpreters : Interpreters) {script : ServedScript}
    {contentOf : String → Option String}
    {arguments : List String} {given : ScriptArguments}
    (commanded : script.IsCommanded contentOf arguments given)
    (language : codeLanguage script.code = .ok script.language) :
    runScript interpreters contentOf given
      = ((script.verdict interpreters given.timeout).map (· ++ "\n")).mapError
          ScriptError.message := by
  obtain ⟨engines, built⟩ := Engines.exists_new interpreters given.timeout
  obtain ⟨rests, timeout, _⟩ := Engines.isResting_new built
  have read : Service.readParams given.params = .ok (Value.object script.params).render := by
    rw [Service.readParams, Json.readValue?_eq_some_iff.mpr commanded.params]
  have isRead : Script.Language.read given.language = .ok script.language := by
    rw [commanded.language, Script.Language.read, codeLanguage_eq_ok_iff.mp language]
  have ran := rests.run_unnamed 0 script.language script.code.content
    (Value.object script.params).render
  rw [timeout] at ran
  rw [runScript, isRead]
  simp only [bind, Except.bind, commanded.source, read, built, ran, ServedScript.verdict]
  cases interpreters.scriptVerdict script.language given.timeout script.code.content
    (Value.object script.params).render <;> rfl

namespace Components

variable {Stored Kept : Type} {interpreters : Interpreters}
  {components : Components Stored Kept (Engines interpreters)}

/-- A unit test of the code version of a script, whose input comes to the same parameters. -/
structure Tests (components : Components Stored Kept (Engines interpreters)) (stored : Stored)
    (script : ServedScript) (testId : String) (secret : Option String) (test : TestCase) :
    Prop where
  granted : requireTestSecret components.settings secret = .ok ()
  found : components.store.getTestCase stored testId = .ok (some test)
  code : components.store.getCode stored test.codeId = .ok (some script.code)
  input : ∃ input, Json.readMembers? test.input = some input ∧
    validate script.code.params input = .ok script.params

section Ways

variable {world : World Stored Kept (Engines interpreters)} {script : ServedScript}

/-- A served script is answered with its verdict. -/
theorem serve_verdict (concrete : components.engines = Engines.ops)
    (rests : world.engines.IsResting) {configId : String} {request : ConfigRequest}
    (uncached : request.cached = false)
    (passes : (Findings.inStore components.store world.stored configId).decision configId request
      = .ok script) :
    ((components.serve configId request).perform world).1
      = script.answer (script.verdict interpreters world.engines.timeout) := by
  obtain ⟨kept, _, served⟩ :=
    (components.finds_uncached world).serve_eq_of trivial configId uncached
  have ran := rests.run_unnamed world.now script.language script.code.content
    (Value.object script.params).render
  rw [Findings.inStore] at passes
  rw [served, passes, follow, concrete]
  dsimp only [Engines.ops, ServedScript.request]
  rw [if_neg Bool.false_ne_true, ran, ServedScript.verdict]

/-- A script on trial is answered with its verdict. -/
theorem runPlayground_verdict (concrete : components.engines = Engines.ops)
    (rests : world.engines.IsResting) (language : codeLanguage script.code = .ok script.language) :
    ((components.runPlayground script.code.lang ⟨script.code.content, script.params⟩).perform
        world).1
      = (script.verdict interpreters world.engines.timeout).mapError (.execution ·.message) := by
  have isRead : readLanguage script.code.lang = .ok script.language := by
    rw [readLanguage, Script.Language.read, codeLanguage_eq_ok_iff.mp language]
    rfl
  rw [runPlayground, Action.perform_bind, Action.perform_conclude, isRead]
  dsimp only
  rw [runOnce_eq, concrete]
  dsimp only [Engines.ops]
  rw [rests.run_unnamed, ServedScript.verdict]

/-- A tested script is judged by its verdict. -/
theorem Tests.runTest_verdict {testId : String} {secret : Option String} {test : TestCase}
    (tests : components.Tests world.stored script testId secret test)
    (concrete : components.engines = Engines.ops) (rests : world.engines.IsResting)
    (language : codeLanguage script.code = .ok script.language) :
    ∃ duration, ((components.runTest testId secret).perform world).1
      = ((script.verdict interpreters world.engines.timeout).mapError (.execution ·.message)
          >>= (judge test · duration)) := by
  obtain ⟨input, isInput, validated⟩ := tests.input
  have decided : components.testDecision world.stored testId secret
      = .ok ⟨test, script.code, ⟨script.language, (Value.object script.params).render⟩⟩ :=
    (components.testDecision_eq_ok_iff ..).mpr ⟨tests.granted, tests.found, tests.code,
      ⟨input, _, isInput, validated, rfl⟩, codeLanguage_eq_ok_iff.mp language⟩
  rw [runTest_eq, decided, followTest, concrete]
  dsimp only [Engines.ops, TestedScript.request]
  rw [rests.run_unnamed, TestedScript.answer]
  exact ⟨_, rfl⟩

end Ways

/-- A script that a request comes to, which does not accept cached records, has the same result in
the playground, on its validated parameters, and fails there with the same detail. A unit test with
the same parameters judges that result. From a file, the source has the same result on every text of
the parameters when it ends within both time limits; their compact text is one, when its numbers are
read back. -/
theorem serve_previewed (concrete : components.engines = Engines.ops)
    {live preview : World Stored Kept (Engines interpreters)} (liveRests : live.engines.IsResting)
    (previewRests : preview.engines.IsResting)
    (sameLimit : preview.engines.timeout = live.engines.timeout) {configId : String}
    {request : ConfigRequest} (uncached : request.cached = false) {script : ServedScript}
    (passes : (Findings.inStore components.store live.stored configId).decision configId request
      = .ok script) :
    let served := ((components.serve configId request).perform live).1
    let previewed := ((components.runPlayground script.code.lang
      ⟨script.code.content, script.params⟩).perform preview).1
    ((∃ result, previewed = .ok result) ∨ ∃ detail, previewed = .error (.execution detail)) ∧
    (∀ result, served = .ok ⟨result, script.code.codeId⟩ ↔ previewed = .ok result) ∧
    (∀ detail, served = .error (.execution ("execution failed: " ++ detail)) ↔
      previewed = .error (.execution detail)) ∧
    (∀ {contentOf arguments given outcome},
      script.IsCommanded contentOf arguments given →
      script.EndsInTime interpreters live.engines.timeout outcome →
      script.EndsInTime interpreters given.timeout outcome →
      (∀ result, served = .ok ⟨result, script.code.codeId⟩ ↔
        scriptCommand interpreters contentOf arguments = ⟨0, result ++ "\n", none⟩) ∧
      ∀ detail, served = .error (.execution ("execution failed: " ++ detail)) ↔
        scriptCommand interpreters contentOf arguments = ⟨1, "", some detail⟩) ∧
    ((Value.object request.params).IsNested Json.depthLimit →
      (∀ float, (Value.object script.params).Mentions (.float float) →
        (Json.Number.float float).ReadsBack) →
      (Value.object script.params).IsText (Value.object script.params).render) ∧
    ∀ {testing : World Stored Kept (Engines interpreters)} {testId secret test},
      testing.engines.IsResting → testing.engines.timeout = live.engines.timeout →
      components.Tests testing.stored script testId secret test →
      ∃ duration, ((components.runTest testId secret).perform testing).1
        = previewed >>= (judge test · duration) := by
  intro served previewed
  obtain ⟨validated, language⟩ := Findings.prepared_of_decision passes
  have isServed : served = script.answer (script.verdict interpreters live.engines.timeout) :=
    serve_verdict concrete liveRests uncached passes
  have isPreviewed : previewed
      = (script.verdict interpreters live.engines.timeout).mapError (.execution ·.message) := by
    rw [← sameLimit]
    exact runPlayground_verdict concrete previewRests language
  refine ⟨?_, fun result => ?_, fun detail => ?_, ?_, ?_, ?_⟩
  · rw [isPreviewed]
    cases script.verdict interpreters live.engines.timeout with
    | error error => exact .inr ⟨_, rfl⟩
    | ok result => exact .inl ⟨_, rfl⟩
  · rw [isServed, isPreviewed]
    cases script.verdict interpreters live.engines.timeout <;>
      simp [ServedScript.answer, Except.mapError]
  · rw [isServed, isPreviewed]
    cases script.verdict interpreters live.engines.timeout <;>
      simp [ServedScript.answer, Except.mapError]
  · intro contentOf arguments given outcome commanded inTime alsoInTime
    have ended : script.verdict interpreters live.engines.timeout = outcome := inTime.verdict_eq
    have alsoEnded : script.verdict interpreters given.timeout = outcome := alsoInTime.verdict_eq
    rw [isServed, scriptCommand, commanded.read, ended]
    dsimp only
    rw [runScript_eq interpreters commanded language, alsoEnded]
    cases outcome <;>
      simp [ServedScript.answer, Except.mapError, Except.map, Service.Ending.of]
  · exact fun nested back => (validate_isNested nested validated).isText_render back
  · intro testing testId secret test rests limit tests
    obtain ⟨duration, tested⟩ := tests.runTest_verdict concrete rests language
    rw [limit] at tested
    rw [isPreviewed]
    exact ⟨duration, tested⟩

end Components

/-! ## A script that is tried before it is out -/

namespace TriedScript

open ConfigDelivery.Script (Language)

/-- A configuration with one code version. -/
def config : Config := { configId := "app", releasedCode := "next", status := "valid" }

/-- A code version with a whole number and another one for parameters. -/
def next : Code :=
  { codeId := "next", lang := "starlark", content := "return p[\"count\"] + 1",
    params := [⟨"count", "int"⟩, ⟨"share", "float"⟩] }

/-- A test of the code version; the count is cut to a whole number. -/
def test : TestCase :=
  { testId := "counts", codeId := "next", output := " 5 ",
    input := "\x7b \"share\": 5e-1, \"count\": 4.9 \x7d" }

/-- The records in memory. -/
def stored : Store.MemoryStore where
  configs := ⟨[("app", config)]⟩
  codes := ⟨[("next", next)]⟩
  testCases := ⟨[("counts", test)]⟩

/-- The components, without a cache of record texts. -/
def components : Components Store.MemoryStore Unit (Engines installed) where
  store := Store.MemoryStore.ops
  records := none
  engines := Engines.ops
  wallClock _ := .ok 0
  settings := { testSecret := some "key" }

/-- The records, at the start. -/
def world : World Store.MemoryStore Unit (Engines installed) := ⟨stored, (), .single installed, 0⟩

/-- Four. -/
def four : Value := .number (.integer 4 (by decide))

/-- One half. -/
def half : Decimal.Binary64 := ⟨0x3fe0000000000000⟩

/-- A request with a parameter more than is declared. -/
def request : ConfigRequest where
  params := [("any", .null), ("count", four), ("share", .number (.float half))]

/-- The script that the request comes to. -/
def script : ServedScript :=
  ⟨config, next, .starlark, [("count", four), ("share", .number (.float half))]⟩

theorem decision_eq :
    (Findings.inStore components.store world.stored "app").decision "app" request = .ok script := by
  have chosen (gray : Except Failure (Option Code)) :
      chosenCode config request.requestMeta.deviceId gray (.ok (some next)) = .ok next := by
    have missed : ¬ Targeting.bucket request.requestMeta.deviceId config.grayReleaseCode
        < config.percentage.toNat := Nat.not_lt_zero _
    rw [chosenCode, if_neg missed]
    rfl
  have active : servedConfig "app" (components.store.getConfig world.stored "app") = .ok config :=
    rfl
  have released : components.store.getCode world.stored config.releasedCode = .ok (some next) := rfl
  rw [Findings.decision, Findings.inStore, Findings.of, active, ok_bind]
  dsimp only
  rw [released, chosen]
  rfl

/-- The file that holds the source. -/
def contentOf (file : String) : Option String :=
  if file = "next.star" then some next.content else none

/-- The command line, with the parameters in another order. -/
def arguments : List String :=
  ["--lang", "starlark", "--file", "next.star", "--params",
    "\x7b\"share\": 0.50, \"count\": 4\x7d"]

/-- What the command is told. -/
def given : ScriptArguments where
  language := "starlark"
  file := "next.star"
  params := "\x7b\"share\": 0.50, \"count\": 4\x7d"
  timeout := Pool.defaultTimeout

deriving instance DecidableEq for ScriptArguments

deriving instance DecidableEq for ConfigRequest

theorem commanded : script.IsCommanded contentOf arguments given where
  read := by decide +kernel
  language := rfl
  source := rfl
  params := by decide +kernel

theorem tests : components.Tests world.stored script "counts" (some "key") test where
  granted := rfl
  found := rfl
  code := rfl
  input := ⟨[("count", .number (.float ⟨0x401399999999999a⟩)), ("share", .number (.float half))],
    by decide +kernel, by decide +kernel⟩

/-- The result is that of the playground and of the command, on parameters that are written
differently, and the test that expects it succeeds. -/
theorem serve_previewed_tried :
    ((components.serve "app" request).perform world).1 = .ok ⟨"5", "next"⟩ ∧
    ((components.runPlayground "starlark" ⟨next.content, script.params⟩).perform world).1
      = .ok "5" ∧
    scriptCommand installed contentOf arguments = ⟨0, "5\n", none⟩ ∧
    (Value.object script.params).IsText "\x7b\"count\":4,\"share\":0.5\x7d" ∧
    ∃ duration, ((components.runTest "counts" (some "key")).perform world).1
      = .ok ⟨duration, true, "success"⟩ := by
  have rests : world.engines.IsResting := Engines.isResting_single
  have served : ((components.serve "app" request).perform world).1 = .ok ⟨"5", "next"⟩ := by
    decide +kernel
  have ends : script.EndsInTime installed Pool.defaultTimeout (.ok "5") :=
    Engine.Interpreter.endsInTime_of_verdict (by decide +kernel)
  obtain ⟨-, sameResult, -, fromFile, compact, testing⟩ :=
    components.serve_previewed rfl rests rests rfl rfl decision_eq
  have previewed := (sameResult "5").mp served
  have arrives : ConfigRequest.decoder.readText
      "\x7b\"params\": \x7b\"share\": 0.5, \"any\": null, \"count\": 4\x7d\x7d" = some request := by
    decide +kernel
  have back : ∀ float, (Value.object script.params).Mentions (.float float) →
      (Json.Number.float float).ReadsBack := by
    intro float mentions
    cases mentions with
    | member mem mentions =>
      simp only [script, List.mem_cons, List.not_mem_nil, or_false] at mem
      rcases mem with rfl | rfl
      · cases mentions
      · cases mentions
        decide +kernel
  obtain ⟨duration, tested⟩ := testing rests rfl tests
  have commandEnds := ((fromFile commanded ends ends).1 "5").mp served
  have isText := compact (ConfigRequest.isNested_of_readText arrives) back
  refine ⟨served, previewed, commandEnds, isText, duration, ?_⟩
  rw [tested, previewed]
  rfl

end TriedScript

end ConfigDelivery.Delivery
