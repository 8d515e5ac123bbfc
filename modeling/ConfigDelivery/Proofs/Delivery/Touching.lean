import ConfigDelivery.Proofs.Delivery.Agreement
import ConfigDelivery.Proofs.Engine.Touching
/-!
# What an operation touches of the kept programs

Only a request that accepts cached records and gets as far as its script touches the kept programs:
those of the language of its code version, at the identifiers of its configuration and that code
version. Every other operation touches none. Jobs of other callers that still wait may start
meanwhile, and touch the programs at their own identifiers.
-/

namespace ConfigDelivery.Delivery

open ConfigDelivery.Engine (Engines Interpreters installed)
open ConfigDelivery.Script (Language)

/-! ## Names of programs -/

/-- The program of a code version of a configuration, in the language of the code version. -/
structure ProgramName where
  language : Language
  configId : String
  codeId : String
  deriving DecidableEq, Repr

namespace ProgramName

/-- The identifier under which a program is kept. -/
def id (name : ProgramName) : String := programId name.configId name.codeId

/-- The identifier in a language, for a program of that language. -/
def own (name? : Option ProgramName) (language : Language) : Option String :=
  match name? with
  | some name => if name.language = language then some name.id else none
  | none => none

/-- A program that is kept has a name. -/
theorem id_ne_empty (name : ProgramName) : name.id ≠ "" := by
  intro empty
  have slash : '/' ∈ name.id.toList := by simp [id, programId]
  rw [empty] at slash
  cases slash

end ProgramName

/-! ## Refusals without a script -/

/-- A decision that does not refuse with the failure of a script. -/
def IsGate {Result : Type} (decision : Except DeliveryError Result) : Prop :=
  ∀ message, decision ≠ .error (.execution message)

/-- Checks in a row are a check. -/
theorem IsGate.bind {Result Next : Type} {decision : Except DeliveryError Result}
    {next : Result → Except DeliveryError Next} (first : IsGate decision)
    (rest : ∀ result, IsGate (next result)) : IsGate (decision >>= next) := by
  cases decision with
  | error refusal =>
    intro message same
    cases same
    exact first message rfl
  | ok result => exact rest result

theorem isGate_servedConfig (configId : String) (found : Except Failure (Option Config)) :
    IsGate (servedConfig configId found) := by
  intro message
  unfold servedConfig
  split
  · nofun
  · nofun
  · split <;> nofun

theorem isGate_chosenCode (config : Config) (deviceId : String)
    (gray released : Except Failure (Option Code)) :
    IsGate (chosenCode config deviceId gray released) := by
  intro message
  unfold chosenCode releasedCode
  dsimp only
  split
  · nofun
  · split <;> nofun

theorem isGate_permission (code : Code) (request : RequestMeta) :
    IsGate (permission code request) := by
  intro message
  unfold permission
  dsimp only
  split
  · nofun
  · split
    · nofun
    · split <;> nofun

theorem isGate_fittingParams (code : Code) (params : Json.Members) :
    IsGate (fittingParams code params) := by
  intro message
  unfold fittingParams
  split <;> nofun

theorem isGate_codeLanguage (code : Code) : IsGate (codeLanguage code) := by
  intro message
  unfold codeLanguage
  split <;> nofun

/-- A request that comes to no script is refused with something else than the failure of one. -/
theorem Findings.isGate_decision (findings : Findings) (configId : String)
    (request : ConfigRequest) : IsGate (findings.decision configId request) := by
  refine IsGate.bind (isGate_servedConfig _ _) fun config => ?_
  refine IsGate.bind (isGate_chosenCode _ _ _ _) fun code => ?_
  refine IsGate.bind (isGate_permission _ _) fun permitted => ?_
  refine IsGate.bind (isGate_fittingParams _ _) fun params => ?_
  exact IsGate.bind (isGate_codeLanguage _) fun language message => nofun

/-! ## What look-ups find -/

variable {Stored Kept : Type} {interpreters : Interpreters}

/-- The program of a script. -/
def ServedScript.program (script : ServedScript) : ProgramName :=
  ⟨script.language, script.config.configId, script.code.codeId⟩

namespace Components

variable (components : Components Stored Kept (Engines interpreters))

/-- The kept texts after some look-ups at one moment. -/
inductive LookedUp (world : World Stored Kept (Engines interpreters)) : Kept → Prop where
  | none : LookedUp world world.kept
  | config {kept id found after} (before : LookedUp world kept)
      (loaded : components.Loaded components.configs id { world with kept } found after) :
      LookedUp world after
  | code {kept id found after} (before : LookedUp world kept)
      (loaded : components.Loaded components.codes id { world with kept } found after) :
      LookedUp world after

/-- What a look-up may find after some others. -/
def MayFind {Record : Type} (kind : RecordKind Stored Record)
    (world : World Stored Kept (Engines interpreters))
    (id : String) (found : Except Failure (Option Record)) : Prop :=
  ∃ kept after, components.LookedUp world kept ∧
    components.Loaded kind id { world with kept } found after

/-- What a request finds was kept or is stored. -/
theorem finds_mayFind (cached : Bool) (world : World Stored Kept (Engines interpreters)) :
    components.Finds cached world (fun _ => components.LookedUp world)
      (components.MayFind components.configs world)
      (components.MayFind components.codes world) where
  config {_ kept} id before := by
    obtain ⟨found, after, loaded, answered⟩ :=
      components.loadRecord_loaded components.configs cached id { world with kept }
    exact ⟨found, after, ⟨kept, after, before, loaded⟩, before.config loaded, answered⟩
  code {_ kept} id before := by
    obtain ⟨found, after, loaded, answered⟩ :=
      components.loadRecord_loaded components.codes cached id { world with kept }
    exact ⟨found, after, ⟨kept, after, before, loaded⟩, before.code loaded, answered⟩

/-- A request comes to a script, on what its look-ups may find. -/
structure ComesTo (world : World Stored Kept (Engines interpreters)) (configId : String)
    (request : ConfigRequest)
    (findings : Findings) (script : ServedScript) : Prop where
  decided : findings.decision configId request = .ok script
  config : components.MayFind components.configs world configId findings.config
  gray : components.MayFind components.codes world script.config.grayReleaseCode
    (findings.gray script.config)
  released : components.MayFind components.codes world script.config.releasedCode
    (findings.released script.config)

/-- A request is answered with a decision on what its look-ups may find. -/
theorem serve_mayFind (configId : String) (request : ConfigRequest)
    (world : World Stored Kept (Engines interpreters)) :
    ∃ (findings : Findings) (kept : Kept), components.LookedUp world kept ∧
      (components.serve configId request).perform world
        = components.follow request.cached { world with kept }
          (findings.decision configId request) ∧
      ∀ script, findings.decision configId request = .ok script →
        components.ComesTo world configId request findings script := by
  obtain ⟨findings, kept, config, codes, lookedUp, served⟩ :=
    (components.finds_mayFind request.cached world).serve_eq .none configId rfl
  refine ⟨findings, kept, lookedUp, served, fun script decided => ?_⟩
  obtain ⟨gray, released⟩ := codes _ (Findings.decision_eq_ok decided).1
  exact ⟨decided, config, gray, released⟩

/-- The store is lawful and the cache faithful, and stored and kept records stand under their own
identifiers. -/
structure IsOrderly (Valid : Stored → Prop) (Holds : Kept → String → String → Prop)
    (world : World Stored Kept (Engines interpreters)) : Prop where
  lawful : components.store.Lawful Valid
  faithful : components.IsFaithful Holds
  valid : Valid world.stored
  kept : KeepsOnly Holds (fun id config => config.configId = id) (fun id code => code.codeId = id)
    world.kept

section Orderly

variable {components} {Valid : Stored → Prop} {Holds : Kept → String → String → Prop}
  {world : World Stored Kept (Engines interpreters)}

/-- Look-ups keep a world orderly. -/
theorem IsOrderly.lookedUp (orderly : components.IsOrderly Valid Holds world) {kept : Kept}
    (lookedUp : components.LookedUp world kept) :
    components.IsOrderly Valid Holds { world with kept } := by
  refine ⟨orderly.lawful, orderly.faithful, orderly.valid, ?_⟩
  -- A look-up only drops texts, or adds that of a record as the store holds it.
  induction lookedUp with
  | none => exact orderly.kept
  | config _ loaded ih =>
    refine orderly.faithful.lasting_of_loaded loaded ih
      (fun subset only => only.of_subset subset) ?_
    intro records kept record faithful fetched only
    exact only.of_setConfig faithful (orderly.lawful.configId_eq orderly.valid fetched) _ _
  | code _ loaded ih =>
    refine orderly.faithful.lasting_of_loaded loaded ih
      (fun subset only => only.of_subset subset) ?_
    intro records kept record faithful fetched only
    exact only.of_setCode faithful (orderly.lawful.codeId_eq orderly.valid fetched) _ _

/-- A configuration that is found has the identifier that it was looked up by. -/
theorem IsOrderly.configId_eq (orderly : components.IsOrderly Valid Holds world) {id : String}
    {config : Config}
    (found : components.MayFind components.configs world id (.ok (some config))) :
    config.configId = id := by
  obtain ⟨kept, after, lookedUp, loaded⟩ := found
  rcases orderly.faithful.found_of_loaded loaded with stored | ⟨text, record, held, read, same⟩
  · exact orderly.lawful.configId_eq orderly.valid stored.symm
  · cases same
    exact (orderly.lookedUp lookedUp).kept.config held read

/-- A report keeps a world orderly. -/
theorem IsOrderly.reportError (orderly : components.IsOrderly Valid Holds world)
    (configId codeId : String) (secret : Option String) (report : ErrorReport) :
    components.IsOrderly Valid Holds
      ((components.reportError configId codeId secret report).perform world).2 := by
  have reported := components.reportError_reported configId codeId secret report world
  generalize (components.reportError configId codeId secret report).perform world = ended
    at reported
  cases reported with
  | refused refusal => exact orderly
  | failed recorded =>
    obtain rfl := orderly.lawful.recordError_error recorded
    exact orderly
  | recorded found works recorded =>
    obtain ⟨valid, _⟩ := orderly.lawful.recordError_ok orderly.valid recorded
    refine ⟨orderly.lawful, orderly.faithful, valid, ?_⟩
    exact orderly.kept.of_subset fun held => (orderly.faithful.holds_of_forgotten held).2

/-- A world with the same records and the same kept texts is as orderly. -/
theorem IsOrderly.same (orderly : components.IsOrderly Valid Holds world)
    {after : World Stored Kept (Engines interpreters)}
    (same : after.stored = world.stored ∧ after.kept = world.kept) :
    components.IsOrderly Valid Holds after :=
  ⟨orderly.lawful, orderly.faithful, same.1 ▸ orderly.valid, same.2 ▸ orderly.kept⟩

/-- Every operation keeps a world orderly. -/
theorem IsOrderly.operate (orderly : components.IsOrderly Valid Holds world)
    (operation : Operation) :
    components.IsOrderly Valid Holds (components.operate world operation) := by
  cases operation with
  | getConfig configId request =>
    obtain ⟨findings, kept, lookedUp, served, _⟩ :=
      components.serve_mayFind configId request world
    rw [Components.operate, served]
    exact (orderly.lookedUp lookedUp).same (components.follow_stored ..)
  | reportError configId codeId secret report =>
    exact orderly.reportError configId codeId secret report
  | runTest testId secret => exact orderly.same (components.runTest_world testId secret world).same
  | runPlayground language request =>
    exact orderly.same (components.runPlayground_world language request world).same

/-- Every event keeps a world orderly. -/
theorem IsOrderly.step (orderly : components.IsOrderly Valid Holds world) (event : Event) :
    components.IsOrderly Valid Holds (components.step world event) := by
  cases event with
  | operation operation => exact orderly.operate operation
  | putConfig config =>
    obtain ⟨lawful, faithful, valid, kept⟩ := orderly
    exact ⟨lawful, faithful, (lawful.putConfig_after valid config).1, kept⟩
  | putCode code =>
    obtain ⟨lawful, faithful, valid, kept⟩ := orderly
    exact ⟨lawful, faithful, (lawful.putCode_after valid code).1, kept⟩
  | putTestCase testCase =>
    obtain ⟨lawful, faithful, valid, kept⟩ := orderly
    exact ⟨lawful, faithful, (lawful.putTestCase_after valid testCase).1, kept⟩
  | wait duration => exact orderly.same ⟨rfl, rfl⟩

end Orderly

/-! ## What operations touch -/

/-- The program that an operation may touch: that of the script of a request that accepts cached
records and is answered with the outcome of the script. Reports and refusals before a script leave
the engines alone. -/
inductive MayTouch (world : World Stored Kept (Engines interpreters)) :
    Operation → Option ProgramName → Prop where
  | reportError {configId codeId secret report}
      (unused : (components.operate world (.reportError configId codeId secret report)).engines
        = world.engines) :
      MayTouch world (.reportError configId codeId secret report) none
  | runTest {testId secret} : MayTouch world (.runTest testId secret) none
  | runPlayground {language request} : MayTouch world (.runPlayground language request) none
  | uncached {configId request} (uncached : request.cached = false) :
      MayTouch world (.getConfig configId request) none
  | refused {configId request refusal}
      (answered : ((components.serve configId request).perform world).1 = .error refusal)
      (isEarly : ∀ message, refusal ≠ .execution message)
      (unused : (components.operate world (.getConfig configId request)).engines
        = world.engines) :
      MayTouch world (.getConfig configId request) none
  | executed {configId request findings script} (cached : request.cached = true)
      (comesTo : components.ComesTo world configId request findings script)
      (answered : ((components.serve configId request).perform world).1 = script.answer
        (components.engines.run world.engines world.now (script.request true)).outcome) :
      MayTouch world (.getConfig configId request) (some script.program)

/-- The kept programs after an operation. -/
structure Touched (world : World Stored Kept (Engines interpreters)) (operation : Operation)
    (name? : Option ProgramName) : Prop where
  mayTouch : components.MayTouch world operation name?
  /-- Jobs that waited may start meanwhile, and touch their own programs. -/
  touches : world.engines.Touches (ProgramName.own name?)
    (components.operate world operation).engines
  isCoherent : (components.operate world operation).engines.IsCoherent

variable {components} {world : World Stored Kept (Engines interpreters)}

/-- A run of a script touches the programs at its own identifier. -/
theorem executed_touches (concrete : components.engines = Engines.ops)
    (coherent : world.engines.IsCoherent) (request : Engine.Request) :
    world.engines.Touches request.own (components.executed world request).engines ∧
      (components.executed world request).engines.IsCoherent := by
  have ran := coherent.run world.now request
  rw [executed_eq concrete]
  generalize world.engines.run world.now request = response at ran
  exact ⟨ran.2, ran.1⟩

/-- A script without an identifier touches no kept program. -/
theorem RunsOnce.touches (concrete : components.engines = Engines.ops)
    (coherent : world.engines.IsCoherent) {after : World Stored Kept (Engines interpreters)}
    (ran : components.RunsOnce world after) :
    world.engines.Touches (ProgramName.own none) after.engines ∧ after.engines.IsCoherent := by
  rcases ran with rfl | ⟨request, unnamed, rfl⟩
  · exact ⟨Engines.touches_of_eq rfl _, coherent⟩
  · have nothing : request.own = ProgramName.own none := by
      funext language
      simp [Engine.Request.own, ProgramName.own, unnamed]
    exact nothing ▸ executed_touches concrete coherent request

/-- A report uses no worker. -/
theorem reportError_unused (components : Components Stored Kept (Engines interpreters))
    (world : World Stored Kept (Engines interpreters)) (configId codeId : String)
    (secret : Option String)
    (report : ErrorReport) :
    (components.operate world (.reportError configId codeId secret report)).engines
      = world.engines := by
  have reported := components.reportError_reported configId codeId secret report world
  rw [operate]
  generalize (components.reportError configId codeId secret report).perform world = ended
    at reported
  cases reported <;> rfl

/-- A script touches the program of its code version, if it is that of a request that accepts cached
records. -/
theorem own_request (script : ServedScript) (cached : Bool) :
    (script.request cached).own
      = ProgramName.own (if cached then some script.program else none) := by
  funext language
  cases cached with
  | false => simp [Engine.Request.own, ServedScript.request, ProgramName.own]
  | true =>
    have isNamed := ProgramName.id_ne_empty script.program
    rw [ProgramName.id, ServedScript.program] at isNamed
    simp [Engine.Request.own, ServedScript.request, ProgramName.own, ProgramName.id,
      ServedScript.program, isNamed]

/-- A request touches one kept program at most, that of the script it runs. -/
theorem serve_touched (concrete : components.engines = Engines.ops)
    (coherent : world.engines.IsCoherent) (configId : String) (request : ConfigRequest) :
    ∃ name?, components.Touched world (.getConfig configId request) name? := by
  obtain ⟨findings, kept, _, served, comesTo⟩ :=
    components.serve_mayFind configId request world
  have operated : components.operate world (.getConfig configId request)
      = ((components.serve configId request).perform world).2 := rfl
  cases decided : findings.decision configId request with
  | error refusal =>
    rw [decided] at served
    have unused : (components.operate world (.getConfig configId request)).engines
        = world.engines := by
      rw [operated, served]
      rfl
    refine ⟨none, .refused (congrArg Prod.fst served) ?_ unused, ?_, unused ▸ coherent⟩
    · exact fun message same => findings.isGate_decision configId request message (same ▸ decided)
    · exact Engines.touches_of_eq unused _
  | ok script =>
    rw [decided] at served
    -- The look-ups have changed the kept texts, but not the engines.
    have coherentThen :
        ({ world with kept } : World Stored Kept (Engines interpreters)).engines.IsCoherent :=
      coherent
    have ran := executed_touches concrete coherentThen (script.request request.cached)
    have after : components.operate world (.getConfig configId request)
        = components.executed { world with kept } (script.request request.cached) := by
      rw [operated, served]
      rfl
    rw [← after, own_request] at ran
    cases cached : request.cached with
    | false =>
      rw [cached] at ran
      exact ⟨none, .uncached cached, ran.1, ran.2⟩
    | true =>
      rw [cached] at ran served
      exact ⟨_, .executed cached (comesTo script decided) (congrArg Prod.fst served), ran.1, ran.2⟩

/-- Every operation touches the programs that it may touch. -/
theorem operate_touched (concrete : components.engines = Engines.ops)
    (coherent : world.engines.IsCoherent) (operation : Operation) :
    ∃ name?, components.Touched world operation name? := by
  cases operation with
  | getConfig configId request => exact serve_touched concrete coherent configId request
  | reportError configId codeId secret report =>
    have unused := components.reportError_unused world configId codeId secret report
    exact ⟨none, .reportError unused, Engines.touches_of_eq unused _, unused ▸ coherent⟩
  | runTest testId secret =>
    obtain ⟨touches, after⟩ :=
      RunsOnce.touches concrete coherent (components.runTest_world testId secret world)
    exact ⟨none, .runTest, touches, after⟩
  | runPlayground language request =>
    obtain ⟨touches, after⟩ :=
      RunsOnce.touches concrete coherent (components.runPlayground_world language request world)
    exact ⟨none, .runPlayground, touches, after⟩

variable (components) in
/-- Two requests touch a program under one identifier only if they ask for one configuration and
their scripts are of one code version. -/
def TellsApart (world later : World Stored Kept (Engines interpreters)) : Prop :=
  ∀ {configId otherId : String} {request other : ConfigRequest} {name otherName : ProgramName},
    isRecordId configId = true → isRecordId otherId = true →
    components.MayTouch world (.getConfig configId request) (some name) →
    components.MayTouch later (.getConfig otherId other) (some otherName) →
    name.id = otherName.id → configId = otherId ∧ name.codeId = otherName.codeId

section Identifiers

variable {Valid : Stored → Prop} {Holds : Kept → String → String → Prop}

/-- The program of a request is one of the configuration that it asks for. -/
theorem MayTouch.configId_eq (orderly : components.IsOrderly Valid Holds world)
    {configId : String} {request : ConfigRequest} {name : ProgramName}
    (mayTouch : components.MayTouch world (.getConfig configId request) (some name)) :
    name.configId = configId := by
  cases mayTouch with
  | executed cached comesTo answered =>
    have found := servedConfig_eq_ok (Findings.decision_eq_ok comesTo.decided).1
    exact orderly.configId_eq (found ▸ comesTo.config)

/-- In orderly worlds, requests that touch one program ask for one configuration and its one code
version. -/
theorem IsOrderly.tellsApart (orderly : components.IsOrderly Valid Holds world)
    {later : World Stored Kept (Engines interpreters)}
    (orderlyLater : components.IsOrderly Valid Holds later) :
    components.TellsApart world later := by
  intro configId otherId request other name otherName isId isOther mayTouch mayTouchLater same
  obtain rfl := mayTouch.configId_eq orderly
  obtain rfl := mayTouchLater.configId_eq orderlyLater
  exact programId_injective isId isOther same

end Identifiers

/-- Every operation touches one program at most, beside those of jobs that waited: that of the code
version that a request which accepts cached records is answered with, or whose script fails. If no
job waited, it is the only one touched, and nothing changes in the other languages. The identifier
of the program tells the configuration that the request asks for, and the code version. -/
theorem operate_touches (components : Components Stored Kept (Engines interpreters))
    (concrete : components.engines = Engines.ops) {world : World Stored Kept (Engines interpreters)}
    (coherent : world.engines.IsCoherent) (operation : Operation) :
    (∃ name?, components.Touched world operation name? ∧
      (world.engines.IsQuiet → world.engines.TouchesOnly (ProgramName.own name?)
        (components.operate world operation).engines)) ∧
    ∀ {Valid : Stored → Prop} {Holds : Kept → String → String → Prop},
      components.IsOrderly Valid Holds world →
      (∀ {configId request name},
        components.MayTouch world (.getConfig configId request) (some name) →
        name.configId = configId) ∧
      ∀ {later}, components.IsOrderly Valid Holds later → components.TellsApart world later := by
  obtain ⟨name?, touched⟩ := operate_touched concrete coherent operation
  refine ⟨⟨name?, touched, touched.touches.of_isQuiet⟩, fun orderly => ⟨?_, ?_⟩⟩
  · exact fun mayTouch => mayTouch.configId_eq orderly
  · exact fun later => orderly.tellsApart later

/-! ## Worlds that are reached -/

/-- An operation leaves the engines as they are, or has them run one script. -/
theorem operate_engines (components : Components Stored Kept (Engines interpreters))
    (world : World Stored Kept (Engines interpreters)) (operation : Operation) :
    (components.operate world operation).engines = world.engines ∨
    ∃ request, (components.operate world operation).engines
      = (components.engines.run world.engines world.now request).state := by
  have runsOnce {after : World Stored Kept (Engines interpreters)}
      (ran : components.RunsOnce world after) :
      after.engines = world.engines ∨ ∃ request,
        after.engines = (components.engines.run world.engines world.now request).state := by
    exact ran.imp (congrArg World.engines) fun ⟨request, _, same⟩ => ⟨request, same ▸ rfl⟩
  cases operation with
  | getConfig configId request =>
    obtain ⟨findings, kept, _, served, _⟩ := components.serve_mayFind configId request world
    rw [operate, served]
    cases findings.decision configId request with
    | error refusal => exact .inl rfl
    | ok script => exact .inr ⟨_, rfl⟩
  | reportError configId codeId secret report =>
    exact .inl (components.reportError_unused world configId codeId secret report)
  | runTest testId secret => exact runsOnce (components.runTest_world testId secret world)
  | runPlayground language request =>
    exact runsOnce (components.runPlayground_world language request world)

/-- An event leaves the workers as they are, or has them run one script. -/
theorem step_engines (components : Components Stored Kept (Engines interpreters))
    (world : World Stored Kept (Engines interpreters)) (event : Event) :
    (components.step world event).engines = world.engines ∨
    ∃ request, (components.step world event).engines
      = (components.engines.run world.engines world.now request).state := by
  cases event with
  | operation operation => exact components.operate_engines world operation
  | putConfig config => exact .inl rfl
  | putCode code => exact .inl rfl
  | putTestCase testCase => exact .inl rfl
  | wait duration => exact .inl rfl

/-- What every run of a script keeps of the engines, whatever happens keeps. -/
theorem run_engines (concrete : components.engines = Engines.ops)
    {Lasting : Engines interpreters → Prop}
    (lasts : ∀ {engines : Engines interpreters} (now : Instant) (request : Engine.Request),
      Lasting engines → Lasting (engines.run now request).state)
    (initial : Lasting world.engines) (events : List Event) :
    Lasting (components.run world events).engines := by
  have ops : components.engines.run = Engines.run := by rw [concrete, Engines.ops]
  refine components.run_induction (fun before event _ (lasting : Lasting before.engines) => ?_)
    initial
  rcases components.step_engines before event with same | ⟨request, ran⟩
  · rw [same]
    exact lasting
  · rw [ran, ops]
    exact lasts before.now request lasting

/-- From new engines on, whatever happens, programs are in order and no job waits. -/
theorem run_isCoherent (concrete : components.engines = Engines.ops)
    {settings : Engine.Settings} {start : Instant}
    (fresh : Engines.new interpreters settings start = .ok world.engines) (events : List Event) :
    (components.run world events).engines.IsCoherent ∧
    (components.run world events).engines.IsQuiet := by
  have coherent : (components.run world events).engines.IsCoherent :=
    run_engines concrete (fun now request coherent => (coherent.run now request).1)
      (Engines.isCoherent_new fresh) events
  have resting : (components.run world events).engines.IsResting :=
    run_engines concrete (fun now request resting => resting.state_run now request)
      (Engines.isResting_new fresh).1 events
  exact ⟨coherent, resting.isQuiet⟩

/-- Without kept texts at first, records stand under their own identifiers, whatever happens. -/
theorem run_isOrderly {Valid : Stored → Prop} {Holds : Kept → String → String → Prop}
    (lawful : components.store.Lawful Valid) (faithful : components.IsFaithful Holds)
    (valid : Valid world.stored) (empty : ∀ key text, ¬ Holds world.kept key text)
    (events : List Event) : components.IsOrderly Valid Holds (components.run world events) := by
  have initial : components.IsOrderly Valid Holds world :=
    ⟨lawful, faithful, valid,
      ⟨fun held => absurd held (empty _ _), fun held => absurd held (empty _ _)⟩⟩
  exact components.run_induction
    (fun before event _ (orderly : components.IsOrderly Valid Holds before) => orderly.step event)
    initial

end Components

/-! ## A release that is asked for -/

namespace ReportedRelease

theorem isOrderly_world : components.IsOrderly Store.MemoryStore.IsIndexed
    Cache.MemoryRecordCache.Holds world := by
  have faithful : components.IsFaithful Cache.MemoryRecordCache.Holds :=
    ⟨fun caching => Option.some.inj caching ▸ Cache.MemoryRecordCache.faithful, nofun⟩
  exact Components.run_isOrderly Store.MemoryStore.lawful faithful isIndexed_stored
    Cache.MemoryRecordCache.not_holds_empty []

/-- After the first request the one program of its language is that of the code version. -/
theorem operate_touches_release :
    let after := components.operate world (.getConfig "app" { cached := true })
    (after.engines.programs .starlark).order = ["app/stable"] ∧
    (∃ name?, components.Touched world (.getConfig "app" { cached := true }) name? ∧
      world.engines.TouchesOnly (ProgramName.own name?) after.engines) ∧
    components.TellsApart world after := by
  have fresh : Engines.new installed settings 0 = .ok world.engines := rfl
  obtain ⟨coherent, quiet⟩ :=
    Components.run_isCoherent (show components.engines = Engines.ops from rfl) fresh []
  obtain ⟨⟨name?, touched, only⟩, orderly⟩ :=
    components.operate_touches rfl coherent (.getConfig "app" { cached := true })
  refine ⟨by decide +kernel, ⟨name?, touched, only quiet⟩, ?_⟩
  exact (orderly isOrderly_world).2 (isOrderly_world.operate _)

end ReportedRelease

end ConfigDelivery.Delivery
