import ConfigDelivery.Proofs.Delivery.Keeping
import ConfigDelivery.Proofs.Delivery.Programs
import ConfigDelivery.Proofs.Engine.Identity
import ConfigDelivery.Proofs.Store.Laws
/-!
# Cached records change no answer

As long as records are written by reports alone, every kept text is that of the record in the store,
and every kept program is what the source of its code version compiles to: a report changes the
error tracking of a code version and nothing else, and drops its kept text. So a request is answered
the same whether it accepts cached records or not, with interpreters that make nothing of the
identifier under which a script is compiled.
-/

namespace ConfigDelivery.Delivery

open ConfigDelivery.Cache (ProgramEntry codeKey)
open ConfigDelivery.Engine (Agree Engines Interpreters installed)
open ConfigDelivery.Script (Language ScriptError)

/-! ## Answers that agree -/

/-- Two refusals are of one kind. -/
def DeliveryError.SameKind : DeliveryError → DeliveryError → Prop
  | .input _, .input _ => True
  | .rejected _, .rejected _ => True
  | .forbidden _, .forbidden _ => True
  | .execution _, .execution _ => True
  | .internal _, .internal _ => True
  | _, _ => False

/-- Two answers are the same response, or refusals of one kind. -/
inductive SameAnswer :
    Except DeliveryError ConfigResponse → Except DeliveryError ConfigResponse → Prop where
  | response (response : ConfigResponse) : SameAnswer (.ok response) (.ok response)
  | refusal {refusal other : DeliveryError} (same : refusal.SameKind other) :
      SameAnswer (.error refusal) (.error other)

theorem sameAnswer_refl (answer : Except DeliveryError ConfigResponse) :
    SameAnswer answer answer := by
  cases answer with
  | error refusal => exact .refusal (by cases refusal <;> trivial)
  | ok response => exact .response response

/-- Outcomes that agree are answered the same. -/
theorem ServedScript.sameAnswer (script : ServedScript) {outcome other : Except ScriptError String}
    (agree : Agree outcome other) : SameAnswer (script.answer outcome) (script.answer other) := by
  cases agree with
  | text text => exact .response _
  | failure error other => exact .refusal trivial

/-- An event that writes no records, but by a report, and asks for no configuration under a name
that is no identifier. -/
def Event.IsInternal : Event → Prop
  | .operation (.getConfig configId _) => isRecordId configId = true
  | .operation _ => True
  | .wait _ => True
  | _ => False

variable {Stored Kept : Type} {interpreters : Interpreters}

namespace Components

variable (components : Components Stored Kept (Engines interpreters))

/-- A program is what the source of its code version compiles to. -/
def IsCurrent (stored : Stored) (language : Language) (id : String)
    (program : interpreters.Program language) : Prop :=
  ∃ configId codeId, isRecordId configId = true ∧ id = programId configId codeId ∧
    ∀ {code}, components.store.getCode stored codeId = .ok (some code) →
      (interpreters.of language).compile id code.content = .ok program

/-- Kept texts and kept programs are those of the records in the store. -/
structure KeepsCurrent (Valid : Stored → Prop) (Holds : Kept → String → String → Prop)
    (world : World Stored Kept (Engines interpreters)) : Prop where
  valid : Valid world.stored
  resting : world.engines.IsResting
  kept : KeepsOnly Holds
    (fun id config => components.store.getConfig world.stored id = .ok (some config))
    (fun id code => components.store.getCode world.stored id = .ok (some code)) world.kept
  programs : ∀ {language id entry},
    (world.engines.programs language).entries.find? id = some entry →
      components.IsCurrent world.stored language id entry.program

variable {components} {Valid : Stored → Prop} {Holds : Kept → String → String → Prop}
  {world : World Stored Kept (Engines interpreters)}

/-- Look-ups find what the store holds, from cached records or not. -/
theorem IsFaithful.finds_current (faithful : components.IsFaithful Holds) (cached : Bool) :
    components.Finds cached world
      (fun _ => KeepsOnly Holds
        (fun id config => components.store.getConfig world.stored id = .ok (some config))
        (fun id code => components.store.getCode world.stored id = .ok (some code)))
      (fun id found => found = components.store.getConfig world.stored id)
      (fun id found => found = components.store.getCode world.stored id) := by
  refine (faithful.finds cached (fun fetched => fetched) (fun fetched => fetched)).weaken ?_ ?_
  · intro id found isFound
    rcases isFound with fromStore | ⟨record, rfl, current⟩
    · exact fromStore
    · exact current.symm
  · intro id found isFound
    rcases isFound with fromStore | ⟨record, rfl, current⟩
    · exact fromStore
    · exact current.symm

/-- A request comes to the decision on what the store holds, from cached records or not. -/
theorem KeepsCurrent.serve_eq (keeps : components.KeepsCurrent Valid Holds world)
    (faithful : components.IsFaithful Holds) (configId : String) (request : ConfigRequest) :
    ∃ after, KeepsOnly Holds
        (fun id config => components.store.getConfig world.stored id = .ok (some config))
        (fun id code => components.store.getCode world.stored id = .ok (some code)) after ∧
      (components.serve configId request).perform world
        = components.follow request.cached { world with kept := after }
          ((Findings.inStore components.store world.stored configId).decision configId request) :=
  (faithful.finds_current request.cached).serve_eq_of keeps.kept configId rfl

/-- The records that a script is of stand in the store under their identifiers. -/
theorem decision_inStore (lawful : components.store.Lawful Valid) {stored : Stored}
    (valid : Valid stored) {configId : String} {request : ConfigRequest} {script : ServedScript}
    (decided : (Findings.inStore components.store stored configId).decision configId request
      = .ok script) :
    script.config.configId = configId ∧
    components.store.getCode stored script.code.codeId = .ok (some script.code) := by
  obtain ⟨served, _, found⟩ := Findings.decision_eq_ok decided
  refine ⟨lawful.configId_eq valid (servedConfig_eq_ok served), ?_⟩
  rcases found with found | found
  · have same := lawful.codeId_eq valid found
    exact same ▸ found
  · have same := lawful.codeId_eq valid found
    exact same ▸ found

/-- The programs after a run are old ones, or what the source of the run compiles to. -/
theorem KeepsCurrent.executed (keeps : components.KeepsCurrent Valid Holds world)
    (concrete : components.engines = Engines.ops) {request : Engine.Request}
    (current : ∀ {program}, request.cacheId ≠ "" →
      (interpreters.of request.language).compile request.cacheId request.source = .ok program →
      components.IsCurrent world.stored request.language request.cacheId program) :
    components.KeepsCurrent Valid Holds (components.executed world request) := by
  obtain ⟨compiled, ran⟩ := keeps.resting.run world.now request
  rw [executed_eq concrete]
  generalize world.engines.run world.now request = response at ran
  refine ⟨keeps.valid, ran.resting, keeps.kept, ?_⟩
  intro language id entry found
  dsimp only at found
  rcases ran.find? found with before | ⟨isNamed, compiles, _⟩
  · exact keeps.programs before
  · exact current isNamed compiles

/-- A script that runs without an identifier leaves all that is kept current. -/
theorem KeepsCurrent.runsOnce (keeps : components.KeepsCurrent Valid Holds world)
    (concrete : components.engines = Engines.ops) {after : World Stored Kept (Engines interpreters)}
    (ran : components.RunsOnce world after) : components.KeepsCurrent Valid Holds after := by
  rcases ran with rfl | ⟨request, unnamed, rfl⟩
  · exact keeps
  · exact keeps.executed concrete fun isNamed => absurd unnamed isNamed

/-- A request leaves nothing kept that is not current. -/
theorem KeepsCurrent.serve (keeps : components.KeepsCurrent Valid Holds world)
    (lawful : components.store.Lawful Valid) (faithful : components.IsFaithful Holds)
    (concrete : components.engines = Engines.ops) {configId : String}
    (isId : isRecordId configId = true) (request : ConfigRequest) :
    components.KeepsCurrent Valid Holds ((components.serve configId request).perform world).2 := by
  obtain ⟨kept, only, served⟩ := keeps.serve_eq faithful configId request
  rw [served]
  have loaded : components.KeepsCurrent Valid Holds { world with kept } :=
    ⟨keeps.valid, keeps.resting, only, keeps.programs⟩
  cases decided : (Findings.inStore components.store world.stored configId).decision configId
      request with
  | error refusal => exact loaded
  | ok script =>
    refine loaded.executed concrete fun {program} isNamed compiles => ?_
    obtain ⟨sameConfig, stored⟩ := decision_inStore lawful keeps.valid decided
    by_cases cached : request.cached = true
    · refine ⟨script.config.configId, script.code.codeId, sameConfig ▸ isId, if_pos cached, ?_⟩
      intro code found
      obtain rfl : script.code = code := by
        simpa using stored.symm.trans found
      exact compiles
    · exact absurd (if_neg cached) isNamed

/-- A report changes neither the source of a code version nor, but for its kept text, what is
kept. -/
theorem KeepsCurrent.reportError (keeps : components.KeepsCurrent Valid Holds world)
    (lawful : components.store.Lawful Valid) (faithful : components.IsFaithful Holds)
    (configId codeId : String) (secret : Option String) (report : ErrorReport) :
    components.KeepsCurrent Valid Holds
      ((components.reportError configId codeId secret report).perform world).2 := by
  have reported := components.reportError_reported configId codeId secret report world
  generalize (components.reportError configId codeId secret report).perform world = ended
    at reported
  cases reported with
  | refused refusal => exact keeps
  | failed recorded =>
    obtain rfl := lawful.recordError_error recorded
    exact keeps
  | @recorded code report updated after found works recorded =>
    obtain ⟨valid, sameConfigs, read, counted⟩ := lawful.recordError_ok keeps.valid recorded
    have sameContent : updated.content = code.content := by
      rw [(counted code found).sameRest]
    refine ⟨valid, keeps.resting, ⟨?_, ?_⟩, ?_⟩
    · intro id text record held decoded
      dsimp only
      rw [sameConfigs]
      exact keeps.kept.config (faithful.holds_of_forgotten held).2 decoded
    · intro id text record held decoded
      obtain ⟨different, held⟩ := faithful.holds_of_forgotten held
      have other : codeId ≠ id := by
        rintro rfl
        exact different rfl
      exact (read id).trans ((if_neg other).trans (keeps.kept.code held decoded))
    · intro language id entry present
      obtain ⟨configId, otherId, isId, same, current⟩ := keeps.programs present
      refine ⟨configId, otherId, isId, same, fun {code'} found' => ?_⟩
      dsimp only at found'
      rw [read] at found'
      split at found'
      · rename_i here
        subst here
        cases found'
        exact sameContent ▸ current found
      · exact current found'

/-- Whatever happens inside the service, what it keeps stays current. -/
theorem KeepsCurrent.step (keeps : components.KeepsCurrent Valid Holds world)
    (lawful : components.store.Lawful Valid) (faithful : components.IsFaithful Holds)
    (concrete : components.engines = Engines.ops) {event : Event} (isInternal : event.IsInternal) :
    components.KeepsCurrent Valid Holds (components.step world event) := by
  cases event with
  | operation operation =>
    cases operation with
    | getConfig configId request => exact keeps.serve lawful faithful concrete isInternal request
    | reportError configId codeId secret report =>
      exact keeps.reportError lawful faithful configId codeId secret report
    | runTest testId secret =>
      exact keeps.runsOnce concrete (components.runTest_world testId secret world)
    | runPlayground language request =>
      exact keeps.runsOnce concrete (components.runPlayground_world language request world)
  | wait duration => exact ⟨keeps.valid, keeps.resting, keeps.kept, keeps.programs⟩
  | putConfig config => cases isInternal
  | putCode code => cases isInternal
  | putTestCase testCase => cases isInternal

/-- A run of the script that a request comes to has the verdict on its source, compiled under
whatever identifier. -/
theorem KeepsCurrent.run_agrees (keeps : components.KeepsCurrent Valid Holds world)
    (ignore : interpreters.IgnoreIds) (lawful : components.store.Lawful Valid)
    {configId : String} (isId : isRecordId configId = true)
    {request : ConfigRequest} {script : ServedScript}
    (decided : (Findings.inStore components.store world.stored configId).decision configId request
      = .ok script) (cached : Bool) :
    Agree (world.engines.run world.now (script.request cached)).outcome
      ((interpreters.of script.language).verdict world.engines.timeout
        ((interpreters.of script.language).compile "" script.code.content)
        (Json.Value.object script.params).render) := by
  obtain ⟨compiled, ran⟩ := keeps.resting.run world.now (script.request cached)
  refine ran.agrees ignore (fun {entry} found => ?_) ""
  obtain ⟨sameConfig, stored⟩ := decision_inStore lawful keeps.valid decided
  obtain ⟨otherConfig, codeId, isOther, same, current⟩ := keeps.programs found
  have isNamed : cached = true := by
    cases cached with
    | true => rfl
    | false =>
      have slash : '/' ∈ (script.request false).cacheId.toList := by
        simp [same, programId]
      cases slash
  subst isNamed
  have sameId : programId script.config.configId script.code.codeId
      = programId otherConfig codeId := same
  obtain ⟨_, rfl⟩ := programId_injective (sameConfig ▸ isId) isOther sameId
  exact current stored

/-- A request is answered the same whether it accepts cached records or not. -/
theorem KeepsCurrent.serve_agrees (keeps : components.KeepsCurrent Valid Holds world)
    (ignore : interpreters.IgnoreIds) (lawful : components.store.Lawful Valid)
    (faithful : components.IsFaithful Holds) (concrete : components.engines = Engines.ops)
    {configId : String} (isId : isRecordId configId = true) (request : ConfigRequest) :
    SameAnswer
      ((components.serve configId { request with cached := true }).perform world).1
      ((components.serve configId { request with cached := false }).perform world).1 := by
  obtain ⟨first, _, cachedServed⟩ :=
    keeps.serve_eq faithful configId { request with cached := true }
  obtain ⟨second, _, plainServed⟩ :=
    keeps.serve_eq faithful configId { request with cached := false }
  have sameDecision (cached : Bool) :
      (Findings.inStore components.store world.stored configId).decision configId
        { request with cached }
      = (Findings.inStore components.store world.stored configId).decision configId request := rfl
  rw [sameDecision] at cachedServed plainServed
  rw [cachedServed, plainServed]
  cases decided : (Findings.inStore components.store world.stored configId).decision configId
      request with
  | error refusal => exact sameAnswer_refl _
  | ok script =>
    have cachedRan := keeps.run_agrees ignore lawful isId decided true
    have plainRan := keeps.run_agrees ignore lawful isId decided false
    dsimp only [follow]
    rw [concrete]
    exact script.sameAnswer (cachedRan.trans plainRan.symm)

/-- As long as records are written by reports alone, a request is answered the same whether it
accepts cached records or not: with the same result of the same code version, or with a refusal of
the same kind. -/
theorem serve_cached_agrees (components : Components Stored Kept (Engines interpreters))
    (concrete : components.engines = Engines.ops) (ignore : interpreters.IgnoreIds)
    (lawful : components.store.Lawful Valid)
    (faithful : components.IsFaithful Holds) (world : World Stored Kept (Engines interpreters))
    (valid : Valid world.stored) (empty : ∀ key text, ¬ Holds world.kept key text)
    (settings : Engine.Settings) (start : Instant)
    (fresh : Engines.new interpreters settings start = .ok world.engines)
    (events : List Event) (internal : ∀ event ∈ events, event.IsInternal)
    (configId : String) (isId : isRecordId configId = true) (request : ConfigRequest) :
    let reached := components.run world events
    SameAnswer
      ((components.serve configId { request with cached := true }).perform reached).1
      ((components.serve configId { request with cached := false }).perform reached).1 := by
  obtain ⟨resting, _, programs⟩ := Engines.isResting_new fresh
  have initial : components.KeepsCurrent Valid Holds world := by
    refine ⟨valid, resting, ⟨?_, ?_⟩, ?_⟩
    · exact fun held => absurd held (empty _ _)
    · exact fun held => absurd held (empty _ _)
    · intro language id entry found
      rw [programs] at found
      cases found
  have reached : components.KeepsCurrent Valid Holds (components.run world events) :=
    components.run_induction
      (fun world event mem keeps => keeps.step lawful faithful concrete (internal event mem))
      initial
  exact reached.serve_agrees ignore lawful faithful concrete isId request

end Components

/-! ## A release with a reported error -/

namespace ReportedRelease

/-- The records in memory. -/
def stored : Store.MemoryStore where
  configs := ⟨[("app",
    { configId := "app", releasedCode := "stable", status := "valid", secret := "key" })]⟩
  codes := ⟨[("stable", { codeId := "stable", lang := "starlark", content := "return 1" })]⟩

theorem isIndexed_stored : stored.IsIndexed where
  configs := by
    intro id config found
    simp only [stored, Table.find?, Table.findIn] at found
    split at found <;> cases found
    assumption
  codes := by
    intro id code found
    simp only [stored, Table.find?, Table.findIn] at found
    split at found <;> cases found
    assumption

/-- One worker for each language. -/
def settings : Engine.Settings := { poolSize := 1 }

/-- Engines without programs. -/
def engines : Engines installed := (Engines.new installed settings 0).toOption.get rfl

/-- The components, with a cache in memory. -/
def components : Components Store.MemoryStore Cache.MemoryRecordCache (Engines installed) where
  store := Store.MemoryStore.ops
  records := some Cache.MemoryRecordCache.ops
  engines := Engines.ops
  wallClock _ := .ok 0
  settings := {}

/-- The records, and nothing kept. -/
def world : World Store.MemoryStore Cache.MemoryRecordCache (Engines installed) :=
  ⟨stored, {}, engines, 0⟩

/-- The record and the program are kept after a request; then an error is reported. -/
def events : List Event := [
  .operation (.getConfig "app" { cached := true }),
  .wait (.ofSeconds 1),
  .operation (.reportError "app" "stable" (some "key") { time := 1 })]

/-- The request that accepts cached records is answered from the kept program, as the other one
is from the source. -/
theorem serve_cached_agrees_reported :
    let reached := components.run world events
    ((components.serve "app" { cached := true }).perform reached).1 = .ok ⟨"1", "stable"⟩ ∧
    SameAnswer
      ((components.serve "app" { cached := true }).perform reached).1
      ((components.serve "app" { cached := false }).perform reached).1 := by
  have faithful : components.IsFaithful Cache.MemoryRecordCache.Holds :=
    ⟨fun caching => Option.some.inj caching ▸ Cache.MemoryRecordCache.faithful, nofun⟩
  have internal : ∀ event ∈ events, event.IsInternal := by
    simp [events, Event.IsInternal]
    decide
  refine ⟨by decide +kernel, ?_⟩
  exact components.serve_cached_agrees rfl Engine.ignoreIds_installed Store.MemoryStore.lawful
    faithful world isIndexed_stored Cache.MemoryRecordCache.not_holds_empty settings 0 rfl events
    internal "app" (by decide) {}

end ReportedRelease

end ConfigDelivery.Delivery
