import ConfigDelivery.Proofs.Delivery.Programs
import ConfigDelivery.Proofs.Delivery.Runs
import ConfigDelivery.Proofs.Delivery.Sight
import ConfigDelivery.Proofs.Store.Laws
/-!
# What an event changes

With a cache in memory. Stored records never go. A kept text after an event is an old one of a
record that the event did not read again, or was read by it. A kept program is an old one, or was
left behind by the script of a request, with the time at which that started.
-/

namespace ConfigDelivery.Delivery

open ConfigDelivery.Cache (MemoryRecordCache ProgramEntry RecordEntry)
open ConfigDelivery.Engine (Engines Interpreters)
open ConfigDelivery.Script (Language)

variable {Stored : Type} {interpreters : Interpreters}

namespace Components

variable (components : Components Stored MemoryRecordCache (Engines interpreters))

/-- An event is a request that reads a record from the store. -/
def ReadsStore (world : World Stored MemoryRecordCache (Engines interpreters)) (lookUp : LookUp) :
    Event → Prop
  | .operation (.getConfig configId request) =>
    lookUp ∈ (components.sight request.cached world configId).lookUps configId request ∧
      components.Misses request.cached world lookUp
  | _ => False

/-- A program that the script of a request leaves behind. -/
inductive Leaves (world : World Stored MemoryRecordCache (Engines interpreters)) :
    Event → (language : Language) → String → ProgramEntry (interpreters.Program language) →
      Prop where
  | left {configId request script language id entry}
      (decided : (components.sight request.cached world configId).decision configId request
        = .ok script)
      (inserted : Engines.Inserted world.engines world.now (script.request request.cached) language
        id entry) :
      Leaves world (.operation (.getConfig configId request)) language id entry

variable {components} {world : World Stored MemoryRecordCache (Engines interpreters)}
  {Valid : Stored → Prop}

/-! ## Stored records -/

variable (components) in
/-- A store whose records have not gone since, though they may have changed. -/
structure Persists (Valid : Stored → Prop) (before after : Stored) : Prop where
  valid : Valid after
  stores : ∀ {lookUp text}, components.Stores before lookUp text →
    ∃ later, components.Stores after lookUp later

/-- A store that nothing was done to persists. -/
theorem persists_refl {stored : Stored} (valid : Valid stored) :
    components.Persists Valid stored stored :=
  ⟨valid, fun stores => ⟨_, stores⟩⟩

/-- A script that runs does not reach the store. -/
theorem persists_of_runsOnce {before after : World Stored MemoryRecordCache (Engines interpreters)}
    (valid : Valid before.stored) (ran : components.RunsOnce before after) :
    components.Persists Valid before.stored after.stored := by
  rw [ran.same.1]
  exact persists_refl valid

/-- A report leaves every stored record, and only counts on the code it is about. -/
theorem persists_reportError (lawful : components.store.Lawful Valid)
    (valid : Valid world.stored) (configId codeId : String) (secret : Option String)
    (report : ErrorReport) :
    components.Persists Valid world.stored
      ((components.reportError configId codeId secret report).perform world).2.stored := by
  have reported := components.reportError_reported configId codeId secret report world
  generalize (components.reportError configId codeId secret report).perform world = ended
    at reported
  cases reported with
  | refused refusal => exact persists_refl valid
  | failed recorded =>
    obtain rfl := lawful.recordError_error recorded
    exact persists_refl valid
  | @recorded code report updated after found works recorded =>
    obtain ⟨validAfter, sameConfigs, read, _⟩ := lawful.recordError_ok valid recorded
    refine ⟨validAfter, fun {lookUp text} stores => ?_⟩
    cases lookUp with
    | config id =>
      obtain ⟨config, stored, rfl⟩ := stores
      exact ⟨_, config, sameConfigs ▸ stored, rfl⟩
    | code id =>
      obtain ⟨code', stored, rfl⟩ := stores
      by_cases here : codeId = id
      · exact ⟨_, updated, (read id).trans (if_pos here), rfl⟩
      · exact ⟨_, code', (read id).trans ((if_neg here).trans stored), rfl⟩

/-- A stored configuration replaces the one of its identifier. -/
theorem persists_putConfig (lawful : components.store.Lawful Valid) {stored : Stored}
    (valid : Valid stored) (config : Config) :
    components.Persists Valid stored (components.store.putConfig stored config).2 := by
  obtain ⟨validAfter, sameCodes, read⟩ := lawful.putConfig_after valid config
  refine ⟨validAfter, fun {lookUp text} stores => ?_⟩
  cases lookUp with
  | config id =>
    obtain ⟨old, stored, rfl⟩ := stores
    rcases read id with same | ⟨_, written⟩
    · exact ⟨_, old, same.trans stored, rfl⟩
    · exact ⟨_, config, written, rfl⟩
  | code id =>
    obtain ⟨code, stored, rfl⟩ := stores
    exact ⟨_, code, sameCodes ▸ stored, rfl⟩

/-- A stored code version replaces the one of its identifier. -/
theorem persists_putCode (lawful : components.store.Lawful Valid) {stored : Stored}
    (valid : Valid stored) (code : Code) :
    components.Persists Valid stored (components.store.putCode stored code).2 := by
  obtain ⟨validAfter, sameConfigs, read⟩ := lawful.putCode_after valid code
  refine ⟨validAfter, fun {lookUp text} stores => ?_⟩
  cases lookUp with
  | config id =>
    obtain ⟨config, stored, rfl⟩ := stores
    exact ⟨_, config, sameConfigs ▸ stored, rfl⟩
  | code id =>
    obtain ⟨old, stored, rfl⟩ := stores
    rcases read id with same | ⟨_, written⟩
    · exact ⟨_, old, same.trans stored, rfl⟩
    · exact ⟨_, code, written, rfl⟩

/-- A stored test replaces the one of its identifier. -/
theorem persists_putTestCase (lawful : components.store.Lawful Valid) {stored : Stored}
    (valid : Valid stored) (testCase : TestCase) :
    components.Persists Valid stored (components.store.putTestCase stored testCase).2 := by
  obtain ⟨validAfter, sameConfigs, sameCodes⟩ := lawful.putTestCase_after valid testCase
  refine ⟨validAfter, fun {lookUp text} stores => ⟨text, ?_⟩⟩
  cases lookUp with
  | config id =>
    rw [Stores, sameConfigs]
    exact stores
  | code id =>
    rw [Stores, sameCodes]
    exact stores

/-- Records are replaced only by those that are stored. -/
theorem persists_step (lawful : components.store.Lawful Valid)
    (memory : components.records = some MemoryRecordCache.ops) (valid : Valid world.stored)
    (event : Event) :
    components.Persists Valid world.stored (components.step world event).stored := by
  cases event with
  | operation operation =>
    cases operation with
    | getConfig configId request =>
      obtain ⟨after, _, served⟩ := serve_memory memory world configId request
      rw [step, operate, served, (components.follow_stored ..).1]
      exact persists_refl valid
    | reportError configId codeId secret report =>
      exact persists_reportError lawful valid configId codeId secret report
    | runTest testId secret =>
      exact persists_of_runsOnce valid (components.runTest_world testId secret world)
    | runPlayground language request =>
      exact persists_of_runsOnce valid (components.runPlayground_world language request world)
  | putConfig config => exact persists_putConfig lawful valid config
  | putCode code => exact persists_putCode lawful valid code
  | putTestCase testCase => exact persists_putTestCase lawful valid testCase
  | wait duration => exact persists_refl valid

/-! ## Kept texts -/

variable (components) in
/-- A kept text after an event is an old one of a record that the event did not read again, or was
read by it. -/
def Keeps (world : World Stored MemoryRecordCache (Engines interpreters)) (event : Event)
    (lookUp : LookUp) (entry : RecordEntry) : Prop :=
  (world.kept.entries.find? lookUp.key = some entry ∧
    ¬ components.ReadsStore world lookUp event) ∨
  (components.Stores world.stored lookUp entry.value ∧
    entry.expiresAt = world.now + components.settings.recordTimeToLive)

/-- What is kept after a request was kept before, or is the stored record and was kept just now. -/
theorem keeps_serve (memory : components.records = some MemoryRecordCache.ops)
    (held : ∀ {lookUp : LookUp} {entry : RecordEntry},
      world.kept.entries.find? lookUp.key = some entry →
        ∃ text, components.Stores world.stored lookUp text)
    (configId : String) (request : ConfigRequest) {lookUp : LookUp} {entry : RecordEntry}
    (found : ((components.serve configId request).perform world).2.kept.entries.find? lookUp.key
      = some entry) :
    components.Keeps world (.operation (.getConfig configId request)) lookUp entry := by
  obtain ⟨after, sighted, served⟩ := serve_memory memory world configId request
  rw [served, (components.follow_stored ..).2] at found
  have fresh (written : components.Written world lookUp.key entry) :
      components.Keeps world (.operation (.getConfig configId request)) lookUp entry := by
    obtain ⟨other, same, stores, expires⟩ := written
    obtain rfl := LookUp.key_injective same
    exact .inr ⟨stores, expires⟩
  rcases sighted.entries found with old | written
  · by_cases reads : components.ReadsStore world lookUp
        (.operation (.getConfig configId request))
    · rcases sighted.asked reads.1 reads.2 found with written | missing
      · exact fresh written
      · obtain ⟨text, stores⟩ := held old
        exact absurd stores (missing text)
    · exact .inl ⟨old, reads⟩
  · exact fresh written

/-- What is kept after a report was kept before: a report only removes. -/
theorem keeps_reportError (memory : components.records = some MemoryRecordCache.ops)
    (configId codeId : String) (secret : Option String) (report : ErrorReport) {lookUp : LookUp}
    {entry : RecordEntry}
    (found :
      ((components.reportError configId codeId secret report).perform world).2.kept.entries.find?
        lookUp.key = some entry) :
    components.Keeps world (.operation (.reportError configId codeId secret report)) lookUp
      entry := by
  have reported := components.reportError_reported configId codeId secret report world
  generalize (components.reportError configId codeId secret report).perform world = ended
    at reported found
  cases reported with
  | refused refusal => exact .inl ⟨found, id⟩
  | failed recorded => exact .inl ⟨found, id⟩
  | recorded isFound works recorded =>
    dsimp only [forgotten] at found
    rw [memory] at found
    simp only [MemoryRecordCache.ops, MemoryRecordCache.remove, Table.find?_erase] at found
    split at found
    · cases found
    · exact .inl ⟨found, id⟩

/-- What is kept after an event was kept before, or is the stored record and was kept just now. -/
theorem keeps_step (memory : components.records = some MemoryRecordCache.ops)
    (held : ∀ {lookUp : LookUp} {entry : RecordEntry},
      world.kept.entries.find? lookUp.key = some entry →
        ∃ text, components.Stores world.stored lookUp text)
    (event : Event) {lookUp : LookUp} {entry : RecordEntry}
    (found : (components.step world event).kept.entries.find? lookUp.key = some entry) :
    components.Keeps world event lookUp entry := by
  cases event with
  | operation operation =>
    cases operation with
    | getConfig configId request => exact keeps_serve memory held configId request found
    | reportError configId codeId secret report =>
      exact keeps_reportError memory configId codeId secret report found
    | runTest testId secret =>
      have same := (components.runTest_world testId secret world).same.2
      exact .inl ⟨same ▸ found, id⟩
    | runPlayground language request =>
      have same := (components.runPlayground_world language request world).same.2
      exact .inl ⟨same ▸ found, id⟩
  | putConfig config => exact .inl ⟨found, id⟩
  | putCode code => exact .inl ⟨found, id⟩
  | putTestCase testCase => exact .inl ⟨found, id⟩
  | wait duration => exact .inl ⟨found, id⟩

/-! ## Kept programs -/

/-- Engines after something was done: at rest, with old programs and those that were left behind. -/
structure EnginesAfter (before after : Engines interpreters)
    (Left : (language : Language) → String → ProgramEntry (interpreters.Program language) → Prop) :
    Prop where
  resting : after.IsResting
  timeout : after.timeout = before.timeout
  timeToLive : ∀ language,
    (after.programs language).timeToLive = (before.programs language).timeToLive
  programs : ∀ {language id entry}, (after.programs language).entries.find? id = some entry →
    (before.programs language).entries.find? id = some entry ∨ Left language id entry

variable
  {Left : (language : Language) → String → ProgramEntry (interpreters.Program language) → Prop}

/-- Workers that nothing was asked of hold the programs they held. -/
theorem enginesAfter_refl {engines : Engines interpreters} (resting : engines.IsResting) :
    EnginesAfter engines engines Left :=
  ⟨resting, rfl, fun _ => rfl, fun found => .inl found⟩

/-- Workers that ran a script hold what they held, and at most the program of that script. -/
theorem enginesAfter_executed (concrete : components.engines = Engines.ops)
    (resting : world.engines.IsResting) {request : Engine.Request}
    (leaves : ∀ {language id entry},
      Engines.Inserted world.engines world.now request language id entry → Left language id entry) :
    EnginesAfter world.engines (components.executed world request).engines Left := by
  obtain ⟨compiled, ran⟩ := resting.run world.now request
  rw [executed_eq concrete]
  generalize world.engines.run world.now request = response at ran
  refine ⟨ran.resting, ran.timeout, ran.timeToLive, fun {language id entry} found => ?_⟩
  rcases ran.find? found with old | inserted
  · exact .inl old
  · exact .inr (leaves inserted)

/-- A request that ran one script leaves workers that hold what they held, and that script's
program. -/
theorem enginesAfter_runsOnce (concrete : components.engines = Engines.ops)
    (resting : world.engines.IsResting)
    {after : World Stored MemoryRecordCache (Engines interpreters)}
    (ran : components.RunsOnce world after) : EnginesAfter world.engines after.engines Left := by
  rcases ran with rfl | ⟨request, unnamed, rfl⟩
  · exact enginesAfter_refl resting
  · refine enginesAfter_executed concrete resting fun inserted => ?_
    obtain ⟨isNamed, _, _⟩ := inserted
    exact absurd unnamed isNamed

/-- A kept program after an event is an old one, or was left behind by the script of a request. -/
theorem enginesAfter_step (concrete : components.engines = Engines.ops)
    (memory : components.records = some MemoryRecordCache.ops)
    (resting : world.engines.IsResting) (event : Event) :
    EnginesAfter world.engines (components.step world event).engines
      (components.Leaves world event) := by
  cases event with
  | operation operation =>
    cases operation with
    | getConfig configId request =>
      obtain ⟨kept, _, served⟩ := serve_memory memory world configId request
      rw [step, operate, served]
      cases decided : (components.sight request.cached world configId).decision configId
          request with
      | error refusal => exact enginesAfter_refl resting
      | ok script =>
        have loaded : { world with kept }.engines.IsResting := resting
        exact enginesAfter_executed concrete loaded fun inserted => .left decided inserted
    | reportError configId codeId secret report =>
      have reported := components.reportError_reported configId codeId secret report world
      rw [step, operate]
      generalize (components.reportError configId codeId secret report).perform world = ended
        at reported
      cases reported <;> exact enginesAfter_refl resting
    | runTest testId secret =>
      exact enginesAfter_runsOnce concrete resting (components.runTest_world testId secret world)
    | runPlayground language request =>
      exact enginesAfter_runsOnce concrete resting
        (components.runPlayground_world language request world)
  | putConfig config => exact enginesAfter_refl resting
  | putCode code => exact enginesAfter_refl resting
  | putTestCase testCase => exact enginesAfter_refl resting
  | wait duration => exact enginesAfter_refl resting

end Components

end ConfigDelivery.Delivery
