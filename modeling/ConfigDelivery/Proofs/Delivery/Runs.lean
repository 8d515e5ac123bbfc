import ConfigDelivery.Delivery.UnitTest
import ConfigDelivery.Proofs.Delivery.Reporting
/-!
# Runs of the delivery

A run is a series of events: operations that clients ask for, records that are written past the
delivery, and time that passes. This module says what the operations change, besides reports:
requests leave the store as it is, unit tests and the playground change the engines alone, and they
keep no program.
-/

namespace ConfigDelivery.Delivery

variable {Stored Kept Engines : Type}

/-- What clients can ask for. -/
inductive Operation where
  | getConfig (configId : String) (request : ConfigRequest)
  | reportError (configId codeId : String) (secret : Option String) (report : ErrorReport)
  | runTest (testId : String) (secret : Option String)
  | runPlayground (language : String) (request : PlaygroundRequest)

/-- What can happen. -/
inductive Event where
  | operation (operation : Operation)
  | putConfig (config : Config)
  | putCode (code : Code)
  | putTestCase (testCase : TestCase)
  | wait (duration : Duration)

namespace Components

variable (components : Components Stored Kept Engines)

/-- The world after an operation, whatever that answers. -/
def operate (world : World Stored Kept Engines) : Operation → World Stored Kept Engines
  | .getConfig configId request => ((components.serve configId request).perform world).2
  | .reportError configId codeId secret report =>
    ((components.reportError configId codeId secret report).perform world).2
  | .runTest testId secret => ((components.runTest testId secret).perform world).2
  | .runPlayground language request =>
    ((components.runPlayground language request).perform world).2

/-- The world after an event. -/
def step (world : World Stored Kept Engines) : Event → World Stored Kept Engines
  | .operation operation => components.operate world operation
  | .putConfig config => { world with stored := (components.store.putConfig world.stored config).2 }
  | .putCode code => { world with stored := (components.store.putCode world.stored code).2 }
  | .putTestCase testCase =>
    { world with stored := (components.store.putTestCase world.stored testCase).2 }
  | .wait duration => { world with now := world.now + duration }

/-- The world after some events. -/
def run (world : World Stored Kept Engines) (events : List Event) : World Stored Kept Engines :=
  events.foldl components.step world

/-- What each of its events keeps, a run keeps. -/
theorem run_induction {Invariant : World Stored Kept Engines → Prop} {events : List Event}
    (kept : ∀ world, ∀ event ∈ events, Invariant world → Invariant (components.step world event))
    {world : World Stored Kept Engines} (initial : Invariant world) :
    Invariant (components.run world events) := by
  induction events generalizing world with
  | nil => exact initial
  | cons event rest ih =>
    have next := kept world event (List.mem_cons_self ..) initial
    exact ih (fun world other mem => kept world other (List.mem_cons_of_mem _ mem)) next

theorem run_cons (world : World Stored Kept Engines) (event : Event) (rest : List Event) :
    components.run world (event :: rest) = components.run (components.step world event) rest := rfl

/-- Events that follow others are a run from where those end. -/
theorem run_append (world : World Stored Kept Engines) (first second : List Event) :
    components.run world (first ++ second) = components.run (components.run world first) second :=
  List.foldl_append

/-! ## What the operations change -/

/-- What follows a decision changes neither the store nor the kept texts. -/
theorem follow_stored (cached : Bool) (world : World Stored Kept Engines)
    (decision : Except DeliveryError ServedScript) :
    (components.follow cached world decision).2.stored = world.stored ∧
    (components.follow cached world decision).2.kept = world.kept := by
  cases decision <;> exact ⟨rfl, rfl⟩

/-- Whatever the cache answers, a look-up changes the kept texts alone. -/
theorem finds_any (cached : Bool) (world : World Stored Kept Engines) :
    components.Finds cached world (fun _ _ => True) (fun _ _ => True) (fun _ _ => True) where
  config {_ kept} id _ := by
    obtain ⟨found, after, _, loaded⟩ :=
      components.loadRecord_loaded components.configs cached id { world with kept }
    exact ⟨found, after, trivial, trivial, loaded⟩
  code {_ kept} id _ := by
    obtain ⟨found, after, _, loaded⟩ :=
      components.loadRecord_loaded components.codes cached id { world with kept }
    exact ⟨found, after, trivial, trivial, loaded⟩

/-- A request does not reach the store. -/
theorem serve_stored (configId : String) (request : ConfigRequest)
    (world : World Stored Kept Engines) :
    ((components.serve configId request).perform world).2.stored = world.stored := by
  obtain ⟨_, _, _, _, _, served⟩ :=
    (components.finds_any request.cached world).serve_eq trivial configId rfl
  rw [served, (components.follow_stored ..).1]

/-- The world after the engines were asked to run a script. -/
def executed (world : World Stored Kept Engines) (request : Engine.Request) :
    World Stored Kept Engines :=
  let response := components.engines.run world.engines world.now request
  { world with engines := response.state, now := response.now }

/-- The world after a script whose program is not kept. -/
def RunsOnce (world after : World Stored Kept Engines) : Prop :=
  after = world ∨ ∃ request, request.cacheId = "" ∧ after = components.executed world request

/-- A script that runs reaches neither the store nor the cache. -/
theorem RunsOnce.same {world after : World Stored Kept Engines}
    (ran : components.RunsOnce world after) :
    after.stored = world.stored ∧ after.kept = world.kept := by
  rcases ran with rfl | ⟨request, _, rfl⟩
  · exact ⟨rfl, rfl⟩
  · exact ⟨rfl, rfl⟩

/-- A prepared script is executed under no identifier. -/
theorem runOnce_world (source : String) (prepared : Prepared)
    (world : World Stored Kept Engines) :
    ((components.runOnce source prepared).perform world).2
      = components.executed world ⟨prepared.language, "", source, prepared.params⟩ := by
  rw [runOnce, Action.perform_lift_bind, execute_eq, executed]
  dsimp only
  split <;> rfl

/-- A script on trial changes the workers at most. -/
theorem runPlayground_world (language : String) (request : PlaygroundRequest)
    (world : World Stored Kept Engines) :
    components.RunsOnce world ((components.runPlayground language request).perform world).2 := by
  rw [runPlayground, Action.perform_bind, Action.perform_conclude]
  cases readLanguage language with
  | error refusal => exact .inl rfl
  | ok language => exact .inr ⟨_, rfl, components.runOnce_world _ _ _⟩

/-- A test changes the workers at most. -/
theorem runTest_world (testId : String) (secret : Option String)
    (world : World Stored Kept Engines) :
    components.RunsOnce world ((components.runTest testId secret).perform world).2 := by
  rw [runTest, Action.perform_bind, Action.perform_conclude]
  cases requireTestSecret components.settings secret with
  | error refusal => exact .inl rfl
  | ok granted =>
    dsimp only
    rw [read_bind_world]
    rcases components.store.getTestCase world.stored testId with failure | _ | test
    · exact .inl rfl
    · exact .inl rfl
    · dsimp only
      rw [read_bind_world]
      rcases components.store.getCode world.stored test.codeId with failure | _ | code
      · exact .inl rfl
      · exact .inl rfl
      · dsimp only
        cases Json.readMembers? test.input with
        | none => exact .inl rfl
        | some input =>
          dsimp only
          rw [Action.perform_bind, Action.perform_conclude]
          cases prepare code input with
          | error refusal => exact .inl rfl
          | ok prepared =>
            dsimp only
            rw [Action.perform_get_bind, Action.perform_bind]
            have ran := components.runOnce_world code.content prepared world
            refine .inr ⟨⟨prepared.language, "", code.content, prepared.params⟩, rfl, ?_⟩
            generalize (components.runOnce code.content prepared).perform world = done at ran ⊢
            rcases done with ⟨refusal | output, after⟩ <;> exact ran

end Components

end ConfigDelivery.Delivery
