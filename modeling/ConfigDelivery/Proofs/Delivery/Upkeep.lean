import ConfigDelivery.Proofs.Delivery.Runs
/-!
# What the delivery does to a record cache

It reads texts, keeps texts of records from the store for the time that the settings say, and drops
texts, all at the instant that the world shows. So a property of the kept texts lasts through a run
that each of these operations keeps, whatever the cache is. A request that does not accept cached
records has the text of its configuration kept before it does anything else.
-/

namespace ConfigDelivery.Cache

/-- Every operation on a cache at an instant keeps a property of its contents, if texts are kept for
some time. -/
structure RecordCacheOps.Maintains {State : Type} (records : RecordCacheOps State)
    (Lasting : State → Prop) (now : Instant) (timeToLive : Duration) : Prop where
  get : ∀ {kept} key, Lasting kept → Lasting (records.get kept now key).2
  set : ∀ {kept} key text, Lasting kept → Lasting (records.set kept now key text timeToLive).2
  remove : ∀ {kept} key, Lasting kept → Lasting (records.remove kept key).2

end ConfigDelivery.Cache

namespace ConfigDelivery.Delivery

open ConfigDelivery.Cache (RecordCacheOps configKey)

variable {Stored Kept Engines Record : Type}

namespace Components

variable {components : Components Stored Kept Engines} {world : World Stored Kept Engines}
  {Lasting : Kept → Prop}

variable (components) in
/-- Whatever the components do to their cache at an instant keeps a property of the kept texts. -/
def Maintains (Lasting : Kept → Prop) (now : Instant) : Prop :=
  ∀ records, components.records = some records →
    records.Maintains Lasting now components.settings.recordTimeToLive

/-! ## One look-up -/

/-- A fetched record leaves the cache as it has to be. -/
theorem Maintains.fetchRecord (world : World Stored Kept Engines)
    (maintains : components.Maintains Lasting world.now) (lasting : Lasting world.kept)
    (kind : RecordKind Stored Record) (id : String) :
    Lasting (components.refreshed kind id world) := by
  rcases components.refreshed_eq kind id world with same | ⟨records, record, caching, -, same⟩
  · rw [same]
    exact lasting
  · rw [same]
    exact (maintains records caching).set _ _ lasting

/-- A loaded record leaves the cache as it has to be. -/
theorem Maintains.loadRecord (world : World Stored Kept Engines)
    (maintains : components.Maintains Lasting world.now) (lasting : Lasting world.kept)
    (kind : RecordKind Stored Record) (cached : Bool) (id : String) :
    ∃ found after, Lasting after ∧
      components.loadRecord kind cached id world = (found, { world with kept := after }) := by
  obtain ⟨found, after, loaded, answered⟩ := components.loadRecord_loaded kind cached id world
  refine ⟨found, after, ?_, answered⟩
  cases loaded with
  | @kept records text record after caching answered read =>
    have seen := (maintains records caching).get (kind.key id) lasting
    rwa [answered] at seen
  | @fetched seen looked =>
    have lasting : Lasting seen := by
      rcases looked with rfl | ⟨records, caching, rfl⟩
      · exact lasting
      · exact (maintains records caching).get _ lasting
    exact maintains.fetchRecord { world with kept := seen } lasting kind id

/-- Look-ups leave the cache as it has to be, whatever they find. -/
theorem Maintains.finds (maintains : components.Maintains Lasting world.now) (cached : Bool) :
    components.Finds cached world (fun _ => Lasting) (fun _ _ => True) (fun _ _ => True) where
  config {_ kept} id lasting := by
    obtain ⟨found, after, lasting, answered⟩ :=
      maintains.loadRecord { world with kept } lasting components.configs cached id
    exact ⟨found, after, trivial, lasting, answered⟩
  code {_ kept} id lasting := by
    obtain ⟨found, after, lasting, answered⟩ :=
      maintains.loadRecord { world with kept } lasting components.codes cached id
    exact ⟨found, after, trivial, lasting, answered⟩

/-! ## Runs -/

theorem Maintains.serve (maintains : components.Maintains Lasting world.now)
    (lasting : Lasting world.kept) (configId : String) (request : ConfigRequest) :
    Lasting ((components.serve configId request).perform world).2.kept := by
  obtain ⟨findings, after, -, -, lasting, served⟩ :=
    (maintains.finds request.cached).serve_eq lasting configId rfl
  rw [served, (components.follow_stored ..).2]
  exact lasting

theorem Maintains.reportError (maintains : components.Maintains Lasting world.now)
    (lasting : Lasting world.kept) (configId codeId : String) (secret : Option String)
    (report : ErrorReport) :
    Lasting ((components.reportError configId codeId secret report).perform world).2.kept := by
  have reported := components.reportError_reported configId codeId secret report world
  generalize (components.reportError configId codeId secret report).perform world = ended
    at reported ⊢
  cases reported with
  | refused refusal => exact lasting
  | failed recorded => exact lasting
  | recorded found works recorded =>
    dsimp only [forgotten]
    split
    · exact lasting
    · rename_i records caching
      exact (maintains records caching).remove _ lasting

theorem Maintains.step (maintains : components.Maintains Lasting world.now)
    (lasting : Lasting world.kept) (event : Event) :
    Lasting (components.step world event).kept := by
  cases event with
  | operation operation =>
    cases operation with
    | getConfig configId request => exact maintains.serve lasting configId request
    | reportError configId codeId secret report =>
      exact maintains.reportError lasting configId codeId secret report
    | runTest testId secret =>
      have same := (components.runTest_world testId secret world).same.2
      exact same ▸ lasting
    | runPlayground language request =>
      have same := (components.runPlayground_world language request world).same.2
      exact same ▸ lasting
  | putConfig config => exact lasting
  | putCode code => exact lasting
  | putTestCase testCase => exact lasting
  | wait duration => exact lasting

/-- The instants at which the events of a run come. -/
def instants (components : Components Stored Kept Engines) :
    World Stored Kept Engines → List Event → List Instant
  | _, [] => []
  | world, event :: rest => world.now :: instants components (components.step world event) rest

/-- What is kept at every instant of a run, a run keeps. -/
theorem lasting_run {events : List Event}
    (maintains : ∀ now ∈ components.instants world events, components.Maintains Lasting now)
    (lasting : Lasting world.kept) : Lasting (components.run world events).kept := by
  induction events generalizing world with
  | nil => exact lasting
  | cons event rest ih =>
    rw [instants, List.forall_mem_cons] at maintains
    exact ih maintains.2 (maintains.1.step lasting event)

/-! ## A request without cached records -/

/-- A request that does not accept cached records has the text of its configuration kept. What comes
of that is there after the request, if everything else that is done to the cache keeps it. -/
theorem Maintains.serve_keeps_config (maintains : components.Maintains Lasting world.now)
    {records : RecordCacheOps Kept} (caching : components.records = some records)
    {configId : String} {config : Config}
    (configured : components.store.getConfig world.stored configId = .ok (some config))
    (comes : ∀ kept, Lasting (records.set kept world.now (configKey configId)
      config.document.render components.settings.recordTimeToLive).2)
    {request : ConfigRequest} (uncached : request.cached = false) :
    Lasting ((components.serve configId request).perform world).2.kept := by
  have finds : components.Finds false world
      (fun asked kept => .config configId ∈ asked → Lasting kept)
      (fun _ _ => True) (fun _ _ => True) :=
    { config := fun {asked kept} id lasting => by
        rw [components.loadRecord_of_uncached _ _ _ (.inl rfl), components.fetchRecord_eq]
        refine ⟨_, _, trivial, fun mem => ?_, rfl⟩
        by_cases before : .config configId ∈ asked
        · exact maintains.fetchRecord { world with kept } (lasting before) _ id
        · obtain rfl : configId = id := by simpa [before] using mem
          have fetched : components.configs.fetch world.stored configId = .ok (some config) :=
            configured
          rw [refreshed, caching, fetched]
          exact comes kept
      code := fun {asked kept} id lasting => by
        rw [components.loadRecord_of_uncached _ _ _ (.inl rfl), components.fetchRecord_eq]
        refine ⟨_, _, trivial, fun mem => ?_, rfl⟩
        have before : .config configId ∈ asked := by simpa using mem
        exact maintains.fetchRecord { world with kept } (lasting before) _ id }
  obtain ⟨findings, after, -, -, lasting, served⟩ :=
    finds.serve_eq (by simp) configId uncached
  rw [served, (components.follow_stored ..).2]
  exact lasting (List.mem_cons_self ..)

end Components

end ConfigDelivery.Delivery
