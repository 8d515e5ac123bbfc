import ConfigDelivery.Engine.Installed
import ConfigDelivery.Proofs.Delivery.Changes
import Mathlib.Data.List.Induction
/-!
# How old the records of a request can be

A moment of a run is the number of events before it. Every kept text was read from the store at some
moment, after which no request read that record again, and every kept program is compiled from a
source of a moment that was not long past when it was compiled. So a request works with records of
moments within the time to live of the record cache, and runs a source of a moment within both times
to live and the time that a script had to wait for its worker.
-/

namespace ConfigDelivery.Delivery

open ConfigDelivery.Cache (MemoryRecordCache ProgramEntry RecordEntry)
open ConfigDelivery.Engine (Engines Interpreters installed)
open ConfigDelivery.Script (Language ScriptError)

variable {Stored Record : Type} {interpreters : Interpreters}

/-- An event asks for no configuration under a name that is no identifier. -/
def Event.IsNamed : Event → Prop
  | .operation (.getConfig configId _) => isRecordId configId = true
  | _ => True

namespace Components

variable (components : Components Stored MemoryRecordCache (Engines interpreters))
  (world : World Stored MemoryRecordCache (Engines interpreters)) (events : List Event)

/-- The world at a moment of a run. -/
def worldAt (count : Nat) : World Stored MemoryRecordCache (Engines interpreters) :=
  components.run world (events.take count)

/-- How long the script of a request that accepts cached records waits for its worker. -/
def scriptWait (world : World Stored MemoryRecordCache (Engines interpreters)) : Event → Duration
  | .operation (.getConfig configId request) =>
    match request.cached,
      (components.sight request.cached world configId).decision configId request with
    | true, .ok script => world.engines.startsAt world.now script.language - world.now
    | _, _ => 0
  | _ => 0

/-- The longest time in a run that the script of a request that accepts cached records waits for its
worker. -/
def longestWait (world : World Stored MemoryRecordCache (Engines interpreters)) :
    List Event → Duration
  | [] => 0
  | event :: rest =>
    max (components.scriptWait world event) (longestWait (components.step world event) rest)

/-- No request reads a record from the store after a moment. -/
def IsLatest (lookUp : LookUp) (count : Nat) : Prop :=
  ∀ other event, count < other → events[other]? = some event →
    ¬ components.ReadsStore (components.worldAt world events other) lookUp event

/-- A moment whose record a request may work with after a run. -/
structure SeenAt (cached : Bool) (lookUp : LookUp) (count : Nat) : Prop where
  past : count ≤ events.length
  recent : count = events.length ∨ (components.run world events).now
    < (components.worldAt world events count).now + components.settings.recordTimeToLive
  latest : components.IsLatest world events lookUp count
  current : cached = false → count = events.length

/-- What the look-ups of a request find is what the store held at moments whose records it may work
with. -/
structure FoundAt (cached : Bool) (configId : String) (findings : Findings) : Prop where
  config : ∃ count, components.SeenAt world events cached (.config configId) count ∧
    findings.config
      = components.store.getConfig (components.worldAt world events count).stored configId
  gray : ∀ config : Config, ∃ count,
    components.SeenAt world events cached (.code config.grayReleaseCode) count ∧
    findings.gray config = components.store.getCode
      (components.worldAt world events count).stored config.grayReleaseCode
  released : ∀ config : Config, ∃ count,
    components.SeenAt world events cached (.code config.releasedCode) count ∧
    findings.released config = components.store.getCode
      (components.worldAt world events count).stored config.releasedCode

/-- A code version had a source at a moment, which is not longer ago after a run than `lag`. -/
structure RunsFrom (lag : Duration) (cached : Bool) (codeId content : String) (count : Nat) :
    Prop where
  past : count ≤ events.length
  source : ∃ code, components.store.getCode (components.worldAt world events count).stored codeId
    = .ok (some code) ∧ code.content = content
  recent : (components.run world events).now
    ≤ (components.worldAt world events count).now + lag
  current : cached = false → count = events.length

/-- A request after a run is answered with the decision on records that it may work with, and a
script with the verdict on a source that is not longer ago than `lag`. -/
def AnsweredWithin (timeout lag : Duration) (configId : String) (request : ConfigRequest) : Prop :=
  let answer := ((components.serve configId request).perform (components.run world events)).1
  ∃ findings, components.FoundAt world events request.cached configId findings ∧
    match findings.decision configId request with
    | .error refusal => answer = .error refusal
    | .ok script =>
      ∃ count content,
        components.RunsFrom world events lag request.cached script.code.codeId content count ∧
        answer = script.answer ((interpreters.of script.language).verdict timeout
          ((interpreters.of script.language).compile (script.request request.cached).cacheId
            content)
          (Json.Value.object script.params).render)

/-- A kept text was read from the store at a moment. -/
structure ReadAt (lookUp : LookUp) (entry : RecordEntry) (count : Nat) : Prop where
  past : count ≤ events.length
  stores : components.Stores (components.worldAt world events count).stored lookUp entry.value
  expires : entry.expiresAt = (components.worldAt world events count).now
    + components.settings.recordTimeToLive
  latest : components.IsLatest world events lookUp count

/-- A kept program is compiled from what the source of a code version was at a moment, which was
not long past then: at most the time to live of a record and the wait of a script. -/
structure CompiledAt (language : Language) (id : String)
    (entry : ProgramEntry (interpreters.Program language)) (count : Nat) : Prop where
  past : count ≤ events.length
  source : ∃ configId codeId code, isRecordId configId = true ∧ id = programId configId codeId ∧
    components.store.getCode (components.worldAt world events count).stored codeId
      = .ok (some code) ∧
    (interpreters.of language).compile id code.content = .ok entry.program
  inserted : entry.insertedAt ≤ (components.worldAt world events count).now
    + components.settings.recordTimeToLive + components.longestWait world events

/-- Kept texts and kept programs come from moments of the run. -/
structure Traced (Valid : Stored → Prop) (settings : Engine.Settings) : Prop where
  valid : Valid (components.run world events).stored
  resting : (components.run world events).engines.IsResting
  timeout : (components.run world events).engines.timeout = settings.timeout
  timeToLive : ∀ language,
    ((components.run world events).engines.programs language).timeToLive
      = settings.cacheTimeToLive
  kept : ∀ {lookUp : LookUp} {entry : RecordEntry},
    (components.run world events).kept.entries.find? lookUp.key = some entry →
      (∃ count, components.ReadAt world events lookUp entry count) ∧
      ∃ text, components.Stores (components.run world events).stored lookUp text
  programs : ∀ {language id entry},
    ((components.run world events).engines.programs language).entries.find? id = some entry →
      ∃ count, components.CompiledAt world events language id entry count

variable {components} {world} {events} {Valid : Stored → Prop} {settings : Engine.Settings}
  {event : Event} {count : Nat} {lookUp : LookUp}

/-! ## Moments of longer runs -/

theorem worldAt_length : components.worldAt world events events.length
    = components.run world events := by
  rw [worldAt, List.take_length]

theorem run_concat (event : Event) : components.run world (events ++ [event])
    = components.step (components.run world events) event := by
  rw [run_append, run_cons]
  rfl

/-- An event that comes later leaves the earlier moments as they were. -/
theorem worldAt_concat (past : count ≤ events.length) (event : Event) :
    components.worldAt world (events ++ [event]) count = components.worldAt world events count := by
  rw [worldAt, worldAt, List.take_append_of_le_length past]

/-- The longest wait of a longer run is the longest so far or the last one. -/
theorem longestWait_concat (world : World Stored MemoryRecordCache (Engines interpreters))
    (events : List Event)
    (event : Event) :
    components.longestWait world (events ++ [event]) = max (components.longestWait world events)
      (components.scriptWait (components.run world events) event) := by
  induction events generalizing world with
  | nil => exact Nat.max_comm ..
  | cons first rest ih =>
    rw [List.cons_append, longestWait, longestWait, ih, Nat.max_assoc, run_cons]

/-- The longest wait does not get shorter as a run goes on. -/
theorem longestWait_le_concat (event : Event) : components.longestWait world events
    ≤ components.longestWait world (events ++ [event]) := by
  rw [longestWait_concat]
  exact Nat.le_max_left ..

/-- Of a moment that at most one event follows, no read of the store is later. -/
theorem isLatest_of_length_le (last : events.length ≤ count + 1) :
    components.IsLatest world events lookUp count := by
  intro other read later found
  obtain ⟨inside, _⟩ := List.getElem?_eq_some_iff.mp found
  omega

/-- A read stays the latest one until the store is read again. -/
theorem IsLatest.concat (latest : components.IsLatest world events lookUp count)
    (unread : ¬ components.ReadsStore (components.run world events) lookUp event) :
    components.IsLatest world (events ++ [event]) lookUp count := by
  intro other read later found
  obtain ⟨inside, _⟩ := List.getElem?_eq_some_iff.mp found
  rw [List.length_append, List.length_singleton] at inside
  have past : other ≤ events.length := Nat.le_of_lt_succ inside
  rw [worldAt_concat past]
  rcases Nat.lt_or_eq_of_le past with before | rfl
  · rw [List.getElem?_append_left before] at found
    exact latest other read later found
  · rw [List.getElem?_concat_length] at found
    cases found
    rw [worldAt_length]
    exact unread

/-- What was read at a moment was read then, until it is read again. -/
theorem ReadAt.concat {entry : RecordEntry}
    (read : components.ReadAt world events lookUp entry count)
    (unread : ¬ components.ReadsStore (components.run world events) lookUp event) :
    components.ReadAt world (events ++ [event]) lookUp entry count := by
  have same : components.worldAt world (events ++ [event]) count
      = components.worldAt world events count := worldAt_concat read.past event
  refine ⟨?_, ?_, ?_, read.latest.concat unread⟩
  · rw [List.length_append]
    exact Nat.le_add_right_of_le read.past
  · rw [same]
    exact read.stores
  · rw [same]
    exact read.expires

/-- What was compiled at a moment was compiled then, whatever comes later. -/
theorem CompiledAt.concat {language : Language} {id : String}
    {entry : ProgramEntry (interpreters.Program language)}
    (compiled : components.CompiledAt world events language id entry count) (event : Event) :
    components.CompiledAt world (events ++ [event]) language id entry count := by
  have same : components.worldAt world (events ++ [event]) count
      = components.worldAt world events count := worldAt_concat compiled.past event
  refine ⟨?_, ?_, ?_⟩
  · rw [List.length_append]
    exact Nat.le_add_right_of_le compiled.past
  · rw [same]
    exact compiled.source
  · rw [same]
    exact Nat.le_trans compiled.inserted (Nat.add_le_add_left (longestWait_le_concat event) _)

/-- At every moment the store is valid. -/
theorem valid_worldAt (lawful : components.store.Lawful Valid)
    (memory : components.records = some MemoryRecordCache.ops) (valid : Valid world.stored)
    (events : List Event) (count : Nat) :
    Valid (components.worldAt world events count).stored := by
  refine components.run_induction (fun before event _ (valid : Valid before.stored) => ?_) valid
  exact (persists_step lawful memory valid event).valid

/-! ## What a request works with -/

/-- What is stored now is seen as it is now. -/
theorem seenAt_length (cached : Bool) (lookUp : LookUp) :
    components.SeenAt world events cached lookUp events.length :=
  ⟨Nat.le_refl _, .inl rfl, isLatest_of_length_le (Nat.le_succ _), fun _ => rfl⟩

/-- A look-up finds what the store held at some moment. -/
theorem Traced.sees (traced : components.Traced world events Valid settings)
    {kind : RecordKind Stored Record} {name : String → LookUp}
    (presents : components.Presents kind name) (cached : Bool) (id : String) :
    ∃ count, components.SeenAt world events cached (name id) count ∧
      kind.sees cached id (components.run world events)
        = kind.fetch (components.worldAt world events count).stored id := by
  rw [RecordKind.sees]
  cases usable : kind.usable? cached id (components.run world events) with
  | none => exact ⟨events.length, seenAt_length .., by rw [worldAt_length]⟩
  | some record =>
    obtain ⟨accepts, entry, found, fresh, read⟩ := usable?_eq_some_iff.mp usable
    rw [presents.key] at found
    obtain ⟨⟨count, readAt⟩, _⟩ := traced.kept found
    refine ⟨count, ⟨readAt.past, .inr (readAt.expires ▸ fresh), readAt.latest, ?_⟩, ?_⟩
    · intro refuses
      cases accepts.symm.trans refuses
    · obtain ⟨stored, fetched, text⟩ := presents.stores.mp readAt.stores
      rw [text, presents.readText] at read
      cases read
      exact fetched.symm

/-- The records that a script is of are those of the store at some moments, under their
identifiers. -/
theorem Traced.decided (traced : components.Traced world events Valid settings)
    (lawful : components.store.Lawful Valid)
    (memory : components.records = some MemoryRecordCache.ops) (valid : Valid world.stored)
    {configId : String} {request : ConfigRequest} {script : ServedScript}
    (decided : (components.sight request.cached (components.run world events) configId).decision
      configId request = .ok script) :
    script.config.configId = configId ∧
    ∃ count, components.SeenAt world events request.cached (.code script.code.codeId) count ∧
      components.store.getCode (components.worldAt world events count).stored script.code.codeId
        = .ok (some script.code) := by
  have validAt := valid_worldAt lawful memory valid events
  obtain ⟨served, _, found⟩ := Findings.decision_eq_ok decided
  constructor
  · obtain ⟨count, _, sees⟩ := traced.sees components.presents_configs request.cached configId
    exact lawful.configId_eq (validAt count) (sees.symm.trans (servedConfig_eq_ok served))
  · have stands {id : String}
        (found : components.codes.sees request.cached id (components.run world events)
          = .ok (some script.code)) :
        ∃ count,
          components.SeenAt world events request.cached (.code script.code.codeId) count ∧
          components.store.getCode (components.worldAt world events count).stored
            script.code.codeId = .ok (some script.code) := by
      obtain ⟨count, seenAt, sees⟩ := traced.sees components.presents_codes request.cached id
      have stored := sees.symm.trans found
      obtain rfl : script.code.codeId = id := lawful.codeId_eq (validAt count) stored
      exact ⟨count, seenAt, stored⟩
    rcases found with found | found
    · exact stands found
    · exact stands found

/-- What is seen is no older than the time to live of a record. -/
theorem SeenAt.now_le {cached : Bool}
    (seenAt : components.SeenAt world events cached lookUp count) :
    (components.run world events).now ≤ (components.worldAt world events count).now
      + components.settings.recordTimeToLive := by
  rcases seenAt.recent with rfl | recent
  · rw [worldAt_length]
    exact Nat.le_add_right ..
  · exact Nat.le_of_lt recent

/-! ## What an event keeps -/

/-- A request that runs a script waits from now until a worker starts it. -/
theorem scriptWait_eq {world : World Stored MemoryRecordCache (Engines interpreters)}
    {configId : String}
    {request : ConfigRequest} (accepts : request.cached = true) {script : ServedScript}
    (decided : (components.sight request.cached world configId).decision configId request
      = .ok script) :
    components.scriptWait world (.operation (.getConfig configId request))
      = world.engines.startsAt world.now script.language - world.now := by
  rw [scriptWait, decided, accepts]

/-- A program that a request leaves behind is compiled from a source that was not long past when
its script started. -/
theorem Traced.left (traced : components.Traced world events Valid settings)
    (lawful : components.store.Lawful Valid)
    (memory : components.records = some MemoryRecordCache.ops) (valid : Valid world.stored)
    (isNamed : event.IsNamed) {language : Language} {id : String}
    {entry : ProgramEntry (interpreters.Program language)}
    (left : components.Leaves (components.run world events) event language id entry) :
    ∃ count, components.CompiledAt world (events ++ [event]) language id entry count := by
  cases left with
  | @left configId request script _ _ _ decided inserted =>
    cases inserted with
    | inserted named compiles insertedAt =>
      have accepts : request.cached = true := by
        by_contra refuses
        exact named (if_neg refuses)
      obtain ⟨sameConfig, count, seenAt, stored⟩ := traced.decided lawful memory valid decided
      have sameWorld : components.worldAt world
          (events ++ [.operation (.getConfig configId request)]) count
          = components.worldAt world events count := worldAt_concat seenAt.past _
      refine ⟨count, ?_, ?_, ?_⟩
      · rw [List.length_append]
        exact Nat.le_add_right_of_le seenAt.past
      · rw [sameWorld]
        exact ⟨script.config.configId, script.code.codeId, script.code, sameConfig ▸ isNamed,
          if_pos accepts, stored, compiles⟩
      · rw [sameWorld, insertedAt]
        have waits :
            (components.run world events).engines.startsAt (components.run world events).now
              script.language - (components.run world events).now
            ≤ components.longestWait world
              (events ++ [.operation (.getConfig configId request)]) := by
          rw [← scriptWait_eq accepts decided, longestWait_concat]
          exact Nat.le_max_right ..
        exact Nat.le_trans (Nat.sub_le_iff_le_add'.mp waits)
          (Nat.add_le_add_right seenAt.now_le _)

/-- One more named event keeps everything traced. -/
theorem Traced.concat (traced : components.Traced world events Valid settings)
    (lawful : components.store.Lawful Valid) (concrete : components.engines = Engines.ops)
    (memory : components.records = some MemoryRecordCache.ops) (valid : Valid world.stored)
    {event : Event} (isNamed : event.IsNamed) :
    components.Traced world (events ++ [event]) Valid settings := by
  have persists := persists_step lawful memory traced.valid event
  have after := enginesAfter_step concrete memory traced.resting event
  have run : components.run world (events ++ [event])
      = components.step (components.run world events) event := run_concat event
  refine ⟨?_, ?_, ?_, ?_, ?_, ?_⟩
  · rw [run]
    exact persists.valid
  · rw [run]
    exact after.resting
  · rw [run]
    exact after.timeout.trans traced.timeout
  · intro language
    rw [run]
    exact (after.timeToLive language).trans (traced.timeToLive language)
  · intro lookUp entry found
    rw [run] at found ⊢
    rcases keeps_step memory (fun held => (traced.kept held).2) event found with
      ⟨old, unread⟩ | ⟨stores, expires⟩
    · obtain ⟨⟨count, read⟩, text, stores⟩ := traced.kept old
      exact ⟨⟨count, read.concat unread⟩, persists.stores stores⟩
    · refine ⟨⟨events.length, ?_, ?_, ?_, isLatest_of_length_le ?_⟩, persists.stores stores⟩
      · rw [List.length_append]
        exact Nat.le_add_right ..
      · rw [worldAt_concat (Nat.le_refl _), worldAt_length]
        exact stores
      · rw [worldAt_concat (Nat.le_refl _), worldAt_length]
        exact expires
      · rw [List.length_append]
        exact Nat.le_refl _
  · intro language id entry found
    rw [run] at found
    rcases after.programs found with old | left
    · obtain ⟨count, compiled⟩ := traced.programs old
      exact ⟨count, compiled.concat event⟩
    · exact traced.left lawful memory valid isNamed left

/-- All that is kept after a run comes from moments of it. -/
theorem traced_run (lawful : components.store.Lawful Valid)
    (concrete : components.engines = Engines.ops)
    (memory : components.records = some MemoryRecordCache.ops) (valid : Valid world.stored)
    (empty : world.kept = {}) {start : Instant}
    (fresh : Engines.new interpreters settings start = .ok world.engines)
    (named : ∀ event ∈ events, event.IsNamed) :
    components.Traced world events Valid settings := by
  induction events using List.reverseRecOn with
  | nil =>
    obtain ⟨resting, timeout, programs⟩ := Engines.isResting_new fresh
    refine ⟨valid, resting, timeout, fun language => ?_, ?_, ?_⟩
    · exact congrArg (·.timeToLive) (programs language)
    · intro lookUp entry found
      have absent : world.kept.entries.find? lookUp.key = none := by
        rw [empty]
        rfl
      cases absent.symm.trans found
    · intro language id entry found
      have absent : (world.engines.programs language).entries.find? id = none := by
        rw [programs]
        rfl
      cases absent.symm.trans found
  | append_singleton events event ih =>
    have before := ih fun other mem => named other (List.mem_append_left _ mem)
    exact before.concat lawful concrete memory valid
      (named event (List.mem_append_right _ (List.mem_singleton_self _)))

/-! ## What a request is answered with -/

/-- What a request finds was stored at moments within the time to live. -/
theorem Traced.foundAt (traced : components.Traced world events Valid settings) (cached : Bool)
    (configId : String) :
    components.FoundAt world events cached configId
      (components.sight cached (components.run world events) configId) where
  config := traced.sees components.presents_configs cached configId
  gray config := traced.sees components.presents_codes cached config.grayReleaseCode
  released config := traced.sees components.presents_codes cached config.releasedCode

/-- A script runs what a source compiles to that is not long past: its own, or that of a kept
program. -/
theorem Traced.runsFrom (traced : components.Traced world events Valid settings)
    (lawful : components.store.Lawful Valid)
    (memory : components.records = some MemoryRecordCache.ops) (valid : Valid world.stored)
    {configId : String} (isId : isRecordId configId = true) {request : ConfigRequest}
    {script : ServedScript}
    (decided : (components.sight request.cached (components.run world events) configId).decision
      configId request = .ok script) :
    let reached := components.run world events
    ∃ count content,
      components.RunsFrom world events (components.settings.recordTimeToLive
        + components.longestWait world events + settings.cacheTimeToLive) request.cached
        script.code.codeId content count ∧
      (reached.engines.run reached.now (script.request request.cached)).outcome
        = (interpreters.of script.language).verdict settings.timeout
          ((interpreters.of script.language).compile (script.request request.cached).cacheId
            content)
          (Json.Value.object script.params).render := by
  intro reached
  obtain ⟨compiled, ran⟩ := traced.resting.run reached.now (script.request request.cached)
  obtain ⟨sameConfig, count, seenAt, stored⟩ := traced.decided lawful memory valid decided
  have outcome := ran.outcome
  rw [traced.timeout] at outcome
  rcases ran.obtained.eq_or_fresh with rfl | ⟨entry, isNamed, found, fresh, rfl⟩
  · refine ⟨count, script.code.content, ⟨seenAt.past, ⟨script.code, stored, rfl⟩, ?_,
      seenAt.current⟩, outcome⟩
    rw [Nat.add_assoc, ← Nat.add_assoc]
    exact Nat.le_add_right_of_le seenAt.now_le
  · have accepts : request.cached = true := by
      by_contra refuses
      exact isNamed (if_neg refuses)
    obtain ⟨origin, compiled⟩ := traced.programs found
    obtain ⟨otherConfig, codeId, code, isOther, same, source, compiles⟩ := compiled.source
    have sameId : programId script.config.configId script.code.codeId
        = programId otherConfig codeId := (if_pos accepts).symm.trans same
    obtain ⟨_, rfl⟩ := programId_injective (sameConfig ▸ isId) isOther sameId
    have age : reached.now ≤ entry.insertedAt + settings.cacheTimeToLive := by
      rw [traced.timeToLive] at fresh
      exact Nat.le_trans ran.starts (Nat.sub_le_iff_le_add'.mp fresh)
    refine ⟨origin, code.content, ⟨compiled.past, ⟨code, source, rfl⟩, ?_, ?_⟩, ?_⟩
    · rw [← Nat.add_assoc, ← Nat.add_assoc]
      exact Nat.le_trans age (Nat.add_le_add_right compiled.inserted _)
    · intro refuses
      cases accepts.symm.trans refuses
    · rw [← compiles] at outcome
      exact outcome

/-- Whatever is written at whatever moment, a request works with records of moments within the time
to live of the record cache, none of them before the last read of that record from the store, and
runs a source of a moment within both times to live and the longest wait of a script for its worker.
A request that accepts no cached records works with what the store holds. -/
theorem serve_recent (components : Components Stored MemoryRecordCache (Engines interpreters))
    (concrete : components.engines = Engines.ops)
    (memory : components.records = some MemoryRecordCache.ops)
    (lawful : components.store.Lawful Valid)
    (world : World Stored MemoryRecordCache (Engines interpreters))
    (valid : Valid world.stored) (empty : world.kept = {}) (settings : Engine.Settings)
    (start : Instant) (fresh : Engines.new interpreters settings start = .ok world.engines)
    (events : List Event) (named : ∀ event ∈ events, event.IsNamed) (configId : String)
    (isId : isRecordId configId = true) (request : ConfigRequest) :
    components.AnsweredWithin world events settings.timeout
      (components.settings.recordTimeToLive + components.longestWait world events
        + settings.cacheTimeToLive) configId request := by
  have traced : components.Traced world events Valid settings :=
    traced_run lawful concrete memory valid empty fresh named
  obtain ⟨after, _, served⟩ :=
    serve_memory memory (components.run world events) configId request
  refine ⟨components.sight request.cached (components.run world events) configId,
    traced.foundAt request.cached configId, ?_⟩
  rw [served]
  cases decided : (components.sight request.cached (components.run world events) configId).decision
      configId request with
  | error refusal => rfl
  | ok script =>
    obtain ⟨count, content, runsFrom, outcome⟩ :=
      traced.runsFrom lawful memory valid isId decided
    refine ⟨count, content, runsFrom, ?_⟩
    dsimp only [follow]
    rw [concrete, ← outcome]
    rfl

end Components

/-! ## A script that waits for its worker -/

namespace BusyWorker

/-- A configuration with one code version. -/
def config : Config := { configId := "app", releasedCode := "greeting", status := "valid" }

/-- A code version that needs a parameter. -/
def greeting (content : String) : Code :=
  { codeId := "greeting", lang := "starlark", params := [⟨"name", "string"⟩], content }

/-- The records in memory; the script of one code version takes longer than it may. -/
def stored : Store.MemoryStore where
  configs := ⟨[("app", config),
    ("batch", { configId := "batch", releasedCode := "slow", status := "valid" })]⟩
  codes := ⟨[("greeting", greeting "return 1"),
    ("slow", { codeId := "slow", lang := "starlark", content := "return [0] * 60" })]⟩

theorem isIndexed_stored : stored.IsIndexed where
  configs := by
    intro id config found
    simp only [stored, Table.find?, Table.findIn] at found
    repeat' split at found
    all_goals cases found
    all_goals assumption
  codes := by
    intro id code found
    simp only [stored, Table.find?, Table.findIn] at found
    repeat' split at found
    all_goals cases found
    all_goals assumption

/-- One worker for each language. -/
def settings : Engine.Settings := { poolSize := 1, timeout := 100, cacheTimeToLive := 100 }

/-- Engines without programs. -/
def engines : Engines installed := (Engines.new installed settings 0).toOption.get rfl

/-- The components, with a cache in memory. -/
def components : Components Store.MemoryStore MemoryRecordCache (Engines installed) where
  store := Store.MemoryStore.ops
  records := some MemoryRecordCache.ops
  engines := Engines.ops
  wallClock _ := .ok 0
  settings := { recordTimeToLive := 101 }

/-- The records, and nothing kept. -/
def world : World Store.MemoryStore MemoryRecordCache (Engines installed) :=
  ⟨stored, {}, engines, 0⟩

/-- A request that accepts cached records. -/
def request : ConfigRequest := { params := [("name", .string "a")], cached := true }

/-- The records are kept after a request that lacks its parameter; then the code version is
written, and a script is given up that keeps the worker busy. The next request finds the kept
records, and its script waits for the worker. -/
def events : List Event := [
  .operation (.getConfig "app" { cached := true }),
  .putCode (greeting "return 2"),
  .operation (.getConfig "batch" {}),
  .operation (.getConfig "app" request)]

/-- What the store holds in the course of the run, and what the request is answered after it. -/
theorem run_busy :
    (∀ count ≤ 4,
      let moment := components.worldAt world events count
      components.store.getConfig moment.stored "app" = .ok (some config) ∧
      components.store.getCode moment.stored "greeting"
        = .ok (some (greeting (if count < 2 then "return 1" else "return 2"))) ∧
      ((components.run world events).now ≤ moment.now
        + (components.settings.recordTimeToLive + settings.cacheTimeToLive) → ¬ count < 2)) ∧
    ((components.serve "app" request).perform (components.run world events)).1
      = .ok ⟨"1", "greeting"⟩ ∧
    components.longestWait world events = 3 := by
  decide +kernel

/-- The answer is behind the store, by no more than both times to live and the wait. -/
theorem serve_recent_busy :
    components.longestWait world events = 3 ∧
    components.AnsweredWithin world events settings.timeout
      (components.settings.recordTimeToLive + components.longestWait world events
        + settings.cacheTimeToLive) "app" request := by
  refine ⟨run_busy.2.2, ?_⟩
  have named : ∀ event ∈ events, event.IsNamed := by
    simp [events, Event.IsNamed]
    decide
  exact components.serve_recent rfl rfl Store.MemoryStore.lawful world isIndexed_stored rfl settings
    0 rfl events named "app" (by decide) request

theorem decision_eq {findings : Findings} {content : String}
    (isConfig : findings.config = .ok (some config))
    (isCode : findings.released config = .ok (some (greeting content))) :
    findings.decision "app" request
      = .ok ⟨config, greeting content, .starlark, request.params⟩ := by
  have active : servedConfig "app" findings.config = .ok config := by
    rw [isConfig]
    rfl
  have chosen : chosenCode config request.requestMeta.deviceId (findings.gray config)
      (findings.released config) = .ok (greeting content) := by
    have missed : ¬ Targeting.bucket request.requestMeta.deviceId config.grayReleaseCode
        < config.percentage.toNat := Nat.not_lt_zero _
    rw [chosenCode, if_neg missed, isCode]
    rfl
  rw [Findings.decision, active, ok_bind, chosen]
  rfl

/-- Without the wait, both times to live are no bound: the source that is run was written over
longer ago. -/
theorem not_answeredWithin_busy :
    ¬ components.AnsweredWithin world events settings.timeout
      (components.settings.recordTimeToLive + settings.cacheTimeToLive) "app" request := by
  rintro ⟨findings, found, answered⟩
  obtain ⟨moments, served, _⟩ := run_busy
  obtain ⟨count, seenAt, isConfig⟩ := found.config
  rw [(moments count seenAt.past).1] at isConfig
  obtain ⟨count, seenAt, isCode⟩ := found.released config
  obtain ⟨_, held, _⟩ := moments count seenAt.past
  have decided := decision_eq isConfig (isCode.trans held)
  rw [decided, served] at answered
  obtain ⟨origin, content, runsFrom, answer⟩ := answered
  obtain ⟨code, source, rfl⟩ := runsFrom.source
  obtain ⟨_, held, recent⟩ := moments origin runsFrom.past
  rw [if_neg (recent runsFrom.recent)] at held
  cases held.symm.trans source
  have rewritten : (installed.of .starlark).verdict settings.timeout
      ((installed.of .starlark).compile "app/greeting" "return 2")
      (Json.Value.object request.params).render = .ok "2" := by decide +kernel
  have different := answer.trans (congrArg _ rewritten)
  simp [ServedScript.answer] at different

end BusyWorker

end ConfigDelivery.Delivery
