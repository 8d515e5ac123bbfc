import ConfigDelivery.Engine.Interface
import ConfigDelivery.Engine.Interpreter
import ConfigDelivery.Pool.Schedule
/-!
# Script engines with workers

Each language has a pool of workers of its own, which share one cache of compiled
programs. Which interpreter does the work is left open. The operations take the
time at which they are called, so that jobs which were given up can come to their
end in between.
-/

namespace ConfigDelivery.Engine

open ConfigDelivery.Cache (ProgramCache)
open ConfigDelivery.Pool (Guest Job Schedule Startup WorkerPool)
open ConfigDelivery.Script

/-- The workers of a language in the course of time. -/
abbrev Workers (interpreters : Interpreters) (language : Language) : Type :=
  Schedule (ProgramCache (interpreters.Program language)) Unit

/-- What engines are built from. -/
structure Settings where
  poolSize : Nat := Pool.defaultSize
  timeout : Duration := Pool.defaultTimeout
  cacheTimeToLive : Duration := ProgramCache.defaultTimeToLive
  cacheMaxEntries : Nat := ProgramCache.defaultMaxEntries

/-- The engines of all languages. -/
structure Engines (interpreters : Interpreters) where
  timeout : Duration
  workers : (language : Language) → Workers interpreters language

namespace Engines

/-- The workers of a language, or why they cannot be had. -/
def start (interpreters : Interpreters) (settings : Settings) (now : Instant)
    (language : Language) : Except Failure (Workers interpreters language) := do
  let cache := ProgramCache.new settings.cacheTimeToLive settings.cacheMaxEntries
  let pool ←
    WorkerPool.new language.name settings.poolSize settings.timeout cache fun _ => .ready ()
  return { pool, now }

/-- Engines with idle workers and no programs. -/
def new (interpreters : Interpreters) (settings : Settings) (now : Instant) :
    Except Failure (Engines interpreters) := do
  let javascript ← start interpreters settings now .javascript
  let starlark ← start interpreters settings now .starlark
  return {
    timeout := settings.timeout
    workers := fun
      | .javascript => javascript
      | .starlark => starlark }

variable {interpreters : Interpreters}

/-- What the workers of a language do their jobs on. -/
def guest (engines : Engines interpreters) (language : Language) :
    Guest (ProgramCache (interpreters.Program language)) Unit :=
  (interpreters.of language).guest engines.timeout

/-- Put other workers in the place of those of a language. -/
def set (engines : Engines interpreters) (language : Language)
    (workers : Workers interpreters language) : Engines interpreters :=
  { engines with
    workers := fun other =>
      if same : language = other then same ▸ workers else engines.workers other }

@[simp] theorem workers_set_same (engines : Engines interpreters) (language : Language)
    (workers : Workers interpreters language) :
    (engines.set language workers).workers language = workers := by
  simp [set]

/-- To give one language other workers leaves those of the others as they are. -/
theorem workers_set_of_ne (engines : Engines interpreters) {language other : Language}
    (workers : Workers interpreters language) (different : language ≠ other) :
    (engines.set language workers).workers other = engines.workers other := by
  simp [set, different]

/-- The workers of a language at a later time. -/
def workersAt (engines : Engines interpreters) (now : Instant) (language : Language) :
    Workers interpreters language :=
  (engines.workers language).advance (engines.guest language) now

/-- Run a script and wait for its end. -/
def run (engines : Engines interpreters) (now : Instant) (request : Request) :
    Response (Engines interpreters) :=
  let language := request.language
  let job : Job := ⟨request.cacheId, request.source, request.params⟩
  let (outcome, workers) := (engines.workersAt now language).run (engines.guest language) job
  { outcome := outcome.getD (.error (.timeout engines.timeout))
    state := engines.set language workers
    now := workers.now }

/-- The compiled programs of a language. -/
def programs (engines : Engines interpreters) (language : Language) :
    ProgramCache (interpreters.Program language) :=
  (engines.workers language).pool.shared

/-- Drop a compiled program, and say whether there was one. -/
def clear (engines : Engines interpreters) (language : Language) (cacheId : String) :
    Bool × Engines interpreters :=
  let workers := engines.workers language
  let (existed, programs) := (engines.programs language).clear cacheId
  (existed, engines.set language { workers with pool := { workers.pool with shared := programs } })

/-- The number of busy workers of a language at some time. -/
def busy (engines : Engines interpreters) (now : Instant) (language : Language) : Nat :=
  (engines.workersAt now language).pool.busy

/-- The number of workers of a language. -/
def size (engines : Engines interpreters) (language : Language) : Nat :=
  (engines.workers language).pool.size

/-- How busy the workers of a language are at some time. -/
def health (engines : Engines interpreters) (now : Instant) (language : Language) : Health where
  size := engines.size language
  busy := engines.busy now language
  cachedPrograms := (engines.programs language).size

/-- The operations of the engines, as the service needs them. -/
def ops : EngineOps (Engines interpreters) where
  run := run
  health := health

end Engines

end ConfigDelivery.Engine
