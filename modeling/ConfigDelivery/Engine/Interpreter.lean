import ConfigDelivery.Cache.Programs
import ConfigDelivery.Pool.Guest
import ConfigDelivery.Script.Finished
import ConfigDelivery.Script.Language
/-!
# Interpreters as guests

An interpreter compiles the scripts of one language and runs what it compiled,
step by step. As the guest of a pool it looks its programs up in the cache that
it shares with the guests of the other workers. Every run starts from a fresh
memory, so a worker has nothing to remember between its jobs.
-/

namespace ConfigDelivery.Engine

open ConfigDelivery.Cache (ProgramCache)
open ConfigDelivery.Pool (Activity Guest)
open ConfigDelivery.Script (Finished Language ScriptError)

/-- An interpreter of one language. -/
structure Interpreter (Program : Type) where
  /-- Compile the source of a script that goes by an identifier. -/
  compile : (cacheId source : String) → Except ScriptError Program
  /-- Run a program on parameters, for some steps at most. -/
  run : Program → (params : String) → (steps : Nat) → Finished
  /-- A run that is asked to stop does so. -/
  isStoppable : Bool

/-- How many steps an interpreter makes in a microsecond. -/
def stepsPerMicrosecond : Nat := 20

/-- How long a job takes beside the steps of its run. -/
def overhead : Duration := 100

/-- A run of more steps is taken for one without end. -/
def endlessSteps : Nat := 20000000

/-- How long a run goes on that has used its time up and cannot be stopped. -/
def overrun : Duration := Duration.ofSeconds 1

/-- The steps that a run may make in a time. -/
def stepLimit (timeout : Duration) : Nat := min (timeout * stepsPerMicrosecond) endlessSteps

namespace Interpreter

variable {Program : Type}

/-- What a job does that runs no program. -/
def atOnce (interpreter : Interpreter Program) (outcome : Except ScriptError String) :
    Activity Unit :=
  ⟨.taking overhead interpreter.isStoppable, fun _ => (.returned outcome, ())⟩

/-- What a job does with a program: it ends with the run, if that makes it in time. Nobody waits
for the outcome of another. -/
def activity (interpreter : Interpreter Program) (timeout : Duration) (program : Program)
    (params : String) : Activity Unit :=
  let finished := interpreter.run program params (stepLimit timeout)
  match finished.outcome with
  | some outcome =>
    ⟨.taking (overhead + finished.steps / stepsPerMicrosecond) interpreter.isStoppable,
      fun _ => (.returned outcome, ())⟩
  | none =>
    let pace :=
      if interpreter.isStoppable then .untilInterrupted else .taking (timeout + overrun) false
    ⟨pace, fun _ => (.returned (.error (.runtime "interrupted")), ())⟩

/-- The guest of a worker. Its programs come from the shared cache, and it has no memory. -/
def guest (interpreter : Interpreter Program) (timeout : Duration) :
    Guest (ProgramCache Program) Unit where
  execute cache _ job now :=
    let compiled :=
      cache.getOrCompile job.cacheId now fun _ => interpreter.compile job.cacheId job.source
    let activity :=
      match compiled.outcome with
      | .ok program => interpreter.activity timeout program job.params
      | .error error => interpreter.atOnce (.error error)
    (activity, compiled.cache)
  reset _ := (.done, ())

end Interpreter

/-- An interpreter for every language, and what each of them compiles scripts to. -/
structure Interpreters where
  Program : Language → Type
  of : (language : Language) → Interpreter (Program language)

end ConfigDelivery.Engine
