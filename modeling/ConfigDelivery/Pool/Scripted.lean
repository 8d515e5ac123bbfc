import ConfigDelivery.Pool.Schedule
import ConfigDelivery.Text.Blank
/-!
# A guest that does what it is told

A guest whose jobs say how they end: the first word of the source is a command.
It shows what a pool makes of every way in which a job, its reset or its worker
can end.
-/

namespace ConfigDelivery.Pool

open ConfigDelivery.Script (ScriptError)

/-- How the next reset ends. -/
inductive ResetPlan where
  | clean
  | fail
  | panic
  deriving DecidableEq, Repr

/-- The memory of a scripted guest: its worker's name, a mark that jobs may leave, and how the next
reset ends. -/
structure ScriptedMemory where
  name : String
  isDirty : Bool := false
  resetPlan : ResetPlan := .clean
  deriving DecidableEq, Repr

namespace Scripted

/-- The command of a source and what follows its colon. -/
def command (source : String) : String × String :=
  match Text.cut? ':' source.toList with
  | some (word, rest) => (String.ofList word, String.ofList rest)
  | none => (source, "")

/-- Run a command. -/
def execute (memory : ScriptedMemory) (job : Job) : Activity ScriptedMemory :=
  let memory := { memory with resetPlan := .clean }
  let now (execution : Execution) (memory : ScriptedMemory) : Activity ScriptedMemory :=
    ⟨.taking 0 true, fun _ => (execution, memory)⟩
  let value (text : String) : Activity ScriptedMemory := now (.returned (.ok text)) memory
  let dirty := { memory with isDirty := true }
  let (word, rest) := command job.source
  match word with
  | "echo" => value job.params
  | "id" => value job.cacheId
  | "name" => value memory.name
  | "taint" => now (.returned (.ok "tainted")) dirty
  | "state" => value (if memory.isDirty then "dirty" else "clean")
  | "taint_panic" => now .panicked dirty
  | "panic" => now .panicked memory
  | "syntax" => now (.returned (.error (.badSyntax rest))) memory
  | "runtime" => now (.returned (.error (.runtime rest))) memory
  | "spin" =>
    ⟨.untilInterrupted, fun _ => (.returned (.error (.runtime "interrupted")), memory)⟩
  | "gate" => ⟨.untilReleased, fun _ => (.returned (.ok memory.name), memory)⟩
  | "reset_error" =>
    now (.returned (.ok job.params)) { dirty with resetPlan := .fail }
  | "reset_panic" => now (.returned (.ok job.params)) { memory with resetPlan := .panic }
  | _ => now (.returned (.error (.runtime "unknown source"))) memory

/-- Clear the mark, unless the job before had it fail. -/
def reset (memory : ScriptedMemory) : Reset × ScriptedMemory :=
  match memory.resetPlan with
  | .clean => (.done, { memory with isDirty := false })
  | .fail => (.failed "reset failed", { memory with resetPlan := .clean })
  | .panic => (.panicked, memory)

/-- The scripted guest; it shares nothing. -/
def guest : Guest Unit ScriptedMemory where
  execute shared memory job _ := (execute memory job, shared)
  reset := reset

end Scripted

end ConfigDelivery.Pool
