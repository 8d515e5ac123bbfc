import ConfigDelivery.Basic.Time
import ConfigDelivery.Script.Error
/-!
# Guest runtimes

What a worker runs its jobs on. A guest has a memory of its own, which each job
may change and which is reset between jobs, and something that it shares with
the guests of the other workers. How long a job takes is part of the answer, so
that time can be counted instead of measured.
-/

namespace ConfigDelivery.Pool

open ConfigDelivery.Script (ScriptError)

/-- A job for a pool: a script, its parameters as JSON text, and the identifier under which its
compiled program may be kept. -/
structure Job where
  cacheId : String
  source : String
  params : String
  deriving DecidableEq, Repr

/-- How a job ended. -/
inductive Execution where
  | returned (outcome : Except ScriptError String)
  | panicked

/-- How a reset ended. -/
inductive Reset where
  | done
  | failed (failure : String)
  | panicked
  deriving DecidableEq, Repr

/-- How long a job keeps its worker. -/
inductive Pace where
  /-- Some time, unless it is stopped before and can be. -/
  | taking (duration : Duration) (stoppable : Bool)
  /-- Until it is asked to stop. -/
  | untilInterrupted
  /-- Until something outside lets it go. -/
  | untilReleased
  deriving DecidableEq, Repr

/-- A job under way: how long it takes, and its end and the memory it leaves, which may depend on
whether it was asked to stop. -/
structure Activity (Memory : Type) where
  pace : Pace
  outcome : Bool → Execution × Memory

/-- A guest runtime. -/
structure Guest (Shared Memory : Type) where
  execute : Shared → Memory → Job → Instant → Activity Memory × Shared
  reset : Memory → Reset × Memory

end ConfigDelivery.Pool
