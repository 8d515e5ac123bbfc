import ConfigDelivery.Pool.Basic
/-!
# Pools in time

A pool whose workers proceed as soon as they can. Time moves to the next moment at
which something happens; at one moment, workers that are done come before callers
that lose patience.
-/

namespace ConfigDelivery.Pool

open ConfigDelivery.Script (ScriptError)

/-- A pool at a moment, and whether jobs that wait to be released may go on. -/
structure Schedule (Shared Memory : Type) where
  pool : WorkerPool Shared Memory
  now : Instant
  released : Bool := false

namespace Schedule

variable {Shared Memory : Type}

/-- The job of a slot is done by now. -/
def isDue (schedule : Schedule Shared Memory) (slot : Slot Memory) : Bool :=
  match slot.running with
  | none => false
  | some running =>
    match running.activity.pace with
    | .taking duration stoppable =>
      running.startedAt + duration ≤ schedule.now || (stoppable && slot.interrupt.isRaised)
    | .untilInterrupted => slot.interrupt.isRaised
    | .untilReleased => schedule.released

/-- Let the worker of a slot end its job if it is due, and start the next. -/
def settleSlot (guest : Guest Shared Memory) (schedule : Schedule Shared Memory) (index : Nat) :
    Schedule Shared Memory :=
  match schedule.pool.slots[index]? with
  | none => schedule
  | some slot =>
    let pool :=
      if schedule.isDue slot then schedule.pool.finish guest index else schedule.pool
    { schedule with pool := pool.start guest index schedule.now }

/-- Let every worker go on once. -/
def sweep (guest : Guest Shared Memory) (schedule : Schedule Shared Memory) :
    Schedule Shared Memory :=
  (List.range schedule.pool.size).foldl (settleSlot guest) schedule

/-- The number of jobs that are queued or running. -/
def jobs (schedule : Schedule Shared Memory) : Nat :=
  schedule.pool.slots.foldl
    (fun total slot => total + slot.queue.length + (if slot.running.isSome then 1 else 0)) 0

/-- Let every worker go on as far as it can at this moment. -/
def settle (guest : Guest Shared Memory) (schedule : Schedule Shared Memory) :
    Schedule Shared Memory :=
  Nat.repeat (sweep guest) (schedule.jobs + 1) schedule

/-- Answer the callers that have lost patience by now. -/
def expireAll (schedule : Schedule Shared Memory) : Schedule Shared Memory :=
  { schedule with
    pool := schedule.pool.calls.foldl (fun pool entry => pool.expire entry.1 schedule.now)
      schedule.pool }

/-- Everything that happens at this moment. -/
def happen (guest : Guest Shared Memory) (schedule : Schedule Shared Memory) :
    Schedule Shared Memory :=
  settle guest (settle guest schedule).expireAll

/-- The moments at which running jobs will be done and callers will lose patience. -/
def moments (schedule : Schedule Shared Memory) : List Instant :=
  let ends := schedule.pool.slots.filterMap fun slot =>
    slot.running.bind fun running =>
      match running.activity.pace with
      | .taking duration _ => some (running.startedAt + duration)
      | _ => none
  let limits := schedule.pool.calls.filterMap fun entry =>
    match entry.2 with
    | .started _ _ startedAt => some (startedAt + schedule.pool.timeout)
    | _ => none
  (ends ++ limits).filter (schedule.now < ·)

/-- The next moment at which something happens. -/
def nextMoment? (schedule : Schedule Shared Memory) : Option Instant :=
  schedule.moments.min?

/-- Let time pass up to an instant; `fuel` bounds the moments on the way. -/
def passTo (guest : Guest Shared Memory) (instant : Instant) : Nat → Schedule Shared Memory →
    Schedule Shared Memory
  | 0, schedule => schedule
  | fuel + 1, schedule =>
    match schedule.nextMoment? with
    | some moment =>
      if moment ≤ instant then
        passTo guest instant fuel (happen guest { schedule with now := moment })
      else happen guest { schedule with now := max schedule.now instant }
    | none => happen guest { schedule with now := max schedule.now instant }

/-- A bound on the moments that are still to come. -/
def momentBound (schedule : Schedule Shared Memory) : Nat :=
  2 * (schedule.jobs + schedule.pool.calls.length) + 2

/-- Let time pass up to an instant. -/
def advance (guest : Guest Shared Memory) (schedule : Schedule Shared Memory) (instant : Instant) :
    Schedule Shared Memory :=
  passTo guest instant schedule.momentBound schedule

/-- Submit a job and let the workers go on. -/
def submit (guest : Guest Shared Memory) (schedule : Schedule Shared Memory) (job : Job) :
    Nat × Schedule Shared Memory :=
  let (call, pool) := schedule.pool.submit job
  (call, happen guest { schedule with pool })

/-- Let time pass until a call is answered; `fuel` bounds the moments on the way. -/
def awaitCall (guest : Guest Shared Memory) (call : Nat) : Nat → Schedule Shared Memory →
    Option (Except ScriptError String) × Schedule Shared Memory
  | 0, schedule => (none, schedule)
  | fuel + 1, schedule =>
    match schedule.pool.answer? call with
    | some outcome => (some outcome, { schedule with pool := schedule.pool.forget call })
    | none =>
      match schedule.nextMoment? with
      | some moment => awaitCall guest call fuel (happen guest { schedule with now := moment })
      | none => (none, schedule)

/-- Wait for a call. It has no answer only when nothing will ever happen again. -/
def join (guest : Guest Shared Memory) (schedule : Schedule Shared Memory) (call : Nat) :
    Option (Except ScriptError String) × Schedule Shared Memory :=
  awaitCall guest call schedule.momentBound schedule

/-- Submit a job and wait for its call. -/
def run (guest : Guest Shared Memory) (schedule : Schedule Shared Memory) (job : Job) :
    Option (Except ScriptError String) × Schedule Shared Memory :=
  let (call, schedule) := submit guest schedule job
  join guest schedule call

/-- Let the jobs go on that wait to be released, or have later ones wait again. -/
def setReleased (guest : Guest Shared Memory) (schedule : Schedule Shared Memory)
    (released : Bool) : Schedule Shared Memory :=
  happen guest { schedule with released }

end Schedule

end ConfigDelivery.Pool
