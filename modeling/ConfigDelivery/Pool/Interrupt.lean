/-!
# Stop requests

A slot of the pool and its worker share one stop signal. A request names the
ticket of the job it is meant for, so that one which comes late leaves the jobs
after it alone. Tickets start at one; zero stands for no job.
-/

namespace ConfigDelivery.Pool

/-- The stop signal of a slot: the ticket of the running job, and the ticket of the latest
request. -/
structure Interrupt where
  running : Nat := 0
  cancelled : Nat := 0
  deriving DecidableEq, Repr

namespace Interrupt

/-- The running job has been asked to stop. -/
def isRaised (signal : Interrupt) : Bool :=
  signal.running ≠ 0 && signal.cancelled = signal.running

/-- A job begins. -/
def begin (signal : Interrupt) (ticket : Nat) : Interrupt := { signal with running := ticket }

/-- The running job has ended. -/
def finish (signal : Interrupt) : Interrupt := { signal with running := 0 }

/-- The job of a ticket is asked to stop. There is room for one request: an earlier one is
forgotten. -/
def raise (signal : Interrupt) (ticket : Nat) : Interrupt := { signal with cancelled := ticket }

end Interrupt

end ConfigDelivery.Pool
