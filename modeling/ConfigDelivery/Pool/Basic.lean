import ConfigDelivery.Basic.Failure
import ConfigDelivery.Pool.Guest
import ConfigDelivery.Pool.Interrupt
/-!
# Pools of workers

A pool has a fixed number of slots, each with a worker and a queue of jobs. A slot
counts its outstanding jobs from their submission until its worker is done with
them, whether or not anyone still waits. The steps of a pool are the submission of
a job, its start, its end and the end of its caller's patience; they may come in
any order that the slots allow.
-/

namespace ConfigDelivery.Pool

open ConfigDelivery.Script (ScriptError)

/-- A job in the queue of a slot, and the call that waits for it. -/
structure Queued where
  call : Nat
  ticket : Nat
  job : Job

/-- A job that a worker has started. -/
structure Running (Memory : Type) where
  call : Nat
  ticket : Nat
  startedAt : Instant
  activity : Activity Memory

/-- A slot: its worker's memory, its queue, and the count of its outstanding jobs. -/
structure Slot (Memory : Type) where
  memory : Memory
  isAlive : Bool := true
  pending : Nat := 0
  nextTicket : Nat := 1
  interrupt : Interrupt := {}
  queue : List Queued := []
  running : Option (Running Memory) := none

/-- What a call is waiting for, or has been answered. -/
inductive CallState where
  | queued (slot : Nat)
  | started (slot ticket : Nat) (startedAt : Instant)
  | answered (outcome : Except ScriptError String)

/-- A pool of workers. -/
structure WorkerPool (Shared Memory : Type) where
  label : String
  timeout : Duration
  shared : Shared
  slots : List (Slot Memory)
  calls : List (Nat × CallState) := []
  nextCall : Nat := 0

/-- How building a worker's guest may end. -/
inductive Startup (Memory : Type) where
  | ready (memory : Memory)
  | failed (failure : Failure)
  | panicked

/-- How many workers a pool has, unless said otherwise. -/
def defaultSize : Nat := 20

/-- How long a job may take, unless said otherwise. -/
def defaultTimeout : Duration := Duration.ofMillis 100

namespace Slot

variable {Memory : Type}

/-- The slot has outstanding jobs, or a worker that died with one. -/
def isBusy (slot : Slot Memory) : Bool := 0 < slot.pending

end Slot

/-- What the end of a job is answered with. -/
def Execution.answer : Execution → Except ScriptError String
  | .returned outcome => outcome
  | .panicked => .error (.runtime "interpreter panicked")

namespace WorkerPool

variable {Shared Memory : Type}

/-- The guests of a pool, when each of them could be built. A failure is reported before a worker
that died while it was built. -/
def guests (label : String) : List (Startup Memory) → Except Failure (List Memory)
  | [] => .ok []
  | .ready memory :: rest => (guests label rest).map (memory :: ·)
  | .failed failure :: _ => .error (failure.within (label ++ ": worker failed to start"))
  | .panicked :: rest =>
    match guests label rest with
    | .error failure => .error failure
    | .ok _ => .error ⟨label ++ ": worker exited during startup", []⟩

/-- A pool of some size whose guests are built one by one. -/
def new (label : String) (size : Nat) (timeout : Duration) (shared : Shared)
    (build : Nat → Startup Memory) : Except Failure (WorkerPool Shared Memory) :=
  if size = 0 then .error ⟨label ++ ": pool size must be greater than zero", []⟩
  else
    (guests label ((List.range size).map build)).map fun memories =>
      { label, timeout, shared, slots := memories.map fun memory => { memory } }

/-- The number of slots. -/
def size (pool : WorkerPool Shared Memory) : Nat := pool.slots.length

/-- The number of busy slots. -/
def busy (pool : WorkerPool Shared Memory) : Nat := pool.slots.countP Slot.isBusy

/-- The state of a call. -/
def call? (pool : WorkerPool Shared Memory) (call : Nat) : Option CallState :=
  (pool.calls.find? fun entry => entry.1 = call).map Prod.snd

/-- The answer of a call. -/
def answer? (pool : WorkerPool Shared Memory) (call : Nat) : Option (Except ScriptError String) :=
  match pool.call? call with
  | some (.answered outcome) => some outcome
  | _ => none

/-- Forget a call. -/
def forget (pool : WorkerPool Shared Memory) (call : Nat) : WorkerPool Shared Memory :=
  { pool with calls := pool.calls.filter fun entry => entry.1 ≠ call }

/-- Change a slot. -/
def modifySlot (pool : WorkerPool Shared Memory) (index : Nat)
    (change : Slot Memory → Slot Memory) : WorkerPool Shared Memory :=
  { pool with slots := pool.slots.modify index change }

/-- Set the state of a call that has not been answered. -/
def setCall (pool : WorkerPool Shared Memory) (call : Nat) (state : CallState) :
    WorkerPool Shared Memory :=
  { pool with
    calls := pool.calls.map fun entry =>
      match entry with
      | (_, .answered _) => entry
      | (other, _) => if other = call then (other, state) else entry }

/-- The failure of a slot whose worker is gone. -/
def unavailable (pool : WorkerPool Shared Memory) (index : Nat) : ScriptError :=
  .unavailable (pool.label ++ " slot " ++ Text.integerText index ++ " is not running")

/-- The slot for the next job: the first one without outstanding jobs, or else the first. -/
def nextSlot (pool : WorkerPool Shared Memory) : Nat :=
  (pool.slots.findIdx? fun slot => slot.pending = 0).getD 0

/-- Submit a job; the answer is the call that waits for it. A job for a slot whose worker is gone is
refused at once and not counted. -/
def submit (pool : WorkerPool Shared Memory) (job : Job) : Nat × WorkerPool Shared Memory :=
  let index := pool.nextSlot
  let call := pool.nextCall
  let isAlive := (pool.slots[index]?.map Slot.isAlive).getD false
  let state : CallState :=
    if isAlive then .queued index else .answered (.error (pool.unavailable index))
  let pool := pool.modifySlot index fun slot =>
    if slot.isAlive then
      { slot with
        pending := slot.pending + 1
        nextTicket := slot.nextTicket + 1
        queue := slot.queue ++ [⟨call, slot.nextTicket, job⟩] }
    -- The ticket is taken before the queue is found closed.
    else { slot with nextTicket := slot.nextTicket + 1 }
  (call, { pool with calls := pool.calls ++ [(call, state)], nextCall := call + 1 })

/-- The worker of a slot takes the next job of its queue, if it is free and there is one. -/
def start (guest : Guest Shared Memory) (pool : WorkerPool Shared Memory) (index : Nat)
    (now : Instant) : WorkerPool Shared Memory :=
  match pool.slots[index]? with
  | some ⟨memory, true, _, _, interrupt, next :: queue, none⟩ =>
    let (activity, shared) := guest.execute pool.shared memory next.job now
    let running : Running Memory := ⟨next.call, next.ticket, now, activity⟩
    let pool := pool.modifySlot index fun slot =>
      { slot with queue, running := some running, interrupt := interrupt.begin next.ticket }
    { pool.setCall next.call (.started index next.ticket now) with shared }
  | _ => pool

/-- The calls that wait for a slot are told that its worker is gone. -/
def abandon (pool : WorkerPool Shared Memory) (index : Nat) : WorkerPool Shared Memory :=
  let gone : CallState := .answered (.error (pool.unavailable index))
  { pool with
    calls := pool.calls.map fun entry =>
      match entry with
      | (call, .queued slot) => if slot = index then (call, gone) else entry
      | (call, .started slot _ _) => if slot = index then (call, gone) else entry
      | answered => answered }

/-- The worker of a slot is done with its job: its memory is reset, whether or not that works, the
job is no longer counted, and its caller is answered. A reset that panics takes the worker and
its queue along, and its jobs stay counted.

One step is enough, though a worker does these things one after the other. The interrupt and the
memory are its own until it takes the next job. The count goes down before the caller is answered,
so whoever has the answer sees the lower count, as after this step; whoever looks in between cannot
tell that from a look just before or just after it, as the caller still waits for its answer. -/
def finish (guest : Guest Shared Memory) (pool : WorkerPool Shared Memory) (index : Nat) :
    WorkerPool Shared Memory :=
  match pool.slots[index]? with
  | some ⟨_, true, _, _, interrupt, _, some running⟩ =>
    let (execution, memory) := running.activity.outcome interrupt.isRaised
    match guest.reset memory with
    | (.panicked, memory) =>
      let pool := pool.modifySlot index fun slot =>
        { slot with
          memory, isAlive := false, queue := [], running := none, interrupt := interrupt.finish }
      pool.abandon index
    | (_, memory) =>
      let pool := pool.modifySlot index fun slot =>
        { slot with
          memory, pending := slot.pending - 1, running := none, interrupt := interrupt.finish }
      pool.setCall running.call (.answered (Execution.answer execution))
  | _ => pool

/-- A call whose job has been running for the time limit is answered, and the job is asked to
stop. -/
def expire (pool : WorkerPool Shared Memory) (call : Nat) (now : Instant) :
    WorkerPool Shared Memory :=
  match pool.call? call with
  | some (.started index ticket startedAt) =>
    if startedAt + pool.timeout ≤ now then
      let pool := pool.modifySlot index fun slot =>
        { slot with interrupt := slot.interrupt.raise ticket }
      pool.setCall call (.answered (.error (.timeout pool.timeout)))
    else pool
  | _ => pool

end WorkerPool

end ConfigDelivery.Pool
