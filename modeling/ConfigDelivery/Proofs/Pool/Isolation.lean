import ConfigDelivery.Pool.Scripted
import ConfigDelivery.Proofs.Pool.Reached
import Mathlib.Data.List.Basic
/-!
# What a job can see of the jobs before it

A job runs on a memory as it was built or as a reset left it that worked, unless the last reset of
its worker failed: the worker goes on with what that reset left. So guests whose resets do not fail
keep their jobs apart, and others may not.
-/

namespace ConfigDelivery.Pool

variable {Shared Memory : Type} {guest : Guest Shared Memory}

/-- A memory as it was built, or as a reset left it that worked. -/
def Guest.IsFresh (guest : Guest Shared Memory) (built memory : Memory) : Prop :=
  memory = built ∨ ∃ left, guest.reset left = (.done, memory)

/-- A reset that counts was made. -/
theorem exists_of_lastReset? {index : Nat} {assignments : List (Assignment Shared Memory)}
    {reset : Reset × Memory} (last : lastReset? guest index assignments = some reset) :
    ∃ left, guest.reset left = reset := by
  have mem := List.mem_of_getLast? last
  obtain ⟨assignment, _, isReset⟩ := List.mem_filterMap.mp mem
  unfold Assignment.resetAt? at isReset
  split at isReset
  · unfold Assignment.reset? at isReset
    split at isReset
    · rename_i work endedAt done
      exact ⟨(assignment.ending guest work).2, Option.some.inj isReset⟩
    · cases isReset
  · cases isReset

namespace Roster

variable {roster : Roster Shared Memory} {call : Nat} {assignment : Assignment Shared Memory}
  {work : Work Shared Memory}

/-- What a job finds is fresh, or the last reset failed and left it. -/
theorem IsOrderly.isFresh_or_failed (orderly : roster.IsOrderly guest)
    (entry : roster.assignments[call]? = some assignment) (taken : assignment.work? = some work) :
    ∃ built, roster.built[assignment.slot]? = some built ∧
      (guest.IsFresh built work.memory ∨ ∃ failure,
        lastReset? guest assignment.slot (roster.assignments.take call)
          = some (.failed failure, work.memory)) := by
  obtain ⟨built, isBuilt, found⟩ := orderly.inherits entry taken
  have survives := orderly.survives entry taken
  refine ⟨built, isBuilt, ?_⟩
  rw [memoryLeft] at found
  cases last : lastReset? guest assignment.slot (roster.assignments.take call) with
  | none =>
    rw [last] at found
    exact .inl (.inl found)
  | some reset =>
    obtain ⟨ended, memory⟩ := reset
    rw [last] at found
    cases found
    cases ended with
    | done => exact .inl (.inr (exists_of_lastReset? last))
    | failed failure => exact .inr ⟨failure, rfl⟩
    | panicked => exact absurd last (survives _)

end Roster

namespace WorkerPool

variable {pool : WorkerPool Shared Memory}

/-- What a job of a pool can see of the jobs before it. -/
structure Isolates (guest : Guest Shared Memory) (pool : WorkerPool Shared Memory)
    (events : List Event) : Prop where
  /-- A job finds a fresh memory, or the last reset of its worker failed. -/
  found : ∀ {call : Nat} {assignment : Assignment Shared Memory} {work : Work Shared Memory},
    (pool.roster.after guest events).assignments[call]? = some assignment →
      assignment.work? = some work →
        ∃ built, pool.roster.built[assignment.slot]? = some built ∧
          (guest.IsFresh built work.memory ∨ ∃ failure,
            lastReset? guest assignment.slot
              ((pool.roster.after guest events).assignments.take call)
                = some (.failed failure, work.memory))
  /-- A caller that hears how its job ended hears what the job gives on what it found. -/
  result : ∀ {call : Nat} {assignment : Assignment Shared Memory} {work : Work Shared Memory}
      {endedAt : Instant},
    (pool.roster.after guest events).assignments[call]? = some assignment →
      assignment.progress = .done work endedAt → assignment.leftAt = none →
        (assignment.cleared guest work).1 ≠ .panicked →
          (pool.after guest events).answer? call = some (Execution.answer
            ((guest.execute work.shared work.memory assignment.job work.startedAt).1.outcome
              false).1)
  /-- Resets that do not fail and always leave the same keep the jobs apart. -/
  apart : ∀ {initial : Memory}, (∀ slot ∈ pool.slots, slot.memory = initial) →
    (∀ left, guest.reset left = (.done, initial) ∨ (guest.reset left).1 = .panicked) →
      ∀ {call : Nat} {assignment : Assignment Shared Memory} {work : Work Shared Memory},
        (pool.roster.after guest events).assignments[call]? = some assignment →
          assignment.work? = some work → work.memory = initial

/-- No event builds a runtime anew. -/
theorem built_after (roster : Roster Shared Memory) (events : List Event) :
    (roster.after guest events).built = roster.built := by
  induction events generalizing roster with
  | nil => rfl
  | cons event rest ih =>
    refine (ih (roster.step guest event)).trans ?_
    have change := roster.change_step guest event
    generalize roster.step guest event = after at change ⊢
    cases change <;> rfl

/-- A job of a pool sees nothing of the jobs before it, unless a reset failed. -/
theorem isolates_of_new {label : String} {size : Nat} {timeout : Duration} {shared : Shared}
    {build : Nat → Startup Memory}
    (built : WorkerPool.new label size timeout shared build = .ok pool)
    (guest : Guest Shared Memory) (events : List Event) : pool.Isolates guest events := by
  have reached : (pool.after guest events).IsReached guest (pool.roster.after guest events) :=
    (isNew_of_new built).isReached events
  have found : ∀ {call : Nat} {assignment : Assignment Shared Memory} {work : Work Shared Memory},
      (pool.roster.after guest events).assignments[call]? = some assignment →
      assignment.work? = some work → _ :=
    fun entry taken => reached.orderly.isFresh_or_failed entry taken
  constructor
  case found =>
    intro call assignment work entry taken
    rw [← built_after pool.roster events]
    exact found entry taken
  case result =>
    intro call assignment work endedAt entry done stays survives
    rw [reached.answer?_eq, Roster.answer?, entry, Option.bind_some,
      Roster.answer_of_done stays done, if_neg survives, Assignment.ending, stays]
    rfl
  case apart =>
    intro initial same restores call assignment work entry taken
    obtain ⟨memory, isBuilt, (rfl | ⟨left, reset⟩) | ⟨failure, failed⟩⟩ := found entry taken
    · rw [built_after] at isBuilt
      obtain ⟨slot, inside, isMemory⟩ := List.mem_map.mp (List.mem_of_getElem? isBuilt)
      exact isMemory.symm.trans (same slot inside)
    · rcases restores left with restored | dies
      · exact (Prod.mk.inj (reset.symm.trans restored)).2
      · rw [reset] at dies
        cases dies
    · obtain ⟨left, reset⟩ := exists_of_lastReset? failed
      rcases restores left with restored | dies
      · cases reset.symm.trans restored
      · rw [reset] at dies
        cases dies

/-- A job that leaves a mark: the reset after it removes the mark before the next job. -/
theorem isolates_tainted :
    let events : List Event := [
      ⟨0, .submit ⟨"", "taint", ""⟩⟩, ⟨0, .start 0⟩, ⟨1, .finish 0⟩,
      ⟨1, .submit ⟨"", "state", ""⟩⟩, ⟨1, .start 0⟩, ⟨2, .finish 0⟩]
    ∃ pool, WorkerPool.new "pool" 1 5 () (fun _ => .ready { name := "worker" }) = .ok pool ∧
      pool.Isolates Scripted.guest events ∧
      (pool.after Scripted.guest events).answer? 1 = some (.ok "clean") := by
  intro events
  have built : WorkerPool.new "pool" 1 5 () (fun _ => .ready { name := "worker" })
      = .ok (⟨"pool", 5, (), [⟨{ name := "worker" }, true, 0, 1, {}, [], none⟩], [], 0⟩ :
          WorkerPool Unit ScriptedMemory) := rfl
  exact ⟨_, built, isolates_of_new built _ _, by decide⟩

/-- A fresh memory of the scripted guest has no mark. -/
theorem not_isDirty_of_isFresh {name : String} {memory : ScriptedMemory}
    (isFresh : Scripted.guest.IsFresh { name } memory) : memory.isDirty = false := by
  rcases isFresh with rfl | ⟨left, reset⟩
  · rfl
  · change Scripted.reset left = (.done, memory) at reset
    unfold Scripted.reset at reset
    split at reset <;> cases reset
    rfl

/-- A job whose reset fails leaves its mark: the next job tells of it, which it would do on no fresh
memory. -/
theorem not_isolated_failed :
    let events : List Event := [
      ⟨0, .submit ⟨"", "reset_error", ""⟩⟩, ⟨0, .start 0⟩, ⟨1, .finish 0⟩,
      ⟨1, .submit ⟨"", "state", ""⟩⟩, ⟨1, .start 0⟩, ⟨2, .finish 0⟩]
    ∃ pool, WorkerPool.new "pool" 1 5 () (fun _ => .ready { name := "worker" }) = .ok pool ∧
      (pool.after Scripted.guest events).answer? 1 = some (.ok "dirty") ∧
      ∀ memory, Scripted.guest.IsFresh { name := "worker" } memory →
        Execution.answer
          ((Scripted.guest.execute () memory ⟨"", "state", ""⟩ 1).1.outcome false).1
            = .ok "clean" := by
  intro events
  refine ⟨_, rfl, by decide, fun memory isFresh => ?_⟩
  have command : Scripted.command "state" = ("state", "") := by decide
  have clean := not_isDirty_of_isFresh isFresh
  simp [Scripted.guest, Scripted.execute, command, clean, Execution.answer]

end WorkerPool

end ConfigDelivery.Pool
