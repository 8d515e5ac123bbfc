import ConfigDelivery.Pool.Schedule
import ConfigDelivery.Proofs.Pool.Runs
import Mathlib.Data.List.Perm.Subperm
/-!
# What workers share

Only the start of a job changes what the workers of a pool share, and a job leaves its queue when it
starts. So whatever happens in the course of time, what is shared comes from jobs that waited before
or were submitted, each of them executed once at most.
-/

namespace ConfigDelivery.Pool

variable {Shared Memory : Type} {guest : Guest Shared Memory}

/-- What is shared after some jobs were executed one after the other. -/
inductive Serves (guest : Guest Shared Memory) : Shared → List Job → Shared → Prop
  | none {shared} : Serves guest shared [] shared
  | next {shared jobs after} (job : Job) (memory : Memory) (now : Instant)
      (rest : Serves guest (guest.execute shared memory job now).2 jobs after) :
      Serves guest shared (job :: jobs) after

/-- Jobs that are served one series after another are served. -/
theorem Serves.trans {before middle after : Shared} {jobs more : List Job}
    (first : Serves guest before jobs middle) (second : Serves guest middle more after) :
    Serves guest before (jobs ++ more) after := by
  induction first with
  | none => exact second
  | next job memory now _ ih => exact .next job memory now (ih second)

namespace Slot

/-- The jobs in the queue of a slot. -/
def waiting (slot : Slot Memory) : List Job := slot.queue.map Queued.job

/-- A job that is queued waits last. -/
theorem waiting_enqueued (slot : Slot Memory) (call : Nat) (job : Job) :
    (slot.enqueued call job).waiting = slot.waiting ++ [job] := by
  simp [waiting, enqueued]

end Slot

namespace WorkerPool

variable {pool middle after : WorkerPool Shared Memory} {offered : List Job}

/-- The jobs that wait in the queues of a pool. -/
def waiting (pool : WorkerPool Shared Memory) : List Job := pool.slots.flatMap Slot.waiting

/-- A pool goes on to another one: some of the jobs that waited or were offered have been executed,
and some of the others wait. -/
def GoesOn (guest : Guest Shared Memory) (pool : WorkerPool Shared Memory) (offered : List Job)
    (after : WorkerPool Shared Memory) : Prop :=
  ∃ jobs, Serves guest pool.shared jobs after.shared ∧
    (jobs ++ after.waiting).Subperm (offered ++ pool.waiting)

theorem GoesOn.trans {more : List Job} (first : GoesOn guest pool offered middle)
    (second : GoesOn guest middle more after) : GoesOn guest pool (more ++ offered) after := by
  obtain ⟨jobs, served, waited⟩ := first
  obtain ⟨others, servedOthers, waitedOthers⟩ := second
  refine ⟨jobs ++ others, served.trans servedOthers, ?_⟩
  rw [List.append_assoc, List.append_assoc]
  have later := (List.subperm_append_left jobs).mpr waitedOthers
  have turned : (jobs ++ (more ++ middle.waiting)).Perm (more ++ (jobs ++ middle.waiting)) :=
    List.perm_append_comm_assoc ..
  exact later.trans (turned.subperm.trans ((List.subperm_append_left more).mpr waited))

/-- A pool goes on where nothing new waits and what is shared is the same. -/
theorem goesOn_of_waiting (shared : after.shared = pool.shared)
    (waiting : after.waiting.Subperm (offered ++ pool.waiting)) :
    GoesOn guest pool offered after :=
  ⟨[], shared ▸ .none, waiting⟩

/-- Beside the jobs of one slot, others may wait. -/
theorem exists_waiting {index : Nat} {slot : Slot Memory}
    (found : pool.slots[index]? = some slot) :
    ∃ others, pool.waiting.Perm (slot.waiting ++ others) ∧
      ∀ changed, (pool.withSlot index changed).waiting.Perm (changed.waiting ++ others) := by
  obtain ⟨inside, same⟩ := List.getElem?_eq_some_iff.mp found
  have around (changed : Slot Memory) :
      (pool.withSlot index changed).waiting.Perm (changed.waiting
        ++ ((pool.slots.take index).flatMap Slot.waiting
          ++ (pool.slots.drop (index + 1)).flatMap Slot.waiting)) := by
    rw [waiting, withSlot, List.set_eq_take_append_cons_drop, if_pos inside, List.flatMap_append,
      List.flatMap_cons]
    exact List.perm_append_comm_assoc ..
  refine ⟨_, ?_, around⟩
  have unchanged := around slot
  rwa [withSlot_self found] at unchanged

/-- Where fewer jobs wait in a slot, fewer wait in the pool. -/
theorem waiting_withSlot {index : Nat} {slot changed : Slot Memory}
    (found : pool.slots[index]? = some slot) (fewer : changed.waiting.Subperm slot.waiting) :
    (pool.withSlot index changed).waiting.Subperm pool.waiting := by
  obtain ⟨others, before, later⟩ := exists_waiting found
  exact (later changed).subperm.trans
    (((List.subperm_append_right others).mpr fewer).trans before.symm.subperm)

/-- A slot that is not there is not changed. -/
theorem modifySlot_of_none {index : Nat} (found : pool.slots[index]? = none)
    (change : Slot Memory → Slot Memory) : pool.modifySlot index change = pool := by
  rw [modifySlot, List.modify_eq_self (List.getElem?_eq_none_iff.mp found)]

/-- Whatever happens but a submission, only jobs that waited are executed. -/
theorem Change.goesOn {event : Event} (change : Change guest pool event after)
    (notSubmit : ∀ job, event.action ≠ .submit job) : GoesOn guest pool [] after := by
  cases change with
  | accepted now job => exact absurd rfl (notSubmit job)
  | refused now job => exact absurd rfl (notSubmit job)
  | @started slot index next rest now found isAlive isQueued isFree =>
    -- The only step that executes a job: it leaves its queue, and so is executed once.
    refine ⟨[next.job], .next next.job slot.memory now .none, ?_⟩
    obtain ⟨others, before, later⟩ := exists_waiting found
    rw [Slot.waiting, isQueued] at before
    have taken := (later (slot.begun rest ⟨next.call, next.ticket, now,
      (guest.execute pool.shared slot.memory next.job now).1⟩)).cons next.job
    exact (taken.trans before.symm).subperm
  | finished now found isAlive isRunning survives =>
    exact goesOn_of_waiting rfl (waiting_withSlot found (List.Subperm.refl _))
  | died now found isAlive isRunning dies =>
    exact goesOn_of_waiting rfl (waiting_withSlot found (List.nil_subperm))
  | @expired call index ticket startedAt now isStarted late =>
    refine goesOn_of_waiting rfl ?_
    cases found : pool.slots[index]? with
    | none =>
      rw [modifySlot_of_none found]
      exact List.Subperm.refl _
    | some slot =>
      rw [modifySlot_eq found]
      exact waiting_withSlot found (List.Subperm.refl _)
  | unchanged idle => exact goesOn_of_waiting rfl (List.Subperm.refl _)

/-- A job that is submitted waits, if it is not refused. -/
theorem goesOn_submit (job : Job) : GoesOn guest pool [job] (pool.submit job).2 := by
  cases found : pool.slots[pool.nextSlot]? with
  | none =>
    refine goesOn_of_waiting rfl ?_
    rw [submit]
    dsimp only
    rw [modifySlot_of_none found]
    exact (List.sublist_append_right ..).subperm
  | some slot =>
    cases alive : slot.isAlive with
    | true =>
      rw [submit_eq found alive]
      obtain ⟨others, before, later⟩ := exists_waiting found
      refine goesOn_of_waiting rfl ((later _).trans ?_).subperm
      rw [Slot.waiting_enqueued, List.append_assoc]
      exact List.perm_middle.trans (before.symm.cons job)
    | false =>
      rw [submit_of_dead found alive]
      have waits : (pool.withSlot pool.nextSlot
          { slot with nextTicket := slot.nextTicket + 1 }).waiting.Subperm pool.waiting :=
        waiting_withSlot found (List.Subperm.refl _)
      exact goesOn_of_waiting rfl (waits.trans (List.sublist_append_right ..).subperm)

/-- A pool that only forgets a call has what it had. -/
theorem goesOn_forget (call : Nat) : GoesOn guest pool [] (pool.forget call) :=
  goesOn_of_waiting rfl (List.Subperm.refl _)

end WorkerPool

/-! ## In the course of time -/

/-- A property of pools is kept by everything that happens to them beside submissions. -/
structure IsKept (guest : Guest Shared Memory)
    (property : WorkerPool Shared Memory → Prop) : Prop where
  start : ∀ {pool} index now, property pool → property (pool.start guest index now)
  finish : ∀ {pool} index, property pool → property (pool.finish guest index)
  expire : ∀ {pool} call now, property pool → property (pool.expire call now)
  forget : ∀ {pool} call, property pool → property (pool.forget call)

namespace IsKept

variable {property : WorkerPool Shared Memory → Prop} {schedule : Schedule Shared Memory}

theorem settleSlot (kept : IsKept guest property) (holds : property schedule.pool) (index : Nat) :
    property (schedule.settleSlot guest index).pool := by
  unfold Schedule.settleSlot
  split
  · exact holds
  · apply kept.start
    split
    · exact kept.finish index holds
    · exact holds

theorem sweep (kept : IsKept guest property) (holds : property schedule.pool) :
    property (schedule.sweep guest).pool := by
  unfold Schedule.sweep
  generalize List.range schedule.pool.size = indices
  induction indices generalizing schedule with
  | nil => exact holds
  | cons index indices ih => exact ih (kept.settleSlot holds index)

theorem settle (kept : IsKept guest property) (holds : property schedule.pool) :
    property (schedule.settle guest).pool := by
  unfold Schedule.settle
  generalize schedule.jobs + 1 = rounds
  induction rounds with
  | zero => exact holds
  | succ rounds ih => exact kept.sweep ih

theorem expireAll (kept : IsKept guest property) (holds : property schedule.pool) :
    property schedule.expireAll.pool := by
  unfold Schedule.expireAll
  dsimp only
  generalize schedule.pool = pool at holds ⊢
  generalize pool.calls = calls
  induction calls generalizing pool with
  | nil => exact holds
  | cons entry calls ih => exact ih _ (kept.expire entry.1 schedule.now holds)

theorem happen (kept : IsKept guest property) (holds : property schedule.pool) :
    property (schedule.happen guest).pool :=
  kept.settle (kept.expireAll (kept.settle holds))

theorem advance (kept : IsKept guest property) (holds : property schedule.pool)
    (instant : Instant) : property (schedule.advance guest instant).pool := by
  unfold Schedule.advance
  generalize schedule.momentBound = fuel
  induction fuel generalizing schedule with
  | zero => exact holds
  | succ fuel ih =>
    rw [Schedule.passTo]
    split
    · split
      · exact ih (kept.happen holds)
      · exact kept.happen holds
    · exact kept.happen holds

theorem join (kept : IsKept guest property) (holds : property schedule.pool) (call : Nat) :
    property (schedule.join guest call).2.pool := by
  unfold Schedule.join
  generalize schedule.momentBound = fuel
  induction fuel generalizing schedule with
  | zero => exact holds
  | succ fuel ih =>
    rw [Schedule.awaitCall]
    split
    · exact kept.forget call holds
    · split
      · exact ih (kept.happen holds)
      · exact holds

/-- What holds once a job is submitted holds when its caller is answered. -/
theorem run (kept : IsKept guest property) {job : Job}
    (submitted : property (schedule.pool.submit job).2) :
    property (schedule.run guest job).2.pool := by
  rw [Schedule.run, Schedule.submit]
  dsimp only
  apply kept.join
  apply kept.happen
  exact submitted

end IsKept

namespace Schedule

/-- Every step of a pool goes on from it. -/
theorem isKept_goesOn (guest : Guest Shared Memory) (pool : WorkerPool Shared Memory)
    (offered : List Job) : IsKept guest (WorkerPool.GoesOn guest pool offered) where
  start index now goesOn := goesOn.trans ((WorkerPool.change_start index now).goesOn nofun)
  finish index goesOn := goesOn.trans ((WorkerPool.change_finish index 0).goesOn nofun)
  expire call now goesOn := goesOn.trans ((WorkerPool.change_expire call now).goesOn nofun)
  forget call goesOn := goesOn.trans (WorkerPool.goesOn_forget call)

/-- While a pool is left alone, jobs that waited are executed. -/
theorem advance_goesOn (guest : Guest Shared Memory) (schedule : Schedule Shared Memory)
    (instant : Instant) :
    schedule.pool.GoesOn guest [] (schedule.advance guest instant).pool :=
  (isKept_goesOn guest schedule.pool []).advance
    (WorkerPool.goesOn_of_waiting rfl (List.Subperm.refl _)) instant

/-- While a job is waited for, it and jobs that waited are executed. -/
theorem run_goesOn (guest : Guest Shared Memory) (schedule : Schedule Shared Memory) (job : Job) :
    schedule.pool.GoesOn guest [job] (schedule.run guest job).2.pool :=
  (isKept_goesOn guest schedule.pool [job]).run (WorkerPool.goesOn_submit job)

end Schedule

end ConfigDelivery.Pool
