import ConfigDelivery.Pool.Schedule
import ConfigDelivery.Proofs.Pool.Slots
import Mathlib.Algebra.Ring.Nat
/-!
# Workers at one moment

What the workers of a pool do at one moment, for guests that keep no memory and do not panic. A
worker that goes on changes its own slot alone, and none is left behind that could still go on. An
invariant that each of these steps keeps holds after all of them, and jobs only become fewer.
-/

namespace ConfigDelivery.Pool

open ConfigDelivery.Script (ScriptError)

variable {Shared : Type}

/-- A guest whose jobs take some time or go on until they are interrupted, and whose resets do
not panic. -/
structure Guest.IsTimely (guest : Guest Shared Unit) : Prop where
  reset : ∀ memory, (guest.reset memory).1 ≠ .panicked
  taking : ∀ {shared job now duration stoppable},
    (guest.execute shared () job now).1.pace = .taking duration stoppable → 0 < duration
  released : ∀ {shared job now}, (guest.execute shared () job now).1.pace ≠ .untilReleased

/-- What a caller with a time limit is answered. -/
def Activity.answer (activity : Activity Unit) (timeout : Duration) : Except ScriptError String :=
  match activity.pace with
  | .taking duration _ =>
    if duration ≤ timeout then Execution.answer (activity.outcome false).1
    else .error (.timeout timeout)
  | _ => .error (.timeout timeout)

namespace Slot

/-- The slot after its worker was done with a job. -/
def ended (slot : Slot Unit) : Slot Unit :=
  { slot with
    pending := slot.pending - 1
    running := none
    interrupt := slot.interrupt.finish }

/-- The jobs that are queued or running. -/
def jobs (slot : Slot Unit) : Nat := slot.queue.length + if slot.running.isSome then 1 else 0

/-- When a worker is free that runs its job to the end. -/
def freeAt (slot : Slot Unit) (now : Instant) : Instant :=
  match slot.running with
  | none => now
  | some running =>
    match running.activity.pace with
    | .taking duration _ => max now (running.startedAt + duration)
    | _ => now

/-- A worker that has nothing to do, unless it is still at a job that was given up. The calls of
such jobs are below a bound. -/
structure IsCalm (slot : Slot Unit) (bound : Nat) : Prop where
  isAlive : slot.isAlive = true
  queue : slot.queue = []
  pending : slot.pending = if slot.running.isSome then 1 else 0
  cancelled : slot.interrupt.cancelled < slot.nextTicket
  running : ∀ {running}, slot.running = some running →
    running.call < bound ∧ ∃ duration, running.activity.pace = .taking duration false

/-- A worker that lives, and whose queued jobs have not been asked to stop. -/
structure IsSound (slot : Slot Unit) : Prop where
  isAlive : slot.isAlive = true
  cancelled : ∀ {queued}, queued ∈ slot.queue → slot.interrupt.cancelled < queued.ticket

variable {slot : Slot Unit} {bound : Nat}

/-- A calm slot is sound. -/
theorem IsCalm.isSound (calm : slot.IsCalm bound) : slot.IsSound where
  isAlive := calm.isAlive
  cancelled isQueued := by simp [calm.queue] at isQueued

/-- A calm slot is sound with a job behind it. -/
theorem IsCalm.isSound_enqueued (calm : slot.IsCalm bound) (call : Nat) (job : Job) :
    (slot.enqueued call job).IsSound where
  isAlive := calm.isAlive
  cancelled isQueued := by
    simp only [enqueued, calm.queue, List.nil_append, List.mem_singleton] at isQueued
    subst isQueued
    exact calm.cancelled

/-- A slot is free no earlier than now. -/
theorem now_le_freeAt (slot : Slot Unit) (now : Instant) : now ≤ slot.freeAt now := by
  unfold freeAt
  split
  · exact Nat.le_refl now
  · split
    · exact Nat.le_max_left ..
    · exact Nat.le_refl now

theorem IsCalm.mono (calm : slot.IsCalm bound) {larger : Nat} (le : bound ≤ larger) :
    slot.IsCalm larger where
  isAlive := calm.isAlive
  queue := calm.queue
  pending := calm.pending
  cancelled := calm.cancelled
  running isRunning := by
    obtain ⟨below, pace⟩ := calm.running isRunning
    exact ⟨Nat.lt_of_lt_of_le below le, pace⟩

/-- A calm slot stays calm when its job ends. -/
theorem IsCalm.ended (calm : slot.IsCalm bound) : slot.ended.IsCalm bound where
  isAlive := calm.isAlive
  queue := calm.queue
  pending := by
    have pending := calm.pending
    simp only [Slot.ended, Option.isSome_none]
    split at pending <;> simp [pending]
  cancelled := calm.cancelled
  running := by
    intro running isRunning
    cases isRunning

/-- A slot without a queue is calm when its job ends. -/
theorem isCalm_ended (isAlive : slot.isAlive = true) (queue : slot.queue = [])
    (pending : slot.pending = 1) (cancelled : slot.interrupt.cancelled < slot.nextTicket) :
    slot.ended.IsCalm bound where
  isAlive := isAlive
  queue := queue
  pending := by simp [Slot.ended, pending]
  cancelled := cancelled
  running := by
    intro running isRunning
    cases isRunning

end Slot

namespace WorkerPool

variable {guest : Guest Shared Unit} {pool : WorkerPool Shared Unit} {index : Nat}
  {slot : Slot Unit}

/-- A worker that never fails to be reset finishes its job and is free. -/
theorem finish_eq (timely : guest.IsTimely) {running : Running Unit}
    (found : pool.slots[index]? = some slot) (isAlive : slot.isAlive = true)
    (isRunning : slot.running = some running) :
    pool.finish guest index = (pool.withSlot index slot.ended).setCall running.call
      (.answered (Execution.answer (running.activity.outcome slot.interrupt.isRaised).1)) := by
  rw [finish_of_survives found isAlive isRunning (timely.reset _)]
  rfl

/-- The state of a call that nobody waits for does not change. -/
theorem setCall_of_answered {call : Nat}
    (answered : ∀ entry ∈ pool.calls, entry.1 = call → ∃ outcome, entry.2 = .answered outcome)
    (state : CallState) : pool.setCall call state = pool := by
  have same : (pool.setCall call state).calls = pool.calls := by
    unfold setCall
    dsimp only
    refine (List.map_congr_left ?_).trans (List.map_id pool.calls)
    intro entry mem
    obtain ⟨other, old⟩ := entry
    by_cases isCall : other = call
    · obtain ⟨outcome, rfl⟩ := answered _ mem isCall
      rfl
    · cases old <;> simp [isCall]
  exact congrArg (fun calls => { pool with calls }) same

/-- A call that waits is told. -/
theorem setCall_calls {call : Nat} {old : CallState} (calls : pool.calls = [(call, old)])
    (unanswered : ∀ outcome, old ≠ .answered outcome) (state : CallState) :
    (pool.setCall call state).calls = [(call, state)] := by
  unfold setCall
  cases old with
  | answered outcome => exact absurd rfl (unanswered outcome)
  | queued slot => simp [calls]
  | started slot ticket startedAt => simp [calls]

end WorkerPool

namespace Schedule

variable {guest : Guest Shared Unit} {schedule : Schedule Shared Unit} {index : Nat}
  {slot : Slot Unit}

/-! ## What a worker does when it goes on -/

/-- Let the worker of a slot end its job if it is due. -/
def release (guest : Guest Shared Unit) (schedule : Schedule Shared Unit) (index : Nat) :
    Schedule Shared Unit :=
  match schedule.pool.slots[index]? with
  | none => schedule
  | some slot =>
    if schedule.isDue slot then { schedule with pool := schedule.pool.finish guest index }
    else schedule

/-- Let the worker of a slot start its next job. -/
def startNext (guest : Guest Shared Unit) (schedule : Schedule Shared Unit) (index : Nat) :
    Schedule Shared Unit :=
  { schedule with pool := schedule.pool.start guest index schedule.now }

/-- A slot settles by releasing its job and then starting the next. -/
theorem settleSlot_eq (guest : Guest Shared Unit) (schedule : Schedule Shared Unit) (index : Nat) :
    settleSlot guest schedule index = startNext guest (release guest schedule index) index := by
  cases found : schedule.pool.slots[index]? with
  | none => simp only [settleSlot, release, startNext, WorkerPool.start, found]
  | some slot =>
    by_cases due : schedule.isDue slot = true <;>
      simp only [settleSlot, release, startNext, found, due] <;> rfl

/-- The slot when its job is ended, if it is due. -/
def freed (schedule : Schedule Shared Unit) (slot : Slot Unit) : Slot Unit :=
  if schedule.isDue slot then slot.ended else slot

/-- A slot that was freed has nothing due. -/
theorem isDue_freed (schedule : Schedule Shared Unit) (slot : Slot Unit) :
    schedule.isDue (schedule.freed slot) = false := by
  unfold freed
  split
  · rfl
  · rename_i due
    exact Bool.eq_false_iff.mpr due

/-- Where something is due, a job runs. -/
theorem exists_running_of_isDue (due : schedule.isDue slot = true) :
    ∃ running, slot.running = some running := by
  unfold isDue at due
  split at due
  · cases due
  · rename_i running isRunning
    exact ⟨running, isRunning⟩

/-- To free a slot leaves fewer jobs if one was due. -/
theorem jobs_freed_le (schedule : Schedule Shared Unit) (slot : Slot Unit) :
    (schedule.freed slot).jobs ≤ slot.jobs ∧
    (schedule.isDue slot = true → (schedule.freed slot).jobs < slot.jobs) := by
  unfold freed
  by_cases due : schedule.isDue slot = true
  · obtain ⟨running, isRunning⟩ := exists_running_of_isDue due
    rw [if_pos due]
    simp only [Slot.jobs, Slot.ended, isRunning, Option.isSome_none, Option.isSome_some]
    exact ⟨by simp, by simp⟩
  · rw [if_neg due]
    exact ⟨Nat.le_refl _, fun isDue => absurd isDue due⟩

/-- To release a slot frees it. -/
theorem release_slots (timely : guest.IsTimely) (found : schedule.pool.slots[index]? = some slot)
    (isAlive : slot.isAlive = true) :
    (release guest schedule index).pool.slots
      = schedule.pool.slots.set index (schedule.freed slot) := by
  unfold release freed
  rw [found]
  dsimp only
  by_cases due : schedule.isDue slot = true
  · obtain ⟨running, isRunning⟩ := exists_running_of_isDue due
    rw [if_pos due, if_pos due, WorkerPool.finish_eq timely found isAlive isRunning]
    rfl
  · rw [if_neg due, if_neg due, WorkerPool.slots_set_self found]

/-- A job that starts is not done at once. -/
theorem isDue_begun (timely : guest.IsTimely) {queued : Queued} {rest : List Queued}
    (uncancelled : slot.interrupt.cancelled < queued.ticket) :
    schedule.isDue (slot.begun rest ⟨queued.call, queued.ticket, schedule.now,
      (guest.execute schedule.pool.shared () queued.job schedule.now).1⟩) = false := by
  have unraised : (slot.interrupt.begin queued.ticket).isRaised = false := by
    simp [Interrupt.isRaised, Interrupt.begin, Nat.ne_of_lt uncancelled]
  unfold isDue Slot.begun
  dsimp only
  split
  · rename_i duration stoppable pace
    have early : ¬ schedule.now + duration ≤ schedule.now :=
      Nat.not_le_of_lt (Nat.lt_add_of_pos_right (timely.taking pace))
    simp only [unraised, early, decide_false, Bool.and_false, Bool.or_false]
  · exact unraised
  · rename_i pace
    exact absurd pace timely.released

/-- A slot that starts its next job stays sound, with as many jobs and nothing due. -/
theorem startNext_slots (timely : guest.IsTimely)
    (found : schedule.pool.slots[index]? = some slot) (sound : slot.IsSound)
    (notDue : schedule.isDue slot = false) :
    ∃ after, (startNext guest schedule index).pool.slots = schedule.pool.slots.set index after ∧
      after.IsSound ∧ after.jobs = slot.jobs ∧ schedule.isDue after = false ∧
      (after.queue = [] ∨ after.running.isSome = true) := by
  by_cases idle : slot.queue = [] ∨ slot.running.isSome = true
  · refine ⟨slot, ?_, sound, rfl, notDue, idle⟩
    rw [startNext, WorkerPool.start_of_idle found (.inr idle), WorkerPool.slots_set_self found]
  · obtain ⟨hasQueue, free⟩ := not_or.mp idle
    obtain ⟨queued, rest, isQueued⟩ := List.exists_cons_of_ne_nil hasQueue
    have free : slot.running = none := by simpa using free
    refine ⟨slot.begun rest ⟨queued.call, queued.ticket, schedule.now,
      (guest.execute schedule.pool.shared () queued.job schedule.now).1⟩, ?_, ⟨sound.isAlive, ?_⟩,
      ?_, isDue_begun timely (sound.cancelled (by simp [isQueued])), .inr rfl⟩
    · rw [startNext, WorkerPool.start_eq found sound.isAlive isQueued free]
      rfl
    · intro other mem
      exact sound.cancelled (isQueued ▸ List.mem_cons_of_mem _ mem)
    · simp [Slot.jobs, Slot.begun, isQueued, free]

/-! ## What happens at one moment -/

/-- Every worker lives, and no queued job has been asked to stop. -/
def IsSound (schedule : Schedule Shared Unit) : Prop :=
  ∀ {index : Nat} {slot : Slot Unit}, schedule.pool.slots[index]? = some slot → slot.IsSound

/-- The worker of a slot can neither end its job nor start another. -/
def IsSettledAt (schedule : Schedule Shared Unit) (index : Nat) : Prop :=
  ∀ {slot}, schedule.pool.slots[index]? = some slot →
    schedule.isDue slot = false ∧ (slot.queue = [] ∨ slot.running.isSome = true)

/-- The jobs of a schedule are those of its slots. -/
theorem jobs_eq (schedule : Schedule Shared Unit) :
    schedule.jobs = (schedule.pool.slots.map Slot.jobs).sum := by
  have folded (slots : List (Slot Unit)) (total : Nat) :
      slots.foldl (fun total slot => total + slot.queue.length
        + (if slot.running.isSome then 1 else 0)) total = total + (slots.map Slot.jobs).sum := by
    induction slots generalizing total with
    | nil => rfl
    | cons slot rest ih =>
      rw [List.foldl_cons, ih, List.map_cons, List.sum_cons, Slot.jobs]
      omega
  rw [jobs, folded, Nat.zero_add]

/-- A changed slot changes the number of jobs by its own. -/
theorem sum_jobs_set {slots : List (Slot Unit)} (found : slots[index]? = some slot)
    (other : Slot Unit) :
    ((slots.set index other).map Slot.jobs).sum + slot.jobs
      = (slots.map Slot.jobs).sum + other.jobs := by
  induction slots generalizing index with
  | nil => cases found
  | cons head rest ih =>
    cases index with
    | zero =>
      obtain rfl : head = slot := by simpa using found
      simp only [List.set_cons_zero, List.map_cons, List.sum_cons]
      omega
    | succ index =>
      have rest := ih (by simpa using found)
      simp only [List.set_cons_succ, List.map_cons, List.sum_cons]
      omega

/-- To settle a slot takes no time. -/
theorem settleSlot_time (guest : Guest Shared Unit) (schedule : Schedule Shared Unit)
    (index : Nat) :
    (settleSlot guest schedule index).now = schedule.now ∧
    (settleSlot guest schedule index).released = schedule.released := by
  unfold settleSlot
  split <;> exact ⟨rfl, rfl⟩

/-- Whether a slot is due depends on the time and on what was released. -/
theorem isDue_congr {other : Schedule Shared Unit} (now : other.now = schedule.now)
    (released : other.released = schedule.released) (slot : Slot Unit) :
    other.isDue slot = schedule.isDue slot := by
  unfold isDue
  rw [now, released]

/-- What the worker of a slot comes to when it goes on until it can go on no more: it changes its
own slot alone, and has fewer jobs if it was due. -/
structure ComesTo (guest : Guest Shared Unit) (schedule : Schedule Shared Unit) (index : Nat)
    (slot after : Slot Unit) : Prop where
  slots : (settleSlot guest schedule index).pool.slots = schedule.pool.slots.set index after
  isSound : after.IsSound
  isSettled : schedule.isDue after = false ∧ (after.queue = [] ∨ after.running.isSome = true)
  jobs_le : after.jobs ≤ slot.jobs
  jobs_lt : schedule.isDue slot = true → after.jobs < slot.jobs

/-- A sound slot settles to a sound one. -/
theorem settleSlot_slots (timely : guest.IsTimely)
    (found : schedule.pool.slots[index]? = some slot) (sound : slot.IsSound) :
    ∃ after, ComesTo guest schedule index slot after := by
  have released := release_slots timely found sound.isAlive
  have sameTime : (release guest schedule index).now = schedule.now ∧
      (release guest schedule index).released = schedule.released := by
    simp only [release, found]
    split <;> exact ⟨rfl, rfl⟩
  have sameDue (slot : Slot Unit) :
      (release guest schedule index).isDue slot = schedule.isDue slot :=
    isDue_congr sameTime.1 sameTime.2 slot
  obtain ⟨inside, _⟩ := List.getElem?_eq_some_iff.mp found
  have freedFound :
      (release guest schedule index).pool.slots[index]? = some (schedule.freed slot) := by
    rw [released, List.getElem?_set_self inside]
  have freedSound : (schedule.freed slot).IsSound := by
    unfold freed
    split
    · exact ⟨sound.isAlive, sound.cancelled⟩
    · exact sound
  obtain ⟨after, slots, afterSound, sameJobs, notDue, busy⟩ := startNext_slots timely freedFound
    freedSound ((sameDue _).trans (schedule.isDue_freed slot))
  rw [released, List.set_set] at slots
  obtain ⟨le, lt⟩ := schedule.jobs_freed_le slot
  refine ⟨after, ?_, afterSound, ⟨(sameDue _).symm.trans notDue, busy⟩, ?_, ?_⟩
  · rw [settleSlot_eq, slots]
  · exact sameJobs ▸ le
  · exact sameJobs ▸ lt

namespace ComesTo

variable {after : Slot Unit}

theorem getElem?_self (comes : ComesTo guest schedule index slot after)
    (found : schedule.pool.slots[index]? = some slot) :
    (settleSlot guest schedule index).pool.slots[index]? = some after := by
  obtain ⟨inside, _⟩ := List.getElem?_eq_some_iff.mp found
  rw [comes.slots, List.getElem?_set_self inside]

theorem getElem?_of_ne (comes : ComesTo guest schedule index slot after) {other : Nat}
    (different : index ≠ other) :
    (settleSlot guest schedule index).pool.slots[other]? = schedule.pool.slots[other]? := by
  rw [comes.slots, List.getElem?_set_ne different]

theorem jobs (comes : ComesTo guest schedule index slot after)
    (found : schedule.pool.slots[index]? = some slot) :
    (settleSlot guest schedule index).jobs + slot.jobs = schedule.jobs + after.jobs := by
  have jobs := sum_jobs_set found after
  rw [← comes.slots, ← jobs_eq, ← jobs_eq] at jobs
  exact jobs

theorem isSettledAt (comes : ComesTo guest schedule index slot after)
    (found : schedule.pool.slots[index]? = some slot) :
    (settleSlot guest schedule index).IsSettledAt index := by
  intro here present
  obtain rfl : after = here := Option.some.inj ((comes.getElem?_self found).symm.trans present)
  obtain ⟨sameNow, sameReleased⟩ := settleSlot_time guest schedule index
  rw [isDue_congr sameNow sameReleased]
  exact comes.isSettled

/-- A worker that could not go on can go on no more than before. -/
theorem keeps_settled (comes : ComesTo guest schedule index slot after)
    (found : schedule.pool.slots[index]? = some slot) {other : Nat}
    (settled : schedule.IsSettledAt other) :
    (settleSlot guest schedule index).IsSettledAt other := by
  by_cases same : index = other
  · subst same
    exact comes.isSettledAt found
  · intro present
    rw [comes.getElem?_of_ne same] at present
    obtain ⟨sameNow, sameReleased⟩ := settleSlot_time guest schedule index
    rw [isDue_congr sameNow sameReleased]
    exact settled present

end ComesTo

theorem settleSlot_of_missing (guest : Guest Shared Unit)
    (missing : schedule.pool.slots[index]? = none) :
    settleSlot guest schedule index = schedule := by
  simp only [settleSlot, missing]

/-- A schedule on the way of the workers through one moment, which began with another schedule:
an invariant holds, and jobs only become fewer. -/
structure Going (before : Schedule Shared Unit) (Invariant : Schedule Shared Unit → Prop)
    (schedule : Schedule Shared Unit) : Prop where
  sound : schedule.IsSound
  holds : Invariant schedule
  now : schedule.now = before.now
  released : schedule.released = before.released
  jobs : schedule.jobs ≤ before.jobs
  size : schedule.pool.size = before.pool.size
  due : ∀ {index : Nat} {slot : Slot Unit}, before.pool.slots[index]? = some slot →
    before.isDue slot = true → schedule.jobs < before.jobs ∨ schedule.pool.slots[index]? = some slot

variable {before : Schedule Shared Unit} {Invariant : Schedule Shared Unit → Prop}

/-- To settle a slot goes on from before, and settles it. -/
theorem Going.settleSlot (going : Going before Invariant schedule) (timely : guest.IsTimely)
    (kept : ∀ schedule index, schedule.IsSound → Invariant schedule →
      Invariant (settleSlot guest schedule index)) (index : Nat) :
    Going before Invariant (settleSlot guest schedule index) ∧
    (settleSlot guest schedule index).IsSettledAt index ∧
    ∀ other, schedule.IsSettledAt other → (settleSlot guest schedule index).IsSettledAt other := by
  cases found : schedule.pool.slots[index]? with
  | none =>
    rw [settleSlot_of_missing guest found]
    refine ⟨going, ?_, fun _ settled => settled⟩
    intro slot present
    rw [found] at present
    cases present
  | some slot =>
    obtain ⟨after, comes⟩ := settleSlot_slots timely found (going.sound found)
    obtain ⟨sameNow, sameReleased⟩ := settleSlot_time guest schedule index
    have jobs := comes.jobs found
    have jobs_le := comes.jobs_le
    have jobs_before := going.jobs
    refine ⟨⟨?_, kept schedule index going.sound going.holds, sameNow.trans going.now,
      sameReleased.trans going.released, by omega, ?_, ?_⟩, comes.isSettledAt found,
      fun _ settled => comes.keeps_settled found settled⟩
    · intro other slot' present
      by_cases same : index = other
      · subst same
        obtain rfl : after = slot' :=
          Option.some.inj ((comes.getElem?_self found).symm.trans present)
        exact comes.isSound
      · rw [comes.getElem?_of_ne same] at present
        exact going.sound present
    · rw [← going.size, WorkerPool.size, comes.slots, List.length_set, WorkerPool.size]
    · intro other slot' present isDue
      rcases going.due present isDue with fewer | unchanged
      · exact .inl (by omega)
      · by_cases same : index = other
        · subst same
          obtain rfl : slot = slot' := Option.some.inj (found.symm.trans unchanged)
          have fewer := comes.jobs_lt ((isDue_congr going.now going.released slot).trans isDue)
          exact .inl (by omega)
        · exact .inr ((comes.getElem?_of_ne same).trans unchanged)

/-- To settle all slots in turn goes on from before, and settles them. -/
theorem Going.sweep (going : Going before Invariant schedule) (timely : guest.IsTimely)
    (kept : ∀ schedule index, schedule.IsSound → Invariant schedule →
      Invariant (Schedule.settleSlot guest schedule index)) :
    Going before Invariant (sweep guest schedule) ∧
    ∀ index, (sweep guest schedule).IsSettledAt index := by
  have through (count : Nat) :
      Going before Invariant ((List.range count).foldl (Schedule.settleSlot guest) schedule) ∧
      ∀ index < count,
        ((List.range count).foldl (Schedule.settleSlot guest) schedule).IsSettledAt index := by
    induction count with
    | zero => exact ⟨going, nofun⟩
    | succ count ih =>
      rw [List.range_succ, List.foldl_append]
      obtain ⟨reached, settled⟩ := ih
      obtain ⟨next, here, stays⟩ := reached.settleSlot timely kept count
      refine ⟨next, fun index below => ?_⟩
      rcases Nat.lt_succ_iff_lt_or_eq.mp below with earlier | rfl
      · exact stays index (settled index earlier)
      · exact here
  obtain ⟨swept, settled⟩ := through schedule.pool.size
  refine ⟨swept, fun index => ?_⟩
  by_cases inside : index < schedule.pool.size
  · exact settled index inside
  · intro present
    have size : (Schedule.sweep guest schedule).pool.size = schedule.pool.size :=
      swept.size.trans going.size.symm
    obtain ⟨below, _⟩ := List.getElem?_eq_some_iff.mp present
    exact absurd (size ▸ below) inside

theorem Going.trans {middle : Schedule Shared Unit} (first : Going before Invariant middle)
    (second : Going middle Invariant schedule) : Going before Invariant schedule where
  sound := second.sound
  holds := second.holds
  now := second.now.trans first.now
  released := second.released.trans first.released
  jobs := Nat.le_trans second.jobs first.jobs
  size := second.size.trans first.size
  due found due := by
    rcases first.due found due with fewer | unchanged
    · exact .inl (Nat.lt_of_le_of_lt second.jobs fewer)
    · rcases second.due unchanged ((isDue_congr first.now first.released _).trans due) with
        fewer | unchanged
      · exact .inl (Nat.lt_of_lt_of_le fewer first.jobs)
      · exact .inr unchanged

/-- Whoever is due when the workers go on has fewer jobs when they cannot any more. -/
theorem Going.jobs_lt (going : Going before Invariant schedule)
    (settled : ∀ index, schedule.IsSettledAt index)
    (found : before.pool.slots[index]? = some slot) (due : before.isDue slot = true) :
    schedule.jobs < before.jobs := by
  rcases going.due found due with fewer | unchanged
  · exact fewer
  · have notDue := (settled index unchanged).1
    rw [isDue_congr going.now going.released, due] at notDue
    cases notDue

/-- The workers go on until none of them can. -/
theorem settle_going (timely : guest.IsTimely) (sound : schedule.IsSound)
    (kept : ∀ schedule index, schedule.IsSound → Invariant schedule →
      Invariant (Schedule.settleSlot guest schedule index)) (holds : Invariant schedule) :
    Going schedule Invariant (settle guest schedule) ∧
    ∀ index, (settle guest schedule).IsSettledAt index := by
  have through (rounds : Nat) :
      Going schedule Invariant (Nat.repeat (Schedule.sweep guest) rounds schedule) := by
    induction rounds with
    | zero => exact ⟨sound, holds, rfl, rfl, Nat.le_refl _, rfl, fun found _ => .inr found⟩
    | succ rounds ih => exact (ih.sweep timely kept).1
  exact (through schedule.jobs).sweep timely kept

/-- A running job ends at every moment to come, or a caller loses patience. -/
theorem mem_moments {moment : Instant} (mem : moment ∈ schedule.moments) :
    schedule.now < moment ∧
    ((∃ (index : Nat) (slot : Slot Unit) (running : Running Unit) (duration : Duration)
        (stoppable : Bool), schedule.pool.slots[index]? = some slot ∧
        slot.running = some running ∧ running.activity.pace = .taking duration stoppable ∧
        moment = running.startedAt + duration) ∨
      ∃ call index ticket startedAt,
        (call, CallState.started index ticket startedAt) ∈ schedule.pool.calls ∧
        moment = startedAt + schedule.pool.timeout) := by
  simp only [moments, List.mem_filter, List.mem_append, List.mem_filterMap, decide_eq_true_eq]
    at mem
  obtain ⟨⟨slot, isSlot, isEnd⟩ | ⟨⟨call, state⟩, isCall, isLimit⟩, later⟩ := mem
  · refine ⟨later, .inl ?_⟩
    obtain ⟨running, isRunning, isEnd⟩ := Option.bind_eq_some_iff.mp isEnd
    obtain ⟨index, found⟩ := List.mem_iff_getElem?.mp isSlot
    split at isEnd
    · rename_i duration stoppable pace
      cases isEnd
      exact ⟨index, slot, running, duration, stoppable, found, isRunning, pace, rfl⟩
    · cases isEnd
  · refine ⟨later, .inr ?_⟩
    dsimp only at isLimit
    split at isLimit
    · cases isLimit
      exact ⟨_, _, _, _, isCall, rfl⟩
    · cases isLimit

/-- The end of a running job is a moment to come. -/
theorem mem_moments_of_running {running : Running Unit} {duration : Duration} {stoppable : Bool}
    (found : schedule.pool.slots[index]? = some slot) (isRunning : slot.running = some running)
    (pace : running.activity.pace = .taking duration stoppable)
    (later : schedule.now < running.startedAt + duration) :
    running.startedAt + duration ∈ schedule.moments := by
  simp only [moments, List.mem_filter, List.mem_append, List.mem_filterMap, decide_eq_true_eq]
  refine ⟨.inl ⟨slot, List.mem_of_getElem? found, ?_⟩, later⟩
  simp [isRunning, pace]

/-- The end of a caller's patience is a moment to come. -/
theorem mem_moments_of_started {call index ticket : Nat} {startedAt : Instant}
    (waits : (call, CallState.started index ticket startedAt) ∈ schedule.pool.calls)
    (later : schedule.now < startedAt + schedule.pool.timeout) :
    startedAt + schedule.pool.timeout ∈ schedule.moments := by
  simp only [moments, List.mem_filter, List.mem_append, List.mem_filterMap, decide_eq_true_eq]
  exact ⟨.inr ⟨_, waits, rfl⟩, later⟩

/-- The next moment is no later than any moment to come. -/
theorem nextMoment?_of_mem {moment : Instant} (mem : moment ∈ schedule.moments) :
    ∃ next, schedule.nextMoment? = some next ∧ next ∈ schedule.moments ∧ next ≤ moment := by
  cases next : schedule.nextMoment? with
  | none =>
    rw [List.min?_eq_none_iff.mp next] at mem
    cases mem
  | some first =>
    obtain ⟨isMoment, le⟩ := List.min?_eq_some_iff.mp next
    exact ⟨first, rfl, isMoment, le moment mem⟩

/-- A job that has taken its time is due. -/
theorem isDue_of_ended {running : Running Unit} {duration : Duration} {stoppable : Bool}
    (isRunning : slot.running = some running)
    (pace : running.activity.pace = .taking duration stoppable)
    (ended : running.startedAt + duration ≤ schedule.now) : schedule.isDue slot = true := by
  simp [isDue, isRunning, pace, ended]

end Schedule

end ConfigDelivery.Pool
