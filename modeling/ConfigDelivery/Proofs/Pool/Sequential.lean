import ConfigDelivery.Proofs.Pool.Workers
/-!
# One caller at a time

A pool whose caller waits for each job before it submits the next. Between two jobs the pool is at
rest: no call waits, and the only jobs that still run are those that were given up and cannot be
stopped. From such a state a job starts when the worker of its slot is free, it does its work on
what the pool shares at that moment, and its caller is answered with its outcome if that comes
within the time limit; and the pool is at rest again.
-/

namespace ConfigDelivery.Pool

open ConfigDelivery.Script (ScriptError)

variable {Shared : Type}

namespace Schedule

variable {guest : Guest Shared Unit} {schedule : Schedule Shared Unit} {index : Nat}
  {slot : Slot Unit}

/-! ## A pool at rest -/

/-- No call waits, and every worker is calm. -/
structure IsResting (schedule : Schedule Shared Unit) : Prop where
  calls : schedule.pool.calls = []
  slots : schedule.pool.slots ≠ []
  calm : ∀ {index : Nat} {slot : Slot Unit}, schedule.pool.slots[index]? = some slot →
    slot.IsCalm schedule.pool.nextCall

/-- A pool at rest is sound. -/
theorem IsResting.isSound (resting : schedule.IsResting) : schedule.IsSound :=
  fun found => (resting.calm found).isSound

/-- A calm slot is calm once it is freed. -/
theorem isCalm_freed {bound : Nat} (calm : slot.IsCalm bound) (schedule : Schedule Shared Unit) :
    (schedule.freed slot).IsCalm bound := by
  unfold freed
  split
  · exact calm.ended
  · exact calm

/-- A worker whose caller waits no more ends its job, if that is due, and nobody notices. -/
theorem release_of_unheard (timely : guest.IsTimely)
    (found : schedule.pool.slots[index]? = some slot) (isAlive : slot.isAlive = true)
    (unheard : ∀ running, slot.running = some running → ∀ entry ∈ schedule.pool.calls,
      entry.1 = running.call → ∃ outcome, entry.2 = .answered outcome) :
    release guest schedule index
      = { schedule with pool := schedule.pool.withSlot index (schedule.freed slot) } := by
  unfold release freed
  rw [found]
  dsimp only
  by_cases due : schedule.isDue slot = true
  · obtain ⟨running, isRunning⟩ := exists_running_of_isDue due
    rw [if_pos due, if_pos due, WorkerPool.finish_eq timely found isAlive isRunning]
    rw [WorkerPool.setCall_of_answered]
    exact unheard running isRunning
  · rw [if_neg due, if_neg due, WorkerPool.withSlot_self found]

/-- A slot whose job no caller waits for settles by being freed. -/
theorem settleSlot_of_unheard (timely : guest.IsTimely)
    (found : schedule.pool.slots[index]? = some slot) (isAlive : slot.isAlive = true)
    (queue : slot.queue = [])
    (unheard : ∀ running, slot.running = some running → ∀ entry ∈ schedule.pool.calls,
      entry.1 = running.call → ∃ outcome, entry.2 = .answered outcome) :
    settleSlot guest schedule index
      = { schedule with pool := schedule.pool.withSlot index (schedule.freed slot) } := by
  have isEmpty : (schedule.freed slot).queue = [] := by
    unfold freed
    split <;> exact queue
  rw [settleSlot_eq, release_of_unheard timely found isAlive unheard, startNext]
  dsimp only
  rw [WorkerPool.start_of_idle (WorkerPool.withSlot_same found _) (.inr (.inl isEmpty))]

/-- A calm slot settles by being freed. -/
theorem settleSlot_of_calm (timely : guest.IsTimely)
    (found : schedule.pool.slots[index]? = some slot) {bound : Nat} (calm : slot.IsCalm bound)
    (answered : ∀ entry ∈ schedule.pool.calls, entry.1 < bound →
      ∃ outcome, entry.2 = .answered outcome) :
    settleSlot guest schedule index
      = { schedule with pool := schedule.pool.withSlot index (schedule.freed slot) } := by
  refine settleSlot_of_unheard timely found calm.isAlive calm.queue ?_
  intro running isRunning entry mem same
  exact answered entry mem (same ▸ (calm.running isRunning).1)

/-- A pool at rest that shares what another schedule shares, with the same time limit. -/
def RestsLike (like schedule : Schedule Shared Unit) : Prop :=
  schedule.IsResting ∧ schedule.pool.shared = like.pool.shared ∧
    schedule.pool.timeout = like.pool.timeout

/-- To settle a slot leaves a pool at rest. -/
theorem RestsLike.settleSlot {like : Schedule Shared Unit} (rests : RestsLike like schedule)
    (timely : guest.IsTimely) (index : Nat) :
    RestsLike like (settleSlot guest schedule index) := by
  obtain ⟨resting, shared, timeout⟩ := rests
  cases found : schedule.pool.slots[index]? with
  | none =>
    rw [settleSlot_of_missing guest found]
    exact ⟨resting, shared, timeout⟩
  | some slot =>
    have calm := resting.calm found
    rw [settleSlot_of_calm timely found calm (by simp [resting.calls])]
    refine ⟨⟨resting.calls, ?_, ?_⟩, shared, timeout⟩
    · simpa [WorkerPool.withSlot] using resting.slots
    · intro other slot' present
      dsimp only at present
      rw [WorkerPool.withSlot_slots] at present
      split at present
      · cases present
        exact isCalm_freed calm schedule
      · exact resting.calm present

/-- What happens at a moment leaves a pool at rest. -/
theorem RestsLike.happen {like : Schedule Shared Unit} (rests : RestsLike like schedule)
    (timely : guest.IsTimely) :
    Going schedule (RestsLike like) (happen guest schedule) ∧
    ∀ index, (happen guest schedule).IsSettledAt index := by
  have kept (schedule : Schedule Shared Unit) (index : Nat) (_ : schedule.IsSound)
      (rests : RestsLike like schedule) :
      RestsLike like (Schedule.settleSlot guest schedule index) :=
    rests.settleSlot timely index
  obtain ⟨first, _⟩ := settle_going timely rests.1.isSound kept rests
  have unexpired : (settle guest schedule).expireAll = settle guest schedule := by
    rw [expireAll, first.holds.1.calls]
    rfl
  rw [Schedule.happen, unexpired]
  obtain ⟨second, settled⟩ := settle_going timely first.sound kept first.holds
  exact ⟨first.trans second, settled⟩

/-- A pool at rest is so at any time. -/
theorem RestsLike.at_time {like : Schedule Shared Unit} (rests : RestsLike like schedule)
    (now : Instant) : RestsLike like { schedule with now } :=
  ⟨⟨rests.1.calls, rests.1.slots, rests.1.calm⟩, rests.2⟩

/-- A pool at rest stays so as time passes. -/
theorem RestsLike.passTo {like : Schedule Shared Unit} (timely : guest.IsTimely)
    (instant : Instant) {fuel : Nat} {schedule : Schedule Shared Unit}
    (rests : RestsLike like schedule) (enough : schedule.jobs < fuel) :
    RestsLike like (passTo guest instant fuel schedule) ∧
    (passTo guest instant fuel schedule).now = max schedule.now instant := by
  induction fuel generalizing schedule with
  | zero => cases enough
  | succ fuel ih =>
    have last : RestsLike like
          (Schedule.happen guest { schedule with now := max schedule.now instant })
        ∧ (Schedule.happen guest { schedule with now := max schedule.now instant }).now
          = max schedule.now instant := by
      obtain ⟨happened, _⟩ := (rests.at_time (max schedule.now instant)).happen timely
      exact ⟨happened.holds, happened.now⟩
    rw [Schedule.passTo]
    cases next : schedule.nextMoment? with
    | none => exact last
    | some moment =>
      dsimp only
      by_cases early : moment ≤ instant
      · rw [if_pos early]
        obtain ⟨later, ending⟩ := mem_moments (List.min?_mem next)
        obtain ⟨happened, settled⟩ := (rests.at_time moment).happen timely
        rcases ending with
          ⟨index, slot, running, duration, stoppable, found, isRunning, pace, rfl⟩ |
          ⟨call, index, ticket, startedAt, waits, _⟩
        · have fewer := happened.jobs_lt settled found
            (isDue_of_ended isRunning pace (Nat.le_refl _))
          obtain ⟨rests, now⟩ :=
            ih happened.holds (Nat.lt_of_lt_of_le fewer (Nat.le_of_lt_succ enough))
          refine ⟨rests, now.trans ?_⟩
          rw [happened.now, Nat.max_eq_right early,
            Nat.max_eq_right (Nat.le_trans (Nat.le_of_lt later) early)]
        · rw [rests.1.calls] at waits
          cases waits
      · rw [if_neg early]
        exact last

/-- Time passes up to an instant, and the pool is at rest then too. -/
theorem IsResting.advance (resting : schedule.IsResting) (timely : guest.IsTimely)
    (instant : Instant) :
    let after := schedule.advance guest instant
    after.IsResting ∧ after.pool.shared = schedule.pool.shared ∧
    after.pool.timeout = schedule.pool.timeout ∧ after.now = max schedule.now instant := by
  have rests : RestsLike schedule schedule := ⟨resting, rfl, rfl⟩
  have enough : schedule.jobs < schedule.momentBound := by
    rw [momentBound]
    omega
  obtain ⟨⟨resting, shared, timeout⟩, now⟩ := rests.passTo timely instant enough
  exact ⟨resting, shared, timeout, now⟩

end Schedule

/-! ## A job on its way -/

/-- A job that was submitted to a pool at rest: its call, its slot and when that is free, and what
the pool shares until then. -/
structure Errand (Shared : Type) where
  job : Job
  call : Nat
  slot : Nat
  freeAt : Instant
  shared : Shared
  timeout : Duration

namespace Errand

variable (guest : Guest Shared Unit) (errand : Errand Shared)

/-- What the job does when it starts. -/
def activity : Activity Unit := (guest.execute errand.shared () errand.job errand.freeAt).1

/-- What the pool shares once the job has started. -/
def sharedAfter : Shared := (guest.execute errand.shared () errand.job errand.freeAt).2

/-- What the caller is answered. -/
def answer : Except ScriptError String := (errand.activity guest).answer errand.timeout

/-- How far a job has come: the slot it is in, the state of its call, and what the pool shares.
When all of a moment has happened, it is a strict stage: a job that waits then waits on, and a
caller that waits still has patience. -/
inductive Stage (strict : Prop) (now : Instant) : Slot Unit → CallState → Shared → Prop where
  | waiting {rested : Slot Unit} (calm : rested.IsCalm errand.call)
      (free : rested.freeAt now = errand.freeAt) (later : strict → now < errand.freeAt) :
      Stage strict now (rested.enqueued errand.call errand.job) (.queued errand.slot) errand.shared
  | started {slot : Slot Unit} {ticket : Nat} (isAlive : slot.isAlive = true)
      (queue : slot.queue = []) (pending : slot.pending = 1)
      (ticketed : slot.interrupt.running = ticket ∧ slot.interrupt.cancelled < ticket ∧
        ticket < slot.nextTicket)
      (running : slot.running
        = some ⟨errand.call, ticket, errand.freeAt, errand.activity guest⟩)
      (begun : errand.freeAt ≤ now)
      (patient : now ≤ errand.freeAt + errand.timeout)
      (strictlyPatient : strict → now < errand.freeAt + errand.timeout) :
      Stage strict now slot (.started errand.slot ticket errand.freeAt)
        (errand.sharedAfter guest)
  | stopping {slot : Slot Unit} (isAlive : slot.isAlive = true) (queue : slot.queue = [])
      (pending : slot.pending = 1) (cancelled : slot.interrupt.cancelled < slot.nextTicket)
      {running : Running Unit} (isRunning : slot.running = some running)
      (call : running.call = errand.call)
      (due : ∀ schedule : Schedule Shared Unit, schedule.isDue slot = true)
      (begun : errand.freeAt ≤ now) :
      Stage strict now slot (.answered (errand.answer guest)) (errand.sharedAfter guest)
  | answered {slot : Slot Unit} (calm : slot.IsCalm (errand.call + 1))
      (begun : errand.freeAt ≤ now) :
      Stage strict now slot (.answered (errand.answer guest)) (errand.sharedAfter guest)

/-- A pool that is busy with a job, and otherwise at rest. -/
structure Occupies (strict : Prop) (schedule : Schedule Shared Unit) : Prop where
  timeout : schedule.pool.timeout = errand.timeout
  nextCall : schedule.pool.nextCall = errand.call + 1
  others : ∀ {index : Nat} {slot : Slot Unit}, index ≠ errand.slot →
    schedule.pool.slots[index]? = some slot → slot.IsCalm errand.call
  stage : ∃ slot state, schedule.pool.slots[errand.slot]? = some slot ∧
    schedule.pool.calls = [(errand.call, state)] ∧
    errand.Stage guest strict schedule.now slot state schedule.pool.shared

variable {guest errand} {strict : Prop} {now : Instant} {slot : Slot Unit} {state : CallState}
  {shared : Shared} {schedule : Schedule Shared Unit}

/-- A slot is sound at every stage of an errand. -/
theorem Stage.isSound (stage : errand.Stage guest strict now slot state shared) :
    slot.IsSound := by
  cases stage with
  | waiting calm => exact calm.isSound_enqueued _ _
  | started isAlive queue => exact ⟨isAlive, by simp [queue]⟩
  | stopping isAlive queue => exact ⟨isAlive, by simp [queue]⟩
  | answered calm => exact calm.isSound

/-- A pool that an errand occupies is sound. -/
theorem Occupies.isSound (occupies : errand.Occupies guest strict schedule) :
    schedule.IsSound := by
  intro index slot found
  by_cases here : index = errand.slot
  · subst here
    obtain ⟨slot', state, found', _, stage⟩ := occupies.stage
    obtain rfl : slot' = slot := Option.some.inj (found'.symm.trans found)
    exact stage.isSound
  · exact (occupies.others here found).isSound

/-- A calm slot is freed alike with a job behind it. -/
theorem freed_enqueued {rested : Slot Unit} {bound : Nat} (calm : rested.IsCalm bound)
    (schedule : Schedule Shared Unit) (call : Nat) (job : Job) :
    schedule.freed (rested.enqueued call job) = (schedule.freed rested).enqueued call job := by
  have sameDue : schedule.isDue (rested.enqueued call job) = schedule.isDue rested := rfl
  unfold Schedule.freed
  rw [sameDue]
  by_cases due : schedule.isDue rested = true
  · obtain ⟨running, isRunning⟩ := Schedule.exists_running_of_isDue due
    have pending : rested.pending = 1 := by simpa [isRunning] using calm.pending
    rw [if_pos due, if_pos due]
    simp [Slot.ended, Slot.enqueued, pending]
  · rw [if_neg due, if_neg due]

/-- A calm slot is free at the same time once it is freed. -/
theorem freeAt_freed {rested : Slot Unit} {bound : Nat} (calm : rested.IsCalm bound)
    (schedule : Schedule Shared Unit) :
    (schedule.freed rested).freeAt schedule.now = rested.freeAt schedule.now := by
  unfold Schedule.freed
  by_cases due : schedule.isDue rested = true
  · obtain ⟨running, isRunning⟩ := Schedule.exists_running_of_isDue due
    obtain ⟨_, duration, pace⟩ := calm.running isRunning
    have ended : running.startedAt + duration ≤ schedule.now := by
      simpa [Schedule.isDue, isRunning, pace] using due
    rw [if_pos due]
    simp [Slot.freeAt, Slot.ended, isRunning, pace, ended]
  · rw [if_neg due]

/-- What becomes of the job's own slot and call is all that matters. -/
theorem Occupies.moved {strict' : Prop} (occupies : errand.Occupies guest strict schedule)
    {after : Schedule Shared Unit} (timeout : after.pool.timeout = schedule.pool.timeout)
    (nextCall : after.pool.nextCall = schedule.pool.nextCall)
    (slots : after.pool.slots = schedule.pool.slots.set errand.slot slot)
    (calls : after.pool.calls = [(errand.call, state)])
    (stage : errand.Stage guest strict' after.now slot state after.pool.shared) :
    errand.Occupies guest strict' after := by
  obtain ⟨old, _, found, _⟩ := occupies.stage
  obtain ⟨inside, _⟩ := List.getElem?_eq_some_iff.mp found
  refine ⟨timeout.trans occupies.timeout, nextCall.trans occupies.nextCall, ?_,
    slot, state, ?_, calls, stage⟩
  · intro index other different present
    rw [slots, List.getElem?_set_ne (Ne.symm different)] at present
    exact occupies.others different present
  · rw [slots, List.getElem?_set_self inside]

/-- A job that waits starts once its slot is free. -/
theorem Occupies.settleSlot_waiting (occupies : errand.Occupies guest strict schedule)
    (timely : guest.IsTimely) {rested : Slot Unit} (calm : rested.IsCalm errand.call)
    (free : rested.freeAt schedule.now = errand.freeAt)
    (later : strict → schedule.now < errand.freeAt)
    (found : schedule.pool.slots[errand.slot]?
      = some (rested.enqueued errand.call errand.job))
    (calls : schedule.pool.calls = [(errand.call, .queued errand.slot)])
    (isShared : schedule.pool.shared = errand.shared) :
    errand.Occupies guest strict (Schedule.settleSlot guest schedule errand.slot) := by
  have released := Schedule.release_of_unheard timely found calm.isAlive (by
    intro running isRunning entry mem same
    rw [calls, List.mem_singleton] at mem
    subst mem
    exact absurd same (Nat.ne_of_gt (calm.running isRunning).1))
  rw [freed_enqueued calm] at released
  have calmFreed := Schedule.isCalm_freed calm schedule
  have freeFreed := (freeAt_freed calm schedule).trans free
  rw [Schedule.settleSlot_eq, released, Schedule.startNext]
  generalize schedule.freed rested = freed at calmFreed freeFreed
  have foundFreed := WorkerPool.withSlot_same found (freed.enqueued errand.call errand.job)
  dsimp only
  by_cases busy : freed.running.isSome = true
  · rw [WorkerPool.start_of_idle foundFreed (.inr (.inr busy))]
    exact occupies.moved rfl rfl rfl calls
      (isShared ▸ .waiting calmFreed freeFreed later)
  · have isFree : freed.running = none := by simpa using busy
    have now : schedule.now = errand.freeAt := by
      simpa [Slot.freeAt, isFree] using freeFreed
    have queued : (freed.enqueued errand.call errand.job).queue
        = ⟨errand.call, freed.nextTicket, errand.job⟩ :: [] := by
      simp [Slot.enqueued, calmFreed.queue]
    have pending : freed.pending = 0 := by simpa [isFree] using calmFreed.pending
    have sameShared : (schedule.pool.withSlot errand.slot
        (freed.enqueued errand.call errand.job)).shared = errand.shared := isShared
    rw [now, WorkerPool.start_eq foundFreed calmFreed.isAlive queued isFree, sameShared]
    have unanswered : ∀ outcome, CallState.queued errand.slot ≠ .answered outcome := by
      intro outcome same
      cases same
    refine occupies.moved rfl rfl (List.set_set ..) (WorkerPool.setCall_calls calls unanswered _)
      (.started calmFreed.isAlive rfl ?_ ⟨rfl, calmFreed.cancelled, Nat.lt_succ_self _⟩ rfl
        ?_ ?_ ?_)
    · simp [Slot.begun, Slot.enqueued, pending]
    · exact Nat.le_refl _
    · exact Nat.le_add_right ..
    · exact fun isStrict => absurd (later isStrict) (by rw [now]; exact Nat.lt_irrefl _)

/-- A job that is done in time is answered with its outcome. -/
theorem answer_of_due (timely : guest.IsTimely) {ticket : Nat}
    (unraised : slot.interrupt.isRaised = false)
    (running : slot.running = some ⟨errand.call, ticket, errand.freeAt, errand.activity guest⟩)
    (patient : schedule.now ≤ errand.freeAt + errand.timeout)
    (due : schedule.isDue slot = true) :
    errand.answer guest = Execution.answer ((errand.activity guest).outcome false).1 := by
  unfold Schedule.isDue at due
  rw [running] at due
  dsimp only at due
  unfold answer Activity.answer
  split at due
  · rename_i duration stoppable pace
    have ended : errand.freeAt + duration ≤ schedule.now := by simpa [unraised] using due
    have inTime : duration ≤ errand.timeout :=
      Nat.le_of_add_le_add_left (Nat.le_trans ended patient)
    rw [pace]
    simp only [if_pos inTime]
  · rw [unraised] at due
    cases due
  · rename_i pace
    exact absurd pace timely.released

/-- A job that is not done when its time is over is answered with that. -/
theorem answer_of_late {ticket : Nat}
    (running : slot.running = some ⟨errand.call, ticket, errand.freeAt, errand.activity guest⟩)
    (isOver : errand.freeAt + errand.timeout ≤ schedule.now)
    (notDue : schedule.isDue slot = false) :
    errand.answer guest = .error (.timeout errand.timeout) := by
  unfold answer Activity.answer
  split
  · rename_i duration stoppable pace
    simp only [Schedule.isDue, running, pace, Bool.or_eq_false_iff, decide_eq_false_iff_not]
      at notDue
    have unended : schedule.now < errand.freeAt + duration := Nat.lt_of_not_le notDue.1
    have late : errand.timeout < duration :=
      Nat.lt_of_add_lt_add_left (Nat.lt_of_le_of_lt isOver unended)
    rw [if_neg (Nat.not_le_of_lt late)]
  · rfl

/-- To settle the slot of a started errand finishes it when it is due. -/
theorem Occupies.settleSlot_started (occupies : errand.Occupies guest strict schedule)
    (timely : guest.IsTimely) {ticket : Nat} (isAlive : slot.isAlive = true)
    (queue : slot.queue = []) (pending : slot.pending = 1)
    (ticketed : slot.interrupt.running = ticket ∧ slot.interrupt.cancelled < ticket ∧
      ticket < slot.nextTicket)
    (running : slot.running = some ⟨errand.call, ticket, errand.freeAt, errand.activity guest⟩)
    (patient : schedule.now ≤ errand.freeAt + errand.timeout)
    (begun : errand.freeAt ≤ schedule.now)
    (found : schedule.pool.slots[errand.slot]? = some slot)
    (calls : schedule.pool.calls
      = [(errand.call, .started errand.slot ticket errand.freeAt)])
    (isShared : schedule.pool.shared = errand.sharedAfter guest)
    (due : schedule.isDue slot = true) :
    errand.Occupies guest strict (Schedule.settleSlot guest schedule errand.slot) := by
  have unraised : slot.interrupt.isRaised = false := by
    simp [Interrupt.isRaised, ticketed.1, Nat.ne_of_lt ticketed.2.1]
  have answered := answer_of_due timely unraised running patient due
  have released : Schedule.release guest schedule errand.slot
      = { schedule with
          pool := (schedule.pool.withSlot errand.slot slot.ended).setCall errand.call
            (.answered (errand.answer guest)) } := by
    unfold Schedule.release
    rw [found]
    dsimp only
    rw [if_pos due, WorkerPool.finish_eq timely found isAlive running, unraised, ← answered]
  rw [Schedule.settleSlot_eq, released, Schedule.startNext]
  have foundEnded : ((schedule.pool.withSlot errand.slot slot.ended).setCall errand.call
      (.answered (errand.answer guest))).slots[errand.slot]? = some slot.ended :=
    WorkerPool.withSlot_same found slot.ended
  dsimp only
  rw [WorkerPool.start_of_idle foundEnded (.inr (.inl queue))]
  have unanswered : ∀ outcome,
      CallState.started errand.slot ticket errand.freeAt ≠ .answered outcome := by
    intro outcome same
    cases same
  have calm : slot.ended.IsCalm (errand.call + 1) :=
    Slot.isCalm_ended isAlive queue pending (Nat.lt_trans ticketed.2.1 ticketed.2.2)
  exact occupies.moved rfl rfl rfl (WorkerPool.setCall_calls calls unanswered _)
    (isShared ▸ .answered calm begun)

/-- To settle a slot moves an errand to its next stage at most. -/
theorem Occupies.settleSlot (occupies : errand.Occupies guest strict schedule)
    (timely : guest.IsTimely) (index : Nat) :
    errand.Occupies guest strict (Schedule.settleSlot guest schedule index) := by
  obtain ⟨slot, state, found, calls, stage⟩ := occupies.stage
  by_cases here : index = errand.slot
  · subst here
    generalize isShared : schedule.pool.shared = shared at stage
    cases stage with
    | waiting calm free later =>
      exact occupies.settleSlot_waiting timely calm free later found calls isShared
    | @started _ ticket isAlive queue pending ticketed running begun patient later =>
      by_cases due : schedule.isDue slot = true
      · exact occupies.settleSlot_started timely isAlive queue pending ticketed running
          patient begun found calls isShared due
      · have released : Schedule.release guest schedule errand.slot = schedule := by
          simp only [Schedule.release, found, if_neg due]
        rw [Schedule.settleSlot_eq, released, Schedule.startNext,
          WorkerPool.start_of_idle found (.inr (.inl queue))]
        exact occupies
    | stopping isAlive queue pending cancelled isRunning call due begun =>
      rw [Schedule.settleSlot_of_unheard timely found isAlive queue (by simp [calls])]
      rw [Schedule.freed, if_pos (due schedule)]
      have calm : slot.ended.IsCalm (errand.call + 1) :=
        Slot.isCalm_ended isAlive queue pending cancelled
      exact occupies.moved rfl rfl rfl calls (isShared ▸ .answered calm begun)
    | answered calm begun =>
      rw [Schedule.settleSlot_of_calm timely found calm (by simp [calls])]
      exact occupies.moved rfl rfl rfl calls
        (isShared ▸ .answered (Schedule.isCalm_freed calm schedule) begun)
  · cases present : schedule.pool.slots[index]? with
    | none =>
      rw [Schedule.settleSlot_of_missing guest present]
      exact occupies
    | some other =>
      have calm := occupies.others here present
      rw [Schedule.settleSlot_of_calm timely present calm (by simp [calls])]
      refine ⟨occupies.timeout, occupies.nextCall, ?_, slot, state, ?_, calls, stage⟩
      · intro index' slot' different present'
        dsimp only at present'
        rw [WorkerPool.withSlot_slots] at present'
        split at present'
        · cases present'
          exact Schedule.isCalm_freed calm schedule
        · exact occupies.others different present'
      · exact (WorkerPool.withSlot_of_ne _ here _).trans found

/-- Once the workers cannot go on, a job that still waits has to wait longer. -/
theorem now_lt_freeAt {rested : Slot Unit} {bound : Nat} (calm : rested.IsCalm bound)
    {call : Nat} {job : Job}
    (settled : schedule.isDue (rested.enqueued call job) = false ∧
      ((rested.enqueued call job).queue = [] ∨
        (rested.enqueued call job).running.isSome = true)) :
    ∃ running duration, rested.running = some running ∧
      running.activity.pace = .taking duration false ∧
      schedule.now < running.startedAt + duration := by
  obtain ⟨notDue, busy⟩ := settled
  have busy : rested.running.isSome = true := by
    rcases busy with isEmpty | busy
    · simp [Slot.enqueued] at isEmpty
    · exact busy
  obtain ⟨running, isRunning⟩ := Option.isSome_iff_exists.mp busy
  obtain ⟨_, duration, pace⟩ := calm.running isRunning
  refine ⟨running, duration, isRunning, pace, ?_⟩
  simpa [Schedule.isDue, Slot.enqueued, isRunning, pace] using notDue

/-- A slot with a running job is free when that job has taken its time. -/
theorem freeAt_eq {rested : Slot Unit} {running : Running Unit} {duration : Duration}
    (isRunning : rested.running = some running)
    (pace : running.activity.pace = .taking duration false) (now : Instant) :
    rested.freeAt now = max now (running.startedAt + duration) := by
  unfold Slot.freeAt
  rw [isRunning]
  dsimp only
  rw [pace]

/-- A pool in which everything of a moment has happened to a job. -/
structure Passed (guest : Guest Shared Unit) (errand : Errand Shared)
    (before after : Schedule Shared Unit) : Prop where
  occupies : errand.Occupies guest True after
  settled : ∀ index, after.IsSettledAt index
  now : after.now = before.now
  /-- Whoever was due then is done. -/
  jobs : ∀ {index : Nat} {slot : Slot Unit}, before.pool.slots[index]? = some slot →
    before.isDue slot = true → after.jobs < before.jobs

/-- A job whose caller has lost patience is asked to stop. One that cannot goes on by itself. -/
theorem stage_raised (timely : guest.IsTimely) {ticket : Nat} (isAlive : slot.isAlive = true)
    (queue : slot.queue = []) (pending : slot.pending = 1)
    (ticketed : slot.interrupt.running = ticket ∧ slot.interrupt.cancelled < ticket ∧
      ticket < slot.nextTicket)
    (running : slot.running = some ⟨errand.call, ticket, errand.freeAt, errand.activity guest⟩)
    (begun : errand.freeAt ≤ now) :
    errand.Stage guest strict now { slot with interrupt := slot.interrupt.raise ticket }
      (.answered (errand.answer guest)) (errand.sharedAfter guest) := by
  have isRaised : (slot.interrupt.raise ticket).isRaised = true := by
    have ticket_ne : ticket ≠ 0 := Nat.ne_zero_of_lt ticketed.2.1
    simp [Interrupt.isRaised, Interrupt.raise, ticketed.1, ticket_ne]
  cases pace : (errand.activity guest).pace with
  | taking duration stoppable =>
    cases stoppable with
    | true =>
      refine .stopping isAlive queue pending ticketed.2.2 running rfl (fun schedule => ?_) begun
      simp [Schedule.isDue, running, pace, isRaised]
    | false =>
      refine .answered ⟨isAlive, queue, ?_, ticketed.2.2, fun isRunning => ?_⟩ begun
      · simp [running, pending]
      · cases running.symm.trans isRunning
        exact ⟨Nat.lt_succ_self _, duration, pace⟩
  | untilInterrupted =>
    refine .stopping isAlive queue pending ticketed.2.2 running rfl (fun schedule => ?_) begun
    simp [Schedule.isDue, running, pace, isRaised]
  | untilReleased => exact absurd pace timely.released

/-- A caller whose patience is at its end is answered so. -/
theorem Occupies.expireAll (occupies : errand.Occupies guest False schedule)
    (timely : guest.IsTimely) (settled : ∀ index, schedule.IsSettledAt index) :
    errand.Occupies guest True schedule.expireAll ∧ schedule.expireAll.jobs = schedule.jobs := by
  obtain ⟨slot, state, found, calls, stage⟩ := occupies.stage
  have settled := settled errand.slot found
  have called : schedule.pool.call? errand.call = some state := by
    simp [WorkerPool.call?, calls]
  have single : schedule.expireAll
      = { schedule with pool := schedule.pool.expire errand.call schedule.now } := by
    rw [Schedule.expireAll, calls]
    rfl
  have unmoved := (WorkerPool.slots_set_self found).symm
  rw [single, WorkerPool.expire, called]
  generalize isShared : schedule.pool.shared = shared at stage
  cases stage with
  | @waiting rested calm free later =>
    obtain ⟨running, duration, isRunning, pace, early⟩ := now_lt_freeAt calm settled
    rw [freeAt_eq isRunning pace] at free
    refine ⟨occupies.moved rfl rfl unmoved calls (isShared ▸ .waiting calm ?_ ?_), rfl⟩
    · rw [freeAt_eq isRunning pace, free]
    · rw [← free]
      exact fun _ => Nat.lt_of_lt_of_le early (Nat.le_max_right ..)
  | @started _ ticket isAlive queue pending ticketed running begun patient later =>
    dsimp only
    rw [occupies.timeout]
    by_cases isOver : errand.freeAt + errand.timeout ≤ schedule.now
    · have timedOut : errand.answer guest = .error (.timeout errand.timeout) :=
        answer_of_late running isOver settled.1
      rw [if_pos isOver, WorkerPool.modifySlot_eq found, WorkerPool.withSlot_timeout,
        occupies.timeout, ← timedOut]
      have unanswered : ∀ outcome,
          CallState.started errand.slot ticket errand.freeAt ≠ .answered outcome := by
        intro outcome same
        cases same
      refine ⟨occupies.moved rfl rfl rfl (WorkerPool.setCall_calls calls unanswered _)
        (isShared ▸ stage_raised timely isAlive queue pending ticketed running begun), ?_⟩
      have sameJobs := Schedule.sum_jobs_set found
        { slot with interrupt := slot.interrupt.raise ticket }
      rw [Schedule.jobs_eq, Schedule.jobs_eq]
      exact Nat.add_right_cancel sameJobs
    · rw [if_neg isOver]
      refine ⟨occupies.moved rfl rfl unmoved calls (isShared ▸ .started isAlive queue pending
        ticketed running begun patient fun _ => Nat.lt_of_not_le isOver), rfl⟩
  | stopping isAlive queue pending cancelled isRunning call due begun =>
    exact ⟨occupies.moved rfl rfl unmoved calls (isShared ▸ .stopping isAlive queue pending
      cancelled isRunning call due begun), rfl⟩
  | answered calm begun =>
    exact ⟨occupies.moved rfl rfl unmoved calls (isShared ▸ .answered calm begun), rfl⟩

/-- Once everything of a moment has happened, an errand is settled, and whoever was due is done. -/
theorem Occupies.happen (occupies : errand.Occupies guest False schedule)
    (timely : guest.IsTimely) :
    Passed guest errand schedule (Schedule.happen guest schedule) := by
  have kept (strict : Prop) (schedule : Schedule Shared Unit) (index : Nat)
      (_ : schedule.IsSound) (occupies : errand.Occupies guest strict schedule) :
      errand.Occupies guest strict (Schedule.settleSlot guest schedule index) :=
    occupies.settleSlot timely index
  obtain ⟨first, settled⟩ :=
    Schedule.settle_going timely occupies.isSound (kept False) occupies
  obtain ⟨expired, sameJobs⟩ := first.holds.expireAll timely settled
  obtain ⟨second, settled'⟩ :=
    Schedule.settle_going timely expired.isSound (kept True) expired
  refine ⟨second.holds, settled', second.now.trans first.now, fun found due => ?_⟩
  have fewer := first.jobs_lt settled found due
  exact Nat.lt_of_le_of_lt second.jobs (sameJobs ▸ fewer)

/-- Nothing happens to a job that its caller waits for before the next moment. Then a worker is
done with a job, or the caller loses patience. -/
theorem Occupies.nextMoment (occupies : errand.Occupies guest True schedule)
    (settled : ∀ index, schedule.IsSettledAt index)
    (unanswered : schedule.pool.answer? errand.call = none) :
    ∃ moment, schedule.nextMoment? = some moment ∧
      errand.Occupies guest False { schedule with now := moment } ∧
      ((∃ (index : Nat) (slot : Slot Unit), schedule.pool.slots[index]? = some slot ∧
          Schedule.isDue { schedule with now := moment } slot = true) ∨
        errand.freeAt + errand.timeout ≤ moment) := by
  obtain ⟨slot, state, found, calls, stage⟩ := occupies.stage
  have unmoved := (WorkerPool.slots_set_self found).symm
  have settled := settled errand.slot found
  generalize isShared : schedule.pool.shared = shared at stage
  cases stage with
  | @waiting rested calm free later =>
    obtain ⟨running, duration, isRunning, pace, early⟩ := now_lt_freeAt calm settled
    have isMoment := Schedule.mem_moments_of_running found isRunning pace early
    obtain ⟨moment, next, mem, le⟩ := Schedule.nextMoment?_of_mem isMoment
    rw [freeAt_eq isRunning pace, Nat.max_eq_right (Nat.le_of_lt early)] at free
    refine ⟨moment, next, occupies.moved rfl rfl unmoved calls
      (isShared ▸ .waiting calm ?_ False.elim), ?_⟩
    · rw [freeAt_eq isRunning pace, Nat.max_eq_right le, free]
    · rcases (Schedule.mem_moments mem).2 with
        ⟨index, ending, running, duration, stoppable, present, isRunning, pace, ends⟩ |
        ⟨call, index, ticket, startedAt, waits, _⟩
      · exact .inl ⟨index, ending, present,
          Schedule.isDue_of_ended isRunning pace (Nat.le_of_eq ends.symm)⟩
      · simp [calls] at waits
  | @started _ ticket isAlive queue pending ticketed running begun patient strictly =>
    have early := strictly trivial
    rw [← occupies.timeout] at early
    have isMoment := Schedule.mem_moments_of_started
      (by rw [calls]; exact List.mem_singleton_self _) early
    obtain ⟨moment, next, mem, le⟩ := Schedule.nextMoment?_of_mem isMoment
    rw [occupies.timeout] at le
    obtain ⟨later, ending⟩ := Schedule.mem_moments mem
    refine ⟨moment, next, occupies.moved rfl rfl unmoved calls (isShared ▸ .started isAlive queue
      pending ticketed running (Nat.le_of_lt (Nat.lt_of_le_of_lt begun later)) le False.elim), ?_⟩
    rcases ending with
      ⟨index, ending, running, duration, stoppable, present, isRunning, pace, ends⟩ |
      ⟨call, index, ticket, startedAt, waits, ends⟩
    · exact .inl ⟨index, ending, present,
        Schedule.isDue_of_ended isRunning pace (Nat.le_of_eq ends.symm)⟩
    · rw [calls, List.mem_singleton] at waits
      cases waits
      rw [ends, occupies.timeout]
      exact .inr (Nat.le_refl _)
  | stopping => simp [WorkerPool.answer?, WorkerPool.call?, calls] at unanswered
  | answered => simp [WorkerPool.answer?, WorkerPool.call?, calls] at unanswered

/-- A pool that is done with a job and at rest. -/
structure IsDone (guest : Guest Shared Unit) (errand : Errand Shared)
    (schedule : Schedule Shared Unit) : Prop where
  resting : schedule.IsResting
  shared : schedule.pool.shared = errand.sharedAfter guest
  timeout : schedule.pool.timeout = errand.timeout
  later : errand.freeAt ≤ schedule.now

/-- An errand that is answered is done, and its answer is the one it was sent for. -/
theorem Occupies.isDone (occupies : errand.Occupies guest True schedule)
    (settled : ∀ index, schedule.IsSettledAt index) {outcome : Except ScriptError String}
    (answered : schedule.pool.answer? errand.call = some outcome) :
    outcome = errand.answer guest ∧
    errand.IsDone guest { schedule with pool := schedule.pool.forget errand.call } := by
  obtain ⟨slot, state, found, calls, stage⟩ := occupies.stage
  have forgotten : (schedule.pool.forget errand.call).calls = [] := by
    simp [WorkerPool.forget, calls]
  have nonempty : schedule.pool.slots ≠ [] := by
    intro isEmpty
    simp [isEmpty] at found
  generalize isShared : schedule.pool.shared = shared at stage
  cases stage with
  | waiting => simp [WorkerPool.answer?, WorkerPool.call?, calls] at answered
  | started => simp [WorkerPool.answer?, WorkerPool.call?, calls] at answered
  | stopping isAlive queue pending cancelled isRunning call due begun =>
    have notDue := (settled errand.slot found).1
    rw [due schedule] at notDue
    cases notDue
  | answered calm begun =>
    have same : errand.answer guest = outcome := by
      simpa [WorkerPool.answer?, WorkerPool.call?, calls] using answered
    refine ⟨same.symm, ⟨forgotten, nonempty, ?_⟩, isShared, occupies.timeout, begun⟩
    intro index other present
    have nextCall := occupies.nextCall
    by_cases here : index = errand.slot
    · subst here
      obtain rfl : slot = other := Option.some.inj (found.symm.trans present)
      exact nextCall ▸ calm
    · exact nextCall ▸ (occupies.others here present).mono (Nat.le_succ _)

/-- A caller that waits has patience. -/
theorem Stage.now_lt (stage : errand.Stage guest True now slot state shared)
    (unanswered : ∀ outcome, state ≠ .answered outcome) :
    now < errand.freeAt + errand.timeout := by
  cases stage with
  | waiting calm free later => exact Nat.lt_of_lt_of_le (later trivial) (Nat.le_add_right ..)
  | started isAlive queue pending ticketed running begun patient strictly =>
    exact strictly trivial
  | stopping => exact absurd rfl (unanswered _)
  | answered => exact absurd rfl (unanswered _)

/-- An errand that is waited for comes to its end. -/
theorem Occupies.awaitCall (timely : guest.IsTimely) {fuel : Nat}
    {schedule : Schedule Shared Unit} (occupies : errand.Occupies guest True schedule)
    (settled : ∀ index, schedule.IsSettledAt index) (positive : 0 < fuel)
    (enough : schedule.pool.answer? errand.call = none → schedule.jobs + 1 < fuel) :
    ∃ after, Schedule.awaitCall guest errand.call fuel schedule
        = (some (errand.answer guest), after) ∧ errand.IsDone guest after := by
  induction fuel generalizing schedule with
  | zero => cases positive
  | succ fuel ih =>
    rw [Schedule.awaitCall]
    cases answered : schedule.pool.answer? errand.call with
    | some outcome =>
      obtain ⟨rfl, done⟩ := occupies.isDone settled answered
      exact ⟨_, rfl, done⟩
    | none =>
      obtain ⟨moment, next, moved, progress⟩ := occupies.nextMoment settled answered
      have passed := moved.happen timely
      have enough := enough answered
      simp only [next]
      refine ih passed.occupies passed.settled (by omega) fun unanswered => ?_
      rcases progress with ⟨index, slot, found, due⟩ | ended
      · have fewer : (Schedule.happen guest { schedule with now := moment }).jobs
            < schedule.jobs := passed.jobs found due
        omega
      · obtain ⟨slot, state, found, calls, stage⟩ := passed.occupies.stage
        have early := stage.now_lt (by
          rintro outcome rfl
          simp [WorkerPool.answer?, WorkerPool.call?, calls] at unanswered)
        rw [passed.now] at early
        exact absurd ended (Nat.not_le_of_lt early)

end Errand

namespace Schedule

variable {guest : Guest Shared Unit} {schedule : Schedule Shared Unit}

/-- When the slot for the next job is free. -/
def freeAt (schedule : Schedule Shared Unit) : Instant :=
  match schedule.pool.slots[schedule.pool.nextSlot]? with
  | none => schedule.now
  | some slot => slot.freeAt schedule.now

/-- A pool is free no earlier than now. -/
theorem now_le_freeAt (schedule : Schedule Shared Unit) : schedule.now ≤ schedule.freeAt := by
  unfold freeAt
  split
  · exact Nat.le_refl _
  · exact Slot.now_le_freeAt ..

/-- The next job of a pool at rest. -/
def errand (schedule : Schedule Shared Unit) (job : Job) : Errand Shared where
  job
  call := schedule.pool.nextCall
  slot := schedule.pool.nextSlot
  freeAt := schedule.freeAt
  shared := schedule.pool.shared
  timeout := schedule.pool.timeout

/-- A job that is submitted to a pool at rest is an errand that occupies it. -/
theorem IsResting.submit (resting : schedule.IsResting) (timely : guest.IsTimely) (job : Job) :
    ∃ after, schedule.submit guest job = (schedule.pool.nextCall, after) ∧
      (schedule.errand job).Occupies guest True after ∧ ∀ index, after.IsSettledAt index := by
  have inside := WorkerPool.nextSlot_lt resting.slots
  have found : schedule.pool.slots[schedule.pool.nextSlot]?
      = some schedule.pool.slots[schedule.pool.nextSlot] := List.getElem?_eq_getElem inside
  generalize schedule.pool.slots[schedule.pool.nextSlot] = slot at found
  have calm := resting.calm found
  have submitted : (schedule.errand job).Occupies guest False
      { schedule with pool := (schedule.pool.submit job).2 } := by
    have isAlive : (schedule.pool.slots[schedule.pool.nextSlot]?.map Slot.isAlive).getD false
        = true := by
      simp [found, calm.isAlive]
    have free : slot.freeAt schedule.now = schedule.freeAt := by
      rw [Schedule.freeAt, found]
    unfold WorkerPool.submit
    dsimp only
    rw [isAlive, WorkerPool.modifySlot_eq found, if_pos calm.isAlive]
    refine ⟨rfl, rfl, ?_, slot.enqueued schedule.pool.nextCall job, _,
      WorkerPool.withSlot_same found _, ?_, .waiting calm free False.elim⟩
    · intro index other different present
      have different : schedule.pool.nextSlot ≠ index := Ne.symm different
      dsimp only at present
      rw [WorkerPool.withSlot_of_ne _ different] at present
      exact resting.calm present
    · simp [WorkerPool.withSlot, resting.calls, Schedule.errand]
  have passed := submitted.happen timely
  exact ⟨_, rfl, passed.occupies, passed.settled⟩

/-- Startups that are ready are runtimes. -/
theorem guests_ready (label : String) (count : Nat) :
    WorkerPool.guests label (List.replicate count (Startup.ready ()))
      = .ok (List.replicate count ()) := by
  induction count with
  | zero => rfl
  | succ count ih =>
    rw [List.replicate_succ, List.replicate_succ, WorkerPool.guests, ih]
    rfl

/-- A new pool is at rest. -/
theorem isResting_new {label : String} {size : Nat} {timeout : Duration} {shared : Shared}
    {pool : WorkerPool Shared Unit}
    (built : WorkerPool.new label size timeout shared (fun _ => .ready ()) = .ok pool)
    (now : Instant) :
    IsResting ⟨pool, now, false⟩ ∧ pool.shared = shared ∧ pool.timeout = timeout := by
  unfold WorkerPool.new at built
  split at built
  · cases built
  · rename_i nonzero
    rw [List.map_const', List.length_range, guests_ready] at built
    cases built
    refine ⟨⟨rfl, ?_, ?_⟩, rfl, rfl⟩
    · simpa using nonzero
    · intro index slot found
      have mem := List.mem_of_getElem? found
      simp only [List.map_replicate, List.mem_replicate] at mem
      obtain ⟨_, rfl⟩ := mem
      exact ⟨rfl, rfl, rfl, by decide, nofun⟩

/-- A job that is submitted to a pool at rest starts when its slot is free, on what the pool shares,
and its caller is answered its outcome, if that comes in time. -/
theorem IsResting.run (resting : schedule.IsResting) (timely : guest.IsTimely) (job : Job) :
    let done := guest.execute schedule.pool.shared () job schedule.freeAt
    ∃ after, schedule.run guest job = (some (done.1.answer schedule.pool.timeout), after) ∧
      after.IsResting ∧ after.pool.shared = done.2 ∧
      after.pool.timeout = schedule.pool.timeout ∧ schedule.freeAt ≤ after.now := by
  obtain ⟨busy, submitted, occupies, settled⟩ := resting.submit timely job
  have waits : busy.pool.calls.length = 1 := by
    obtain ⟨_, _, _, calls, _⟩ := occupies.stage
    rw [calls]
    rfl
  have enough : busy.jobs + 1 < busy.momentBound := by
    rw [momentBound]
    omega
  obtain ⟨after, awaited, done⟩ := occupies.awaitCall timely settled
    (Nat.lt_of_le_of_lt (Nat.zero_le _) enough) fun _ => enough
  refine ⟨after, ?_, done.resting, done.shared, done.timeout, done.later⟩
  rw [Schedule.run, submitted]
  exact awaited

end Schedule

end ConfigDelivery.Pool
