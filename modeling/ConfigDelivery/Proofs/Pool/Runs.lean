import ConfigDelivery.Proofs.Pool.Slots
/-!
# Runs of a pool

Whatever happens to a pool, event by event and in any order: jobs are submitted, workers take them
and are done with them, callers lose patience. An event that cannot happen changes nothing. This
module says once what each event changes and when, and which facts hold of every pool because no
event can end them: a call's answer, the death of a worker, and the job that a worker is at.
-/

namespace ConfigDelivery.Pool

open ConfigDelivery.Script (ScriptError)

variable {Shared Memory : Type}

/-- What can happen to a pool. -/
inductive Action where
  | submit (job : Job)
  | start (index : Nat)
  | finish (index : Nat)
  | expire (call : Nat)
  deriving DecidableEq

/-- Something that happens at some moment. -/
structure Event where
  now : Instant
  action : Action

namespace WorkerPool

/-- The pool after an event. -/
def step (guest : Guest Shared Memory) (pool : WorkerPool Shared Memory) (event : Event) :
    WorkerPool Shared Memory :=
  match event.action with
  | .submit job => (pool.submit job).2
  | .start index => pool.start guest index event.now
  | .finish index => pool.finish guest index
  | .expire call => pool.expire call event.now

/-- The pool after some events. -/
def after (guest : Guest Shared Memory) (pool : WorkerPool Shared Memory) (events : List Event) :
    WorkerPool Shared Memory :=
  events.foldl (step guest) pool

/-- An event finds nothing to do. -/
def IsIdleFor (pool : WorkerPool Shared Memory) (event : Event) : Prop :=
  match event.action with
  | .submit _ => False
  | .start index => ∀ slot, pool.slots[index]? = some slot →
    slot.isAlive = false ∨ slot.queue = [] ∨ slot.running.isSome = true
  | .finish index => ∀ slot, pool.slots[index]? = some slot →
    slot.isAlive = false ∨ slot.running = none
  | .expire call => ∀ index ticket startedAt,
    pool.call? call = some (.started index ticket startedAt) → event.now < startedAt + pool.timeout

/-- Everything an event can do to a pool. -/
inductive Change (guest : Guest Shared Memory) (pool : WorkerPool Shared Memory) :
    Event → WorkerPool Shared Memory → Prop where
  | accepted {slot : Slot Memory} (now : Instant) (job : Job)
      (found : pool.slots[pool.nextSlot]? = some slot) (isAlive : slot.isAlive = true) :
      Change guest pool ⟨now, .submit job⟩
        ((pool.withSlot pool.nextSlot (slot.enqueued pool.nextCall job)).withCall
          (.queued pool.nextSlot))
  | refused {slot : Slot Memory} (now : Instant) (job : Job)
      (found : pool.slots[pool.nextSlot]? = some slot) (isDead : slot.isAlive = false) :
      Change guest pool ⟨now, .submit job⟩
        ((pool.withSlot pool.nextSlot { slot with nextTicket := slot.nextTicket + 1 }).withCall
          (.answered (.error (pool.unavailable pool.nextSlot))))
  | started {slot : Slot Memory} {index : Nat} {next : Queued} {rest : List Queued} (now : Instant)
      (found : pool.slots[index]? = some slot) (isAlive : slot.isAlive = true)
      (isQueued : slot.queue = next :: rest) (isFree : slot.running = none) :
      Change guest pool ⟨now, .start index⟩
        { (pool.withSlot index (slot.begun rest ⟨next.call, next.ticket, now,
              (guest.execute pool.shared slot.memory next.job now).1⟩)).setCall
            next.call (.started index next.ticket now) with
          shared := (guest.execute pool.shared slot.memory next.job now).2 }
  | finished {slot : Slot Memory} {index : Nat} {running : Running Memory} (now : Instant)
      (found : pool.slots[index]? = some slot) (isAlive : slot.isAlive = true)
      (isRunning : slot.running = some running)
      (survives : (guest.reset (slot.ending running).2).1 ≠ .panicked) :
      Change guest pool ⟨now, .finish index⟩
        ((pool.withSlot index (slot.relieved (guest.reset (slot.ending running).2).2)).setCall
          running.call (.answered (Execution.answer (slot.ending running).1)))
  | died {slot : Slot Memory} {index : Nat} {running : Running Memory} (now : Instant)
      (found : pool.slots[index]? = some slot) (isAlive : slot.isAlive = true)
      (isRunning : slot.running = some running)
      (dies : (guest.reset (slot.ending running).2).1 = .panicked) :
      Change guest pool ⟨now, .finish index⟩
        ((pool.withSlot index (slot.deserted (guest.reset (slot.ending running).2).2)).abandon
          index)
  | expired {call index ticket : Nat} {startedAt : Instant} (now : Instant)
      (isStarted : pool.call? call = some (.started index ticket startedAt))
      (late : startedAt + pool.timeout ≤ now) :
      Change guest pool ⟨now, .expire call⟩
        ((pool.modifySlot index fun slot => slot.hurried ticket).setCall call
          (.answered (.error (.timeout pool.timeout))))
  | unchanged {event : Event} (idle : pool.IsIdleFor event) : Change guest pool event pool

variable {guest : Guest Shared Memory} {pool : WorkerPool Shared Memory}

/-- A submission is a change of the pool. -/
theorem change_submit (slots : pool.slots ≠ []) (now : Instant) (job : Job) :
    Change guest pool ⟨now, .submit job⟩ (pool.submit job).2 := by
  obtain ⟨slot, found⟩ : ∃ slot, pool.slots[pool.nextSlot]? = some slot :=
    ⟨_, List.getElem?_eq_getElem (nextSlot_lt slots)⟩
  cases alive : slot.isAlive with
  | true =>
    rw [submit_eq found alive]
    exact .accepted now job found alive
  | false =>
    rw [submit_of_dead found alive]
    exact .refused now job found alive

/-- A start is a change of the pool, or changes nothing. -/
theorem change_start (index : Nat) (now : Instant) :
    Change guest pool ⟨now, .start index⟩ (pool.start guest index now) := by
  by_cases idle : pool.IsIdleFor ⟨now, .start index⟩
  · have same : pool.start guest index now = pool := by
      cases found : pool.slots[index]? with
      | none => simp [start, found]
      | some slot => exact start_of_idle found (idle slot found) now
    rw [same]
    exact .unchanged idle
  · simp only [IsIdleFor, Classical.not_forall, not_or, Bool.not_eq_false] at idle
    obtain ⟨slot, found, isAlive, hasQueue, isBusy⟩ := idle
    obtain ⟨next, rest, isQueued⟩ := List.exists_cons_of_ne_nil hasQueue
    have isFree : slot.running = none := by simpa using isBusy
    rw [start_eq found isAlive isQueued isFree]
    exact .started now found isAlive isQueued isFree

/-- A finish is a change of the pool, or changes nothing. -/
theorem change_finish (index : Nat) (now : Instant) :
    Change guest pool ⟨now, .finish index⟩ (pool.finish guest index) := by
  by_cases idle : pool.IsIdleFor ⟨now, .finish index⟩
  · have same : pool.finish guest index = pool := by
      cases found : pool.slots[index]? with
      | none => simp [finish, found]
      | some slot => exact finish_of_idle found (idle slot found)
    rw [same]
    exact .unchanged idle
  · simp only [IsIdleFor, Classical.not_forall, not_or, Bool.not_eq_false] at idle
    obtain ⟨slot, found, isAlive, isBusy⟩ := idle
    obtain ⟨running, isRunning⟩ := Option.ne_none_iff_exists'.mp isBusy
    by_cases dies : (guest.reset (slot.ending running).2).1 = .panicked
    · rw [finish_of_panicked found isAlive isRunning dies]
      exact .died now found isAlive isRunning dies
    · rw [finish_of_survives found isAlive isRunning dies]
      exact .finished now found isAlive isRunning dies

/-- An expiry is a change of the pool, or changes nothing. -/
theorem change_expire (call : Nat) (now : Instant) :
    Change guest pool ⟨now, .expire call⟩ (pool.expire call now) := by
  unfold expire
  split
  · rename_i index ticket startedAt isStarted
    split
    · rename_i late
      exact .expired now isStarted late
    · rename_i early
      refine .unchanged fun _ _ _ same => ?_
      rw [isStarted] at same
      cases same
      exact Nat.lt_of_not_le early
  · rename_i notStarted
    exact .unchanged fun index ticket startedAt same => absurd same (notStarted _ _ _)

/-- An event does one of the things that events do. -/
theorem change_step (slots : pool.slots ≠ []) (event : Event) :
    Change guest pool event (pool.step guest event) := by
  obtain ⟨now, action⟩ := event
  cases action with
  | submit job => exact change_submit slots now job
  | start index => exact change_start index now
  | finish index => exact change_finish index now
  | expire call => exact change_expire call now

/-- Everything an event can do to a slot. -/
inductive SlotChange (pool : WorkerPool Shared Memory) (event : Event) (index : Nat)
    (slot : Slot Memory) : Slot Memory → Prop where
  | kept (idle : event.action = .finish index → slot.isAlive = false ∨ slot.running = none) :
      SlotChange pool event index slot slot
  | enqueued (job : Job) (isSubmit : event.action = .submit job) (isNext : pool.nextSlot = index)
      (isAlive : slot.isAlive = true) :
      SlotChange pool event index slot (slot.enqueued pool.nextCall job)
  | passed (isDead : slot.isAlive = false) :
      SlotChange pool event index slot { slot with nextTicket := slot.nextTicket + 1 }
  | begun {next : Queued} {rest : List Queued} {running : Running Memory}
      (isQueued : slot.queue = next :: rest) (isFree : slot.running = none)
      (call : running.call = next.call) :
      SlotChange pool event index slot (slot.begun rest running)
  | relieved {running : Running Memory} (memory : Memory)
      (isFinish : event.action = .finish index) (isRunning : slot.running = some running) :
      SlotChange pool event index slot (slot.relieved memory)
  | deserted {running : Running Memory} (memory : Memory)
      (isFinish : event.action = .finish index) (isRunning : slot.running = some running) :
      SlotChange pool event index slot (slot.deserted memory)
  | hurried (call ticket : Nat) (isExpire : event.action = .expire call) :
      SlotChange pool event index slot (slot.hurried ticket)

/-- A change in one place leaves what is elsewhere. -/
theorem slotChange_withSlot {event : Event} {index other : Nat} {slot old new : Slot Memory}
    (found : pool.slots[index]? = some old) (change : SlotChange pool event index old new)
    (here : ∀ other, event.action = .finish other → index = other)
    (present : pool.slots[other]? = some slot) :
    ∃ changed, (pool.withSlot index new).slots[other]? = some changed ∧
      SlotChange pool event other slot changed := by
  by_cases same : index = other
  · subst same
    cases found.symm.trans present
    exact ⟨new, withSlot_same found new, change⟩
  · exact ⟨slot, (withSlot_of_ne pool same new).trans present,
      .kept fun isFinish => absurd (here other isFinish) same⟩

/-- A change of the pool is a change of each slot, in most cases none. -/
theorem Change.slot {event : Event} {after : WorkerPool Shared Memory}
    (change : Change guest pool event after) {index : Nat} {slot : Slot Memory}
    (present : pool.slots[index]? = some slot) :
    ∃ changed, after.slots[index]? = some changed ∧ SlotChange pool event index slot changed := by
  cases change with
  | accepted now job found isAlive =>
    exact slotChange_withSlot found (.enqueued job rfl rfl isAlive) nofun present
  | refused now job found isDead =>
    exact slotChange_withSlot found (.passed isDead) nofun present
  | started now found isAlive isQueued isFree =>
    exact slotChange_withSlot found (.begun isQueued isFree rfl) nofun present
  | finished now found isAlive isRunning survives =>
    refine slotChange_withSlot found (.relieved _ rfl isRunning) (fun other same => ?_) present
    cases same
    rfl
  | died now found isAlive isRunning dies =>
    refine slotChange_withSlot found (.deserted _ rfl isRunning) (fun other same => ?_) present
    cases same
    rfl
  | @expired call other ticket startedAt now isStarted late =>
    cases found : pool.slots[other]? with
    | none =>
      refine ⟨slot, ?_, .kept nofun⟩
      have outside := List.getElem?_eq_none_iff.mp found
      show (pool.slots.modify other _)[index]? = _
      rw [List.modify_eq_self outside]
      exact present
    | some old =>
      rw [modifySlot_eq found]
      exact slotChange_withSlot found (.hurried call ticket rfl) nofun present
  | unchanged idle =>
    refine ⟨slot, present, .kept fun isFinish => ?_⟩
    rw [IsIdleFor, isFinish] at idle
    exact idle slot present

/-! ## What no event changes -/

/-- No event makes or takes away a slot. -/
theorem Change.length {event : Event} {after : WorkerPool Shared Memory}
    (change : Change guest pool event after) : after.slots.length = pool.slots.length := by
  cases change <;> simp [withSlot, withCall, setCall, abandon, modifySlot]

/-- An answer stays what it is. -/
theorem Change.answered {event : Event} {after : WorkerPool Shared Memory}
    (change : Change guest pool event after) {call : Nat} {outcome : Except ScriptError String}
    (answered : pool.answer? call = some outcome) : after.answer? call = some outcome := by
  rw [answer?_eq_some] at answered ⊢
  have told : ∀ (index : Nat) (slot : Slot Memory) (other : Nat) (news : CallState),
      ((pool.withSlot index slot).setCall other news).call? call = some (.answered outcome) := by
    intro index slot other news
    rw [call?_setCall, call?_withSlot, answered]
    split <;> rfl
  cases change with
  | accepted now job found isAlive => rw [call?_withCall, call?_withSlot, answered]; rfl
  | refused now job found isDead => rw [call?_withCall, call?_withSlot, answered]; rfl
  | started now found isAlive isQueued isFree => exact told ..
  | finished now found isAlive isRunning survives => exact told ..
  | died now found isAlive isRunning dies =>
    rw [call?_abandon, call?_withSlot, answered]
    rfl
  | @expired other index ticket startedAt now isStarted late =>
    have same : (pool.modifySlot index fun slot => slot.hurried ticket).call? call
        = some (.answered outcome) := answered
    rw [call?_setCall, same]
    split <;> rfl
  | unchanged idle => exact answered

/-- A pool with slots keeps them. -/
theorem step_slots_ne_nil (slots : pool.slots ≠ []) (event : Event) :
    (pool.step guest event).slots ≠ [] := by
  have change : Change guest pool event (pool.step guest event) := change_step slots event
  have same := change.length
  intro empty
  rw [empty] at same
  exact slots (List.length_eq_zero_iff.mp same.symm)

/-- What every event keeps, every run keeps. -/
theorem after_induction {Invariant : WorkerPool Shared Memory → Prop}
    (kept : ∀ pool event, Invariant pool → Invariant (pool.step guest event))
    (initial : Invariant pool) (events : List Event) : Invariant (pool.after guest events) := by
  induction events generalizing pool with
  | nil => exact initial
  | cons event rest ih => exact ih (kept pool event initial)

/-- Events that follow others lead on from where those lead. -/
theorem after_append (guest : Guest Shared Memory) (pool : WorkerPool Shared Memory)
    (first second : List Event) :
    pool.after guest (first ++ second) = (pool.after guest first).after guest second :=
  List.foldl_append

end WorkerPool

end ConfigDelivery.Pool
