import ConfigDelivery.Pool.Basic
/-!
# Slots and calls of a pool

What the operations of a pool do to one slot and to one call, and that they leave the others alone.
-/

namespace ConfigDelivery.Pool

open ConfigDelivery.Script (ScriptError)

variable {Shared Memory : Type}

namespace Slot

/-- The slot after one more job was queued. -/
def enqueued (slot : Slot Memory) (call : Nat) (job : Job) : Slot Memory :=
  { slot with
    pending := slot.pending + 1
    nextTicket := slot.nextTicket + 1
    queue := slot.queue ++ [⟨call, slot.nextTicket, job⟩] }

/-- The slot after its worker took a job from its queue. -/
def begun (slot : Slot Memory) (rest : List Queued) (running : Running Memory) : Slot Memory :=
  { slot with
    queue := rest
    running := some running
    interrupt := slot.interrupt.begin running.ticket }

/-- The slot after its worker was done with a job and its memory was reset. -/
def relieved (slot : Slot Memory) (memory : Memory) : Slot Memory :=
  { slot with
    memory
    pending := slot.pending - 1
    running := none
    interrupt := slot.interrupt.finish }

/-- The slot after its worker died. -/
def deserted (slot : Slot Memory) (memory : Memory) : Slot Memory :=
  { slot with
    memory
    isAlive := false
    queue := []
    running := none
    interrupt := slot.interrupt.finish }

/-- The slot after one of its jobs was asked to stop. -/
def hurried (slot : Slot Memory) (ticket : Nat) : Slot Memory :=
  { slot with interrupt := slot.interrupt.raise ticket }

/-- How a job ends that the slot runs, and the memory that it leaves. -/
def ending (slot : Slot Memory) (running : Running Memory) : Execution × Memory :=
  running.activity.outcome slot.interrupt.isRaised

/-- The calls whose jobs are running or queued, in that order. -/
def outstanding (slot : Slot Memory) : List Nat :=
  (slot.running.map Running.call).toList ++ slot.queue.map Queued.call

/-- The worker lives and has nothing to do. -/
def isIdle (slot : Slot Memory) : Bool := slot.isAlive && slot.outstanding.isEmpty

/-- A queued job is outstanding behind the others. -/
theorem outstanding_enqueued (slot : Slot Memory) (call : Nat) (job : Job) :
    (slot.enqueued call job).outstanding = slot.outstanding ++ [call] := by
  simp [outstanding, enqueued]

/-- A job that was taken from the queue is still outstanding. -/
theorem outstanding_begun {slot : Slot Memory} {next : Queued} {rest : List Queued}
    (isQueued : slot.queue = next :: rest) (isFree : slot.running = none)
    (running : Running Memory) (sameCall : running.call = next.call) :
    (slot.begun rest running).outstanding = slot.outstanding := by
  simp [outstanding, begun, isQueued, isFree, sameCall]

/-- A running job is outstanding before those in the queue. -/
theorem outstanding_of_running {slot : Slot Memory} {running : Running Memory}
    (isRunning : slot.running = some running) :
    slot.outstanding = running.call :: slot.queue.map Queued.call := by
  simp [outstanding, isRunning]

/-- After a job was finished, those in the queue are outstanding. -/
theorem outstanding_relieved (slot : Slot Memory) (memory : Memory) :
    (slot.relieved memory).outstanding = slot.queue.map Queued.call := by
  simp [outstanding, relieved]

/-- A slot whose worker died has no outstanding job. -/
theorem outstanding_deserted (slot : Slot Memory) (memory : Memory) :
    (slot.deserted memory).outstanding = [] := by
  simp [outstanding, deserted]

end Slot

/-- What becomes of the state of a call that is told something: an answer stays. -/
def CallState.told (news : CallState) : CallState → CallState
  | .answered outcome => .answered outcome
  | _ => news

/-- What becomes of the state of a call when those of a slot are told that its worker is gone. -/
def CallState.abandoned (gone : CallState) (index : Nat) : CallState → CallState
  | .queued slot => if slot = index then gone else .queued slot
  | .started slot ticket startedAt =>
    if slot = index then gone else .started slot ticket startedAt
  | .answered outcome => .answered outcome

/-- A call that is told something answers what it had been told before, if anything. -/
theorem CallState.told_eq_answered {news old : CallState} {outcome : Except ScriptError String}
    (told : news.told old = .answered outcome) :
    old = .answered outcome ∨ news = .answered outcome := by
  cases old with
  | answered earlier => exact .inl told
  | queued slot => exact .inr told
  | started slot ticket startedAt => exact .inr told

/-- A call is answered by the death of a worker only if it was waiting for that worker. -/
theorem CallState.abandoned_eq_answered {gone old : CallState} {index : Nat}
    {outcome : Except ScriptError String} (told : gone.abandoned index old = .answered outcome) :
    old = .answered outcome ∨ gone = .answered outcome ∧
      (old = .queued index ∨ ∃ ticket startedAt, old = .started index ticket startedAt) := by
  cases old with
  | answered earlier => exact .inl told
  | queued slot =>
    rw [abandoned] at told
    split at told
    · rename_i same
      exact .inr ⟨told, .inl (same ▸ rfl)⟩
    · cases told
  | started slot ticket startedAt =>
    rw [abandoned] at told
    split at told
    · rename_i same
      exact .inr ⟨told, .inr ⟨ticket, startedAt, same ▸ rfl⟩⟩
    · cases told

namespace WorkerPool

variable {pool : WorkerPool Shared Memory} {index : Nat} {slot : Slot Memory}

/-- The pool with another slot in some place. -/
def withSlot (pool : WorkerPool Shared Memory) (index : Nat) (slot : Slot Memory) :
    WorkerPool Shared Memory :=
  { pool with slots := pool.slots.set index slot }

/-- To modify a slot is to put the changed one in its place. -/
theorem modifySlot_eq (found : pool.slots[index]? = some slot)
    (change : Slot Memory → Slot Memory) :
    pool.modifySlot index change = pool.withSlot index (change slot) := by
  obtain ⟨inside, same⟩ := List.getElem?_eq_some_iff.mp found
  have slots : pool.slots.modify index change = pool.slots.set index (change slot) := by
    apply List.ext_getElem?
    intro other
    rw [List.getElem?_modify, List.getElem?_set]
    by_cases here : index = other
    · subst here
      simp [inside, same]
    · simp [here]
  rw [modifySlot, withSlot, slots]

theorem withSlot_timeout (pool : WorkerPool Shared Memory) (index : Nat) (slot : Slot Memory) :
    (pool.withSlot index slot).timeout = pool.timeout := rfl

/-- A slot that is put in is found in its place, and the others in theirs. -/
theorem withSlot_slots (pool : WorkerPool Shared Memory) (index other : Nat) (slot : Slot Memory) :
    (pool.withSlot index slot).slots[other]?
      = if index = other ∧ index < pool.slots.length then some slot else pool.slots[other]? := by
  rw [withSlot, List.getElem?_set]
  by_cases same : index = other
  · subst same
    by_cases inside : index < pool.slots.length <;> simp [inside]
  · simp [same]

theorem withSlot_same (found : pool.slots[index]? = some slot) (other : Slot Memory) :
    (pool.withSlot index other).slots[index]? = some other := by
  obtain ⟨inside, _⟩ := List.getElem?_eq_some_iff.mp found
  rw [withSlot_slots, if_pos ⟨rfl, inside⟩]

theorem slots_set_self (found : pool.slots[index]? = some slot) :
    pool.slots.set index slot = pool.slots := by
  obtain ⟨inside, same⟩ := List.getElem?_eq_some_iff.mp found
  rw [← same, List.set_getElem_self]

theorem withSlot_self (found : pool.slots[index]? = some slot) :
    pool.withSlot index slot = pool := by
  rw [withSlot, slots_set_self found]

theorem withSlot_of_ne (pool : WorkerPool Shared Memory) {index other : Nat}
    (different : index ≠ other) (slot : Slot Memory) :
    (pool.withSlot index slot).slots[other]? = pool.slots[other]? := by
  rw [withSlot_slots, if_neg (fun both => different both.1)]

/-! ## Operations -/

/-- Which slot comes next depends on nothing but which slots are without jobs. -/
theorem nextSlot_eq_of_map {Other : Type} {others : List Other} {isFree : Other → Bool}
    (same : pool.slots.map (fun slot => decide (slot.pending = 0)) = others.map isFree) :
    pool.nextSlot = (others.findIdx? isFree).getD 0 := by
  have first := congrArg (List.findIdx? id) same
  rw [List.findIdx?_map, List.findIdx?_map] at first
  exact congrArg (·.getD 0) first

/-- The next slot is one of the pool's. -/
theorem nextSlot_lt (slots : pool.slots ≠ []) : pool.nextSlot < pool.slots.length := by
  unfold nextSlot
  cases idle : pool.slots.findIdx? fun slot => slot.pending = 0 with
  | none => exact List.length_pos_iff.mpr slots
  | some index =>
    obtain ⟨inside, _⟩ := List.findIdx?_eq_some_iff_getElem.mp idle
    exact inside

/-- The pool with one more call. -/
def withCall (pool : WorkerPool Shared Memory) (state : CallState) : WorkerPool Shared Memory :=
  { pool with calls := pool.calls ++ [(pool.nextCall, state)], nextCall := pool.nextCall + 1 }

/-- A job is put into the queue of the next slot. -/
theorem submit_eq (found : pool.slots[pool.nextSlot]? = some slot) (isAlive : slot.isAlive = true)
    (job : Job) :
    pool.submit job = (pool.nextCall,
      (pool.withSlot pool.nextSlot (slot.enqueued pool.nextCall job)).withCall
        (.queued pool.nextSlot)) := by
  unfold submit
  dsimp only
  rw [found, modifySlot_eq found, if_pos isAlive]
  simp only [Option.map_some, Option.getD_some, if_pos isAlive]
  rfl

/-- A job for a slot whose worker is gone is refused. -/
theorem submit_of_dead (found : pool.slots[pool.nextSlot]? = some slot)
    (isDead : slot.isAlive = false) (job : Job) :
    pool.submit job = (pool.nextCall,
      (pool.withSlot pool.nextSlot { slot with nextTicket := slot.nextTicket + 1 }).withCall
        (.answered (.error (pool.unavailable pool.nextSlot)))) := by
  have isGone : ¬ slot.isAlive = true := Bool.eq_false_iff.mp isDead
  unfold submit
  dsimp only
  rw [found, modifySlot_eq found, if_neg isGone]
  simp only [Option.map_some, Option.getD_some, if_neg isGone]
  rfl

variable {guest : Guest Shared Memory}

/-- A free worker takes the first job of its queue. -/
theorem start_eq {next : Queued} {rest : List Queued} (found : pool.slots[index]? = some slot)
    (isAlive : slot.isAlive = true) (isQueued : slot.queue = next :: rest)
    (isFree : slot.running = none) (now : Instant) :
    pool.start guest index now =
      let (activity, shared) := guest.execute pool.shared slot.memory next.job now
      { (pool.withSlot index
          (slot.begun rest ⟨next.call, next.ticket, now, activity⟩)).setCall next.call
            (.started index next.ticket now) with shared } := by
  obtain ⟨memory, alive, pending, nextTicket, interrupt, queue, busy⟩ := slot
  dsimp only at isAlive isQueued isFree
  subst isAlive isQueued isFree
  unfold start
  rw [found]
  dsimp only
  rcases guest.execute pool.shared memory next.job now with ⟨activity, shared⟩
  rw [modifySlot_eq found]
  rfl

/-- A worker that is dead, busy or without a job starts nothing. -/
theorem start_of_idle (found : pool.slots[index]? = some slot)
    (idle : slot.isAlive = false ∨ slot.queue = [] ∨ slot.running.isSome = true) (now : Instant) :
    pool.start guest index now = pool := by
  unfold start
  rw [found]
  split
  · rename_i taken
    cases taken
    rcases idle with isDead | isEmpty | isBusy
    · cases isDead
    · cases isEmpty
    · cases isBusy
  · rfl

/-- A worker that survives the reset goes on with the memory that the reset left. -/
theorem finish_of_survives {running : Running Memory} (found : pool.slots[index]? = some slot)
    (isAlive : slot.isAlive = true) (isRunning : slot.running = some running)
    (survives : (guest.reset (slot.ending running).2).1 ≠ .panicked) :
    pool.finish guest index
      = (pool.withSlot index (slot.relieved (guest.reset (slot.ending running).2).2)).setCall
          running.call (.answered (Execution.answer (slot.ending running).1)) := by
  obtain ⟨memory, alive, pending, nextTicket, interrupt, queue, busy⟩ := slot
  dsimp only at isAlive isRunning
  subst isAlive isRunning
  unfold Slot.ending at survives ⊢
  unfold finish
  rw [found]
  dsimp only at survives ⊢
  rcases reset : guest.reset (running.activity.outcome interrupt.isRaised).2 with
    ⟨_ | failure | _, left⟩
  · dsimp only
    rw [modifySlot_eq found]
    rfl
  · dsimp only
    rw [modifySlot_eq found]
    rfl
  · rw [reset] at survives
    exact absurd rfl survives

/-- A reset that panics takes the worker along. -/
theorem finish_of_panicked {running : Running Memory} (found : pool.slots[index]? = some slot)
    (isAlive : slot.isAlive = true) (isRunning : slot.running = some running)
    (dies : (guest.reset (slot.ending running).2).1 = .panicked) :
    pool.finish guest index
      = (pool.withSlot index
          (slot.deserted (guest.reset (slot.ending running).2).2)).abandon index := by
  obtain ⟨memory, alive, pending, nextTicket, interrupt, queue, busy⟩ := slot
  dsimp only at isAlive isRunning
  subst isAlive isRunning
  unfold Slot.ending at dies ⊢
  unfold finish
  rw [found]
  dsimp only at dies ⊢
  rcases reset : guest.reset (running.activity.outcome interrupt.isRaised).2 with ⟨ended, left⟩
  rw [reset] at dies
  dsimp only at dies
  subst dies
  dsimp only
  rw [modifySlot_eq found]
  rfl

/-- A worker that is dead or has no job finishes nothing. -/
theorem finish_of_idle (found : pool.slots[index]? = some slot)
    (idle : slot.isAlive = false ∨ slot.running = none) : pool.finish guest index = pool := by
  unfold finish
  rw [found]
  split
  · rename_i taken
    cases taken
    rcases idle with isDead | isFree
    · cases isDead
    · cases isFree
  · rfl

/-! ## Calls -/

theorem call?_withSlot (pool : WorkerPool Shared Memory) (index : Nat) (slot : Slot Memory)
    (call : Nat) : (pool.withSlot index slot).call? call = pool.call? call := rfl

/-- A change that keeps every call's number changes the states alone. -/
theorem find?_map_calls {calls : List (Nat × CallState)}
    {change : Nat × CallState → Nat × CallState} (changeState : Nat → CallState → CallState)
    (same : ∀ entry, change entry = (entry.1, changeState entry.1 entry.2)) (call : Nat) :
    ((calls.map change).find? fun entry => entry.1 = call).map Prod.snd
      = ((calls.find? fun entry => entry.1 = call).map Prod.snd).map (changeState call) := by
  induction calls with
  | nil => rfl
  | cons entry rest ih =>
    rw [List.map_cons, List.find?_cons, List.find?_cons, same entry]
    by_cases here : entry.1 = call
    · simp [here]
    · simpa [here] using ih

/-- What a call is told concerns that call alone. -/
theorem call?_setCall (pool : WorkerPool Shared Memory) (call : Nat) (state : CallState)
    (other : Nat) :
    (pool.setCall call state).call? other
      = if other = call then (pool.call? other).map state.told else pool.call? other := by
  unfold call? setCall
  dsimp only
  rw [find?_map_calls fun number old => if number = call then state.told old else old]
  · by_cases same : other = call
    · simp [same]
    · simp only [if_neg same]
      exact Option.map_id'
  · rintro ⟨number, _ | _ | _⟩ <;> by_cases same : number = call <;> simp [CallState.told, same]

/-- The death of a worker concerns the calls that wait for it. -/
theorem call?_abandon (pool : WorkerPool Shared Memory) (index call : Nat) :
    (pool.abandon index).call? call = (pool.call? call).map
      (CallState.abandoned (.answered (.error (pool.unavailable index))) index) := by
  unfold call? abandon
  dsimp only
  rw [find?_map_calls fun _ =>
    CallState.abandoned (.answered (.error (pool.unavailable index))) index]
  rintro ⟨number, slot | ⟨slot, ticket, startedAt⟩ | outcome⟩
  · by_cases same : slot = index <;> simp [CallState.abandoned, same]
  · by_cases same : slot = index <;> simp [CallState.abandoned, same]
  · rfl

/-- A new call has the next number. -/
theorem call?_withCall (pool : WorkerPool Shared Memory) (state : CallState) (call : Nat) :
    (pool.withCall state).call? call
      = (pool.call? call).or (if call = pool.nextCall then some state else none) := by
  unfold call? withCall
  dsimp only
  rw [List.find?_append, Option.map_or]
  by_cases new : call = pool.nextCall
  · subst new
    simp
  · simp [new, Ne.symm new]

/-- The answer to a call is what it was told. -/
theorem answer?_eq_some (pool : WorkerPool Shared Memory) (call : Nat)
    (outcome : Except ScriptError String) :
    pool.answer? call = some outcome ↔ pool.call? call = some (.answered outcome) := by
  unfold answer?
  constructor
  · intro answered
    split at answered
    · rename_i same
      rw [same, Option.some.inj answered]
    · cases answered
  · intro answered
    rw [answered]

end WorkerPool

end ConfigDelivery.Pool
