import ConfigDelivery.Proofs.Pool.Following
/-!
# Pools that were reached

A new pool follows the empty roster, so whatever happens to it, it follows the roster to which the
same happened.
-/

namespace ConfigDelivery.Pool

variable {Shared Memory : Type} {guest : Guest Shared Memory}

namespace WorkerPool

/-- The roster of a pool before any job is submitted. -/
def roster (pool : WorkerPool Shared Memory) : Roster Shared Memory where
  label := pool.label
  timeout := pool.timeout
  built := pool.slots.map Slot.memory
  shared := pool.shared

variable {pool : WorkerPool Shared Memory} {jobs : Roster Shared Memory}

/-- A pool that was just built. -/
structure IsNew (pool : WorkerPool Shared Memory) : Prop where
  slots : pool.slots ≠ []
  slot : ∀ slot ∈ pool.slots, slot = { memory := slot.memory }
  calls : pool.calls = []
  nextCall : pool.nextCall = 0

/-- There is a runtime for each startup. -/
theorem guests_length {label : String} {startups : List (Startup Memory)} {memories : List Memory}
    (ready : guests label startups = .ok memories) : memories.length = startups.length := by
  induction startups generalizing memories with
  | nil =>
    cases ready
    rfl
  | cons startup rest ih =>
    cases startup with
    | failed failure => cases ready
    | panicked =>
      rw [guests] at ready
      split at ready <;> cases ready
    | ready memory =>
      rw [guests] at ready
      cases others : guests label rest with
      | error failure =>
        rw [others] at ready
        cases ready
      | ok memories =>
        rw [others] at ready
        cases ready
        rw [List.length_cons, ih others, List.length_cons]

/-- A pool that was just built is new. -/
theorem isNew_of_new {label : String} {size : Nat} {timeout : Duration} {shared : Shared}
    {build : Nat → Startup Memory}
    (built : WorkerPool.new label size timeout shared build = .ok pool) :
    pool.IsNew := by
  unfold WorkerPool.new at built
  split at built
  · cases built
  · rename_i nonzero
    cases ready : guests label ((List.range size).map build) with
    | error failure =>
      rw [ready] at built
      cases built
    | ok memories =>
      rw [ready] at built
      cases built
      have length := guests_length ready
      rw [List.length_map, List.length_range] at length
      refine ⟨?_, ?_, rfl, rfl⟩
      · rw [ne_eq, List.map_eq_nil_iff, ← List.length_eq_zero_iff, length]
        exact nonzero
      · intro slot mem
        obtain ⟨memory, _, rfl⟩ := List.mem_map.mp mem
        rfl

/-- A new pool follows the empty roster. -/
theorem IsNew.follows (isNew : pool.IsNew) : pool.Follows guest pool.roster where
  label := rfl
  timeout := rfl
  shared := rfl
  nextCall := isNew.nextCall
  size := by simp [roster]
  slot := by
    intro index slot found
    have shape := isNew.slot slot (List.mem_of_getElem? found)
    generalize slot.memory = memory at shape
    subst shape
    refine ⟨?_, rfl, rfl, rfl, nofun, nofun, ?_, ?_⟩
    · simp [Roster.memory?, memoryLeft, lastReset?, roster, found]
    · simp [Slot.tickets]
    · simp
  call present := by
    simp [roster] at present
  absent := by
    intro call _
    simp [call?, isNew.calls]

/-- The empty roster is orderly. -/
theorem IsNew.isOrderly (pool : WorkerPool Shared Memory) : pool.roster.IsOrderly guest where
  inTurn present := by simp [roster] at present
  inherits present := by simp [roster] at present
  survives present := by simp [roster] at present
  patient present := by simp [roster] at present

/-- A pool that some events have led to, in step with its roster. -/
structure IsReached (guest : Guest Shared Memory) (pool : WorkerPool Shared Memory)
    (jobs : Roster Shared Memory) : Prop where
  slots : pool.slots ≠ []
  follows : pool.Follows guest jobs
  orderly : jobs.IsOrderly guest
  placed : ∀ {call : Nat} {assignment : Assignment Shared Memory},
    jobs.assignments[call]? = some assignment → assignment.slot < pool.slots.length

/-- An event leads from a pool that is reached to one that is. -/
theorem IsReached.step (reached : pool.IsReached guest jobs) (event : Event) :
    (pool.step guest event).IsReached guest (jobs.step guest event) where
  slots := step_slots_ne_nil reached.slots event
  follows := reached.follows.step reached.orderly reached.slots event
  orderly := reached.orderly.step event
  placed := by
    intro call assignment present
    have poolChange : Change guest pool event (pool.step guest event) :=
      change_step reached.slots event
    rw [poolChange.length]
    rcases Roster.slot_of_step present with isChosen | ⟨earlier, entry, same⟩
    · rw [isChosen, ← reached.follows.nextSlot_eq]
      exact nextSlot_lt reached.slots
    · exact same ▸ reached.placed entry

/-- Events lead from a pool that is reached to one that is. -/
theorem IsReached.after (reached : pool.IsReached guest jobs) (events : List Event) :
    (pool.after guest events).IsReached guest (jobs.after guest events) := by
  induction events generalizing pool jobs with
  | nil => exact reached
  | cons event rest ih => exact ih (reached.step event)

/-- Whatever happens to a new pool, it follows its roster. -/
theorem IsNew.isReached (isNew : pool.IsNew) (events : List Event) :
    (pool.after guest events).IsReached guest (pool.roster.after guest events) := by
  refine IsReached.after ⟨isNew.slots, isNew.follows, IsNew.isOrderly pool, ?_⟩ events
  intro call assignment present
  simp [roster] at present

namespace IsReached

/-- The callers of the pool were told what the roster tells. -/
theorem answer?_eq (reached : pool.IsReached guest jobs) (call : Nat) :
    pool.answer? call = jobs.answer? guest call := by
  unfold Roster.answer?
  cases entry : jobs.assignments[call]? with
  | none =>
    rw [answer?, reached.follows.absent (List.getElem?_eq_none_iff.mp entry)]
    rfl
  | some assignment =>
    have shown := reached.follows.call entry
    rw [Option.bind_some]
    cases told : jobs.answer guest assignment with
    | some outcome => exact (answer?_eq_some ..).mpr (shown.answered told)
    | none =>
      obtain ⟨-, ⟨waiting, -⟩ | ⟨work, isRunning⟩⟩ := Roster.waits_of_untold told
      · rw [answer?, shown.queued told waiting]
      · obtain ⟨_, _, _, started⟩ := shown.started told isRunning
        rw [answer?, started]

end IsReached

end WorkerPool

end ConfigDelivery.Pool
