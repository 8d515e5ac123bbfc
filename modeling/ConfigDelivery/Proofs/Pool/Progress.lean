import ConfigDelivery.Proofs.Pool.Reached
/-!
# Every call is answered

A call that was not answered is for a job in its slot, behind some others. No event brings it
farther behind, and with each job that the worker takes and is done with it comes closer. So if the
worker of its slot goes on as often as there are jobs in the slot, the call is answered, whatever
else happens in between.
-/

namespace ConfigDelivery.Pool

variable {Shared Memory : Type} {guest : Guest Shared Memory}

/-- Among some events, the worker of a slot may take a job, and later may be done with one. -/
def IsRound (index : Nat) (events : List Event) : Prop :=
  ∃ before started between finished after,
    events = before ++ ⟨started, .start index⟩ :: between ++ ⟨finished, .finish index⟩ :: after

namespace WorkerPool

variable {pool : WorkerPool Shared Memory} {jobs : Roster Shared Memory} {index call position : Nat}
  {slot : Slot Memory} {event : Event}

/-- A call was answered. -/
def IsAnswered (pool : WorkerPool Shared Memory) (call : Nat) : Prop :=
  ∃ outcome, pool.answer? call = some outcome

/-- A call has been answered, or there are fewer jobs than a bound before it in its slot. -/
def IsWithin (pool : WorkerPool Shared Memory) (index call bound : Nat) : Prop :=
  pool.IsAnswered call ∨ ∃ slot position, pool.slots[index]? = some slot ∧
    slot.outstanding[position]? = some call ∧ position < bound

/-- A call has been answered, or its worker is at one of so many jobs up to its own. -/
def IsNearing (pool : WorkerPool Shared Memory) (index call bound : Nat) : Prop :=
  pool.IsAnswered call ∨ ∃ slot position, pool.slots[index]? = some slot ∧
    slot.outstanding[position]? = some call ∧ position < bound ∧ slot.running.isSome = true

/-- The jobs of a slot become no fewer, unless its worker is done with the first of them. -/
theorem SlotChange.outstanding {changed : Slot Memory}
    (change : SlotChange pool event index slot changed) :
    (∃ more, changed.outstanding = slot.outstanding ++ more) ∧
        (slot.running.isSome = true → changed.running.isSome = true) ∧
        (event.action = .finish index → slot.isAlive = false ∨ slot.running = none) ∨
      changed.outstanding = slot.outstanding.tail ∨ changed.outstanding = [] := by
  cases change with
  | kept idle => exact .inl ⟨⟨[], (List.append_nil _).symm⟩, id, idle⟩
  | passed isDead => exact .inl ⟨⟨[], (List.append_nil _).symm⟩, id, fun _ => .inl isDead⟩
  | hurried call ticket isExpire =>
    refine .inl ⟨⟨[], (List.append_nil _).symm⟩, id, fun isFinish => ?_⟩
    exact absurd (isFinish.symm.trans isExpire) nofun
  | enqueued job isSubmit =>
    refine .inl ⟨⟨_, Slot.outstanding_enqueued ..⟩, id, fun isFinish => ?_⟩
    exact absurd (isFinish.symm.trans isSubmit) nofun
  | begun isQueued isFree call =>
    refine .inl ⟨⟨[], ?_⟩, fun _ => rfl, fun _ => .inr isFree⟩
    rw [Slot.outstanding_begun isQueued isFree _ call, List.append_nil]
  | relieved memory isFinish isRunning =>
    refine .inr (.inl ?_)
    rw [Slot.outstanding_relieved, Slot.outstanding_of_running isRunning, List.tail_cons]
  | deserted memory isFinish isRunning => exact .inr (.inr (Slot.outstanding_deserted ..))

namespace IsReached

/-- Who was not answered has a job in the slot of the call. -/
theorem answered_or_outstanding (reached : pool.IsReached guest jobs)
    {assignment : Assignment Shared Memory} (entry : jobs.assignments[call]? = some assignment) :
    pool.IsAnswered call ∨ ∃ slot, pool.slots[assignment.slot]? = some slot ∧
      call ∈ slot.outstanding := by
  have shown := reached.follows.call entry
  cases told : jobs.answer guest assignment with
  | some outcome => exact .inl ⟨outcome, (answer?_eq_some ..).mpr (shown.answered told)⟩
  | none =>
    refine .inr ?_
    have found := List.getElem?_eq_getElem (reached.placed entry)
    have shows := reached.follows.slot found
    refine ⟨_, found, ?_⟩
    obtain ⟨-, ⟨waiting, isAlive⟩ | ⟨work, progress⟩⟩ := Roster.waits_of_untold told
    · rw [shows.outstanding_of_isAlive (shows.isAlive.symm.trans isAlive)]
      exact Roster.mem_outstanding.mpr
        ⟨assignment, entry, rfl, by simp [Assignment.isDone, waiting]⟩
    · obtain ⟨running, isRunning, rfl, _⟩ := shown.started told progress
      rw [running?, found] at isRunning
      exact Slot.mem_outstanding_of_running isRunning

/-- A job in a slot is one of the roster. -/
theorem entry_of_outstanding (reached : pool.IsReached guest jobs)
    (found : pool.slots[index]? = some slot) (mem : call ∈ slot.outstanding) :
    ∃ assignment, jobs.assignments[call]? = some assignment ∧ assignment.slot = index := by
  obtain ⟨assignment, entry, here, -⟩ :=
    Roster.mem_outstanding.mp ((reached.follows.slot found).mem_outstanding mem).2
  exact ⟨assignment, entry, here⟩

/-- A job stays in its slot until its call is answered. -/
theorem answered_or_outstanding_step (reached : pool.IsReached guest jobs)
    (found : pool.slots[index]? = some slot) (mem : call ∈ slot.outstanding) (event : Event) :
    (pool.step guest event).IsAnswered call ∨
      ∃ changed, (pool.step guest event).slots[index]? = some changed ∧
        SlotChange pool event index slot changed ∧ call ∈ changed.outstanding := by
  obtain ⟨entry, present, here⟩ := reached.entry_of_outstanding found mem
  obtain ⟨later, presentLater, same⟩ := Roster.entry_after_step event present
  rcases (reached.step event).answered_or_outstanding presentLater with
    answered | ⟨changed, foundLater, mem⟩
  · exact .inl answered
  · have change : Change guest pool event (pool.step guest event) := change_step reached.slots event
    obtain ⟨other, foundOther, slotChange⟩ := change.slot found
    rw [same, here] at foundLater
    cases foundLater.symm.trans foundOther
    exact .inr ⟨changed, foundLater, slotChange, mem⟩

/-- An answered call stays answered. -/
theorem isAnswered_step (reached : pool.IsReached guest jobs) (answered : pool.IsAnswered call)
    (event : Event) : (pool.step guest event).IsAnswered call := by
  obtain ⟨outcome, answered⟩ := answered
  have change : Change guest pool event (pool.step guest event) := change_step reached.slots event
  exact ⟨outcome, change.answered answered⟩

/-- A job comes no later, and sooner when the worker is done with one before it. -/
theorem position_step (reached : pool.IsReached guest jobs)
    (found : pool.slots[index]? = some slot) (isAt : slot.outstanding[position]? = some call)
    (event : Event) :
    (pool.step guest event).IsAnswered call ∨
      ∃ changed later, (pool.step guest event).slots[index]? = some changed ∧
        changed.outstanding[later]? = some call ∧ (later < position ∨ later = position ∧
          (slot.running.isSome = true →
            changed.running.isSome = true ∧ event.action ≠ .finish index)) := by
  have mem := List.mem_of_getElem? isAt
  have isAlive := ((reached.follows.slot found).mem_outstanding mem).1
  rcases reached.answered_or_outstanding_step found mem event with
    answered | ⟨changed, foundLater, change, memLater⟩
  · exact .inl answered
  refine .inr ⟨changed, ?_⟩
  rcases change.outstanding with ⟨⟨more, grown⟩, goesOn, idle⟩ | isTail | isEmpty
  · refine ⟨position, foundLater, ?_, .inr ⟨rfl, fun isBusy => ⟨goesOn isBusy, fun isFinish => ?_⟩⟩⟩
    · obtain ⟨inside, _⟩ := List.getElem?_eq_some_iff.mp isAt
      rw [grown, List.getElem?_append_left inside]
      exact isAt
    · rcases idle isFinish with isDead | isFree
      · exact absurd (isDead.symm.trans isAlive) nofun
      · rw [isFree] at isBusy
        cases isBusy
  · cases position with
    | zero =>
      -- the first job is the one that its worker is done with
      have sorted := (reached.follows.slot found).outstanding_sorted
      rw [isTail] at memLater
      cases list : slot.outstanding with
      | nil => simp [list] at mem
      | cons first rest =>
        rw [list] at sorted isAt memLater
        cases isAt
        exact absurd (List.rel_of_pairwise_cons sorted memLater) (Nat.lt_irrefl _)
    | succ position =>
      refine ⟨position, foundLater, ?_, .inl (Nat.lt_succ_self position)⟩
      rw [isTail, List.getElem?_tail]
      exact isAt
  · rw [isEmpty] at memLater
    cases memLater

/-- A job does not fall back in its queue. -/
theorem isWithin_step {bound : Nat} (reached : pool.IsReached guest jobs)
    (within : pool.IsWithin index call bound) (event : Event) :
    (pool.step guest event).IsWithin index call bound := by
  rcases within with answered | ⟨slot, position, found, isAt, below⟩
  · exact .inl (reached.isAnswered_step answered event)
  · rcases reached.position_step found isAt event with
      answered | ⟨changed, later, foundLater, isLater, sooner⟩
    · exact .inl answered
    · refine .inr ⟨changed, later, foundLater, isLater, ?_⟩
      rcases sooner with sooner | ⟨rfl, -⟩
      · exact Nat.lt_trans sooner below
      · exact below

/-- A worker that takes a job is at one until it is done with it. -/
theorem isNearing_step {bound : Nat} (reached : pool.IsReached guest jobs)
    (nearing : pool.IsNearing index call (bound + 1)) (event : Event) :
    (pool.step guest event).IsWithin index call bound ∨
      (pool.step guest event).IsNearing index call (bound + 1) ∧
        event.action ≠ .finish index := by
  rcases nearing with answered | ⟨slot, position, found, isAt, below, isBusy⟩
  · exact .inl (.inl (reached.isAnswered_step answered event))
  · rcases reached.position_step found isAt event with
      answered | ⟨changed, later, foundLater, isLater, sooner⟩
    · exact .inl (.inl answered)
    · rcases sooner with sooner | ⟨rfl, goesOn⟩
      · exact .inl (.inr ⟨changed, later, foundLater, isLater,
          Nat.lt_of_lt_of_le sooner (Nat.le_of_lt_succ below)⟩)
      · obtain ⟨stillBusy, notFinish⟩ := goesOn isBusy
        exact .inr ⟨.inr ⟨changed, later, foundLater, isLater, below, stillBusy⟩, notFinish⟩

/-- A worker with jobs is at one of them when it was told to start. -/
theorem isNearing_of_start {bound : Nat} (reached : pool.IsReached guest jobs)
    (within : pool.IsWithin index call bound) (now : Instant) :
    (pool.step guest ⟨now, .start index⟩).IsNearing index call bound := by
  rcases within with answered | ⟨slot, position, found, isAt, below⟩
  · exact .inl (reached.isAnswered_step answered _)
  · have mem := List.mem_of_getElem? isAt
    have isAlive := ((reached.follows.slot found).mem_outstanding mem).1
    show IsNearing (pool.start guest index now) index call bound
    cases isBusy : slot.running with
    | some running =>
      have isSome : slot.running.isSome = true := Option.isSome_of_eq_some isBusy
      rw [start_of_idle found (.inr (.inr isSome)) now]
      exact .inr ⟨slot, position, found, isAt, below, isSome⟩
    | none =>
      cases isQueued : slot.queue with
      | nil => simp [Slot.outstanding, isBusy, isQueued] at mem
      | cons next rest =>
        rw [start_eq found isAlive isQueued isBusy]
        refine .inr ⟨_, position, withSlot_same found _, ?_, below, rfl⟩
        rw [Slot.outstanding_begun isQueued isBusy _ rfl]
        exact isAt

/-- A job does not fall back in its queue, whatever happens. -/
theorem isWithin_after {bound : Nat} (reached : pool.IsReached guest jobs)
    (within : pool.IsWithin index call bound) (events : List Event) :
    (pool.after guest events).IsWithin index call bound := by
  induction events generalizing pool jobs with
  | nil => exact within
  | cons event rest ih => exact ih (reached.step event) (reached.isWithin_step within event)

/-- A job that is nearing its turn stays so, or is a place further. -/
theorem isNearing_after {bound : Nat} (reached : pool.IsReached guest jobs)
    (nearing : pool.IsNearing index call (bound + 1)) (events : List Event) :
    (pool.after guest events).IsWithin index call bound ∨
      (pool.after guest events).IsNearing index call (bound + 1) := by
  induction events generalizing pool jobs with
  | nil => exact .inr nearing
  | cons event rest ih =>
    rcases reached.isNearing_step nearing event with within | ⟨nearing, -⟩
    · exact .inl ((reached.step event).isWithin_after within rest)
    · exact ih (reached.step event) nearing

/-- With each round there is one job less before a call. -/
theorem isWithin_round {bound : Nat} (reached : pool.IsReached guest jobs)
    (within : pool.IsWithin index call (bound + 1)) {events : List Event}
    (round : IsRound index events) : (pool.after guest events).IsWithin index call bound := by
  obtain ⟨before, started, between, finished, rest, rfl⟩ := round
  have opened : (pool.after guest (before ++ ⟨started, .start index⟩ :: between)).IsWithin index
        call bound ∨
      (pool.after guest (before ++ ⟨started, .start index⟩ :: between)).IsNearing index call
        (bound + 1) := by
    rw [after_append]
    have within := reached.isWithin_after within before
    have reached := reached.after before
    exact (reached.step _).isNearing_after
      (reached.isNearing_of_start within started) between
  have reached := reached.after (before ++ ⟨started, .start index⟩ :: between)
  rw [after_append]
  rcases opened with within | nearing
  · exact reached.isWithin_after within _
  · rcases reached.isNearing_step nearing ⟨finished, .finish index⟩ with within | ⟨-, notFinish⟩
    · exact (reached.step _).isWithin_after within rest
    · exact absurd rfl notFinish

/-- In as many rounds as there are places before it, a job is answered. -/
theorem isWithin_rounds (reached : pool.IsReached guest jobs) {rounds : List (List Event)}
    (isRound : ∀ round ∈ rounds, IsRound index round)
    (within : pool.IsWithin index call rounds.length) :
    (pool.after guest rounds.flatten).IsAnswered call := by
  induction rounds generalizing pool jobs with
  | nil =>
    rcases within with answered | ⟨_, _, _, _, below⟩
    · exact answered
    · cases below
  | cons round rest ih =>
    rw [List.flatten_cons, after_append]
    refine ih (reached.after round) (fun other mem => isRound other (List.mem_cons_of_mem _ mem)) ?_
    exact reached.isWithin_round within (isRound round List.mem_cons_self)

/-- A call is answered when the worker of its slot has gone on as often as there are jobs. -/
theorem isAnswered_of_rounds (reached : pool.IsReached guest jobs)
    {assignment : Assignment Shared Memory} (entry : jobs.assignments[call]? = some assignment)
    {rounds : List (List Event)} (isRound : ∀ round ∈ rounds, IsRound assignment.slot round)
    (enough : ∀ slot, pool.slots[assignment.slot]? = some slot →
      slot.outstanding.length ≤ rounds.length) :
    (pool.after guest rounds.flatten).IsAnswered call := by
  refine reached.isWithin_rounds isRound ?_
  rcases reached.answered_or_outstanding entry with answered | ⟨slot, found, mem⟩
  · exact .inl answered
  · obtain ⟨position, isAt⟩ := List.getElem?_of_mem mem
    obtain ⟨inside, _⟩ := List.getElem?_eq_some_iff.mp isAt
    exact .inr ⟨slot, position, found, isAt, Nat.lt_of_lt_of_le inside (enough slot found)⟩

end IsReached

end WorkerPool

end ConfigDelivery.Pool
