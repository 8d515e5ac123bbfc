import ConfigDelivery.Proofs.Pool.Roster
/-!
# One job after the other

The jobs of a worker are taken in the order of their submission, each when those before it are done.
So each finds the memory that the last reset before it left, or the memory as it was built; a worker
whose reset panicked takes no more jobs; and a caller leaves only when its own job has been running
for the time limit.
-/

namespace ConfigDelivery.Pool

variable {Shared Memory : Type} {guest : Guest Shared Memory}

namespace Roster

variable {roster : Roster Shared Memory} {index call count : Nat}
  {assignment amended : Assignment Shared Memory}

/-- The jobs of each worker were taken in turn. -/
structure IsOrderly (guest : Guest Shared Memory) (roster : Roster Shared Memory) : Prop where
  inTurn : ∀ {earlier later : Nat} {first second : Assignment Shared Memory},
    roster.assignments[earlier]? = some first → roster.assignments[later]? = some second →
      earlier < later → first.slot = second.slot → second.progress ≠ .waiting →
        first.isDone = true
  inherits : ∀ {call : Nat} {assignment : Assignment Shared Memory} {work : Work Shared Memory},
    roster.assignments[call]? = some assignment → assignment.work? = some work →
      ∃ built, roster.built[assignment.slot]? = some built ∧
        work.memory = memoryLeft guest assignment.slot built (roster.assignments.take call)
  survives : ∀ {call : Nat} {assignment : Assignment Shared Memory} {work : Work Shared Memory},
    roster.assignments[call]? = some assignment → assignment.work? = some work → ∀ memory,
      lastReset? guest assignment.slot (roster.assignments.take call) ≠ some (.panicked, memory)
  patient : ∀ {call : Nat} {assignment : Assignment Shared Memory} {leftAt : Instant},
    roster.assignments[call]? = some assignment → assignment.leftAt = some leftAt →
      ∃ work, assignment.work? = some work ∧ work.startedAt + roster.timeout ≤ leftAt

/-- A change of one job leaves the last reset before it as it was. -/
theorem lastReset?_amend (found : roster.assignments[call]? = some assignment)
    (same : call < count → amended.resetAt? guest index = assignment.resetAt? guest index) :
    lastReset? guest index ((roster.amend call amended).assignments.take count)
      = lastReset? guest index (roster.assignments.take count) := by
  apply lastReset?_congr
  intro other
  rw [List.getElem?_take, List.getElem?_take]
  split
  · rename_i before
    rw [lookup_amend found]
    by_cases here : other = call
    · subst here
      simp [found, same before]
    · rw [if_neg here]
  · rfl

/-- The memory of a worker is what its jobs left of the one it was built with. -/
theorem memory?_eq_some {memory : Memory} (memory? : roster.memory? guest index = some memory) :
    ∃ built, roster.built[index]? = some built ∧
      memory = memoryLeft guest index built roster.assignments := by
  unfold Roster.memory? at memory?
  obtain ⟨built, present, same⟩ := Option.map_eq_some_iff.mp memory?
  exact ⟨built, present, same.symm⟩

/-- The last reset of a live worker did not panic. -/
theorem not_panicked_of_isAlive (isAlive : roster.isAlive guest index = true) (memory : Memory) :
    lastReset? guest index roster.assignments ≠ some (.panicked, memory) := by
  intro panicked
  simp [Roster.isAlive, panicked] at isAlive

namespace IsOrderly

/-- Behind a job that is not done, those of its slot wait. -/
theorem later_waiting (orderly : roster.IsOrderly guest)
    (found : roster.assignments[call]? = some assignment) (notDone : assignment.isDone = false)
    {later : Nat} {entry : Assignment Shared Memory} (after : call < later)
    (present : roster.assignments[later]? = some entry) (same : entry.slot = assignment.slot) :
    entry.progress = .waiting := by
  cases progress : entry.progress with
  | waiting => rfl
  | running work =>
    have isDone := orderly.inTurn found present after same.symm (by simp [progress])
    rw [notDone] at isDone
    cases isDone
  | done work endedAt =>
    have isDone := orderly.inTurn found present after same.symm (by simp [progress])
    rw [notDone] at isDone
    cases isDone

/-- A job that waits has no work. -/
theorem work?_of_waiting (waiting : assignment.progress = .waiting) :
    assignment.work? = none := by
  simp [Assignment.work?, waiting]

/-- What is taken after a job that is not done belongs to another worker, so that what it found does
not see a change to that job. -/
theorem lastReset?_amend_taken (orderly : roster.IsOrderly guest)
    (found : roster.assignments[call]? = some assignment) (notDone : assignment.isDone = false)
    (slot : amended.slot = assignment.slot) {other : Nat} {entry : Assignment Shared Memory}
    {work : Work Shared Memory} (present : roster.assignments[other]? = some entry)
    (taken : entry.work? = some work) :
    lastReset? guest entry.slot ((roster.amend call amended).assignments.take other)
      = lastReset? guest entry.slot (roster.assignments.take other) := by
  refine lastReset?_amend found fun after => ?_
  have elsewhere : ¬ assignment.slot = entry.slot := by
    intro same
    have waiting := orderly.later_waiting found notDone after present same.symm
    rw [work?_of_waiting waiting] at taken
    cases taken
  simp [Assignment.resetAt?, slot, elsewhere]

/-- Jobs that are not done may go on in turn. -/
theorem amend (orderly : roster.IsOrderly guest)
    (found : roster.assignments[call]? = some assignment) (notDone : assignment.isDone = false)
    (slot : amended.slot = assignment.slot)
    (begun : amended.progress ≠ .waiting →
      ∀ {earlier : Nat} {entry : Assignment Shared Memory}, earlier < call →
      roster.assignments[earlier]? = some entry → entry.slot = assignment.slot →
      entry.isDone = true)
    (work : ∀ {work : Work Shared Memory}, amended.work? = some work → ∃ built,
      roster.built[assignment.slot]? = some built ∧
      work.memory = memoryLeft guest assignment.slot built (roster.assignments.take call) ∧
      ∀ memory, lastReset? guest assignment.slot (roster.assignments.take call)
        ≠ some (.panicked, memory))
    (patient : ∀ {leftAt : Instant}, amended.leftAt = some leftAt →
      ∃ work, amended.work? = some work ∧ work.startedAt + roster.timeout ≤ leftAt) :
    (roster.amend call amended).IsOrderly guest := by
  have kept : lastReset? guest assignment.slot ((roster.amend call amended).assignments.take call)
      = lastReset? guest assignment.slot (roster.assignments.take call) :=
    lastReset?_amend found fun before => absurd before (Nat.lt_irrefl _)
  constructor
  case inTurn =>
    intro earlier later first second foundFirst foundSecond before same taken
    rw [lookup_amend found] at foundFirst foundSecond
    split at foundSecond
    · rename_i here
      cases foundSecond
      subst here
      rw [if_neg (Nat.ne_of_lt before)] at foundFirst
      exact begun taken before foundFirst (same.trans slot)
    · split at foundFirst
      · rename_i here
        cases foundFirst
        subst here
        have waiting := orderly.later_waiting found notDone before foundSecond
          (same.symm.trans slot)
        exact absurd waiting taken
      · exact orderly.inTurn foundFirst foundSecond before same taken
  case inherits =>
    intro other entry taken present isTaken
    rw [lookup_amend found] at present
    split at present
    · rename_i here
      cases present
      subst here
      obtain ⟨built, isBuilt, same, -⟩ := work isTaken
      refine ⟨built, by rw [slot]; exact isBuilt, ?_⟩
      rw [same, slot, memoryLeft, memoryLeft, kept]
    · obtain ⟨built, isBuilt, same⟩ := orderly.inherits present isTaken
      refine ⟨built, isBuilt, ?_⟩
      rw [same, memoryLeft, memoryLeft,
        orderly.lastReset?_amend_taken found notDone slot present isTaken]
  case survives =>
    intro other entry taken present isTaken
    rw [lookup_amend found] at present
    split at present
    · rename_i here
      cases present
      subst here
      obtain ⟨built, -, -, survives⟩ := work isTaken
      rw [slot, kept]
      exact survives
    · rw [orderly.lastReset?_amend_taken found notDone slot present isTaken]
      exact orderly.survives present isTaken
  case patient =>
    intro other entry leftAt present left
    rw [lookup_amend found] at present
    split at present
    · cases present
      exact patient left
    · exact orderly.patient present left

/-- What all workers share has no part in the order of jobs. -/
theorem withShared (orderly : roster.IsOrderly guest) (shared : Shared) :
    IsOrderly guest { roster with shared } where
  inTurn := orderly.inTurn
  inherits := orderly.inherits
  survives := orderly.survives
  patient := orderly.patient

/-- A job that is submitted comes last. -/
theorem submit (orderly : roster.IsOrderly guest) (job : Job) :
    (roster.submit guest job).IsOrderly guest := by
  have earlier : ∀ {other : Nat} {entry : Assignment Shared Memory},
      (roster.submit guest job).assignments[other]? = some entry →
      entry.progress = .waiting ∧ entry.leftAt = none ∨ roster.assignments[other]? = some entry ∧
        (roster.submit guest job).assignments.take other = roster.assignments.take other := by
    intro other entry present
    rw [lookup_submit] at present
    split at present
    · cases present
      exact .inl ⟨rfl, rfl⟩
    · obtain ⟨inside, _⟩ := List.getElem?_eq_some_iff.mp present
      exact .inr ⟨present, List.take_append_of_le_length (Nat.le_of_lt inside)⟩
  constructor
  case inTurn =>
    intro first second one two foundFirst foundSecond before same taken
    rcases earlier foundSecond with ⟨waiting, -⟩ | ⟨present, -⟩
    · exact absurd waiting taken
    · rw [lookup_submit] at foundFirst
      obtain ⟨inside, _⟩ := List.getElem?_eq_some_iff.mp present
      rw [if_neg (Nat.ne_of_lt (Nat.lt_trans before inside))] at foundFirst
      exact orderly.inTurn foundFirst present before same taken
  case inherits =>
    intro other entry work present taken
    rcases earlier present with ⟨waiting, -⟩ | ⟨present, same⟩
    · rw [work?_of_waiting waiting] at taken
      cases taken
    · rw [same]
      exact orderly.inherits present taken
  case survives =>
    intro other entry work present taken
    rcases earlier present with ⟨waiting, -⟩ | ⟨present, same⟩
    · rw [work?_of_waiting waiting] at taken
      cases taken
    · rw [same]
      exact orderly.survives present taken
  case patient =>
    intro other entry leftAt present left
    rcases earlier present with ⟨-, stays⟩ | ⟨present, -⟩
    · rw [stays] at left
      cases left
    · exact orderly.patient present left

/-- What a worker finds when it takes its oldest job is what the jobs before that one left. -/
theorem lastReset?_front (orderly : roster.IsOrderly guest)
    (front : roster.IsFront index call assignment) :
    lastReset? guest index (roster.assignments.take call)
      = lastReset? guest index roster.assignments := by
  apply lastReset?_take
  intro later entry from_ present same
  rcases Nat.eq_or_lt_of_le from_ with rfl | after
  · cases front.found.symm.trans present
    exact front.notDone
  · have waiting := orderly.later_waiting front.found front.notDone after present
      (same.trans front.slot.symm)
    simp [Assignment.isDone, waiting]

/-- What an event does keeps the order. -/
theorem step (orderly : roster.IsOrderly guest) (event : Event) :
    (roster.step guest event).IsOrderly guest := by
  have change := roster.change_step guest event
  generalize roster.step guest event = after at change ⊢
  cases change with
  | submitted now job => exact orderly.submit job
  | unchanged => exact orderly
  | @started index call assignment memory now front waiting isAlive memory? =>
    have slot := front.slot
    subst slot
    suffices kept : IsOrderly guest (roster.amend call
        (assignment.taken ⟨now, roster.shared, memory⟩)) from
      kept.withShared _
    refine orderly.amend front.found front.notDone rfl (fun _ => front.earlier) ?_ ?_
    · intro work taken
      cases taken
      obtain ⟨built, isBuilt, same⟩ := memory?_eq_some memory?
      refine ⟨built, isBuilt, ?_, ?_⟩
      · rw [memoryLeft, orderly.lastReset?_front front]
        exact same
      · rw [orderly.lastReset?_front front]
        exact not_panicked_of_isAlive isAlive
    · intro leftAt left
      obtain ⟨work, taken, -⟩ := orderly.patient front.found left
      rw [work?_of_waiting waiting] at taken
      cases taken
  | @finished index call assignment work now front running =>
    have slot := front.slot
    subst slot
    have isTaken : assignment.work? = some work := by simp [Assignment.work?, running]
    refine orderly.amend front.found front.notDone rfl (fun _ => front.earlier) ?_ ?_
    · intro other taken
      cases taken
      obtain ⟨built, isBuilt, same⟩ := orderly.inherits front.found isTaken
      exact ⟨built, isBuilt, same, orderly.survives front.found isTaken⟩
    · intro leftAt left
      obtain ⟨other, taken, late⟩ := orderly.patient front.found left
      rw [isTaken] at taken
      cases taken
      exact ⟨work, rfl, late⟩
  | @expired call assignment work now found running stays late =>
    have isTaken : assignment.work? = some work := by simp [Assignment.work?, running]
    have notDone : assignment.isDone = false := by simp [Assignment.isDone, running]
    refine orderly.amend found notDone rfl ?_ ?_ ?_
    · intro taken earlier entry before present same
      exact orderly.inTurn present found before same taken
    · intro other taken
      obtain ⟨built, isBuilt, same⟩ := orderly.inherits found taken
      exact ⟨built, isBuilt, same, orderly.survives found taken⟩
    · intro leftAt left
      cases left
      exact ⟨work, isTaken, late⟩

end IsOrderly

/-! ## Entries -/

/-- Everything an event can do to an entry. -/
inductive EntryChange (roster : Roster Shared Memory) (event : Event) (call : Nat)
    (entry : Assignment Shared Memory) : Assignment Shared Memory → Prop where
  | kept : EntryChange roster event call entry entry
  | taken (work : Work Shared Memory) (isStart : event.action = .start entry.slot)
      (waiting : entry.progress = .waiting) (startedAt : work.startedAt = event.now) :
      EntryChange roster event call entry (entry.taken work)
  | ended (work : Work Shared Memory) (isFinish : event.action = .finish entry.slot)
      (running : entry.progress = .running work) :
      EntryChange roster event call entry (entry.ended work event.now)
  | givenUp (work : Work Shared Memory) (isExpire : event.action = .expire call)
      (running : entry.progress = .running work) (stays : entry.leftAt = none)
      (late : work.startedAt + roster.timeout ≤ event.now) :
      EntryChange roster event call entry (entry.givenUp event.now)

/-- An entry is that of a new call, or became what it is. -/
theorem entry_of_step {event : Event} {later : Assignment Shared Memory}
    (found : (roster.step guest event).assignments[call]? = some later) :
    (∃ job, later = { job, slot := roster.chosen guest }) ∨
      ∃ entry, roster.assignments[call]? = some entry ∧
        EntryChange roster event call entry later := by
  have change := roster.change_step guest event
  generalize roster.step guest event = after at change found
  cases change with
  | unchanged => exact .inr ⟨later, found, .kept⟩
  | submitted now job =>
    rw [lookup_submit] at found
    split at found
    · exact .inl ⟨job, (Option.some.inj found).symm⟩
    · exact .inr ⟨later, found, .kept⟩
  | started now front waiting =>
    obtain ⟨entry, present, rfl | ⟨rfl, rfl, -⟩⟩ := entry_of_amend front.found found
    · exact .inr ⟨later, present, .kept⟩
    · exact .inr ⟨entry, present, .taken _ (front.slot ▸ rfl) waiting rfl⟩
  | finished now front running =>
    obtain ⟨entry, present, rfl | ⟨rfl, rfl, -⟩⟩ := entry_of_amend front.found found
    · exact .inr ⟨later, present, .kept⟩
    · exact .inr ⟨entry, present, .ended _ (front.slot ▸ rfl) running⟩
  | @expired _ entry _ now isEntry running stays late =>
    obtain ⟨other, present, rfl | ⟨rfl, rfl, rfl⟩⟩ := entry_of_amend isEntry found
    · exact .inr ⟨later, present, .kept⟩
    · exact .inr ⟨other, present, .givenUp _ rfl running stays late⟩

/-- A job stays in its slot, and a new one comes to the chosen one. -/
theorem slot_of_step {event : Event} {later : Assignment Shared Memory}
    (found : (roster.step guest event).assignments[call]? = some later) :
    later.slot = roster.chosen guest ∨
      ∃ entry, roster.assignments[call]? = some entry ∧ later.slot = entry.slot := by
  rcases entry_of_step found with ⟨job, rfl⟩ | ⟨entry, present, change⟩
  · exact .inl rfl
  · exact .inr ⟨entry, present, by cases change <;> rfl⟩

/-- An entry stays, with its job and its slot. -/
theorem entry_after_step (event : Event) (found : roster.assignments[call]? = some assignment) :
    ∃ later, (roster.step guest event).assignments[call]? = some later ∧
      later.slot = assignment.slot := by
  have kept : ∀ {other : Nat} {earlier amended : Assignment Shared Memory},
      roster.assignments[other]? = some earlier → amended.slot = earlier.slot →
      ∃ later, (roster.amend other amended).assignments[call]? = some later ∧
        later.slot = assignment.slot := by
    intro other earlier amended entry slot
    rw [lookup_amend entry]
    split
    · rename_i same
      subst same
      cases entry.symm.trans found
      exact ⟨amended, rfl, slot⟩
    · exact ⟨assignment, found, rfl⟩
  have change := roster.change_step guest event
  generalize roster.step guest event = after at change ⊢
  cases change with
  | unchanged => exact ⟨assignment, found, rfl⟩
  | submitted now job =>
    obtain ⟨inside, _⟩ := List.getElem?_eq_some_iff.mp found
    rw [lookup_submit, if_neg (Nat.ne_of_lt inside)]
    exact ⟨assignment, found, rfl⟩
  | started now front => exact kept front.found rfl
  | finished now front => exact kept front.found rfl
  | expired now entry => exact kept entry rfl

/-- Callers leave by themselves. -/
theorem left_of_step {event : Event} {later : Assignment Shared Memory} {leftAt : Instant}
    (found : (roster.step guest event).assignments[call]? = some later)
    (left : later.leftAt = some leftAt) (stays : event.action ≠ .expire call) :
    ∃ entry, roster.assignments[call]? = some entry ∧ entry.leftAt = some leftAt := by
  rcases entry_of_step found with ⟨job, rfl⟩ | ⟨entry, present, change⟩
  · cases left
  · cases change with
    | givenUp work isExpire => exact absurd isExpire stays
    | kept => exact ⟨_, present, left⟩
    | taken => exact ⟨_, present, left⟩
    | ended => exact ⟨_, present, left⟩

end Roster

end ConfigDelivery.Pool
