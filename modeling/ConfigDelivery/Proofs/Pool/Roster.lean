import ConfigDelivery.Proofs.Pool.Runs
/-!
# Rosters

What a pool is meant to do, without counters, tickets, stop signals or queues: a roster lists the
jobs in the order of their submission, each with the worker it was given to, what the worker found
when it took the job, when it was done, and when its caller left. What a worker's memory is, whether
the worker lives, and what a caller is told can be read off that list. The jobs of a worker are
taken in turn, and each finds the memory that the jobs before it and their resets left.
-/

namespace ConfigDelivery.Pool

open ConfigDelivery.Script (ScriptError)

variable {Shared Memory : Type}

/-- When a worker took a job, and what it found. -/
structure Work (Shared Memory : Type) where
  startedAt : Instant
  shared : Shared
  memory : Memory

/-- How far a job is. A job is done when the memory was reset after it, however that ended. -/
inductive Progress (Shared Memory : Type) where
  | waiting
  | running (work : Work Shared Memory)
  | done (work : Work Shared Memory) (endedAt : Instant)

/-- A job that was given to a worker, and when its caller lost patience. -/
structure Assignment (Shared Memory : Type) where
  job : Job
  slot : Nat
  progress : Progress Shared Memory := .waiting
  leftAt : Option Instant := none

namespace Assignment

variable (guest : Guest Shared Memory) (assignment : Assignment Shared Memory)

/-- The job is done. -/
def isDone : Bool :=
  match assignment.progress with
  | .done .. => true
  | _ => false

/-- What the worker found when it took the job. -/
def work? : Option (Work Shared Memory) :=
  match assignment.progress with
  | .waiting => none
  | .running work => some work
  | .done work _ => some work

/-- What the guest does for the job. -/
def activity (work : Work Shared Memory) : Activity Memory :=
  (guest.execute work.shared work.memory assignment.job work.startedAt).1

/-- How the job ends, and the memory it leaves; only its own caller can ask it to stop. -/
def ending (work : Work Shared Memory) : Execution × Memory :=
  (assignment.activity guest work).outcome assignment.leftAt.isSome

/-- What the reset after the job comes to. -/
def cleared (work : Work Shared Memory) : Reset × Memory :=
  guest.reset (assignment.ending guest work).2

/-- The job when its worker took it. -/
def taken (work : Work Shared Memory) : Assignment Shared Memory :=
  { assignment with progress := .running work }

/-- The job when its worker was done with it. -/
def ended (work : Work Shared Memory) (endedAt : Instant) : Assignment Shared Memory :=
  { assignment with progress := .done work endedAt }

/-- The job when its caller left. -/
def givenUp (leftAt : Instant) : Assignment Shared Memory :=
  { assignment with leftAt := some leftAt }

/-- The reset after a job that is done. -/
def reset? : Option (Reset × Memory) :=
  match assignment.progress with
  | .done work _ => some (assignment.cleared guest work)
  | _ => none

/-- The reset after a job that is done by a certain worker. -/
def resetAt? (index : Nat) : Option (Reset × Memory) :=
  if assignment.slot = index then assignment.reset? guest else none

variable {guest assignment} {index : Nat}

/-- Before a job is done, no reset has followed it. -/
theorem reset?_of_not_done (notDone : assignment.isDone = false) :
    assignment.reset? guest = none := by
  unfold isDone at notDone
  unfold reset?
  split at notDone
  · cases notDone
  · rfl

/-- Before a job is done, no reset of its worker has followed it. -/
theorem resetAt?_of_not_done (notDone : assignment.isDone = false) :
    assignment.resetAt? guest index = none := by
  simp [resetAt?, reset?_of_not_done notDone]

end Assignment

/-- The last reset that a worker made after some jobs. -/
def lastReset? (guest : Guest Shared Memory) (index : Nat)
    (assignments : List (Assignment Shared Memory)) : Option (Reset × Memory) :=
  (assignments.filterMap fun assignment => assignment.resetAt? guest index).getLast?

/-- The memory that some jobs left a worker with: what its last reset made of it, or as it was
built. -/
def memoryLeft (guest : Guest Shared Memory) (index : Nat) (built : Memory)
    (assignments : List (Assignment Shared Memory)) : Memory :=
  ((lastReset? guest index assignments).map Prod.snd).getD built

/-- The jobs of a pool. -/
structure Roster (Shared Memory : Type) where
  label : String
  timeout : Duration
  built : List Memory
  shared : Shared
  assignments : List (Assignment Shared Memory) := []

namespace Roster

variable (guest : Guest Shared Memory) (roster : Roster Shared Memory)

/-! ## What can be read off a roster -/

/-- The memory of a worker. -/
def memory? (index : Nat) : Option Memory :=
  roster.built[index]?.map fun built => memoryLeft guest index built roster.assignments

/-- A worker lives as long as no reset of its memory panicked. -/
def isAlive (index : Nat) : Bool :=
  match lastReset? guest index roster.assignments with
  | some (.panicked, _) => false
  | _ => true

/-- The jobs of a worker that are not done, the oldest first. -/
def outstanding (index : Nat) : List Nat :=
  (List.range roster.assignments.length).filter fun call =>
    roster.assignments[call]?.any fun assignment => assignment.slot = index && !assignment.isDone

/-- The oldest job of a worker that is not done. -/
def front? (index : Nat) : Option (Nat × Assignment Shared Memory) :=
  (roster.outstanding index).head?.bind fun call =>
    roster.assignments[call]?.map fun assignment => (call, assignment)

/-- A worker that lives and has nothing to do. -/
def isIdle (index : Nat) : Bool := roster.isAlive guest index && (roster.outstanding index).isEmpty

/-- The worker for the next job: the first one that is idle, or else the first. -/
def chosen : Nat := ((List.range roster.built.length).findIdx? (roster.isIdle guest)).getD 0

/-- What a caller is told whose worker is gone. -/
def unavailable (index : Nat) : ScriptError :=
  .unavailable (roster.label ++ " slot " ++ Text.integerText index ++ " is not running")

/-- What the caller of a job was told, if anything. -/
def answer (assignment : Assignment Shared Memory) : Option (Except ScriptError String) :=
  if assignment.leftAt.isSome then some (.error (.timeout roster.timeout))
  else
    match assignment.progress with
    | .waiting =>
      if roster.isAlive guest assignment.slot then none
      else some (.error (roster.unavailable assignment.slot))
    | .running _ => none
    | .done work _ =>
      some (if (assignment.cleared guest work).1 = .panicked then
          .error (roster.unavailable assignment.slot)
        else Execution.answer (assignment.ending guest work).1)

/-- What a caller was told, if anything. -/
def answer? (call : Nat) : Option (Except ScriptError String) :=
  roster.assignments[call]?.bind (roster.answer guest)

/-! ## What happens to a roster -/

/-- The roster with another entry for a call. -/
def amend (call : Nat) (assignment : Assignment Shared Memory) : Roster Shared Memory :=
  { roster with assignments := roster.assignments.set call assignment }

/-- Give a job to a worker. -/
def submit (job : Job) : Roster Shared Memory :=
  { roster with assignments := roster.assignments ++ [{ job, slot := roster.chosen guest }] }

/-- A living worker takes its oldest job that is not done, unless it is at it already. -/
def start (index : Nat) (now : Instant) : Roster Shared Memory :=
  match roster.memory? guest index, roster.front? index with
  | some memory, some (call, assignment) =>
    match assignment.progress with
    | .waiting =>
      if roster.isAlive guest index then
        { roster.amend call (assignment.taken ⟨now, roster.shared, memory⟩) with
          shared := (guest.execute roster.shared memory assignment.job now).2 }
      else roster
    | _ => roster
  | _, _ => roster

/-- A worker is done with the job that it is at. -/
def finish (index : Nat) (now : Instant) : Roster Shared Memory :=
  match roster.front? index with
  | some (call, assignment) =>
    match assignment.progress with
    | .running work => roster.amend call (assignment.ended work now)
    | _ => roster
  | none => roster

/-- A caller leaves whose job has been running for the time limit. -/
def expire (call : Nat) (now : Instant) : Roster Shared Memory :=
  match roster.assignments[call]? with
  | some assignment =>
    match assignment.progress, assignment.leftAt with
    | .running work, none =>
      if work.startedAt + roster.timeout ≤ now then
        roster.amend call (assignment.givenUp now)
      else roster
    | _, _ => roster
  | none => roster

/-- The roster after an event. -/
def step (event : Event) : Roster Shared Memory :=
  match event.action with
  | .submit job => roster.submit guest job
  | .start index => roster.start guest index event.now
  | .finish index => roster.finish index event.now
  | .expire call => roster.expire call event.now

/-- The roster after some events. -/
def after (events : List Event) : Roster Shared Memory := events.foldl (step guest) roster

end Roster

/-! ## Resets -/

variable {guest : Guest Shared Memory} {assignments others : List (Assignment Shared Memory)}
  {index call : Nat} {assignment amended : Assignment Shared Memory}

/-- Resets depend on nothing but which jobs are done. -/
theorem lastReset?_congr
    (same : ∀ call : Nat, others[call]?.map (·.resetAt? guest index)
      = assignments[call]?.map (·.resetAt? guest index)) :
    lastReset? guest index others = lastReset? guest index assignments := by
  have keys : others.map (·.resetAt? guest index) = assignments.map (·.resetAt? guest index) := by
    apply List.ext_getElem?
    simpa using same
  unfold lastReset?
  have byKeys : ∀ list : List (Assignment Shared Memory),
      list.filterMap (·.resetAt? guest index)
        = (list.map (·.resetAt? guest index)).filterMap id := by
    intro list
    rw [List.filterMap_map]
    rfl
  rw [byKeys, byKeys, keys]

/-- Jobs that are not done leave no trace. -/
theorem lastReset?_take
    (waiting : ∀ later entry, call ≤ later → assignments[later]? = some entry →
      entry.slot = index → entry.isDone = false) :
    lastReset? guest index (assignments.take call) = lastReset? guest index assignments := by
  have rest : (assignments.drop call).filterMap (·.resetAt? guest index) = [] := by
    rw [List.filterMap_eq_nil_iff]
    intro entry mem
    obtain ⟨offset, found⟩ := List.getElem?_of_mem mem
    rw [List.getElem?_drop] at found
    by_cases here : entry.slot = index
    · exact Assignment.resetAt?_of_not_done (waiting _ entry (Nat.le_add_right ..) found here)
    · simp [Assignment.resetAt?, here]
  conv => rhs; rw [← List.take_append_drop call assignments]
  simp only [lastReset?, List.filterMap_append, rest, List.append_nil]

/-- The last job that is done is the last one whose reset counts. -/
theorem lastReset?_set (inside : call < assignments.length)
    {reset : Reset × Memory} (isDone : amended.resetAt? guest index = some reset)
    (waiting : ∀ later entry, call < later → assignments[later]? = some entry →
      entry.slot = index → entry.isDone = false) :
    lastReset? guest index (assignments.set call amended) = some reset := by
  have shorter : lastReset? guest index ((assignments.set call amended).take (call + 1))
      = some reset := by
    rw [List.take_set, List.take_add_one, List.set_append]
    simp [lastReset?, List.getElem?_eq_getElem inside, Nat.min_eq_left (Nat.le_of_lt inside),
      isDone]
  refine (lastReset?_take fun later entry le found here => ?_).symm.trans shorter
  rw [List.getElem?_set_ne (Nat.ne_of_lt le)] at found
  exact waiting later entry le found here

namespace Roster

variable {roster : Roster Shared Memory} {now : Instant}

/-! ## Answers -/

/-- A caller that gave its job up was told that its time was out. -/
theorem answer_of_left {leftAt : Instant} (left : assignment.leftAt = some leftAt) :
    roster.answer guest assignment = some (.error (.timeout roster.timeout)) := by
  simp only [answer, left, Option.isSome_some, if_true]

/-- A job that waits is answered only if its worker is dead. -/
theorem answer_of_waiting (stays : assignment.leftAt = none)
    (waiting : assignment.progress = .waiting) :
    roster.answer guest assignment = if roster.isAlive guest assignment.slot then none
      else some (.error (roster.unavailable assignment.slot)) := by
  simp only [answer, stays, waiting, Option.isSome_none, Bool.false_eq_true, if_false]

/-- A job that runs is not answered yet. -/
theorem answer_of_running {work : Work Shared Memory} (stays : assignment.leftAt = none)
    (running : assignment.progress = .running work) : roster.answer guest assignment = none := by
  simp only [answer, stays, running, Option.isSome_none, Bool.false_eq_true, if_false]

/-- A job that is done is answered by its run, or as unavailable if its worker died in the reset. -/
theorem answer_of_done {work : Work Shared Memory} {endedAt : Instant}
    (stays : assignment.leftAt = none) (done : assignment.progress = .done work endedAt) :
    roster.answer guest assignment
      = some (if (assignment.cleared guest work).1 = .panicked then
          .error (roster.unavailable assignment.slot)
        else Execution.answer (assignment.ending guest work).1) := by
  rw [answer, stays]
  simp only [Option.isSome_none, Bool.false_eq_true, if_false]
  rw [done]

/-- Who was told nothing waits for a job that a living worker may take, or for one that it is at. -/
theorem waits_of_untold (untold : roster.answer guest assignment = none) :
    assignment.leftAt = none ∧
      (assignment.progress = .waiting ∧ roster.isAlive guest assignment.slot = true ∨
        ∃ work, assignment.progress = .running work) := by
  have stays : assignment.leftAt = none := by
    cases left : assignment.leftAt with
    | none => rfl
    | some leftAt => cases untold.symm.trans (answer_of_left left)
  refine ⟨stays, ?_⟩
  cases progress : assignment.progress with
  | waiting =>
    rw [answer_of_waiting stays progress] at untold
    split at untold
    · rename_i isAlive
      exact .inl ⟨rfl, isAlive⟩
    · cases untold
  | running work => exact .inr ⟨work, rfl⟩
  | done work endedAt => cases untold.symm.trans (answer_of_done stays progress)

/-! ## Outstanding jobs -/

/-- The outstanding jobs of a slot are those that are not done. -/
theorem mem_outstanding : call ∈ roster.outstanding index ↔
    ∃ assignment, roster.assignments[call]? = some assignment ∧ assignment.slot = index ∧
      assignment.isDone = false := by
  unfold outstanding
  rw [List.mem_filter, List.mem_range, Option.any_eq_true]
  constructor
  · rintro ⟨-, assignment, found, here⟩
    exact ⟨assignment, found, by simpa using here⟩
  · rintro ⟨assignment, found, here, notDone⟩
    obtain ⟨inside, _⟩ := List.getElem?_eq_some_iff.mp found
    exact ⟨inside, assignment, found, by simp [here, notDone]⟩

/-- Outstanding jobs are in the order of their calls. -/
theorem outstanding_sorted (roster : Roster Shared Memory) (index : Nat) :
    (roster.outstanding index).Pairwise (· < ·) :=
  List.pairwise_lt_range.filter _

/-- An outstanding job was submitted. -/
theorem outstanding_lt (mem : call ∈ roster.outstanding index) :
    call < roster.assignments.length := by
  obtain ⟨_, found, _⟩ := mem_outstanding.mp mem
  exact (List.getElem?_eq_some_iff.mp found).1

/-- The oldest job of a worker that is not done comes after jobs that are. -/
structure IsFront (roster : Roster Shared Memory) (index call : Nat)
    (assignment : Assignment Shared Memory) : Prop where
  found : roster.assignments[call]? = some assignment
  slot : assignment.slot = index
  notDone : assignment.isDone = false
  earlier : ∀ {other entry}, other < call → roster.assignments[other]? = some entry →
    entry.slot = index → entry.isDone = true

/-- The first outstanding job is the front of its slot. -/
theorem isFront_of_cons {rest : List Nat} (isFirst : roster.outstanding index = call :: rest) :
    ∃ assignment, roster.IsFront index call assignment ∧
      roster.front? index = some (call, assignment) := by
  have sorted := roster.outstanding_sorted index
  obtain ⟨assignment, found, here, notDone⟩ :=
    mem_outstanding.mp (isFirst ▸ List.mem_cons_self : call ∈ roster.outstanding index)
  refine ⟨assignment, ⟨found, here, notDone, ?_⟩, by simp [front?, isFirst, found]⟩
  intro other entry before present same
  cases undone : entry.isDone with
  | true => rfl
  | false =>
    have mem : other ∈ roster.outstanding index :=
      mem_outstanding.mpr ⟨entry, present, same, undone⟩
    rw [isFirst] at sorted mem
    rcases List.mem_cons.mp mem with rfl | later
    · exact absurd before (Nat.lt_irrefl _)
    · exact absurd before (Nat.lt_asymm (List.rel_of_pairwise_cons sorted later))

/-- What is found as the front of a slot is its front. -/
theorem isFront_of_front? (isFront : roster.front? index = some (call, assignment)) :
    roster.IsFront index call assignment := by
  cases list : roster.outstanding index with
  | nil => simp [front?, list] at isFront
  | cons first rest =>
    obtain ⟨found, front, same⟩ := isFront_of_cons list
    rw [same] at isFront
    cases isFront
    exact front

/-- A changed job is found as changed, and the others as before. -/
theorem lookup_amend (found : roster.assignments[call]? = some assignment) (other : Nat) :
    (roster.amend call amended).assignments[other]?
      = if other = call then some amended else roster.assignments[other]? := by
  obtain ⟨inside, _⟩ := List.getElem?_eq_some_iff.mp found
  by_cases same : other = call
  · subst same
    simp [amend, inside]
  · simp [amend, same, Ne.symm same]

/-- An entry is what it was, or what it was amended to. -/
theorem entry_of_amend {found : Nat} {later : Assignment Shared Memory}
    (entry : roster.assignments[call]? = some assignment)
    (present : (roster.amend call amended).assignments[found]? = some later) :
    ∃ earlier, roster.assignments[found]? = some earlier ∧
      (later = earlier ∨ later = amended ∧ earlier = assignment ∧ found = call) := by
  rw [lookup_amend entry] at present
  split at present
  · rename_i same
    subst same
    cases present
    exact ⟨assignment, entry, .inr ⟨rfl, rfl, rfl⟩⟩
  · exact ⟨later, present, .inl rfl⟩

/-- A job that is submitted is found as the last one, and the others as before. -/
theorem lookup_submit (job : Job) (other : Nat) :
    (roster.submit guest job).assignments[other]?
      = if other = roster.assignments.length then some { job, slot := roster.chosen guest }
        else roster.assignments[other]? := by
  unfold submit
  rw [List.getElem?_append]
  rcases Nat.lt_trichotomy other roster.assignments.length with less | rfl | more
  · simp [less, Nat.ne_of_lt less]
  · simp
  · have beyond : other - roster.assignments.length ≠ 0 := by omega
    simp [Nat.not_lt_of_lt more, Nat.ne_of_gt more, beyond]

/-- A change of a job that leaves it where it is, done or not, leaves the same jobs outstanding. -/
theorem outstanding_amend (found : roster.assignments[call]? = some assignment)
    (slot : amended.slot = assignment.slot) (isDone : amended.isDone = assignment.isDone) :
    (roster.amend call amended).outstanding index = roster.outstanding index := by
  unfold outstanding
  rw [amend, List.length_set]
  apply List.filter_congr
  intro other _
  rw [← amend, lookup_amend found]
  by_cases same : other = call
  · subst same
    simp [found, slot, isDone]
  · simp [same]

/-- A job that is done is no longer outstanding. -/
theorem outstanding_amend_done (found : roster.assignments[call]? = some assignment)
    (isDone : amended.isDone = true) :
    (roster.amend call amended).outstanding index
      = (roster.outstanding index).filter (· ≠ call) := by
  unfold outstanding
  rw [amend, List.length_set, List.filter_filter]
  apply List.filter_congr
  intro other _
  rw [← amend, lookup_amend found]
  by_cases same : other = call
  · subst same
    simp [isDone]
  · simp [same]

/-- A job that is submitted is outstanding behind the others of its slot. -/
theorem outstanding_submit (roster : Roster Shared Memory) (job : Job) (index : Nat) :
    (roster.submit guest job).outstanding index = roster.outstanding index
      ++ if roster.chosen guest = index then [roster.assignments.length] else [] := by
  unfold outstanding
  rw [show (roster.submit guest job).assignments.length = roster.assignments.length + 1 by
    simp [submit], List.range_succ, List.filter_append]
  congr 1
  · apply List.filter_congr
    intro other mem
    rw [lookup_submit, if_neg (Nat.ne_of_lt (List.mem_range.mp mem))]
  · rw [List.filter_cons, lookup_submit, if_pos rfl]
    by_cases here : roster.chosen guest = index <;> simp [here, Assignment.isDone]

/-! ## What the events do -/

/-- The front of a slot, if it waits, is what is started. -/
theorem start_of_front {memory : Memory} (memory? : roster.memory? guest index = some memory)
    (isFront : roster.front? index = some (call, assignment))
    (waiting : assignment.progress = .waiting) (isAlive : roster.isAlive guest index = true) :
    roster.start guest index now =
      { roster.amend call (assignment.taken ⟨now, roster.shared, memory⟩) with
        shared := (guest.execute roster.shared memory assignment.job now).2 } := by
  simp only [start, memory?, isFront, waiting, isAlive, if_true]

/-- Where no job waits at the front, or no live worker for it, nothing is started. -/
theorem start_of_idle (idle : roster.memory? guest index = none ∨
      roster.isAlive guest index = false ∨
      ∀ call assignment, roster.front? index = some (call, assignment) →
        assignment.progress ≠ .waiting) : roster.start guest index now = roster := by
  unfold start
  split
  · rename_i memory call assignment present isFront
    split
    · rename_i waiting
      rcases idle with absent | isDead | idle
      · rw [absent] at present
        cases present
      · simp [isDead]
      · exact absurd waiting (idle call assignment isFront)
    · rfl
  · rfl

/-- The front of a slot, if it runs, is what is finished. -/
theorem finish_of_front {work : Work Shared Memory}
    (isFront : roster.front? index = some (call, assignment))
    (running : assignment.progress = .running work) :
    roster.finish index now
      = roster.amend call (assignment.ended work now) := by
  simp only [finish, isFront, running]

/-- Where nothing runs, nothing is finished. -/
theorem finish_of_idle (idle : ∀ call assignment work,
      roster.front? index = some (call, assignment) → assignment.progress ≠ .running work) :
    roster.finish index now = roster := by
  unfold finish
  split
  · rename_i call assignment isFront
    split
    · rename_i work running
      exact absurd running (idle call assignment work isFront)
    · rfl
  · rfl

/-- A call that has waited for its running job too long gives it up. -/
theorem expire_of_running {work : Work Shared Memory}
    (found : roster.assignments[call]? = some assignment)
    (running : assignment.progress = .running work) (stays : assignment.leftAt = none)
    (late : work.startedAt + roster.timeout ≤ now) :
    roster.expire call now = roster.amend call (assignment.givenUp now) := by
  simp only [expire, found, running, stays, late, if_true]

/-- A call that is not late does not expire. -/
theorem expire_of_idle (idle : ∀ assignment work, roster.assignments[call]? = some assignment →
      assignment.progress = .running work → assignment.leftAt = none →
      now < work.startedAt + roster.timeout) : roster.expire call now = roster := by
  unfold expire
  split
  · rename_i assignment found
    split
    · rename_i work running stays
      rw [if_neg (Nat.not_le_of_lt (idle assignment work found running stays))]
    · rfl
  · rfl

/-- Everything an event can do to a roster. -/
inductive Change (guest : Guest Shared Memory) (roster : Roster Shared Memory) :
    Event → Roster Shared Memory → Prop where
  | submitted (now : Instant) (job : Job) :
      Change guest roster ⟨now, .submit job⟩ (roster.submit guest job)
  | started {index call : Nat} {assignment : Assignment Shared Memory} {memory : Memory}
      (now : Instant) (front : roster.IsFront index call assignment)
      (waiting : assignment.progress = .waiting) (isAlive : roster.isAlive guest index = true)
      (memory? : roster.memory? guest index = some memory) :
      Change guest roster ⟨now, .start index⟩
        { roster.amend call (assignment.taken ⟨now, roster.shared, memory⟩) with
          shared := (guest.execute roster.shared memory assignment.job now).2 }
  | finished {index call : Nat} {assignment : Assignment Shared Memory} {work : Work Shared Memory}
      (now : Instant) (front : roster.IsFront index call assignment)
      (running : assignment.progress = .running work) :
      Change guest roster ⟨now, .finish index⟩
        (roster.amend call (assignment.ended work now))
  | expired {call : Nat} {assignment : Assignment Shared Memory} {work : Work Shared Memory}
      (now : Instant) (found : roster.assignments[call]? = some assignment)
      (running : assignment.progress = .running work) (stays : assignment.leftAt = none)
      (late : work.startedAt + roster.timeout ≤ now) :
      Change guest roster ⟨now, .expire call⟩
        (roster.amend call (assignment.givenUp now))
  | unchanged {event : Event} : Change guest roster event roster

/-- Every event changes the roster in one of the ways that are named. -/
theorem change_step (guest : Guest Shared Memory) (roster : Roster Shared Memory) (event : Event) :
    Change guest roster event (roster.step guest event) := by
  obtain ⟨now, action⟩ := event
  cases action with
  | submit job => exact .submitted now job
  | start index =>
    dsimp only [step, start]
    split
    · rename_i memory call assignment present isFront
      split
      · rename_i waiting
        split
        · rename_i isAlive
          exact .started now (isFront_of_front? isFront) waiting isAlive present
        · exact .unchanged
      · exact .unchanged
    · exact .unchanged
  | finish index =>
    dsimp only [step, finish]
    split
    · rename_i call assignment isFront
      split
      · rename_i work running
        exact .finished now (isFront_of_front? isFront) running
      · exact .unchanged
    · exact .unchanged
  | expire call =>
    dsimp only [step, expire]
    split
    · rename_i assignment found
      split
      · rename_i work running stays
        split
        · rename_i late
          exact .expired now found running stays late
        · exact .unchanged
      · exact .unchanged
    · exact .unchanged

end Roster

end ConfigDelivery.Pool
