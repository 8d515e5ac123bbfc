import ConfigDelivery.Proofs.Pool.Lineage
/-!
# What a pool shows of its roster

A pool that is in step with a roster of its jobs: the queue of a slot and the job that it runs are
the jobs of the roster that are not done; its counter is their number as long as its worker lives,
and positive after that. Tickets grow, so that a stop request reaches the running job if and only if
the caller of that job left. The state of a call tells what the roster tells.
-/

namespace ConfigDelivery.Pool

variable {Shared Memory : Type} {guest : Guest Shared Memory}

/-! ## Rosters that agree about a worker -/

namespace Roster

variable {roster after : Roster Shared Memory} {index call : Nat}
  {assignment amended : Assignment Shared Memory}

/-- Nothing changed for a worker and its jobs that are not done. -/
structure AgreesAt (guest : Guest Shared Memory) (roster after : Roster Shared Memory)
    (index : Nat) : Prop where
  memory : after.memory? guest index = roster.memory? guest index
  isAlive : after.isAlive guest index = roster.isAlive guest index
  outstanding : after.outstanding index = roster.outstanding index
  lookup : ∀ call ∈ roster.outstanding index,
    after.assignments[call]? = roster.assignments[call]?

/-- The memory of a worker depends on its last reset and on what it was built with. -/
theorem memory?_congr
    (same : lastReset? guest index after.assignments = lastReset? guest index roster.assignments)
    (built : after.built = roster.built) :
    after.memory? guest index = roster.memory? guest index := by
  simp only [memory?, memoryLeft, built, same]

/-- Whether a worker is alive depends on its last reset. -/
theorem isAlive_congr
    (same : lastReset? guest index after.assignments = lastReset? guest index roster.assignments) :
    after.isAlive guest index = roster.isAlive guest index := by
  simp only [isAlive, same]

/-- A new job resets nothing. -/
theorem lastReset?_submit (job : Job) :
    lastReset? guest index (roster.submit guest job).assignments
      = lastReset? guest index roster.assignments := by
  simp [submit, lastReset?, List.filterMap_append, Assignment.resetAt?, Assignment.reset?]

/-- A change of a job without a new reset leaves the last reset as it was. -/
theorem lastReset?_amend_all (found : roster.assignments[call]? = some assignment)
    (same : amended.resetAt? guest index = assignment.resetAt? guest index) :
    lastReset? guest index (roster.amend call amended).assignments
      = lastReset? guest index roster.assignments := by
  apply lastReset?_congr
  intro other
  rw [lookup_amend found]
  by_cases here : other = call
  · subst here
    simp [found, same]
  · rw [if_neg here]

/-- A job that is submitted elsewhere leaves a worker alone. -/
theorem agreesAt_submit (job : Job) (elsewhere : roster.chosen guest ≠ index) :
    AgreesAt guest roster (roster.submit guest job) index where
  memory := memory?_congr (lastReset?_submit job) rfl
  isAlive := isAlive_congr (lastReset?_submit job)
  outstanding := by rw [outstanding_submit, if_neg elsewhere, List.append_nil]
  lookup call mem := by rw [lookup_submit, if_neg (Nat.ne_of_lt (outstanding_lt mem))]

/-- A change of a job elsewhere leaves a worker alone. -/
theorem agreesAt_amend (found : roster.assignments[call]? = some assignment)
    (slot : amended.slot = assignment.slot) (elsewhere : assignment.slot ≠ index) :
    AgreesAt guest roster (roster.amend call amended) index := by
  have same : amended.resetAt? guest index = assignment.resetAt? guest index := by
    simp [Assignment.resetAt?, slot, elsewhere]
  have notHere : call ∉ roster.outstanding index := by
    intro mem
    obtain ⟨entry, present, here, -⟩ := mem_outstanding.mp mem
    rw [found] at present
    cases present
    exact elsewhere here
  refine ⟨memory?_congr (lastReset?_amend_all found same) rfl,
    isAlive_congr (lastReset?_amend_all found same), ?_, ?_⟩
  · unfold outstanding
    rw [amend, List.length_set]
    apply List.filter_congr
    intro other _
    rw [← amend, lookup_amend found]
    by_cases here : other = call
    · subst here
      simp [found, slot, elsewhere]
    · rw [if_neg here]
  · intro other mem
    rw [lookup_amend found, if_neg]
    rintro rfl
    exact notHere mem

/-- After a reset, the memory of a worker is what the reset left. -/
theorem memory?_of_lastReset {reset : Reset × Memory}
    (last : lastReset? guest index roster.assignments = some reset) {built : Memory}
    (isBuilt : roster.built[index]? = some built) : roster.memory? guest index = some reset.2 := by
  simp [memory?, memoryLeft, isBuilt, last]

/-- After a reset, a worker is alive unless that panicked. -/
theorem isAlive_of_lastReset {reset : Reset × Memory}
    (last : lastReset? guest index roster.assignments = some reset) :
    roster.isAlive guest index = decide (reset.1 ≠ .panicked) := by
  obtain ⟨ended, memory⟩ := reset
  cases ended <;> simp [isAlive, last]

/-- An answer depends on the pool's timeout and label, and on whether the worker is alive. -/
theorem answer_congr (timeout : after.timeout = roster.timeout) (label : after.label = roster.label)
    (isAlive : after.isAlive guest assignment.slot = roster.isAlive guest assignment.slot) :
    after.answer guest assignment = roster.answer guest assignment := by
  simp only [answer, unavailable, timeout, label, isAlive]

end Roster

/-! ## What a slot and a call show of a roster -/

namespace Slot

variable {roster after : Roster Shared Memory} {index : Nat} {slot : Slot Memory}

/-- The tickets of the jobs of a slot, the oldest first, and the next ticket. -/
def tickets (slot : Slot Memory) : List Nat :=
  (slot.running.map Running.ticket).toList ++ slot.queue.map Queued.ticket ++ [slot.nextTicket]

/-- The running job of a slot is a running job of the roster. It is asked to stop if and only if its
caller left. -/
structure IsAt (guest : Guest Shared Memory) (slot : Slot Memory) (roster : Roster Shared Memory)
    (running : Running Memory) (assignment : Assignment Shared Memory)
    (work : Work Shared Memory) : Prop where
  found : roster.assignments[running.call]? = some assignment
  progress : assignment.progress = .running work
  activity : running.activity = assignment.activity guest work
  ticket : slot.interrupt.running = running.ticket
  raised : slot.interrupt.cancelled = running.ticket ↔ assignment.leftAt.isSome = true

/-- A slot shows a worker of the roster. -/
structure Shows (guest : Guest Shared Memory) (slot : Slot Memory)
    (roster : Roster Shared Memory) (index : Nat) : Prop where
  memory : roster.memory? guest index = some slot.memory
  isAlive : roster.isAlive guest index = slot.isAlive
  outstanding : slot.outstanding = if slot.isAlive then roster.outstanding index else []
  pending : if slot.isAlive then slot.pending = slot.outstanding.length else 0 < slot.pending
  queued : ∀ queued ∈ slot.queue, ∃ assignment,
    roster.assignments[queued.call]? = some assignment ∧ assignment.job = queued.job ∧
      assignment.progress = .waiting ∧ assignment.leftAt = none
  running : ∀ running, slot.running = some running →
    ∃ assignment work, slot.IsAt guest roster running assignment work
  tickets : (0 :: slot.tickets).Pairwise (· < ·)
  uncancelled : ∀ ticket ∈ slot.queue.map Queued.ticket ++ [slot.nextTicket],
    slot.interrupt.cancelled < ticket

theorem mem_outstanding_of_running {running : Running Memory}
    (isRunning : slot.running = some running) : running.call ∈ slot.outstanding := by
  rw [outstanding_of_running isRunning]
  exact List.mem_cons_self

theorem mem_outstanding_of_queued {queued : Queued} (mem : queued ∈ slot.queue) :
    queued.call ∈ slot.outstanding := by
  rw [outstanding]
  exact List.mem_append_right _ (List.mem_map_of_mem mem)

/-- No ticket was given out beyond the next one. -/
theorem le_nextTicket {ticket : Nat} (sorted : (0 :: slot.tickets).Pairwise (· < ·))
    (mem : ticket ∈ 0 :: slot.tickets) : ticket ≤ slot.nextTicket := by
  rw [tickets, ← List.cons_append, List.pairwise_append] at sorted
  rw [tickets, ← List.cons_append] at mem
  rcases List.mem_append.mp mem with earlier | isLast
  · exact Nat.le_of_lt (sorted.2.2 ticket earlier _ List.mem_cons_self)
  · exact Nat.le_of_eq (List.mem_singleton.mp isLast)

/-- Tickets count from one. -/
theorem lt_nextTicket (sorted : (0 :: slot.tickets).Pairwise (· < ·)) : 0 < slot.nextTicket :=
  List.rel_of_pairwise_cons sorted (List.mem_append_right _ List.mem_cons_self)

namespace Shows

/-- The outstanding jobs of a live worker are those on the roster. -/
theorem outstanding_of_isAlive (shows : slot.Shows guest roster index)
    (isAlive : slot.isAlive = true) : slot.outstanding = roster.outstanding index := by
  rw [shows.outstanding, if_pos isAlive]

/-- The pending count of a live worker is that of its outstanding jobs. -/
theorem pending_of_isAlive (shows : slot.Shows guest roster index)
    (isAlive : slot.isAlive = true) : slot.pending = slot.outstanding.length := by
  have pending := shows.pending
  rwa [if_pos isAlive] at pending

/-- The pending count of a dead worker is not zero. -/
theorem pending_of_dead (shows : slot.Shows guest roster index)
    (isDead : slot.isAlive = false) : 0 < slot.pending := by
  have pending := shows.pending
  rwa [if_neg (Bool.eq_false_iff.mp isDead)] at pending

/-- An outstanding job is that of a live worker, and is on the roster. -/
theorem mem_outstanding (shows : slot.Shows guest roster index) {call : Nat}
    (mem : call ∈ slot.outstanding) : slot.isAlive = true ∧ call ∈ roster.outstanding index := by
  rw [shows.outstanding] at mem
  split at mem
  · rename_i isAlive
    exact ⟨isAlive, mem⟩
  · cases mem

/-- The outstanding jobs of a slot are in the order of their calls. -/
theorem outstanding_sorted (shows : slot.Shows guest roster index) :
    slot.outstanding.Pairwise (· < ·) := by
  rw [shows.outstanding]
  split
  · exact roster.outstanding_sorted index
  · exact .nil

/-- What a slot has in its queue came after what it runs. -/
theorem lt_of_queued (shows : slot.Shows guest roster index) {running : Running Memory}
    (isRunning : slot.running = some running) {queued : Queued} (mem : queued ∈ slot.queue) :
    running.call < queued.call := by
  have sorted := shows.outstanding_sorted
  rw [outstanding_of_running isRunning] at sorted
  exact List.rel_of_pairwise_cons sorted (List.mem_map_of_mem mem)

/-- The counter of a slot is zero if and only if its worker is idle. -/
theorem pending_eq_zero (shows : slot.Shows guest roster index) :
    decide (slot.pending = 0) = slot.isIdle := by
  cases alive : slot.isAlive with
  | true =>
    rw [Bool.eq_iff_iff]
    simp [isIdle, alive, shows.pending_of_isAlive alive]
  | false => simp [isIdle, alive, Nat.ne_of_gt (shows.pending_of_dead alive)]

/-- A slot is idle if it is so on the roster. -/
theorem isIdle_eq (shows : slot.Shows guest roster index) :
    roster.isIdle guest index = slot.isIdle := by
  rw [Roster.isIdle, Slot.isIdle, shows.isAlive]
  cases alive : slot.isAlive with
  | true => rw [shows.outstanding_of_isAlive alive]
  | false => rfl

/-- A slot shows a roster that agrees about its worker, too. -/
theorem of_agrees (shows : slot.Shows guest roster index)
    (agrees : roster.AgreesAt guest after index) : slot.Shows guest after index where
  memory := agrees.memory ▸ shows.memory
  isAlive := agrees.isAlive ▸ shows.isAlive
  outstanding := by rw [agrees.outstanding]; exact shows.outstanding
  pending := shows.pending
  queued := by
    intro queued mem
    rw [agrees.lookup _ (shows.mem_outstanding (mem_outstanding_of_queued mem)).2]
    exact shows.queued queued mem
  running := by
    intro running isRunning
    obtain ⟨assignment, work, isAt⟩ := shows.running running isRunning
    refine ⟨assignment, work, ?_, isAt.progress, isAt.activity, isAt.ticket, isAt.raised⟩
    rw [agrees.lookup _ (shows.mem_outstanding (mem_outstanding_of_running isRunning)).2]
    exact isAt.found
  tickets := shows.tickets
  uncancelled := shows.uncancelled

/-- A running job ends as the roster tells. -/
theorem ending (shows : slot.Shows guest roster index) {running : Running Memory}
    (isRunning : slot.running = some running) {assignment : Assignment Shared Memory}
    {work : Work Shared Memory} (isAt : slot.IsAt guest roster running assignment work) :
    slot.ending running = assignment.ending guest work := by
  have positive : running.ticket ≠ 0 := by
    have sorted := shows.tickets
    simp only [Slot.tickets, isRunning, Option.map_some, Option.toList_some,
      List.cons_append] at sorted
    exact Nat.ne_of_gt (List.rel_of_pairwise_cons sorted List.mem_cons_self)
  have isRaised : slot.interrupt.isRaised = assignment.leftAt.isSome := by
    rw [Bool.eq_iff_iff, ← isAt.raised]
    simp [Interrupt.isRaised, isAt.ticket, positive]
  rw [Slot.ending, Assignment.ending, isAt.activity, isRaised]

end Shows

end Slot

namespace WorkerPool

variable {pool next : WorkerPool Shared Memory} {roster after : Roster Shared Memory}
  {index call : Nat} {slot new : Slot Memory}

/-- The job that a slot runs. -/
def running? (pool : WorkerPool Shared Memory) (index : Nat) : Option (Running Memory) :=
  pool.slots[index]?.bind Slot.running

/-- The state of a call tells what the roster tells. -/
structure ShowsCall (guest : Guest Shared Memory) (pool : WorkerPool Shared Memory)
    (roster : Roster Shared Memory) (call : Nat) (assignment : Assignment Shared Memory) :
    Prop where
  answered : ∀ {outcome}, roster.answer guest assignment = some outcome →
    pool.call? call = some (.answered outcome)
  queued : roster.answer guest assignment = none → assignment.progress = .waiting →
    pool.call? call = some (.queued assignment.slot)
  started : ∀ {work}, roster.answer guest assignment = none →
    assignment.progress = .running work → ∃ running, pool.running? assignment.slot = some running ∧
      running.call = call ∧
      pool.call? call = some (.started assignment.slot running.ticket work.startedAt)

/-- A call shows a later roster if its state, its answer and its running job are as before. -/
theorem ShowsCall.congr {assignment : Assignment Shared Memory}
    (shows : pool.ShowsCall guest roster call assignment)
    (state : next.call? call = pool.call? call)
    (answer : after.answer guest assignment = roster.answer guest assignment)
    (running : ∀ running, pool.running? assignment.slot = some running → running.call = call →
      next.running? assignment.slot = some running) :
    next.ShowsCall guest after call assignment where
  answered := by
    intro outcome told
    rw [state]
    exact shows.answered (answer ▸ told)
  queued := by
    intro untold waiting
    rw [state]
    exact shows.queued (answer ▸ untold) waiting
  started := by
    intro work untold isRunning
    obtain ⟨found, present, same, started⟩ := shows.started (answer ▸ untold) isRunning
    exact ⟨found, running found present same, same, state ▸ started⟩

/-- A call that is answered as on the roster shows it. -/
theorem ShowsCall.of_answered {assignment : Assignment Shared Memory}
    (answered : ∃ outcome, roster.answer guest assignment = some outcome ∧
      pool.call? call = some (.answered outcome)) :
    pool.ShowsCall guest roster call assignment := by
  obtain ⟨outcome, answer, state⟩ := answered
  refine ⟨?_, ?_, ?_⟩
  · intro other told
    cases answer.symm.trans told
    exact state
  · intro untold
    exact absurd (answer.symm.trans untold) nofun
  · intro work untold
    exact absurd (answer.symm.trans untold) nofun

/-- A pool is in step with the roster of its jobs. -/
structure Follows (guest : Guest Shared Memory) (pool : WorkerPool Shared Memory)
    (roster : Roster Shared Memory) : Prop where
  label : pool.label = roster.label
  timeout : pool.timeout = roster.timeout
  shared : pool.shared = roster.shared
  nextCall : pool.nextCall = roster.assignments.length
  size : pool.slots.length = roster.built.length
  slot : ∀ {index : Nat} {slot : Slot Memory}, pool.slots[index]? = some slot →
    slot.Shows guest roster index
  call : ∀ {call : Nat} {assignment : Assignment Shared Memory},
    roster.assignments[call]? = some assignment → pool.ShowsCall guest roster call assignment
  absent : ∀ {call : Nat}, roster.assignments.length ≤ call → pool.call? call = none

end WorkerPool

end ConfigDelivery.Pool
