import ConfigDelivery.Proofs.Pool.Showing
/-!
# Pools follow their rosters

A pool and the roster of its jobs stay in step through every event. What happens to the job of one
slot is nothing to the other slots, and nothing to the other calls, unless the worker dies.
-/

namespace ConfigDelivery.Pool

open ConfigDelivery.Script (ScriptError)

variable {Shared Memory : Type} {guest : Guest Shared Memory}

namespace WorkerPool

variable {pool next : WorkerPool Shared Memory} {roster after : Roster Shared Memory}
  {index call : Nat} {slot new : Slot Memory}

/-- A changed slot shows the running job of a call as before if the change kept it. -/
theorem running?_withSlot (found : pool.slots[index]? = some slot)
    (kept : ∀ running, slot.running = some running → running.call = call →
      new.running = some running) {other : Nat} {running : Running Memory}
    (present : pool.running? other = some running) (same : running.call = call) :
    (pool.withSlot index new).running? other = some running := by
  unfold running? at present ⊢
  by_cases here : index = other
  · subst here
    rw [found] at present
    rw [withSlot_same found]
    exact kept running present same
  · rw [withSlot_of_ne pool here]
    exact present

namespace Follows

/-- Pool and roster choose the same slot. -/
theorem nextSlot_eq (follows : pool.Follows guest roster) :
    pool.nextSlot = roster.chosen guest := by
  rw [Roster.chosen, ← follows.size]
  apply nextSlot_eq_of_map
  apply List.ext_getElem?
  intro index
  rw [List.getElem?_map, List.getElem?_map]
  cases found : pool.slots[index]? with
  | none =>
    have outside := List.getElem?_eq_none_iff.mp found
    rw [List.getElem?_eq_none (by simpa using outside)]
    rfl
  | some slot =>
    obtain ⟨inside, _⟩ := List.getElem?_eq_some_iff.mp found
    have shows := follows.slot found
    rw [List.getElem?_range inside, Option.map_some, Option.map_some, shows.isIdle_eq,
      shows.pending_eq_zero]

/-- When one slot changes, the others go on to show their workers. -/
theorem slot_withSlot (follows : pool.Follows guest roster)
    (agrees : ∀ other, other ≠ index → roster.AgreesAt guest after other)
    (shows : new.Shows guest after index) {other : Nat}
    (present : (pool.withSlot index new).slots[other]? = some slot) :
    slot.Shows guest after other := by
  by_cases here : index = other
  · subst here
    rw [withSlot_slots] at present
    split at present
    · cases present
      exact shows
    · rename_i outside
      obtain ⟨inside, _⟩ := List.getElem?_eq_some_iff.mp present
      exact absurd ⟨rfl, inside⟩ outside
  · rw [withSlot_of_ne pool here] at present
    exact (follows.slot present).of_agrees (agrees other (Ne.symm here))

/-! ## Submissions -/

/-- A new call shows what becomes of its job: it waits, or its worker is gone. -/
theorem showsCall_submitted (follows : pool.Follows guest roster)
    (found : pool.slots[pool.nextSlot]? = some slot) (job : Job) {state : CallState}
    (told : state = if slot.isAlive then .queued pool.nextSlot
      else .answered (.error (pool.unavailable pool.nextSlot))) :
    ((pool.withSlot pool.nextSlot new).withCall state).ShowsCall guest (roster.submit guest job)
      roster.assignments.length { job, slot := roster.chosen guest } := by
  have alive : (roster.submit guest job).isAlive guest (roster.chosen guest) = slot.isAlive := by
    rw [Roster.isAlive_congr (Roster.lastReset?_submit job), ← follows.nextSlot_eq,
      (follows.slot found).isAlive]
  have isState : ((pool.withSlot pool.nextSlot new).withCall state).call? roster.assignments.length
      = some state := by
    rw [call?_withCall, call?_withSlot, follows.absent (Nat.le_refl _)]
    simp [withSlot, follows.nextCall]
  constructor
  · intro outcome answered
    rw [isState, told]
    cases gone : slot.isAlive with
    | true => simp [Roster.answer, alive, gone] at answered
    | false =>
      simp only [Roster.answer, alive, gone, Option.isSome_none, Bool.false_eq_true, if_false,
        Option.some.injEq] at answered
      simp [← answered, unavailable, Roster.unavailable, follows.label, follows.nextSlot_eq,
        Roster.submit]
  · intro unanswered _
    rw [isState, told]
    cases gone : slot.isAlive with
    | true => simp [follows.nextSlot_eq]
    | false => simp [Roster.answer, alive, gone] at unanswered
  · intro work _ isRunning
    cases isRunning

/-- A pool that takes a job follows its roster when the slot shows that the job waits there, or that
its worker is gone. -/
theorem submitted (follows : pool.Follows guest roster)
    (found : pool.slots[pool.nextSlot]? = some slot) (job : Job) {state : CallState}
    (shows : new.Shows guest (roster.submit guest job) pool.nextSlot)
    (kept : new.running = slot.running)
    (told : state = if slot.isAlive then .queued pool.nextSlot
      else .answered (.error (pool.unavailable pool.nextSlot))) :
    ((pool.withSlot pool.nextSlot new).withCall state).Follows guest
      (roster.submit guest job) where
  label := follows.label
  timeout := follows.timeout
  shared := follows.shared
  nextCall := by simp [withCall, withSlot, Roster.submit, follows.nextCall]
  size := by simp [withCall, withSlot, Roster.submit, follows.size]
  slot := by
    intro other present
    refine follows.slot_withSlot (fun other different => ?_) shows
    exact Roster.agreesAt_submit job (follows.nextSlot_eq ▸ Ne.symm different)
  call := by
    intro call assignment present
    rw [Roster.lookup_submit] at present
    split at present
    · rename_i isNew
      cases present
      subst isNew
      exact follows.showsCall_submitted found job told
    · obtain ⟨inside, _⟩ := List.getElem?_eq_some_iff.mp present
      refine (follows.call present).congr ?_
        (Roster.answer_congr rfl rfl (Roster.isAlive_congr (Roster.lastReset?_submit job))) ?_
      · rw [call?_withCall, call?_withSlot, if_neg]
        · exact Option.or_none
        · rw [withSlot, follows.nextCall]
          exact Nat.ne_of_lt inside
      · intro running isRunning same
        exact running?_withSlot found (fun running isRunning _ => kept ▸ isRunning) isRunning same
  absent := by
    intro call outside
    rw [Roster.submit, List.length_append, List.length_singleton] at outside
    rw [call?_withCall, call?_withSlot, follows.absent (Nat.le_of_succ_le outside), if_neg]
    · rfl
    · rw [withSlot, follows.nextCall]
      exact Nat.ne_of_gt outside

/-- A job that a live worker takes is put on the roster. -/
theorem accepted (follows : pool.Follows guest roster)
    (found : pool.slots[pool.nextSlot]? = some slot) (isAlive : slot.isAlive = true) (job : Job) :
    ((pool.withSlot pool.nextSlot (slot.enqueued pool.nextCall job)).withCall
      (.queued pool.nextSlot)).Follows guest (roster.submit guest job) := by
  have shows := follows.slot found
  refine follows.submitted found job ?_ rfl (by rw [if_pos isAlive])
  have same : lastReset? guest pool.nextSlot (roster.submit guest job).assignments
      = lastReset? guest pool.nextSlot roster.assignments := Roster.lastReset?_submit job
  have earlier : ∀ {call : Nat}, call ∈ slot.outstanding →
      (roster.submit guest job).assignments[call]? = roster.assignments[call]? := by
    intro call mem
    rw [Roster.lookup_submit, if_neg]
    exact Nat.ne_of_lt (Roster.outstanding_lt (shows.mem_outstanding mem).2)
  constructor
  case memory => rw [Roster.memory?_congr same rfl]; exact shows.memory
  case isAlive => rw [Roster.isAlive_congr same]; exact shows.isAlive
  case outstanding =>
    rw [Slot.outstanding_enqueued, Roster.outstanding_submit, shows.outstanding_of_isAlive isAlive,
      follows.nextCall, if_pos follows.nextSlot_eq.symm]
    simp [Slot.enqueued, isAlive]
  case pending =>
    rw [Slot.outstanding_enqueued]
    simp [Slot.enqueued, isAlive, shows.pending_of_isAlive isAlive]
  case queued =>
    intro queued mem
    rcases List.mem_append.mp mem with old | isNew
    · rw [earlier (Slot.mem_outstanding_of_queued old)]
      exact shows.queued queued old
    · cases List.mem_singleton.mp isNew
      refine ⟨{ job, slot := roster.chosen guest }, ?_, rfl, rfl, rfl⟩
      rw [Roster.lookup_submit, if_pos follows.nextCall]
  case running =>
    intro running isRunning
    obtain ⟨assignment, work, isAt⟩ := shows.running running isRunning
    refine ⟨assignment, work, ?_, isAt.progress, isAt.activity, isAt.ticket, isAt.raised⟩
    rw [earlier (Slot.mem_outstanding_of_running isRunning)]
    exact isAt.found
  case tickets =>
    have sorted := shows.tickets
    have grown : (slot.enqueued pool.nextCall job).tickets
        = slot.tickets ++ [slot.nextTicket + 1] := by
      simp [Slot.tickets, Slot.enqueued]
    rw [grown, ← List.cons_append, List.pairwise_append]
    refine ⟨sorted, List.pairwise_singleton .., ?_⟩
    intro ticket mem next isNext
    cases List.mem_singleton.mp isNext
    exact Nat.lt_succ_of_le (Slot.le_nextTicket shows.tickets mem)
  case uncancelled =>
    intro ticket mem
    simp only [Slot.enqueued, List.map_append, List.map_cons, List.map_nil] at mem
    rcases List.mem_append.mp mem with old | isNext
    · exact shows.uncancelled ticket old
    · cases List.mem_singleton.mp isNext
      exact Nat.lt_succ_of_lt (shows.uncancelled _ (by simp))

/-- A job that finds its worker dead is put on the roster and answered. -/
theorem refused (follows : pool.Follows guest roster)
    (found : pool.slots[pool.nextSlot]? = some slot) (isDead : slot.isAlive = false) (job : Job) :
    ((pool.withSlot pool.nextSlot { slot with nextTicket := slot.nextTicket + 1 }).withCall
      (.answered (.error (pool.unavailable pool.nextSlot)))).Follows guest
        (roster.submit guest job) := by
  have shows := follows.slot found
  refine follows.submitted found job ?_ rfl (by simp [isDead])
  have same : lastReset? guest pool.nextSlot (roster.submit guest job).assignments
      = lastReset? guest pool.nextSlot roster.assignments := Roster.lastReset?_submit job
  have nothing : slot.outstanding = [] := by simp [shows.outstanding, isDead]
  obtain ⟨isFree, isEmpty⟩ : slot.running = none ∧ slot.queue = [] := by
    simpa [Slot.outstanding] using nothing
  constructor
  case memory => rw [Roster.memory?_congr same rfl]; exact shows.memory
  case isAlive => rw [Roster.isAlive_congr same]; exact shows.isAlive
  case outstanding => simp [isDead, Slot.outstanding, isFree, isEmpty]
  case pending => simpa [isDead] using shows.pending_of_dead isDead
  case queued => simp [isEmpty]
  case running => simp [isFree]
  case tickets => simp [Slot.tickets, isFree, isEmpty]
  case uncancelled =>
    have below := shows.uncancelled slot.nextTicket (by simp)
    simpa [isEmpty] using Nat.lt_succ_of_lt below

/-! ## What a worker does -/

/-- What all workers share may change on both sides alike. -/
theorem withShared (follows : pool.Follows guest roster) (shared : Shared) :
    Follows guest { pool with shared } { roster with shared } where
  label := follows.label
  timeout := follows.timeout
  shared := rfl
  nextCall := follows.nextCall
  size := follows.size
  slot present := (follows.slot present).of_agrees ⟨rfl, rfl, rfl, fun _ _ => rfl⟩
  call present := (follows.call present).congr rfl rfl fun _ isRunning _ => isRunning
  absent := follows.absent

/-- One job goes on, and nothing happens to those of other workers. -/
theorem amended (follows : pool.Follows guest roster)
    {assignment amended : Assignment Shared Memory}
    (entry : roster.assignments[call]? = some assignment)
    (sameSlot : amended.slot = assignment.slot)
    (shows : new.Shows guest (roster.amend call amended) assignment.slot)
    (label : next.label = pool.label) (timeout : next.timeout = pool.timeout)
    (shared : next.shared = pool.shared) (nextCall : next.nextCall = pool.nextCall)
    (slots : next.slots = (pool.withSlot assignment.slot new).slots)
    (absent : ∀ {other : Nat}, pool.call? other = none → next.call? other = none)
    (own : next.ShowsCall guest (roster.amend call amended) call amended)
    (others : ∀ {other : Nat} {entry : Assignment Shared Memory}, other ≠ call →
      roster.assignments[other]? = some entry →
      next.ShowsCall guest (roster.amend call amended) other entry) :
    next.Follows guest (roster.amend call amended) where
  label := label.trans follows.label
  timeout := timeout.trans follows.timeout
  shared := shared.trans follows.shared
  nextCall := by simp [Roster.amend, nextCall, follows.nextCall]
  size := by simp [Roster.amend, slots, withSlot, follows.size]
  slot := by
    intro other slot present
    rw [slots] at present
    exact follows.slot_withSlot
      (fun other different => Roster.agreesAt_amend entry sameSlot (Ne.symm different)) shows
      present
  call := by
    intro other found present
    rw [Roster.lookup_amend entry] at present
    split at present
    · rename_i same
      cases present
      exact same ▸ own
    · rename_i different
      exact others different present
  absent := by
    intro other outside
    rw [Roster.amend, List.length_set] at outside
    exact absent (follows.absent outside)

/-- The other calls of a slot do not notice when one of its jobs goes on. -/
theorem other_call (follows : pool.Follows guest roster)
    (found : pool.slots[index]? = some slot) {assignment amended : Assignment Shared Memory}
    {state : CallState} {other : Nat} (different : other ≠ call)
    (entry : roster.assignments[other]? = some assignment)
    (isAlive : (roster.amend call amended).isAlive guest assignment.slot
      = roster.isAlive guest assignment.slot)
    (kept : ∀ running, slot.running = some running → running.call ≠ call →
      new.running = some running) :
    ((pool.withSlot index new).setCall call state).ShowsCall guest (roster.amend call amended) other
      assignment := by
  refine (follows.call entry).congr ?_ (Roster.answer_congr rfl rfl isAlive) ?_
  · rw [call?_setCall, if_neg different]
    rfl
  · intro running isRunning same
    exact running?_withSlot found
      (fun running isRunning same => kept running isRunning (same ▸ different)) isRunning same

/-- The oldest queued job of a slot without a running one is the front of its worker. -/
theorem front_of_queued (follows : pool.Follows guest roster)
    (found : pool.slots[index]? = some slot) (isAlive : slot.isAlive = true) {next : Queued}
    {rest : List Queued} (isQueued : slot.queue = next :: rest) (isFree : slot.running = none) :
    ∃ assignment, roster.IsFront index next.call assignment ∧
      roster.front? index = some (next.call, assignment) ∧ assignment.job = next.job ∧
      assignment.progress = .waiting ∧ assignment.leftAt = none := by
  have shows := follows.slot found
  have isFirst : roster.outstanding index = next.call :: rest.map Queued.call := by
    rw [← shows.outstanding_of_isAlive isAlive]
    simp [Slot.outstanding, isFree, isQueued]
  obtain ⟨assignment, front, isFront⟩ := Roster.isFront_of_cons isFirst
  obtain ⟨other, present, job, waiting, stays⟩ := shows.queued next (isQueued ▸ List.mem_cons_self)
  rw [front.found] at present
  cases present
  exact ⟨assignment, front, isFront, job, waiting, stays⟩

/-- A job that its worker takes leaves no trace yet. -/
theorem lastReset?_taken {assignment : Assignment Shared Memory}
    (front : roster.IsFront index call assignment) (work : Work Shared Memory) (other : Nat) :
    lastReset? guest other (roster.amend call (assignment.taken work)).assignments
      = lastReset? guest other roster.assignments := by
  refine Roster.lastReset?_amend_all front.found ?_
  rw [Assignment.resetAt?_of_not_done front.notDone]
  exact Assignment.resetAt?_of_not_done rfl

/-- A slot whose worker took its first job shows that job running. -/
theorem shows_begun (follows : pool.Follows guest roster)
    (found : pool.slots[index]? = some slot) {next : Queued} {rest : List Queued}
    (isQueued : slot.queue = next :: rest) (isFree : slot.running = none)
    {assignment : Assignment Shared Memory} (front : roster.IsFront index next.call assignment)
    (stays : assignment.leftAt = none) {work : Work Shared Memory} {running : Running Memory}
    (call : running.call = next.call) (ticket : running.ticket = next.ticket)
    (activity : running.activity = assignment.activity guest work) :
    (slot.begun rest running).Shows guest (roster.amend next.call (assignment.taken work))
      index := by
  have shows := follows.slot found
  have undone : lastReset? guest index (roster.amend next.call (assignment.taken work)).assignments
      = lastReset? guest index roster.assignments := lastReset?_taken front work index
  have outstanding := Slot.outstanding_begun isQueued isFree running call
  constructor
  case memory => rw [Roster.memory?_congr undone rfl]; exact shows.memory
  case isAlive => rw [Roster.isAlive_congr undone]; exact shows.isAlive
  case outstanding =>
    rw [outstanding, Roster.outstanding_amend front.found]
    · exact shows.outstanding
    · rfl
    · exact front.notDone.symm
  case pending => rw [outstanding]; exact shows.pending
  case queued =>
    intro queued mem
    have sorted := shows.outstanding_sorted
    simp only [Slot.outstanding, isFree, isQueued, Option.map_none, Option.toList_none,
      List.nil_append, List.map_cons] at sorted
    have later := List.rel_of_pairwise_cons sorted (List.mem_map_of_mem mem)
    rw [Roster.lookup_amend front.found, if_neg (Nat.ne_of_gt later)]
    exact shows.queued queued (isQueued ▸ List.mem_cons_of_mem _ mem)
  case running =>
    intro other isOther
    cases isOther
    refine ⟨assignment.taken work, work, ?_, rfl, activity, rfl, ?_⟩
    · rw [call, Roster.lookup_amend front.found, if_pos rfl]
    · have uncancelled := shows.uncancelled next.ticket (by simp [isQueued])
      simp [Assignment.taken, stays, Slot.begun, Interrupt.begin, ticket, Nat.ne_of_lt uncancelled]
  case tickets =>
    have tickets := shows.tickets
    simpa [Slot.tickets, Slot.begun, isFree, isQueued, ticket] using tickets
  case uncancelled =>
    intro ticket mem
    refine shows.uncancelled ticket ?_
    rw [isQueued, List.map_cons, List.cons_append]
    exact List.mem_cons_of_mem _ mem

/-- A worker that takes its first job does so on the roster. -/
theorem started (follows : pool.Follows guest roster)
    (found : pool.slots[index]? = some slot) (isAlive : slot.isAlive = true) {next : Queued}
    {rest : List Queued} (isQueued : slot.queue = next :: rest) (isFree : slot.running = none)
    (now : Instant) :
    Follows guest
      { (pool.withSlot index (slot.begun rest ⟨next.call, next.ticket, now,
            (guest.execute pool.shared slot.memory next.job now).1⟩)).setCall
          next.call (.started index next.ticket now) with
        shared := (guest.execute pool.shared slot.memory next.job now).2 }
      (roster.start guest index now) := by
  have shows := follows.slot found
  obtain ⟨assignment, front, isFront, job, waiting, stays⟩ :=
    follows.front_of_queued found isAlive isQueued isFree
  have here := front.slot
  subst here
  have alive := shows.isAlive.trans isAlive
  rw [Roster.start_of_front shows.memory isFront waiting alive, ← job, ← follows.shared]
  refine withShared ?_ (guest.execute pool.shared slot.memory assignment.job now).2
  have waits : pool.call? next.call = some (.queued assignment.slot) := by
    refine (follows.call front.found).queued ?_ waiting
    rw [Roster.answer_of_waiting stays waiting, if_pos alive]
  generalize isRunning : Running.mk next.call next.ticket now
    (guest.execute pool.shared slot.memory assignment.job now).1 = running
  have call : running.call = next.call := by rw [← isRunning]
  have ticket : running.ticket = next.ticket := by rw [← isRunning]
  refine follows.amended front.found rfl
    (follows.shows_begun found isQueued isFree front stays call ticket ?_)
    rfl rfl rfl rfl rfl ?_ ?_ ?_
  · rw [← isRunning]
    rfl
  · intro other absent
    rw [call?_setCall, call?_withSlot, absent]
    split <;> rfl
  · refine ⟨?_, ?_, ?_⟩
    · intro outcome answered
      have unanswered : roster.answer guest (assignment.taken ⟨now, pool.shared, slot.memory⟩)
          = none := Roster.answer_of_running stays rfl
      exact absurd (unanswered.symm.trans answered) nofun
    · intro _ isWaiting
      cases isWaiting
    · intro work _ isTaken
      cases isTaken
      refine ⟨running, ?_, call, ?_⟩
      · exact congrArg (·.bind Slot.running) (withSlot_same found _)
      · rw [call?_setCall, if_pos rfl, call?_withSlot, waits, ticket]
        rfl
  · intro other entry different present
    refine follows.other_call found different present
      (Roster.isAlive_congr (lastReset?_taken front _ _)) ?_
    intro running isRunning
    rw [isFree] at isRunning
    cases isRunning

/-- The job that a slot runs is the front of its worker. -/
theorem front_of_running (follows : pool.Follows guest roster)
    (found : pool.slots[index]? = some slot) {running : Running Memory}
    (isRunning : slot.running = some running) :
    ∃ assignment work, roster.IsFront index running.call assignment ∧
      roster.front? index = some (running.call, assignment) ∧
      slot.IsAt guest roster running assignment work := by
  have shows := follows.slot found
  have isAlive := (shows.mem_outstanding (Slot.mem_outstanding_of_running isRunning)).1
  have isFirst : roster.outstanding index = running.call :: slot.queue.map Queued.call := by
    rw [← shows.outstanding_of_isAlive isAlive]
    exact Slot.outstanding_of_running isRunning
  obtain ⟨assignment, front, isFront⟩ := Roster.isFront_of_cons isFirst
  obtain ⟨other, work, isAt⟩ := shows.running running isRunning
  have same := isAt.found
  rw [front.found] at same
  cases same
  exact ⟨assignment, work, front, isFront, isAt⟩

/-- The reset after the job that is done now is the last one. -/
theorem lastReset?_done (orderly : roster.IsOrderly guest) {assignment : Assignment Shared Memory}
    (front : roster.IsFront index call assignment) (work : Work Shared Memory) (now : Instant) :
    lastReset? guest index
        (roster.amend call (assignment.ended work now)).assignments
      = some (assignment.cleared guest work) := by
  obtain ⟨inside, _⟩ := List.getElem?_eq_some_iff.mp front.found
  refine lastReset?_set inside ?_ fun later entry after present same => ?_
  · exact if_pos front.slot
  · have waiting := orderly.later_waiting front.found front.notDone after present
      (same.trans front.slot.symm)
    simp [Assignment.isDone, waiting]

/-- A job that is done is no longer outstanding, and those behind it are. -/
theorem outstanding_done (follows : pool.Follows guest roster)
    (found : pool.slots[index]? = some slot) {running : Running Memory}
    (isRunning : slot.running = some running) {assignment amended : Assignment Shared Memory}
    (front : roster.IsFront index running.call assignment) (isDone : amended.isDone = true) :
    (roster.amend running.call amended).outstanding index = slot.queue.map Queued.call := by
  have shows := follows.slot found
  have isAlive := (shows.mem_outstanding (Slot.mem_outstanding_of_running isRunning)).1
  rw [Roster.outstanding_amend_done front.found isDone, ← shows.outstanding_of_isAlive isAlive,
    Slot.outstanding_of_running isRunning, List.filter_cons_of_neg (by simp), List.filter_eq_self]
  intro other mem
  obtain ⟨queued, isQueued, rfl⟩ := List.mem_map.mp mem
  simpa using Nat.ne_of_gt (shows.lt_of_queued isRunning isQueued)

/-- A slot whose worker survived the end of its job. -/
theorem shows_relieved (follows : pool.Follows guest roster) (orderly : roster.IsOrderly guest)
    (found : pool.slots[index]? = some slot) (isAlive : slot.isAlive = true)
    {running : Running Memory} (isRunning : slot.running = some running)
    {assignment : Assignment Shared Memory} {work : Work Shared Memory}
    (front : roster.IsFront index running.call assignment)
    (survives : (assignment.cleared guest work).1 ≠ .panicked) (now : Instant) :
    (slot.relieved (assignment.cleared guest work).2).Shows guest
      (roster.amend running.call (assignment.ended work now)) index := by
  have shows := follows.slot found
  have last := lastReset?_done orderly front work now
  have fewer : (roster.amend running.call (assignment.ended work now)).outstanding index
        = slot.queue.map Queued.call := follows.outstanding_done found isRunning front rfl
  constructor
  case memory =>
    obtain ⟨built, isBuilt, -⟩ := Roster.memory?_eq_some shows.memory
    exact Roster.memory?_of_lastReset last isBuilt
  case isAlive =>
    rw [Roster.isAlive_of_lastReset last, decide_eq_true survives]
    exact isAlive.symm
  case outstanding => rw [Slot.outstanding_relieved, fewer]; simp [Slot.relieved, isAlive]
  case pending =>
    have pending := shows.pending_of_isAlive isAlive
    rw [Slot.outstanding_of_running isRunning] at pending
    rw [Slot.outstanding_relieved]
    simp [Slot.relieved, isAlive, pending]
  case queued =>
    intro queued mem
    have later := shows.lt_of_queued isRunning mem
    rw [Roster.lookup_amend front.found, if_neg (Nat.ne_of_gt later)]
    exact shows.queued queued mem
  case running => simp [Slot.relieved]
  case tickets =>
    have tickets := shows.tickets
    simp only [Slot.tickets, isRunning, Option.map_some, Option.toList_some,
      List.cons_append, List.nil_append] at tickets
    exact tickets.sublist (.cons_cons _ (List.sublist_cons_self ..))
  case uncancelled => exact shows.uncancelled

/-- A slot whose worker died at the end of its job. -/
theorem shows_deserted (follows : pool.Follows guest roster) (orderly : roster.IsOrderly guest)
    (found : pool.slots[index]? = some slot) (isAlive : slot.isAlive = true)
    {running : Running Memory} (isRunning : slot.running = some running)
    {assignment : Assignment Shared Memory} {work : Work Shared Memory}
    (front : roster.IsFront index running.call assignment)
    (dies : (assignment.cleared guest work).1 = .panicked) (now : Instant) :
    (slot.deserted (assignment.cleared guest work).2).Shows guest
      (roster.amend running.call (assignment.ended work now)) index := by
  have shows := follows.slot found
  have last := lastReset?_done orderly front work now
  constructor
  case memory =>
    obtain ⟨built, isBuilt, -⟩ := Roster.memory?_eq_some shows.memory
    exact Roster.memory?_of_lastReset last isBuilt
  case isAlive =>
    rw [Roster.isAlive_of_lastReset last, dies]
    rfl
  case outstanding => rfl
  case pending =>
    have pending := shows.pending_of_isAlive isAlive
    rw [Slot.outstanding_of_running isRunning] at pending
    simp [Slot.deserted, pending]
  case queued => simp [Slot.deserted]
  case running => simp [Slot.deserted]
  case tickets =>
    have positive := Slot.lt_nextTicket shows.tickets
    simpa [Slot.tickets, Slot.deserted] using positive
  case uncancelled =>
    have below := shows.uncancelled slot.nextTicket (by simp)
    simpa [Slot.deserted, Interrupt.finish] using below

/-- Whoever waits for the job that a slot runs is told how it ended; whoever left was told that. -/
theorem told_done (follows : pool.Follows guest roster) {assignment : Assignment Shared Memory}
    {work : Work Shared Memory} (entry : roster.assignments[call]? = some assignment)
    (progress : assignment.progress = .running work) {now : Instant}
    {outcome told : Except ScriptError String}
    (answered : after.answer guest (assignment.ended work now) = some outcome)
    (timeout : after.timeout = roster.timeout)
    (isTold : told = if (assignment.cleared guest work).1 = .panicked then
        .error (after.unavailable assignment.slot)
      else Execution.answer (assignment.ending guest work).1) :
    (pool.call? call = some (.answered outcome)) ∨
      outcome = told ∧ ∃ ticket startedAt,
        pool.call? call = some (.started assignment.slot ticket startedAt) := by
  have shown := follows.call entry
  cases left : assignment.leftAt with
  | none =>
    obtain ⟨running, _, _, started⟩ :=
      shown.started (Roster.answer_of_running left progress) progress
    refine .inr ⟨?_, running.ticket, work.startedAt, started⟩
    rw [isTold]
    exact Option.some.inj (answered.symm.trans (Roster.answer_of_done left rfl))
  | some leftAt =>
    refine .inl (shown.answered ?_)
    have same : after.answer guest (assignment.ended work now)
        = some (.error (.timeout after.timeout)) := Roster.answer_of_left left
    rw [Roster.answer_of_left left, ← timeout, ← same, answered]

/-- A worker that finishes its job and survives the reset does so on the roster. -/
theorem finished (follows : pool.Follows guest roster) (orderly : roster.IsOrderly guest)
    (found : pool.slots[index]? = some slot) (isAlive : slot.isAlive = true)
    {running : Running Memory} (isRunning : slot.running = some running)
    (survives : (guest.reset (slot.ending running).2).1 ≠ .panicked) (now : Instant) :
    ((pool.withSlot index (slot.relieved (guest.reset (slot.ending running).2).2)).setCall
      running.call (.answered (Execution.answer (slot.ending running).1))).Follows guest
        (roster.finish index now) := by
  have shows := follows.slot found
  obtain ⟨assignment, work, front, isFront, isAt⟩ := follows.front_of_running found isRunning
  rw [Roster.finish_of_front isFront isAt.progress]
  rw [shows.ending isRunning isAt] at survives ⊢
  have here := front.slot
  subst here
  have shows := follows.shows_relieved orderly found isAlive isRunning front survives now
  refine follows.amended front.found rfl shows rfl rfl rfl rfl rfl ?_ ?_ ?_
  · intro other absent
    rw [call?_setCall, call?_withSlot, absent]
    split <;> rfl
  · refine ⟨?_, ?_, ?_⟩
    · intro outcome answered
      rw [call?_setCall, if_pos rfl, call?_withSlot]
      rcases follows.told_done front.found isAt.progress answered rfl (if_neg survives).symm with
        already | ⟨rfl, ticket, startedAt, started⟩
      · rw [already]
        rfl
      · rw [started]
        rfl
    · intro _ isWaiting
      cases isWaiting
    · intro _ _ isRunning
      cases isRunning
  · intro other entry different present
    refine follows.other_call found different present ?_ ?_
    · by_cases here : assignment.slot = entry.slot
      · rw [← here, shows.isAlive, (follows.slot found).isAlive]
        rfl
      · have agrees : roster.AgreesAt guest
            (roster.amend running.call (assignment.ended work now)) entry.slot :=
          Roster.agreesAt_amend front.found rfl here
        exact agrees.isAlive
    · intro other isOther different
      rw [isRunning] at isOther
      cases isOther
      exact absurd rfl different

/-- The calls of the other slots do not notice when a worker dies. -/
theorem call_elsewhere (follows : pool.Follows guest roster) {assignment : Assignment Shared Memory}
    (entry : roster.assignments[call]? = some assignment) (elsewhere : assignment.slot ≠ index)
    (answer : after.answer guest assignment = roster.answer guest assignment) :
    ((pool.withSlot index new).abandon index).ShowsCall guest after call assignment := by
  have shown := follows.call entry
  refine shown.congr ?_ answer ?_
  · rw [call?_abandon, call?_withSlot]
    cases told : roster.answer guest assignment with
    | some outcome =>
      rw [shown.answered told]
      rfl
    | none =>
      obtain ⟨-, ⟨waiting, -⟩ | ⟨work, isRunning⟩⟩ := Roster.waits_of_untold told
      · simp [shown.queued told waiting, CallState.abandoned, elsewhere]
      · obtain ⟨_, _, _, started⟩ := shown.started told isRunning
        simp [started, CallState.abandoned, elsewhere]
  · intro running isRunning _
    have same : (pool.withSlot index new).running? assignment.slot
        = pool.running? assignment.slot := by
      rw [running?, withSlot_of_ne pool (Ne.symm elsewhere)]
      rfl
    exact same.trans isRunning

/-- When a worker dies, the calls that still waited for it are told so. -/
theorem call_of_dead (follows : pool.Follows guest roster)
    (found : pool.slots[index]? = some slot) (isAlive : slot.isAlive = true)
    {assignment : Assignment Shared Memory} (entry : roster.assignments[call]? = some assignment)
    (here : assignment.slot = index)
    (notRunning : ∀ running, slot.running = some running → running.call ≠ call)
    (timeout : after.timeout = roster.timeout) (label : after.label = roster.label)
    (isDead : after.isAlive guest index = false) :
    ((pool.withSlot index new).abandon index).ShowsCall guest after call assignment := by
  have shown := follows.call entry
  subst here
  have alive := (follows.slot found).isAlive.trans isAlive
  have gone : after.unavailable assignment.slot = pool.unavailable assignment.slot := by
    simp [unavailable, Roster.unavailable, follows.label, label]
  refine .of_answered ?_
  rw [call?_abandon, call?_withSlot]
  cases left : assignment.leftAt with
  | some leftAt =>
    refine ⟨_, Roster.answer_of_left left, ?_⟩
    rw [shown.answered (Roster.answer_of_left left), timeout]
    rfl
  | none =>
    cases progress : assignment.progress with
    | waiting =>
      have untold : roster.answer guest assignment = none := by
        rw [Roster.answer_of_waiting left progress, if_pos alive]
      refine ⟨_, by rw [Roster.answer_of_waiting left progress, isDead]; rfl, ?_⟩
      rw [shown.queued untold progress, gone, Option.map_some, CallState.abandoned, if_pos rfl]
      rfl
    | running work =>
      obtain ⟨running, isRunning, same, _⟩ :=
        shown.started (Roster.answer_of_running left progress) progress
      rw [running?, found] at isRunning
      exact absurd same (notRunning running isRunning)
    | done work endedAt =>
      refine ⟨_, Roster.answer_of_done left progress, ?_⟩
      rw [shown.answered (Roster.answer_of_done left progress), Roster.unavailable,
        Roster.unavailable, label]
      rfl

/-- A worker that dies in the reset does so on the roster. -/
theorem died (follows : pool.Follows guest roster) (orderly : roster.IsOrderly guest)
    (found : pool.slots[index]? = some slot) (isAlive : slot.isAlive = true)
    {running : Running Memory} (isRunning : slot.running = some running)
    (dies : (guest.reset (slot.ending running).2).1 = .panicked) (now : Instant) :
    ((pool.withSlot index (slot.deserted (guest.reset (slot.ending running).2).2)).abandon
      index).Follows guest (roster.finish index now) := by
  have shows := follows.slot found
  obtain ⟨assignment, work, front, isFront, isAt⟩ := follows.front_of_running found isRunning
  rw [Roster.finish_of_front isFront isAt.progress]
  rw [shows.ending isRunning isAt] at dies ⊢
  have here := front.slot
  subst here
  have shows := follows.shows_deserted orderly found isAlive isRunning front dies now
  have gone : ∀ new, (pool.withSlot assignment.slot new).unavailable assignment.slot
      = roster.unavailable assignment.slot := by
    simp [unavailable, Roster.unavailable, withSlot, follows.label]
  refine follows.amended front.found rfl shows rfl rfl rfl rfl rfl ?_ ?_ ?_
  · intro other absent
    rw [call?_abandon, call?_withSlot, absent]
    rfl
  · refine ⟨?_, ?_, ?_⟩
    · intro outcome answered
      rw [call?_abandon, call?_withSlot]
      rcases follows.told_done front.found isAt.progress answered rfl (if_pos dies).symm with
        already | ⟨rfl, ticket, startedAt, started⟩
      · rw [already]
        rfl
      · rw [started, gone, Option.map_some, CallState.abandoned, if_pos rfl]
        rfl
    · intro _ isWaiting
      cases isWaiting
    · intro _ _ isRunning
      cases isRunning
  · intro other entry different present
    by_cases here : entry.slot = assignment.slot
    · refine follows.call_of_dead found isAlive present here ?_ rfl rfl shows.isAlive
      intro other isOther same
      rw [isRunning] at isOther
      cases isOther
      exact different same.symm
    · have agrees : roster.AgreesAt guest
          (roster.amend running.call (assignment.ended work now)) entry.slot :=
        Roster.agreesAt_amend front.found rfl (Ne.symm here)
      exact follows.call_elsewhere present here (Roster.answer_congr rfl rfl agrees.isAlive)

/-! ## What a caller does -/

/-- A call that is told of a start waits for the job that its slot runs. -/
theorem running_of_started (follows : pool.Follows guest roster) {ticket : Nat}
    {startedAt : Instant} (isStarted : pool.call? call = some (.started index ticket startedAt)) :
    ∃ assignment work slot running, roster.assignments[call]? = some assignment ∧
      assignment.slot = index ∧ assignment.progress = .running work ∧ assignment.leftAt = none ∧
      work.startedAt = startedAt ∧ pool.slots[index]? = some slot ∧
      slot.running = some running ∧ running.call = call ∧ running.ticket = ticket := by
  obtain ⟨assignment, entry⟩ : ∃ assignment, roster.assignments[call]? = some assignment := by
    cases entry : roster.assignments[call]? with
    | some assignment => exact ⟨assignment, rfl⟩
    | none =>
      rw [follows.absent (List.getElem?_eq_none_iff.mp entry)] at isStarted
      cases isStarted
  have shown := follows.call entry
  have untold : roster.answer guest assignment = none := by
    cases told : roster.answer guest assignment with
    | none => rfl
    | some outcome => cases isStarted.symm.trans (shown.answered told)
  obtain ⟨stays, ⟨waiting, -⟩ | ⟨work, progress⟩⟩ := Roster.waits_of_untold untold
  · cases isStarted.symm.trans (shown.queued untold waiting)
  · obtain ⟨running, isRunning, same, started⟩ := shown.started untold progress
    cases isStarted.symm.trans started
    obtain ⟨slot, found, isRunning⟩ := Option.bind_eq_some_iff.mp isRunning
    exact ⟨assignment, work, slot, running, entry, rfl, progress, stays, rfl, found, isRunning,
      same, rfl⟩

/-- A job that is given up leaves no trace yet. -/
theorem lastReset?_givenUp {assignment : Assignment Shared Memory} {work : Work Shared Memory}
    (entry : roster.assignments[call]? = some assignment)
    (progress : assignment.progress = .running work) (now : Instant) (other : Nat) :
    lastReset? guest other (roster.amend call (assignment.givenUp now)).assignments
      = lastReset? guest other roster.assignments := by
  have notDone : assignment.isDone = false := by simp [Assignment.isDone, progress]
  refine Roster.lastReset?_amend_all entry ?_
  rw [Assignment.resetAt?_of_not_done notDone]
  exact Assignment.resetAt?_of_not_done notDone

/-- A slot whose running job was given up. -/
theorem shows_hurried (follows : pool.Follows guest roster)
    (found : pool.slots[index]? = some slot) {running : Running Memory}
    (isRunning : slot.running = some running) {assignment : Assignment Shared Memory}
    {work : Work Shared Memory} (entry : roster.assignments[running.call]? = some assignment)
    (progress : assignment.progress = .running work) (now : Instant) :
    (slot.hurried running.ticket).Shows guest
      (roster.amend running.call (assignment.givenUp now)) index := by
  have shows := follows.slot found
  have same : lastReset? guest index
        (roster.amend running.call (assignment.givenUp now)).assignments
      = lastReset? guest index roster.assignments := lastReset?_givenUp entry progress now index
  have isAlive := (shows.mem_outstanding (Slot.mem_outstanding_of_running isRunning)).1
  constructor
  case memory => rw [Roster.memory?_congr same rfl]; exact shows.memory
  case isAlive => rw [Roster.isAlive_congr same]; exact shows.isAlive
  case outstanding =>
    rw [Roster.outstanding_amend entry]
    · exact shows.outstanding
    · rfl
    · rfl
  case pending => exact shows.pending
  case queued =>
    intro queued mem
    have later := shows.lt_of_queued isRunning mem
    rw [Roster.lookup_amend entry, if_neg (Nat.ne_of_gt later)]
    exact shows.queued queued mem
  case running =>
    intro other isOther
    cases isRunning.symm.trans isOther
    obtain ⟨present, work, isAt⟩ := shows.running running isRunning
    cases entry.symm.trans isAt.found
    refine ⟨assignment.givenUp now, work, ?_, isAt.progress, ?_, isAt.ticket, ?_⟩
    · rw [Roster.lookup_amend entry, if_pos rfl]
    · exact isAt.activity
    · simp [Slot.hurried, Interrupt.raise, Assignment.givenUp]
  case tickets => exact shows.tickets
  case uncancelled =>
    intro ticket mem
    have sorted := shows.tickets.of_cons
    rw [Slot.tickets, isRunning, Option.map_some, Option.toList_some, List.append_assoc,
      List.singleton_append] at sorted
    exact List.rel_of_pairwise_cons sorted mem

/-- A caller that gives its job up does so on the roster. -/
theorem expired (follows : pool.Follows guest roster) {ticket : Nat} {startedAt now : Instant}
    (isStarted : pool.call? call = some (.started index ticket startedAt))
    (late : startedAt + pool.timeout ≤ now) :
    ((pool.modifySlot index fun slot => slot.hurried ticket).setCall call
      (.answered (.error (.timeout pool.timeout)))).Follows guest (roster.expire call now) := by
  obtain ⟨assignment, work, slot, running, entry, rfl, progress, stays, rfl, found, isRunning,
    rfl, rfl⟩ := follows.running_of_started isStarted
  rw [Roster.expire_of_running entry progress stays (follows.timeout ▸ late), modifySlot_eq found]
  refine follows.amended entry rfl (follows.shows_hurried found isRunning entry progress now)
    rfl rfl rfl rfl rfl ?_ ?_ ?_
  · intro other absent
    rw [call?_setCall, call?_withSlot, absent]
    split <;> rfl
  · refine .of_answered ⟨_, Roster.answer_of_left rfl, ?_⟩
    rw [call?_setCall, if_pos rfl, call?_withSlot, isStarted, follows.timeout]
    rfl
  · intro other present different isPresent
    exact follows.other_call found different isPresent
      (Roster.isAlive_congr (lastReset?_givenUp entry progress _ _))
      fun _ isRunning _ => isRunning

/-! ## Events -/

/-- What finds nothing to do in the pool finds nothing to do in its roster. -/
theorem start_of_idle (follows : pool.Follows guest roster) {now : Instant}
    (idle : pool.IsIdleFor ⟨now, .start index⟩) : roster.start guest index now = roster := by
  apply Roster.start_of_idle
  cases found : pool.slots[index]? with
  | none =>
    refine .inl ?_
    have outside := List.getElem?_eq_none_iff.mp found
    rw [follows.size] at outside
    simp [Roster.memory?, List.getElem?_eq_none outside]
  | some slot =>
    refine .inr ?_
    have shows := follows.slot found
    cases alive : slot.isAlive with
    | false => exact .inl (shows.isAlive.trans alive)
    | true =>
      refine .inr fun call assignment isFront waiting => ?_
      cases isRunning : slot.running with
      | some running =>
        obtain ⟨other, work, front, isOther, isAt⟩ := follows.front_of_running found isRunning
        cases isOther.symm.trans isFront
        cases waiting.symm.trans isAt.progress
      | none =>
        have isEmpty : slot.queue = [] := by
          rcases idle slot found with isDead | isEmpty | isBusy
          · rw [alive] at isDead
            cases isDead
          · exact isEmpty
          · rw [isRunning] at isBusy
            cases isBusy
        have nothing : roster.outstanding index = [] := by
          rw [← shows.outstanding_of_isAlive alive]
          simp [Slot.outstanding, isRunning, isEmpty]
        simp [Roster.front?, nothing] at isFront

/-- A worker that is at a job exists and lives. -/
theorem isAlive_of_running (follows : pool.Follows guest roster) (orderly : roster.IsOrderly guest)
    {assignment : Assignment Shared Memory} {work : Work Shared Memory}
    (front : roster.IsFront assignment.slot call assignment)
    (progress : assignment.progress = .running work) :
    ∃ slot, pool.slots[assignment.slot]? = some slot ∧ slot.isAlive = true := by
  have taken : assignment.work? = some work := by simp [Assignment.work?, progress]
  obtain ⟨built, isBuilt, -⟩ := orderly.inherits front.found taken
  obtain ⟨inside, _⟩ := List.getElem?_eq_some_iff.mp isBuilt
  rw [← follows.size] at inside
  have found := List.getElem?_eq_getElem inside
  refine ⟨_, found, ?_⟩
  rw [← (follows.slot found).isAlive]
  have survives := orderly.survives front.found taken
  rw [orderly.lastReset?_front front] at survives
  unfold Roster.isAlive
  split
  · rename_i memory panicked
    exact absurd panicked (survives memory)
  · rfl

/-- On the roster, too, nothing is finished where nothing runs. -/
theorem finish_of_idle (follows : pool.Follows guest roster) (orderly : roster.IsOrderly guest)
    {now : Instant} (idle : pool.IsIdleFor ⟨now, .finish index⟩) :
    roster.finish index now = roster := by
  refine Roster.finish_of_idle fun call assignment work isFront progress => ?_
  have front := Roster.isFront_of_front? isFront
  have here := front.slot
  subst here
  -- a worker that is at a job exists and lives
  obtain ⟨slot, found, isAlive⟩ := follows.isAlive_of_running orderly front progress
  have shows := follows.slot found
  have isFree : slot.running = none := by
    rcases idle slot found with isDead | isFree
    · rw [isAlive] at isDead
      cases isDead
    · exact isFree
  have mem : call ∈ slot.outstanding := by
    rw [shows.outstanding_of_isAlive isAlive]
    exact Roster.mem_outstanding.mpr ⟨assignment, front.found, rfl, front.notDone⟩
  simp only [Slot.outstanding, isFree, Option.map_none, Option.toList_none, List.nil_append,
    List.mem_map] at mem
  obtain ⟨queued, mem, rfl⟩ := mem
  obtain ⟨other, entry, -, waiting, -⟩ := shows.queued queued mem
  cases entry.symm.trans front.found
  cases waiting.symm.trans progress

/-- On the roster, too, no call expires that is not late. -/
theorem expire_of_idle (follows : pool.Follows guest roster) {now : Instant}
    (idle : pool.IsIdleFor ⟨now, .expire call⟩) : roster.expire call now = roster := by
  refine Roster.expire_of_idle fun assignment work entry progress stays => ?_
  obtain ⟨running, _, _, started⟩ :=
    (follows.call entry).started (Roster.answer_of_running stays progress) progress
  exact follows.timeout ▸ idle _ _ _ started

/-- A pool and its roster stay in step. -/
theorem step (follows : pool.Follows guest roster) (orderly : roster.IsOrderly guest)
    (slots : pool.slots ≠ []) (event : Event) :
    (pool.step guest event).Follows guest (roster.step guest event) := by
  have change : Change guest pool event (pool.step guest event) := change_step slots event
  generalize pool.step guest event = after at change ⊢
  cases change with
  | accepted now job found isAlive => exact follows.accepted found isAlive job
  | refused now job found isDead => exact follows.refused found isDead job
  | started now found isAlive isQueued isFree =>
    exact follows.started found isAlive isQueued isFree now
  | finished now found isAlive isRunning survives =>
    exact follows.finished orderly found isAlive isRunning survives now
  | died now found isAlive isRunning dies =>
    exact follows.died orderly found isAlive isRunning dies now
  | expired now isStarted late => exact follows.expired isStarted late
  | unchanged idle =>
    obtain ⟨now, action⟩ := event
    suffices same : roster.step guest ⟨now, action⟩ = roster by
      rw [same]
      exact follows
    cases action with
    | submit job => exact idle.elim
    | start index => exact follows.start_of_idle idle
    | finish index => exact follows.finish_of_idle orderly idle
    | expire call => exact follows.expire_of_idle idle

end Follows

end WorkerPool

end ConfigDelivery.Pool
