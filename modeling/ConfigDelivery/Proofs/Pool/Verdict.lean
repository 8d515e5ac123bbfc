import ConfigDelivery.Proofs.Pool.Reached
/-!
# What a caller has to be told

When callers wait for no longer than the time limit, the moments tell what each of them is told: of
a worker that died before it took the job or at its reset in time, nothing but that; of a job that
was done in time, how it ended; and of any other, that time is up. Waiting for the slot takes no
time from a job.
-/

namespace ConfigDelivery.Pool

open ConfigDelivery.Script (ScriptError)

variable {Shared Memory : Type} {guest : Guest Shared Memory}

/-- When the last of some events happened. -/
def moment (now : Instant) : List Event → Instant
  | [] => now
  | event :: rest => moment event.now rest

/-- The caller has not waited for its job for longer than the limit. -/
def CallState.isPatient (timeout : Duration) (now : Instant) : CallState → Bool
  | .started _ _ startedAt => now ≤ startedAt + timeout
  | _ => true

namespace WorkerPool

/-- Events come one after the other, and none comes to a pool later than a caller may have to wait
for its job: the caller leaves first. -/
def isPunctual (guest : Guest Shared Memory) (pool : WorkerPool Shared Memory) (now : Instant) :
    List Event → Bool
  | [] => true
  | event :: rest =>
    now ≤ event.now && pool.calls.all (fun entry => entry.2.isPatient pool.timeout event.now) &&
      isPunctual guest (pool.step guest event) event.now rest

end WorkerPool

/-- What the caller of a job has to be told by some moment, if anything. -/
inductive Verdict (guest : Guest Shared Memory) (roster : Roster Shared Memory) (now : Instant)
    (assignment : Assignment Shared Memory) : Option (Except ScriptError String) → Prop where
  | waits (waiting : assignment.progress = .waiting)
      (isAlive : roster.isAlive guest assignment.slot = true) :
      Verdict guest roster now assignment none
  | lost (waiting : assignment.progress = .waiting)
      (isDead : roster.isAlive guest assignment.slot = false) :
      Verdict guest roster now assignment (some (.error (roster.unavailable assignment.slot)))
  | runs (work : Work Shared Memory) (running : assignment.progress = .running work)
      (inTime : now ≤ work.startedAt + roster.timeout) :
      Verdict guest roster now assignment none
  | overdue (work : Work Shared Memory) (running : assignment.progress = .running work)
      (late : work.startedAt + roster.timeout ≤ now) :
      Verdict guest roster now assignment (some (.error (.timeout roster.timeout)))
  | died (work : Work Shared Memory) (endedAt : Instant)
      (done : assignment.progress = .done work endedAt)
      (inTime : endedAt ≤ work.startedAt + roster.timeout)
      (dies : (guest.reset ((assignment.activity guest work).outcome false).2).1 = .panicked) :
      Verdict guest roster now assignment (some (.error (roster.unavailable assignment.slot)))
  | ended (work : Work Shared Memory) (endedAt : Instant)
      (done : assignment.progress = .done work endedAt)
      (inTime : endedAt ≤ work.startedAt + roster.timeout)
      (survives : (guest.reset ((assignment.activity guest work).outcome false).2).1
        ≠ .panicked) :
      Verdict guest roster now assignment
        (some (Execution.answer ((assignment.activity guest work).outcome false).1))
  | endedLate (work : Work Shared Memory) (endedAt : Instant)
      (done : assignment.progress = .done work endedAt)
      (late : work.startedAt + roster.timeout ≤ endedAt) :
      Verdict guest roster now assignment (some (.error (.timeout roster.timeout)))

/-- The moments of a job: its caller waited no longer than the limit, and left no sooner. -/
def Assignment.IsTimely (assignment : Assignment Shared Memory) (timeout : Duration)
    (now : Instant) : Prop :=
  match assignment.progress, assignment.leftAt with
  | .waiting, _ => True
  | .running work, none => now ≤ work.startedAt + timeout
  | .running work, some _ => work.startedAt + timeout ≤ now
  | .done work endedAt, none => endedAt ≤ work.startedAt + timeout
  | .done work endedAt, some _ => work.startedAt + timeout ≤ endedAt

namespace Roster

variable {roster : Roster Shared Memory} {now : Instant}

/-- The moments of all jobs. -/
def IsTimely (roster : Roster Shared Memory) (now : Instant) : Prop :=
  ∀ (call : Nat) (assignment : Assignment Shared Memory),
    roster.assignments[call]? = some assignment → assignment.IsTimely roster.timeout now

/-- No event changes the timeout. -/
theorem timeout_step (guest : Guest Shared Memory) (roster : Roster Shared Memory)
    (event : Event) : (roster.step guest event).timeout = roster.timeout := by
  have change := roster.change_step guest event
  generalize roster.step guest event = after at change ⊢
  cases change <;> rfl

/-- A job that waits has a caller that waits. -/
theorem IsOrderly.stays (orderly : roster.IsOrderly guest) {call : Nat}
    {assignment : Assignment Shared Memory} (entry : roster.assignments[call]? = some assignment)
    (waiting : assignment.progress = .waiting) : assignment.leftAt = none := by
  cases left : assignment.leftAt with
  | none => rfl
  | some leftAt =>
    obtain ⟨work, taken, -⟩ := orderly.patient entry left
    rw [work?_of_waiting waiting] at taken
    cases taken

/-- Events that come in time keep a roster timely. -/
theorem IsTimely.step (timely : roster.IsTimely now) (orderly : roster.IsOrderly guest)
    (event : Event) (later : now ≤ event.now)
    (patient : ∀ (call : Nat) (assignment : Assignment Shared Memory) (work : Work Shared Memory),
      roster.assignments[call]? = some assignment → assignment.progress = .running work →
      assignment.leftAt = none → event.now ≤ work.startedAt + roster.timeout) :
    (roster.step guest event).IsTimely event.now := by
  intro call assignment found
  rw [timeout_step]
  rcases entry_of_step found with ⟨job, rfl⟩ | ⟨entry, present, change⟩
  · trivial
  have before := timely call entry present
  have waits := patient call entry
  cases change with
  | kept =>
    cases progress : assignment.progress <;> cases left : assignment.leftAt <;>
      simp only [Assignment.IsTimely, progress, left] at before ⊢
    case running.none work => exact waits work present progress left
    case running.some work leftAt => exact Nat.le_trans before later
    all_goals exact before
  | taken work isStart waiting startedAt =>
    have stays := orderly.stays present waiting
    simp only [Assignment.IsTimely, Assignment.taken, stays, startedAt]
    exact Nat.le_add_right ..
  | ended work isFinish running =>
    cases left : entry.leftAt <;>
      simp only [Assignment.IsTimely, Assignment.ended, running, left] at before ⊢
    case none => exact waits work present running left
    case some leftAt => exact Nat.le_trans before later
  | givenUp work isExpire running stays late =>
    simp only [Assignment.IsTimely, Assignment.givenUp, running]
    exact late

/-- What a caller was told is what the moments of its job say. -/
theorem verdict_of_isTimely (timely : roster.IsTimely now) (orderly : roster.IsOrderly guest)
    {call : Nat} {assignment : Assignment Shared Memory}
    (entry : roster.assignments[call]? = some assignment) :
    Verdict guest roster now assignment (roster.answer guest assignment) := by
  have moments := timely call assignment entry
  unfold Assignment.IsTimely at moments
  cases progress : assignment.progress with
  | waiting =>
    rw [answer_of_waiting (orderly.stays entry progress) progress]
    cases alive : roster.isAlive guest assignment.slot with
    | true => exact .waits progress alive
    | false => exact .lost progress alive
  | running work =>
    cases left : assignment.leftAt with
    | some leftAt =>
      rw [progress, left] at moments
      rw [answer_of_left left]
      exact .overdue work progress moments
    | none =>
      rw [progress, left] at moments
      rw [answer_of_running left progress]
      exact .runs work progress moments
  | done work endedAt =>
    cases left : assignment.leftAt with
    | some leftAt =>
      rw [progress, left] at moments
      rw [answer_of_left left]
      exact .endedLate work endedAt progress moments
    | none =>
      rw [progress, left] at moments
      rw [answer_of_done left progress, Assignment.cleared, Assignment.ending, left]
      split
      · rename_i dies
        exact .died work endedAt progress moments dies
      · rename_i survives
        exact .ended work endedAt progress moments survives

end Roster

namespace WorkerPool

variable {pool : WorkerPool Shared Memory} {jobs : Roster Shared Memory} {now : Instant}

/-- The state of a call is among those of all calls. -/
theorem mem_of_call? {call : Nat} {state : CallState} (present : pool.call? call = some state) :
    ∃ entry ∈ pool.calls, entry.2 = state := by
  obtain ⟨entry, found, same⟩ := Option.map_eq_some_iff.mp present
  exact ⟨entry, List.mem_of_find?_eq_some found, same⟩

/-- Where callers are punctual, none waits for a job past its time. -/
theorem IsReached.isTimely_after (reached : pool.IsReached guest jobs)
    (timely : jobs.IsTimely now) {events : List Event}
    (punctual : pool.isPunctual guest now events = true) :
    (jobs.after guest events).IsTimely (moment now events) := by
  induction events generalizing pool jobs now with
  | nil => exact timely
  | cons event rest ih =>
    simp only [isPunctual, Bool.and_eq_true, decide_eq_true_eq, List.all_eq_true] at punctual
    obtain ⟨⟨later, patient⟩, punctual⟩ := punctual
    refine ih (reached.step event) (timely.step reached.orderly event later ?_) punctual
    intro call assignment work entry running stays
    obtain ⟨_, _, _, started⟩ :=
      (reached.follows.call entry).started (Roster.answer_of_running stays running) running
    obtain ⟨present, mem, same⟩ := mem_of_call? started
    have waits := patient present mem
    rw [same, CallState.isPatient, decide_eq_true_eq, reached.follows.timeout] at waits
    exact waits

end WorkerPool

end ConfigDelivery.Pool
