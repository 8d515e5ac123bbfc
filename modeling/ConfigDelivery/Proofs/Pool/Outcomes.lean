import ConfigDelivery.Pool.Scripted
import ConfigDelivery.Proofs.Pool.Progress
import ConfigDelivery.Proofs.Pool.Verdict
import Mathlib.Data.List.Basic
/-!
# What callers are told

Every caller of a pool is told what became of its own job, and once. Jobs are taken in turn and each
finds what those before it left; whatever becomes of one, its caller alone hears of it, unless it
took the worker along.
-/

namespace ConfigDelivery.Pool

open ConfigDelivery.Script (ScriptError)

variable {Shared Memory : Type} {guest : Guest Shared Memory}

/-- The job that was submitted. -/
def Event.job? (event : Event) : Option Job :=
  match event.action with
  | .submit job => some job
  | _ => none

namespace WorkerPool

variable {pool : WorkerPool Shared Memory} {jobs : Roster Shared Memory} {call : Nat}
  {outcome : Except ScriptError String}

/-- What an event tells a call that was not answered. -/
inductive Tells (guest : Guest Shared Memory) (pool : WorkerPool Shared Memory) :
    Event → Nat → Except ScriptError String → Prop where
  | refused {slot : Slot Memory} (now : Instant) (job : Job)
      (found : pool.slots[pool.nextSlot]? = some slot) (isDead : slot.isAlive = false) :
      Tells guest pool ⟨now, .submit job⟩ pool.nextCall (.error (pool.unavailable pool.nextSlot))
  | finished {slot : Slot Memory} {index : Nat} {running : Running Memory} (now : Instant)
      (found : pool.slots[index]? = some slot) (isRunning : slot.running = some running)
      (survives : (guest.reset (slot.ending running).2).1 ≠ .panicked) :
      Tells guest pool ⟨now, .finish index⟩ running.call
        (Execution.answer (slot.ending running).1)
  | died {slot : Slot Memory} {index call : Nat} {running : Running Memory} (now : Instant)
      (found : pool.slots[index]? = some slot) (isRunning : slot.running = some running)
      (dies : (guest.reset (slot.ending running).2).1 = .panicked)
      (waits : pool.call? call = some (.queued index) ∨
        ∃ ticket startedAt, pool.call? call = some (.started index ticket startedAt)) :
      Tells guest pool ⟨now, .finish index⟩ call (.error (pool.unavailable index))
  | expired {call index ticket : Nat} {startedAt : Instant} (now : Instant)
      (isStarted : pool.call? call = some (.started index ticket startedAt))
      (late : startedAt + pool.timeout ≤ now) :
      Tells guest pool ⟨now, .expire call⟩ call (.error (.timeout pool.timeout))

/-- What becomes of the jobs that are submitted to a pool, and what their callers are told. -/
structure IsServed (guest : Guest Shared Memory) (pool : WorkerPool Shared Memory)
    (events : List Event) : Prop where
  /-- The calls are numbered as their jobs were submitted. -/
  jobs : (pool.roster.after guest events).assignments.map Assignment.job
    = events.filterMap Event.job?
  calls : (pool.after guest events).nextCall = (events.filterMap Event.job?).length
  /-- A worker takes its jobs in turn and finds what those before left. -/
  orderly : (pool.roster.after guest events).IsOrderly guest
  answers : ∀ call : Nat, (pool.after guest events).answer? call
    = (pool.roster.after guest events).answer? guest call
  /-- When callers wait no longer than the limit, the moments tell what they are told. -/
  verdict : ∀ start : Instant, pool.isPunctual guest start events = true →
    ∀ {call : Nat} {assignment : Assignment Shared Memory},
      (pool.roster.after guest events).assignments[call]? = some assignment →
        Verdict guest (pool.roster.after guest events) (moment start events) assignment
          ((pool.after guest events).answer? call)
  once : ∀ {call : Nat} {outcome : Except ScriptError String},
    (pool.after guest events).answer? call = some outcome → ∀ more : List Event,
      (pool.after guest (events ++ more)).answer? call = some outcome
  /-- No caller hears of the job of another one, except that it took the worker along. -/
  told : ∀ {call : Nat} {outcome : Except ScriptError String} (event : Event),
    (pool.after guest events).answer? call = none →
      ((pool.after guest events).step guest event).answer? call = some outcome →
        Tells guest (pool.after guest events) event call outcome
  /-- A caller is answered when its worker has gone on for as often as there are jobs, at the
  latest. -/
  answered : ∀ {call : Nat} {assignment : Assignment Shared Memory},
    (pool.roster.after guest events).assignments[call]? = some assignment →
      ∀ rounds : List (List Event), (∀ round ∈ rounds, IsRound assignment.slot round) →
        (∀ slot, (pool.after guest events).slots[assignment.slot]? = some slot →
          slot.outstanding.length ≤ rounds.length) →
        ∃ outcome, (pool.after guest (events ++ rounds.flatten)).answer? call = some outcome
  /-- A caller whose job was taken need not wait for longer than the limit, whatever the worker
  does. -/
  limited : ∀ {call index ticket : Nat} {startedAt now : Instant},
    (pool.after guest events).call? call = some (.started index ticket startedAt) →
      startedAt + (pool.after guest events).timeout ≤ now →
        ((pool.after guest events).step guest ⟨now, .expire call⟩).answer? call
          = some (.error (.timeout (pool.after guest events).timeout))

end WorkerPool

/-! ## Calls and jobs -/

namespace Roster

variable {roster : Roster Shared Memory}

/-- What becomes of a job leaves the jobs themselves as they are. -/
theorem map_job_amend {call : Nat} {assignment amended : Assignment Shared Memory}
    (entry : roster.assignments[call]? = some assignment) (same : amended.job = assignment.job) :
    (roster.amend call amended).assignments.map Assignment.job
      = roster.assignments.map Assignment.job := by
  apply List.ext_getElem?
  intro other
  rw [List.getElem?_map, List.getElem?_map, lookup_amend entry]
  split
  · rename_i here
    rw [here, entry, Option.map_some, Option.map_some, same]
  · rfl

/-- An event adds the job it submits, and no other. -/
theorem map_job_step (roster : Roster Shared Memory) (event : Event) :
    (roster.step guest event).assignments.map Assignment.job
      = roster.assignments.map Assignment.job ++ event.job?.toList := by
  have change := roster.change_step guest event
  cases isSubmit : event.job? with
  | some job =>
    obtain ⟨now, action⟩ := event
    cases action <;> cases isSubmit
    simp [step, submit]
  | none =>
    rw [Option.toList_none, List.append_nil]
    generalize roster.step guest event = after at change ⊢
    cases change with
    | submitted now job => cases isSubmit
    | started now front => exact map_job_amend front.found rfl
    | finished now front => exact map_job_amend front.found rfl
    | expired now entry => exact map_job_amend entry rfl
    | unchanged => rfl

/-- Events add the jobs they submit, in their order. -/
theorem map_job_after (roster : Roster Shared Memory) (events : List Event) :
    (roster.after guest events).assignments.map Assignment.job
      = roster.assignments.map Assignment.job ++ events.filterMap Event.job? := by
  induction events generalizing roster with
  | nil => exact (List.append_nil _).symm
  | cons event rest ih =>
    rw [after, List.foldl_cons, ← after, ih, map_job_step, List.append_assoc]
    cases isSubmit : event.job? <;> simp [isSubmit]

end Roster

namespace WorkerPool

variable {pool : WorkerPool Shared Memory} {jobs : Roster Shared Memory} {call : Nat}
  {outcome : Except ScriptError String}

/-! ## Answers -/

/-- A call that was not answered is told by the end of its wait, or by that of its job. -/
theorem told_of_setCall {other : Nat} {news : CallState}
    (untold : ∀ outcome, pool.call? call ≠ some (.answered outcome))
    (told : (pool.setCall other news).call? call = some (.answered outcome)) :
    call = other ∧ news = .answered outcome := by
  rw [call?_setCall] at told
  split at told
  · rename_i same
    obtain ⟨old, isOld, told⟩ := Option.map_eq_some_iff.mp told
    rcases CallState.told_eq_answered told with already | isNews
    · exact absurd (already ▸ isOld) (untold outcome)
    · exact ⟨same, isNews⟩
  · exact absurd told (untold outcome)

/-- Only the new call learns of its answer as it is made. -/
theorem told_of_withCall {state : CallState}
    (untold : ∀ outcome, pool.call? call ≠ some (.answered outcome))
    (told : (pool.withCall state).call? call = some (.answered outcome)) :
    call = pool.nextCall ∧ state = .answered outcome := by
  rw [call?_withCall] at told
  cases present : pool.call? call with
  | some old =>
    rw [present, Option.some_or] at told
    exact absurd (present.trans told) (untold outcome)
  | none =>
    rw [present, Option.none_or] at told
    split at told
    · rename_i same
      exact ⟨same, Option.some.inj told⟩
    · cases told

/-- A call that an event answers is told so by that event. -/
theorem Change.tells {event : Event} {after : WorkerPool Shared Memory}
    (change : Change guest pool event after) (untold : pool.answer? call = none)
    (told : after.answer? call = some outcome) : Tells guest pool event call outcome := by
  have untold : ∀ outcome, pool.call? call ≠ some (.answered outcome) := by
    intro outcome answered
    exact absurd (untold.symm.trans ((answer?_eq_some ..).mpr answered)) nofun
  rw [answer?_eq_some] at told
  cases change with
  | accepted now job found isAlive =>
    obtain ⟨-, same⟩ := told_of_withCall (untold ·) told
    cases same
  | refused now job found isDead =>
    obtain ⟨rfl, same⟩ := told_of_withCall (untold ·) told
    cases same
    exact .refused now job found isDead
  | started now found isAlive isQueued isFree =>
    obtain ⟨-, same⟩ := told_of_setCall (untold ·) told
    cases same
  | finished now found isAlive isRunning survives =>
    obtain ⟨rfl, same⟩ := told_of_setCall (untold ·) told
    cases same
    exact .finished now found isRunning survives
  | died now found isAlive isRunning dies =>
    rw [call?_abandon, call?_withSlot] at told
    obtain ⟨old, isOld, told⟩ := Option.map_eq_some_iff.mp told
    rcases CallState.abandoned_eq_answered told with already | ⟨same, waits⟩
    · exact absurd (already ▸ isOld) (untold outcome)
    · cases same
      refine .died now found isRunning dies ?_
      rcases waits with rfl | ⟨ticket, startedAt, rfl⟩
      · exact .inl isOld
      · exact .inr ⟨ticket, startedAt, isOld⟩
  | expired now isStarted late =>
    obtain ⟨rfl, same⟩ := told_of_setCall (untold ·) told
    cases same
    exact .expired now isStarted late
  | unchanged idle => exact absurd told (untold outcome)

/-- Who leaves is told that time is up. -/
theorem answer?_expire {index ticket : Nat} {startedAt now : Instant}
    (isStarted : pool.call? call = some (.started index ticket startedAt))
    (late : startedAt + pool.timeout ≤ now) :
    (pool.expire call now).answer? call = some (.error (.timeout pool.timeout)) := by
  have untouched : (pool.modifySlot index fun slot =>
      { slot with interrupt := slot.interrupt.raise ticket }).call? call
        = some (.started index ticket startedAt) := isStarted
  rw [answer?_eq_some, expire, isStarted]
  dsimp only
  rw [if_pos late, call?_setCall, if_pos rfl, untouched]
  rfl

/-- An answer stays. -/
theorem answered_after {outcome : Except ScriptError String} (slots : pool.slots ≠ [])
    (answered : pool.answer? call = some outcome) (events : List Event) :
    (pool.after guest events).answer? call = some outcome := by
  induction events generalizing pool with
  | nil => exact answered
  | cons event rest ih =>
    have change : Change guest pool event (pool.step guest event) := change_step slots event
    exact ih (step_slots_ne_nil slots event) (change.answered answered)

/-- Every caller of a pool is told what became of its own job, and once, whatever happens in
whatever order. -/
theorem isServed_of_new {label : String} {size : Nat} {timeout : Duration} {shared : Shared}
    {build : Nat → Startup Memory}
    (built : WorkerPool.new label size timeout shared build = .ok pool)
    (guest : Guest Shared Memory) (events : List Event) : pool.IsServed guest events := by
  have isNew := isNew_of_new built
  have reached : (pool.after guest events).IsReached guest (pool.roster.after guest events) :=
    isNew.isReached events
  have jobs : (pool.roster.after guest events).assignments.map Assignment.job
      = events.filterMap Event.job? := Roster.map_job_after pool.roster events
  constructor
  case jobs => exact jobs
  case calls => rw [reached.follows.nextCall, ← jobs, List.length_map]
  case orderly => exact reached.orderly
  case answers => exact reached.answer?_eq
  case verdict =>
    intro start punctual call assignment entry
    have begun : pool.IsReached guest pool.roster := isNew.isReached []
    have timely : pool.roster.IsTimely start := by
      intro call assignment present
      simp [roster] at present
    rw [reached.answer?_eq, Roster.answer?, entry]
    exact Roster.verdict_of_isTimely (begun.isTimely_after timely punctual) reached.orderly entry
  case once =>
    intro call outcome answered more
    rw [after_append]
    exact answered_after reached.slots answered more
  case told =>
    intro call outcome event untold told
    have change : Change guest (pool.after guest events) event
      ((pool.after guest events).step guest event) := change_step reached.slots event
    exact change.tells untold told
  case answered =>
    intro call assignment entry rounds isRound enough
    rw [after_append]
    exact reached.isAnswered_of_rounds entry isRound enough
  case limited =>
    intro call index ticket startedAt now isStarted late
    exact answer?_expire isStarted late

/-- A job that does not end is given up in time; it has no part in what the next one's caller is
told. -/
theorem isServed_given_up :
    let jobs : List Job := ["spin", "echo"].map fun source => ⟨"", source, "heard"⟩
    let events : List Event := [
      ⟨0, .submit jobs[0]⟩, ⟨0, .submit jobs[1]⟩, ⟨0, .start 0⟩, ⟨5, .expire 0⟩, ⟨6, .finish 0⟩,
      ⟨6, .start 0⟩, ⟨7, .finish 0⟩]
    ∃ pool, WorkerPool.new "pool" 1 5 () (fun _ => .ready { name := "worker" }) = .ok pool ∧
      pool.IsServed Scripted.guest events ∧ pool.isPunctual Scripted.guest 0 events = true ∧
      (pool.after Scripted.guest events).answer? 0 = some (.error (.timeout 5)) ∧
      (pool.after Scripted.guest events).answer? 1 = some (.ok "heard") := by
  intro jobs events
  have built : WorkerPool.new "pool" 1 5 () (fun _ => .ready { name := "worker" })
      = .ok (⟨"pool", 5, (), [⟨{ name := "worker" }, true, 0, 1, {}, [], none⟩], [], 0⟩ :
          WorkerPool Unit ScriptedMemory) := rfl
  exact ⟨_, built, isServed_of_new built _ _, by decide, by decide +kernel,
    by decide⟩

end WorkerPool

end ConfigDelivery.Pool
