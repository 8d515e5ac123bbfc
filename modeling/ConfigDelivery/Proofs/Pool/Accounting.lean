import ConfigDelivery.Pool.Scripted
import ConfigDelivery.Proofs.Pool.Reached
/-!
# The counters of a pool

The counter of a slot is the number of its jobs for as long as its worker lives, and stays positive
after that, whatever happens. So the slot for the next job is the first idle one, a dead one is
taken for nothing but the lack of an idle one, and a job goes on to count when its caller has left.
-/

namespace ConfigDelivery.Pool

open ConfigDelivery.Script (ScriptError)

variable {Shared Memory : Type} {guest : Guest Shared Memory}

namespace WorkerPool

variable {pool : WorkerPool Shared Memory} {jobs : Roster Shared Memory} {index call : Nat}
  {slot : Slot Memory}

/-- What the counters of a pool tell, and go on to tell. -/
structure KeepsCount (guest : Guest Shared Memory) (pool : WorkerPool Shared Memory) : Prop where
  counted : ∀ {index : Nat} {slot : Slot Memory}, pool.slots[index]? = some slot →
    slot.isAlive = true → slot.pending = slot.queue.length + slot.running.toList.length
  single : ∀ {index : Nat} {slot : Slot Memory}, pool.slots[index]? = some slot → index ≠ 0 →
    slot.pending ≤ 1
  /-- A slot whose worker died counts forever. -/
  dead : ∀ {index : Nat} {slot : Slot Memory}, pool.slots[index]? = some slot →
    slot.isAlive = false → ∀ events : List Event, ∃ later,
      (pool.after guest events).slots[index]? = some later ∧ later.isAlive = false ∧
        1 ≤ later.pending
  /-- The next job goes to the first slot without outstanding jobs whose worker lives, if any. -/
  chosen : pool.nextSlot = (pool.slots.findIdx? Slot.isIdle).getD 0
  accepted : ∀ {slot : Slot Memory} (job : Job), pool.slots[pool.nextSlot]? = some slot →
    slot.isAlive = true → (pool.submit job).2.slots
      = pool.slots.set pool.nextSlot (slot.enqueued (pool.submit job).1 job)
  /-- A job is refused when no slot is idle and the worker of the first slot is dead; then nothing
  is counted. -/
  refused : ∀ {slot : Slot Memory} (job : Job), pool.slots[pool.nextSlot]? = some slot →
    slot.isAlive = false → pool.nextSlot = 0 ∧
      (pool.submit job).2.answer? (pool.submit job).1 = some (.error (pool.unavailable 0)) ∧
      (pool.submit job).2.slots.map Slot.pending = pool.slots.map Slot.pending
  /-- A job counts until its worker is done with it, whether or not its caller has left. -/
  held : ∀ {index : Nat} {slot : Slot Memory} {running : Running Memory},
    pool.slots[index]? = some slot → slot.running = some running → ∀ events : List Event,
      (∀ event ∈ events, event.action ≠ .finish index) → ∃ later,
        (pool.after guest events).slots[index]? = some later ∧ later.running = some running ∧
          1 ≤ later.pending
  /-- Whoever is told something without having left is told when the job counts no more. -/
  released : ∀ {call : Nat} {outcome : Except ScriptError String} (event : Event),
    pool.answer? call = none → (pool.step guest event).answer? call = some outcome →
      event.action ≠ .expire call → ∀ slot ∈ (pool.step guest event).slots,
        call ∉ slot.outstanding
  busy : pool.busy
    = pool.slots.countP fun slot => !slot.isAlive || !slot.outstanding.isEmpty
  /-- A dead slot is not handed out while another one is idle. -/
  spared : ∀ {slot : Slot Memory}, pool.slots[pool.nextSlot]? = some slot →
    slot.isAlive = false → ∀ other ∈ pool.slots, other.isIdle = false
  atRest : (∀ slot ∈ pool.slots, slot.isIdle = true) → pool.busy = 0

/-! ## Slots but the first -/

/-- The slots but the first have one job at most. -/
def IsSingle (pool : WorkerPool Shared Memory) : Prop :=
  ∀ index slot, pool.slots[index]? = some slot → index ≠ 0 → slot.pending ≤ 1

/-- A slot that is chosen, other than the first, has nothing pending. -/
theorem pending_nextSlot (found : pool.slots[pool.nextSlot]? = some slot)
    (notFirst : pool.nextSlot ≠ 0) : slot.pending = 0 := by
  unfold nextSlot at found notFirst
  cases idle : pool.slots.findIdx? fun slot => slot.pending = 0 with
  | none =>
    rw [idle] at notFirst
    exact absurd rfl notFirst
  | some index =>
    rw [idle] at found
    obtain ⟨inside, isZero, _⟩ := List.findIdx?_eq_some_iff_getElem.mp idle
    rw [Option.getD_some, List.getElem?_eq_getElem inside] at found
    cases found
    simpa using isZero

/-- No event gives a slot but the first a second job. -/
theorem IsSingle.step (single : pool.IsSingle) (slots : pool.slots ≠ []) (event : Event) :
    (pool.step guest event).IsSingle := by
  have change : Change guest pool event (pool.step guest event) := change_step slots event
  intro index later present notFirst
  obtain ⟨inside, _⟩ := List.getElem?_eq_some_iff.mp present
  rw [change.length] at inside
  have found := List.getElem?_eq_getElem inside
  obtain ⟨changed, same, slotChange⟩ := change.slot found
  cases present.symm.trans same
  have before := single index _ found notFirst
  cases slotChange with
  | kept => exact before
  | enqueued job isSubmit isNext isAlive =>
    subst isNext
    have isZero := pending_nextSlot found notFirst
    simp [Slot.enqueued, isZero]
  | passed isDead => exact before
  | begun isQueued isFree call => exact before
  | relieved memory isFinish isRunning => exact Nat.le_trans (Nat.sub_le ..) before
  | deserted memory isFinish isRunning => exact before
  | hurried ticket => exact before

/-! ## Dead workers and running jobs -/

/-- A dead worker stays dead. -/
theorem SlotChange.isAlive_of_dead {event : Event} {changed : Slot Memory}
    (change : SlotChange pool event index slot changed) (isDead : slot.isAlive = false) :
    changed.isAlive = false := by
  cases change <;> first | exact isDead | rfl

/-- A running job goes on until it is finished. -/
theorem SlotChange.running {event : Event} {changed : Slot Memory} {running : Running Memory}
    (change : SlotChange pool event index slot changed) (isRunning : slot.running = some running)
    (goesOn : event.action ≠ .finish index) : changed.running = some running := by
  cases change with
  | begun isQueued isFree call => exact absurd (isFree.symm.trans isRunning) nofun
  | relieved memory isFinish => exact absurd isFinish goesOn
  | deserted memory isFinish => exact absurd isFinish goesOn
  | kept | enqueued | passed | hurried => exact isRunning

namespace IsReached

/-- A slot with an outstanding job counts it as pending. -/
theorem pending_of_outstanding (reached : pool.IsReached guest jobs)
    (found : pool.slots[index]? = some slot) (mem : call ∈ slot.outstanding) :
    1 ≤ slot.pending := by
  have shows := reached.follows.slot found
  rw [shows.pending_of_isAlive (shows.mem_outstanding mem).1]
  exact List.length_pos_of_mem mem

/-- A dead worker stays dead, and its slot counts. -/
theorem dead (reached : pool.IsReached guest jobs) (found : pool.slots[index]? = some slot)
    (isDead : slot.isAlive = false) (events : List Event) :
    ∃ later, (pool.after guest events).slots[index]? = some later ∧ later.isAlive = false ∧
      1 ≤ later.pending := by
  induction events generalizing pool jobs slot with
  | nil => exact ⟨slot, found, isDead, (reached.follows.slot found).pending_of_dead isDead⟩
  | cons event rest ih =>
    have change : Change guest pool event (pool.step guest event) := change_step reached.slots event
    obtain ⟨changed, present, slotChange⟩ := change.slot found
    exact ih (reached.step event) present (slotChange.isAlive_of_dead isDead)

/-- A job runs until its worker is done with it, and its slot counts. -/
theorem held (reached : pool.IsReached guest jobs) (found : pool.slots[index]? = some slot)
    {running : Running Memory} (isRunning : slot.running = some running) (events : List Event)
    (goesOn : ∀ event ∈ events, event.action ≠ .finish index) :
    ∃ later, (pool.after guest events).slots[index]? = some later ∧
      later.running = some running ∧ 1 ≤ later.pending := by
  induction events generalizing pool jobs slot with
  | nil =>
    have mem := Slot.mem_outstanding_of_running isRunning
    exact ⟨slot, found, isRunning, reached.pending_of_outstanding found mem⟩
  | cons event rest ih =>
    have change : Change guest pool event (pool.step guest event) := change_step reached.slots event
    obtain ⟨changed, present, slotChange⟩ := change.slot found
    have stillRunning := slotChange.running isRunning (goesOn event List.mem_cons_self)
    exact ih (reached.step event) present stillRunning
      fun event mem => goesOn event (List.mem_cons_of_mem _ mem)

/-! ## Answers -/

/-- Only who left is told something while the job counts. -/
theorem left_of_outstanding (reached : pool.IsReached guest jobs)
    (found : pool.slots[index]? = some slot) (mem : call ∈ slot.outstanding)
    {outcome : Except ScriptError String} (told : pool.answer? call = some outcome) :
    ∃ assignment leftAt, jobs.assignments[call]? = some assignment ∧
      assignment.leftAt = some leftAt := by
  have shows := reached.follows.slot found
  obtain ⟨isAlive, mem⟩ := shows.mem_outstanding mem
  obtain ⟨assignment, entry, here, notDone⟩ := Roster.mem_outstanding.mp mem
  subst here
  rw [reached.answer?_eq, Roster.answer?, entry, Option.bind_some] at told
  cases left : assignment.leftAt with
  | some leftAt => exact ⟨assignment, leftAt, entry, left⟩
  | none =>
    cases progress : assignment.progress with
    | waiting =>
      rw [Roster.answer_of_waiting left progress, shows.isAlive, isAlive] at told
      cases told
    | running work =>
      rw [Roster.answer_of_running left progress] at told
      cases told
    | done work endedAt => simp [Assignment.isDone, progress] at notDone

/-- A job that is answered otherwise than by its caller's patience leaves its slot. -/
theorem released (reached : pool.IsReached guest jobs) {outcome : Except ScriptError String}
    (event : Event) (untold : pool.answer? call = none)
    (told : (pool.step guest event).answer? call = some outcome)
    (stays : event.action ≠ .expire call) :
    ∀ slot ∈ (pool.step guest event).slots, call ∉ slot.outstanding := by
  intro slot inside mem
  obtain ⟨index, found⟩ := List.getElem?_of_mem inside
  obtain ⟨later, leftAt, present, left⟩ :=
    (reached.step event).left_of_outstanding found mem told
  obtain ⟨earlier, entry, left⟩ := Roster.left_of_step present left stays
  rw [reached.answer?_eq, Roster.answer?, entry, Option.bind_some,
    Roster.answer_of_left left] at untold
  cases untold

/-! ## Idle slots -/

/-- The next job goes to the first idle slot, or to the first slot. -/
theorem nextSlot_eq (reached : pool.IsReached guest jobs) :
    pool.nextSlot = (pool.slots.findIdx? Slot.isIdle).getD 0 := by
  apply nextSlot_eq_of_map
  apply List.map_congr_left
  intro slot inside
  obtain ⟨index, found⟩ := List.getElem?_of_mem inside
  exact (reached.follows.slot found).pending_eq_zero

/-- A dead slot comes next only for the lack of an idle one. -/
theorem none_idle (reached : pool.IsReached guest jobs)
    (found : pool.slots[pool.nextSlot]? = some slot) (isDead : slot.isAlive = false) :
    pool.slots.findIdx? Slot.isIdle = none := by
  rw [reached.nextSlot_eq] at found
  cases idle : pool.slots.findIdx? Slot.isIdle with
  | none => rfl
  | some index =>
    rw [idle] at found
    obtain ⟨inside, isIdle, _⟩ := List.findIdx?_eq_some_iff_getElem.mp idle
    rw [Option.getD_some, List.getElem?_eq_getElem inside] at found
    cases found
    simp [Slot.isIdle, isDead] at isIdle

/-- A slot counts as busy if its worker is dead or has an outstanding job. -/
theorem isBusy_eq (reached : pool.IsReached guest jobs) (inside : slot ∈ pool.slots) :
    slot.isBusy = (!slot.isAlive || !slot.outstanding.isEmpty) := by
  obtain ⟨index, found⟩ := List.getElem?_of_mem inside
  have same := (reached.follows.slot found).pending_eq_zero
  have positive : slot.isBusy = !decide (slot.pending = 0) := by
    simp [Slot.isBusy, Nat.pos_iff_ne_zero]
  rw [positive, same, Slot.isIdle, Bool.not_and]

/-- A pool that is reached keeps its count. -/
theorem keepsCount (reached : pool.IsReached guest jobs) (single : pool.IsSingle) :
    pool.KeepsCount guest where
  counted := by
    intro index slot found isAlive
    rw [(reached.follows.slot found).pending_of_isAlive isAlive, Slot.outstanding]
    cases slot.running <;> simp
  single found notFirst := single _ _ found notFirst
  dead found isDead events := reached.dead found isDead events
  chosen := reached.nextSlot_eq
  accepted := by
    intro slot job found isAlive
    rw [submit_eq found isAlive]
    rfl
  refused := by
    intro slot job found isDead
    have isFirst : pool.nextSlot = 0 := by
      rw [reached.nextSlot_eq, reached.none_idle found isDead]
      rfl
    rw [submit_of_dead found isDead]
    refine ⟨isFirst, ?_, ?_⟩
    · rw [answer?_eq_some, call?_withCall, call?_withSlot,
        reached.follows.absent (Nat.le_of_eq reached.follows.nextCall.symm), isFirst]
      simp [withSlot]
    · have unchanged := congrArg (List.map Slot.pending) (slots_set_self found)
      rw [List.map_set] at unchanged
      simpa [withCall, withSlot] using unchanged
  held found isRunning events goesOn := reached.held found isRunning events goesOn
  released event untold told stays := reached.released event untold told stays
  busy := by
    refine List.countP_congr fun slot inside => ?_
    rw [reached.isBusy_eq inside]
  spared := by
    intro slot found isDead other inside
    have none := List.findIdx?_eq_none_iff.mp (reached.none_idle found isDead)
    exact none other inside
  atRest := by
    intro idle
    rw [busy, List.countP_eq_zero]
    intro slot inside
    rw [reached.isBusy_eq inside, ← Bool.not_and]
    have isIdle := idle slot inside
    rw [Slot.isIdle] at isIdle
    simp [isIdle]

end IsReached

/-- The counters of a pool keep count, whatever happens in whatever order. -/
theorem keepsCount_of_new {label : String} {size : Nat} {timeout : Duration} {shared : Shared}
    {build : Nat → Startup Memory}
    (built : WorkerPool.new label size timeout shared build = .ok pool)
    (guest : Guest Shared Memory) (events : List Event) :
    (pool.after guest events).KeepsCount guest := by
  have isNew := isNew_of_new built
  have single : (pool.after guest events).slots ≠ [] ∧ (pool.after guest events).IsSingle := by
    have kept : ∀ (pool : WorkerPool Shared Memory) (event : Event),
        pool.slots ≠ [] ∧ pool.IsSingle →
        (pool.step guest event).slots ≠ [] ∧ (pool.step guest event).IsSingle :=
      fun _ event kept => ⟨step_slots_ne_nil kept.1 event, kept.2.step kept.1 event⟩
    refine after_induction kept ⟨isNew.slots, fun index slot found _ => ?_⟩ events
    rw [isNew.slot slot (List.mem_of_getElem? found)]
    exact Nat.zero_le 1
  exact (isNew.isReached events).keepsCount single.2

/-- The worker of the second of two slots dies while the first one is at a job that was given up:
both slots count, and the job that comes next waits for the first. -/
theorem keepsCount_both_busy :
    let jobs : List Job := ["spin", "reset_panic", "name"].map fun source => ⟨"", source, ""⟩
    let events : List Event := [
      ⟨0, .submit jobs[0]⟩, ⟨0, .submit jobs[1]⟩, ⟨0, .start 0⟩, ⟨0, .start 1⟩, ⟨1, .finish 1⟩,
      ⟨5, .expire 0⟩, ⟨5, .submit jobs[2]⟩]
    ∃ pool, WorkerPool.new "pool" 2 5 () (fun _ => .ready { name := "worker" }) = .ok pool ∧
      (pool.after Scripted.guest events).KeepsCount Scripted.guest ∧
      (pool.after Scripted.guest events).slots.map Slot.pending = [2, 1] ∧
      (pool.after Scripted.guest events).slots.map Slot.isAlive = [true, false] := by
  intro jobs events
  have built : WorkerPool.new "pool" 2 5 () (fun _ => .ready { name := "worker" })
      = .ok (⟨"pool", 5, (), List.replicate 2 ⟨{ name := "worker" }, true, 0, 1, {}, [], none⟩,
          [], 0⟩ : WorkerPool Unit ScriptedMemory) := rfl
  exact ⟨_, built, keepsCount_of_new built _ _, by decide, by decide +kernel⟩

end WorkerPool

end ConfigDelivery.Pool
