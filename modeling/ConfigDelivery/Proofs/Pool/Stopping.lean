import ConfigDelivery.Pool.Interrupt
import Mathlib.Data.List.Induction
/-!
# Which job is asked to stop

The stop signal of a slot hears of jobs that begin and end one after the other, and of requests that
may come late: when their job has ended, and later jobs have begun. It remembers the latest request
alone. So it is raised only for a running job that was asked to stop, and stays raised until another
request comes; a late request for a job that has ended takes back the one for the job that runs.
-/

namespace ConfigDelivery.Pool

/-- What the stop signal of a slot hears. -/
inductive Signal where
  | begun (ticket : Nat)
  | ended
  | raised (ticket : Nat)
  deriving DecidableEq, Repr

/-- The ticket of a request. -/
def Signal.raisedTicket? : Signal → Option Nat
  | raised ticket => some ticket
  | _ => none

namespace Interrupt

/-- The stop signal after something it hears. -/
def hear (signal : Interrupt) : Signal → Interrupt
  | .begun ticket => signal.begin ticket
  | .ended => signal.finish
  | .raised ticket => signal.raise ticket

/-- A new stop signal after all that it hears. -/
def after (signals : List Signal) : Interrupt := signals.foldl hear {}

/-- The job that runs after one more signal. -/
def nextRunning (running : Option Nat) : Signal → Option Nat
  | .begun ticket => some ticket
  | .ended => none
  | .raised _ => running

/-- The job that runs after some signals. -/
def running? (signals : List Signal) : Option Nat := signals.foldl nextRunning none

/-- The tickets of the requests in some signals. -/
def raises (signals : List Signal) : List Nat := signals.filterMap Signal.raisedTicket?

/-- What a stop signal can hear: jobs begin and end one after the other, with tickets
that grow, and a job is asked to stop at most once, at any time after it began. -/
inductive CanHear : List Signal → Prop where
  | nil : CanHear []
  | begun {signals ticket} (before : CanHear signals) (idle : running? signals = none)
      (positive : 0 < ticket) (grows : ∀ earlier, .begun earlier ∈ signals → earlier < ticket) :
      CanHear (signals ++ [.begun ticket])
  | ended {signals ticket} (before : CanHear signals) (runs : running? signals = some ticket) :
      CanHear (signals ++ [.ended])
  | raised {signals ticket} (before : CanHear signals) (began : .begun ticket ∈ signals)
      (once : .raised ticket ∉ signals) : CanHear (signals ++ [.raised ticket])

variable {signals : List Signal} {ticket : Nat}

@[simp] theorem after_append (signal : Signal) :
    after (signals ++ [signal]) = (after signals).hear signal := by
  simp [after]

/-- The running ticket after a signal depends on the one before it. -/
@[simp] theorem running?_append (signal : Signal) :
    running? (signals ++ [signal]) = nextRunning (running? signals) signal := by
  simp [running?]

theorem raises_append (first second : List Signal) :
    raises (first ++ second) = raises first ++ raises second := List.filterMap_append

@[simp] theorem raises_concat (signal : Signal) :
    raises (signals ++ [signal]) = raises signals ++ signal.raisedTicket?.toList := by
  rw [raises_append]
  cases signal <;> rfl

theorem mem_raises : ticket ∈ raises signals ↔ .raised ticket ∈ signals := by
  simp only [raises, List.mem_filterMap]
  constructor
  · rintro ⟨signal, mem, same⟩
    cases signal <;> cases same
    exact mem
  · exact fun mem => ⟨_, mem, rfl⟩

/-! ## What the signal shows -/

/-- A job that runs has begun, and its ticket is none of those that stand for no job. -/
theorem CanHear.of_running (heard : CanHear signals) (runs : running? signals = some ticket) :
    0 < ticket ∧ .begun ticket ∈ signals := by
  induction heard with
  | nil => cases runs
  | begun before idle positive grows ih =>
    rw [running?_append] at runs
    cases runs
    exact ⟨positive, by simp⟩
  | ended before running ih =>
    rw [running?_append] at runs
    cases runs
  | raised before began once ih =>
    rw [running?_append] at runs
    exact ⟨(ih runs).1, List.mem_append_left _ (ih runs).2⟩

/-- No job is asked to stop twice. -/
theorem CanHear.nodup_raises (heard : CanHear signals) : (raises signals).Nodup := by
  induction heard with
  | nil => exact List.nodup_nil
  | begun before idle positive grows ih => simpa [Signal.raisedTicket?] using ih
  | ended before running ih => simpa [Signal.raisedTicket?] using ih
  | raised before began once ih =>
    rw [raises_concat]
    refine List.nodup_append.mpr ⟨ih, List.nodup_cons.mpr ⟨List.not_mem_nil, List.nodup_nil⟩, ?_⟩
    rintro earlier mem last isLast rfl
    cases List.mem_singleton.mp isLast
    exact once (mem_raises.mp mem)

/-- The signal holds the ticket of the job that runs, and that of the latest request. -/
theorem after_eq (signals : List Signal) :
    after signals
      = ⟨(running? signals).getD 0, ((raises signals).getLast?).getD 0⟩ := by
  induction signals using List.reverseRecOn with
  | nil => rfl
  | append_singleton signals signal ih =>
    rw [after_append, ih, running?_append, raises_concat]
    cases signal <;> simp [hear, begin, finish, raise, nextRunning, Signal.raisedTicket?]

/-- The signal shows if the running ticket was the last one raised. -/
theorem CanHear.isRaised_iff (heard : CanHear signals) :
    (after signals).isRaised = true ↔
      ∃ ticket, running? signals = some ticket ∧ (raises signals).getLast? = some ticket := by
  rw [after_eq, isRaised]
  cases runs : running? signals with
  | none => simp
  | some ticket =>
    have positive := (heard.of_running runs).1
    cases last : (raises signals).getLast? with
    | none => simp; omega
    | some latest => simp; omega

/-- The latest request is for a job exactly when none comes after the one for it. -/
theorem CanHear.getLast?_raises_iff {before later : List Signal}
    (heard : CanHear (before ++ .raised ticket :: later)) :
    (raises (before ++ .raised ticket :: later)).getLast? = some ticket ↔
      ∀ other, .raised other ∉ later := by
  have distinct := heard.nodup_raises
  have split : raises (before ++ .raised ticket :: later)
      = raises before ++ (ticket :: raises later) := by
    rw [raises_append]
    rfl
  rw [split] at distinct ⊢
  cases last : (raises later).getLast? with
  | none =>
    have none := List.getLast?_eq_none_iff.mp last
    simp [List.getLast?_append, List.getLast?_cons, ← mem_raises, none]
  | some latest =>
    have mem := List.mem_of_getLast? last
    have different : latest ≠ ticket := by
      rintro rfl
      exact (List.nodup_cons.mp (List.nodup_append.mp distinct).2.1).1 mem
    simp only [List.getLast?_append, List.getLast?_cons, last, Option.getD_some, Option.some_or,
      Option.some.injEq, different, false_iff, not_forall, not_not]
    exact ⟨latest, mem_raises.mp mem⟩

/-- The signal is raised for exactly the running job that the latest request is for. So it is never
raised for a job that was not asked to stop, and of a job that was, it stays raised until the next
request. -/
theorem isRaised_of_canHear (heard : CanHear signals) :
    ((after signals).isRaised = true ↔
      ∃ ticket, running? signals = some ticket ∧ (raises signals).getLast? = some ticket) ∧
    ((after signals).isRaised = true →
      ∃ ticket, running? signals = some ticket ∧ .raised ticket ∈ signals) ∧
    ∀ before ticket later, signals = before ++ .raised ticket :: later →
      running? signals = some ticket →
      ((after signals).isRaised = true ↔ ∀ other, .raised other ∉ later) := by
  refine ⟨heard.isRaised_iff, fun raised => ?_, ?_⟩
  · obtain ⟨ticket, runs, latest⟩ := heard.isRaised_iff.mp raised
    exact ⟨ticket, runs, mem_raises.mp (List.mem_of_getLast? latest)⟩
  · rintro before ticket later rfl runs
    rw [heard.isRaised_iff, ← heard.getLast?_raises_iff, runs]
    simp

/-! ## A late request -/

/-- The first job ends before the request for it comes, which comes after the one for the second. -/
def lateRequest : List Signal := [.begun 1, .ended, .begun 2, .raised 2, .raised 1]

/-- The late request can be heard. -/
theorem canHear_lateRequest : CanHear lateRequest := by
  have first : CanHear [.begun 1] := .begun .nil rfl (by decide) (by simp)
  have ended : CanHear [.begun 1, .ended] := .ended first rfl
  have second : CanHear [.begun 1, .ended, .begun 2] := .begun ended rfl (by decide) (by simp)
  have asked : CanHear [.begun 1, .ended, .begun 2, .raised 2] :=
    .raised second (by simp) (by simp)
  exact .raised asked (by simp) (by simp)

/-- While the second job runs, the signal is raised for it, and then taken back. -/
theorem isRaised_of_canHear_late :
    CanHear lateRequest ∧ running? lateRequest = some 2 ∧
    (after lateRequest).isRaised = false := by
  refine ⟨canHear_lateRequest, rfl, ?_⟩
  have taken := (isRaised_of_canHear canHear_lateRequest).2.2 [.begun 1, .ended, .begun 2] 2
    [.raised 1] rfl rfl
  rw [← Bool.not_eq_true, taken]
  simp

/-- A job that runs and was asked to stop may be shown as one that was not. -/
theorem not_isRaised_for_asked :
    ¬ ∀ signals, CanHear signals → ((after signals).isRaised = true ↔
      ∃ ticket, running? signals = some ticket ∧ .raised ticket ∈ signals) := by
  intro shown
  have raised := (shown lateRequest canHear_lateRequest).mpr ⟨2, rfl, by decide⟩
  exact absurd raised (by decide)

end Interrupt

end ConfigDelivery.Pool
