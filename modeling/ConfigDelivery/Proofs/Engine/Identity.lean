import ConfigDelivery.Engine.Installed
import ConfigDelivery.Proofs.Engine.Running
/-!
# The identifier of a script does not matter

What a source comes to does not depend on the identifier under which it is compiled: the JavaScript
compiler is not told, and the Starlark compiler takes it for the name of a file that only failures
show.
-/

namespace ConfigDelivery.Engine

open ConfigDelivery.Pool (Activity)
open ConfigDelivery.Script

/-- The identifier of a Starlark script is the name that its failures show, and nothing else. -/
theorem starlark_compile (cacheId other source : String) :
    Starlark.compile cacheId source = (Starlark.compile other source).map
      ({ · with fileName := Starlark.fileName cacheId }) := by
  unfold Starlark.compile
  cases Starlark.readProgram (String.ofList (Starlark.wrap source.toList)) with
  | error fault => rfl
  | ok read =>
    obtain ⟨statements, free⟩ := read
    dsimp only [bind, Except.bind]
    split
    · rfl
    · split <;> rfl

/-- Two ends of runs that took the same steps and agree, or that both had to be given up. -/
inductive SameEnd : Finished → Finished → Prop where
  | ended {outcome other steps} (agree : Agree outcome other) :
      SameEnd ⟨some outcome, steps⟩ ⟨some other, steps⟩
  | givenUp {steps} : SameEnd ⟨none, steps⟩ ⟨none, steps⟩

/-- A program in Starlark runs alike under every file name. -/
theorem starlark_run (program : Starlark.Program) (name params : String) (steps : Nat) :
    SameEnd (Starlark.Program.run { program with fileName := name } params steps)
      (program.run params steps) := by
  have sameCall : Starlark.Program.call { program with fileName := name } params
      = program.call params := by
    simp only [Starlark.Program.call]
  unfold Starlark.Program.run
  rw [sameCall]
  rcases program.call params { steps } with ⟨_ | _, _⟩ | ⟨_ | _, _⟩
  · exact .ended (.failure ..)
  · exact .ended (.text _)
  · exact .ended (.failure ..)
  · exact .givenUp

/-- Runs that end alike have verdicts that agree. -/
theorem Interpreter.agree_of_sameEnd {Program : Type} (interpreter : Interpreter Program)
    (timeout : Duration) {program other : Program} {params : String}
    (same : SameEnd (interpreter.run program params (stepLimit timeout))
      (interpreter.run other params (stepLimit timeout))) :
    Agree (interpreter.verdict timeout (.ok program) params)
      (interpreter.verdict timeout (.ok other) params) := by
  unfold verdict activity
  dsimp only
  generalize interpreter.run program params (stepLimit timeout) = finished at same
  generalize interpreter.run other params (stepLimit timeout) = finished' at same
  cases same with
  | @ended outcome other steps agree =>
    by_cases inTime : overhead + steps / stepsPerMicrosecond ≤ timeout
    · simp only [Activity.answer, if_pos inTime]
      exact agree
    · simp only [Activity.answer, if_neg inTime]
      exact agree_refl _
  | givenUp => exact agree_refl _

/-- The interpreters of the service make nothing of the identifier of a script. -/
theorem ignoreIds_installed : installed.IgnoreIds := by
  intro language timeout cacheId other source params
  cases language with
  | javascript => exact agree_refl _
  | starlark =>
    have compiled (cacheId : String) : (interpreter .starlark).compile cacheId source
        = (Starlark.compile cacheId source).mapError .badSyntax := by
      simp only [interpreter]
      rfl
    change Agree
      ((interpreter .starlark).verdict timeout ((interpreter .starlark).compile cacheId source)
        params)
      ((interpreter .starlark).verdict timeout ((interpreter .starlark).compile other source)
        params)
    rw [compiled, compiled, starlark_compile cacheId other]
    cases Starlark.compile other source with
    | error fault => exact agree_refl _
    | ok program =>
      exact (interpreter .starlark).agree_of_sameEnd timeout (starlark_run program ..)

end ConfigDelivery.Engine
