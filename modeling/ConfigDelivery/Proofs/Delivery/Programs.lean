import ConfigDelivery.Proofs.Delivery.Runs
import ConfigDelivery.Proofs.Engine.Running
import ConfigDelivery.Record.Id
/-!
# Kept programs

A program is kept under the identifiers of its configuration and its code version, which can be told
from it because an identifier has no slash. A script that is executed changes the engines and the
time alone.
-/

namespace ConfigDelivery.Delivery

open ConfigDelivery.Engine (Engines Interpreters)

/-- No identifier of a record has a slash in it. -/
theorem slash_notMem {id : String} (isId : isRecordId id = true) : '/' ∉ id.toList := by
  intro mem
  simp only [isRecordId, Bool.and_eq_true, List.all_eq_true] at isId
  exact absurd (isId.2 '/' mem) (by decide)

/-- A text is cut at its first slash in one way. -/
theorem append_slash_injective {first second : List Char} (free : '/' ∉ first)
    (free' : '/' ∉ second) {rest rest' : List Char}
    (same : first ++ '/' :: rest = second ++ '/' :: rest') : first = second ∧ rest = rest' := by
  induction first generalizing second with
  | nil =>
    cases second with
    | nil => exact ⟨rfl, List.tail_eq_of_cons_eq same⟩
    | cons head tail =>
      obtain rfl : '/' = head := List.head_eq_of_cons_eq same
      exact absurd (List.mem_cons_self ..) free'
  | cons head tail ih =>
    cases second with
    | nil =>
      obtain rfl : head = '/' := List.head_eq_of_cons_eq same
      exact absurd (List.mem_cons_self ..) free
    | cons head' tail' =>
      obtain rfl : head = head' := List.head_eq_of_cons_eq same
      obtain ⟨rfl, rest⟩ := ih (fun mem => free (List.mem_cons_of_mem _ mem))
        (fun mem => free' (List.mem_cons_of_mem _ mem)) (List.tail_eq_of_cons_eq same)
      exact ⟨rfl, rest⟩

/-- An identifier of a program names its configuration and its code version. -/
theorem programId_injective {configId otherConfig codeId otherCode : String}
    (isId : isRecordId configId = true) (isOther : isRecordId otherConfig = true)
    (same : programId configId codeId = programId otherConfig otherCode) :
    configId = otherConfig ∧ codeId = otherCode := by
  have characters : configId.toList ++ '/' :: codeId.toList
      = otherConfig.toList ++ '/' :: otherCode.toList := by
    simpa [programId, ← String.toList_inj] using same
  obtain ⟨config, code⟩ :=
    append_slash_injective (slash_notMem isId) (slash_notMem isOther) characters
  exact ⟨String.toList_inj.mp config, String.toList_inj.mp code⟩

namespace Components

variable {Stored Kept : Type} {interpreters : Interpreters}
  {components : Components Stored Kept (Engines interpreters)}

/-- Workers of the service execute a request by running it. -/
theorem executed_eq (concrete : components.engines = Engines.ops)
    (world : World Stored Kept (Engines interpreters)) (request : Engine.Request) :
    components.executed world request =
      let response := world.engines.run world.now request
      { world with engines := response.state, now := response.now } := by
  unfold executed
  rw [concrete, Engines.ops]

end Components

end ConfigDelivery.Delivery
