/-!
# Machines that answer alike

A machine answers an operation in a state and goes on in another state. Two machines answer a series
of operations alike when their states stand in a relation that every operation keeps and under which
it is answered the same by both. The operations of a series can be restricted to those that the
second machine admits in the state in which they come.
-/

namespace ConfigDelivery

/-- The answer to an operation in a state, and the state afterwards. -/
abbrev Machine (State Operation Answer : Type) : Type := State → Operation → Answer × State

namespace Machine

variable {State Other Operation Answer : Type}

/-- The answers of a machine to some operations, one after the other. -/
def answers (machine : Machine State Operation Answer) : State → List Operation → List Answer
  | _, [] => []
  | state, operation :: rest =>
    (machine state operation).1 :: answers machine (machine state operation).2 rest

/-- The state of a machine after some operations. -/
def after (machine : Machine State Operation Answer) (state : State)
    (operations : List Operation) : State :=
  operations.foldl (fun state operation => (machine state operation).2) state

/-- Each of some operations comes in a state that admits it. -/
def allAdmitted (machine : Machine State Operation Answer) (admits : State → Operation → Bool) :
    State → List Operation → Bool
  | _, [] => true
  | state, operation :: rest =>
    admits state operation && allAdmitted machine admits (machine state operation).2 rest

variable {machine : Machine State Operation Answer} {other : Machine Other Operation Answer}
  {admits : Other → Operation → Bool}

/-- Operations that are admitted in every state are admitted one after the other. -/
theorem allAdmitted_of_forall (admitted : ∀ state operation, admits state operation = true)
    (state : Other) (operations : List Operation) :
    other.allAdmitted admits state operations = true := by
  induction operations generalizing state with
  | nil => rfl
  | cons operation rest ih => rw [allAdmitted, admitted, ih, Bool.and_self]

/-- A run that is longer by an operation ends with the step of that operation. -/
theorem after_concat (state : State) (operations : List Operation) (operation : Operation) :
    machine.after state (operations ++ [operation])
      = (machine (machine.after state operations) operation).2 := by
  rw [after, List.foldl_append]
  rfl

/-- What every operation keeps, a series of them keeps. -/
theorem after_induction {Invariant : State → Prop}
    (kept : ∀ {state} operation, Invariant state → Invariant (machine state operation).2)
    {state : State} (initial : Invariant state) (operations : List Operation) :
    Invariant (machine.after state operations) := by
  induction operations generalizing state with
  | nil => exact initial
  | cons operation rest ih => exact ih (kept operation initial)

/-- Machines in related states answer alike, when every admitted operation is answered alike and
leads to related states. -/
theorem answers_eq_of_simulation {Related : State → Other → Prop}
    (simulated : ∀ {state otherState operation}, Related state otherState →
      admits otherState operation = true →
      (machine state operation).1 = (other otherState operation).1 ∧
      Related (machine state operation).2 (other otherState operation).2)
    {state : State} {otherState : Other} (related : Related state otherState)
    {operations : List Operation}
    (admitted : other.allAdmitted admits otherState operations = true) :
    machine.answers state operations = other.answers otherState operations := by
  induction operations generalizing state otherState with
  | nil => rfl
  | cons operation rest ih =>
    rw [allAdmitted, Bool.and_eq_true] at admitted
    obtain ⟨sameAnswer, related⟩ := simulated related admitted.1
    rw [answers, answers, sameAnswer, ih related admitted.2]

end Machine

end ConfigDelivery
