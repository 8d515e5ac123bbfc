/-!
# Failures with causes

A failure of a component is described by its outermost message and the causes
behind it. A plain description has the message alone, a full one all of them.
-/

namespace ConfigDelivery

/-- A failure: what went wrong, and why, outermost first. -/
structure Failure where
  message : String
  causes : List String := []
  deriving DecidableEq, Repr, Inhabited

namespace Failure

/-- The outermost message. -/
def plain (failure : Failure) : String := failure.message

/-- The message followed by every cause. -/
def full (failure : Failure) : String :=
  String.intercalate ": " (failure.message :: failure.causes)

/-- Put a message in front of a failure. -/
def within (failure : Failure) (message : String) : Failure :=
  ⟨message, failure.message :: failure.causes⟩

end Failure

end ConfigDelivery
