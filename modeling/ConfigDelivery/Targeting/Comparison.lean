import ConfigDelivery.Record.Basic
import ConfigDelivery.Text.Blank
import ConfigDelivery.Text.Integer
/-!
# Comparisons of a request with a threshold

A stored comparison names a field of the request, a comparator and a threshold.
It is judged in that order, and the first part that is malformed is its fault.
-/

namespace ConfigDelivery.Targeting

/-- The comparators that a stored comparison may name. -/
inductive Comparator where
  | less
  | lessOrEqual
  | equal
  | greater
  | greaterOrEqual
  deriving DecidableEq, Repr

namespace Comparator

/-- The written form of a comparator. -/
def sign : Comparator → String
  | less => "<"
  | lessOrEqual => "<="
  | equal => "="
  | greater => ">"
  | greaterOrEqual => ">="

/-- Read a comparator. -/
def read? : String → Option Comparator
  | "<" => some less
  | "<=" => some lessOrEqual
  | "=" => some equal
  | ">" => some greater
  | ">=" => some greaterOrEqual
  | _ => none

/-- Two integers stand in the relation of a comparator. -/
def holds (comparator : Comparator) (left right : Int) : Bool :=
  match comparator with
  | less => left < right
  | lessOrEqual => left ≤ right
  | equal => left = right
  | greater => right < left
  | greaterOrEqual => right ≤ left

end Comparator

/-- Why a stored comparison is malformed. -/
inductive RuleFault where
  | unknownField (field : String)
  | unknownComparator (text : String)
  | badThreshold (value field : String) (fault : Text.IntegerFault)
  deriving DecidableEq, Repr

/-- The wording of a fault in a stored comparison. -/
def RuleFault.message : RuleFault → String
  | unknownField field => "unrecognized field: " ++ field
  | unknownComparator text => "unexpected comparer: " ++ text
  | badThreshold value field fault =>
    "invalid threshold '" ++ value ++ "' for field " ++ field ++ ": " ++ fault.message

/-- Read a comparator, or say that there is none of that sign. -/
def readComparator (text : String) : Except RuleFault Comparator :=
  match Comparator.read? text with
  | some comparator => .ok comparator
  | none => .error (.unknownComparator text)

/-- Read the threshold of a comparison: a signed 64-bit integer between blanks. -/
def readThreshold (rule : Rule) : Except RuleFault Int :=
  match Text.readInteger .signed64 (Text.trim rule.value) with
  | .ok threshold => .ok threshold
  | .error fault => .error (.badThreshold rule.value rule.field fault)

/-- Compare a request with a stored threshold; the version is the one field there is. -/
def compare (rule : Rule) (request : RequestMeta) : Except RuleFault Bool :=
  if rule.field = "version" then
    match readComparator rule.compare with
    | .error fault => .error fault
    | .ok comparator =>
      match readThreshold rule with
      | .error fault => .error fault
      | .ok threshold => .ok (comparator.holds request.version.toInt threshold)
  else .error (.unknownField rule.field)

end ConfigDelivery.Targeting
