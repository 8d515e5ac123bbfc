import ConfigDelivery.Params.Kind
import ConfigDelivery.Record.Basic
/-!
# Validation of parameters

A caller's parameters are checked against the declared ones in their order. The
outcome has the declared names alone; whole-number parameters are cut to signed
64-bit integers and all others are passed on as they are.
-/

namespace ConfigDelivery

/-- Why parameters do not fit a schema. -/
inductive ParamFault where
  | missing (name : String)
  | mismatch (name : String) (actual : JsonKind) (expected : ParamType)
  | unknownType (name declared : String)
  deriving DecidableEq, Repr

namespace ParamFault

/-- The wording of a parameter fault. -/
def message : ParamFault → String
  | missing name => "missing key '" ++ name ++ "' in parameters"
  | mismatch name actual expected =>
    "mismatched type '" ++ actual.name ++ "' for parameter '" ++ name ++ "': expected '"
      ++ expected.name ++ "'"
  | unknownType name declared =>
    "unexpected type '" ++ declared ++ "' for param '" ++ name ++ "'"

/-- The schema is at fault, and not the caller. -/
def isSchemaFault : ParamFault → Bool
  | unknownType _ _ => true
  | _ => false

end ParamFault

/-- Confine an integer to the signed 64-bit range. -/
def clamp64 (value : Int) : Int :=
  max (-0x8000000000000000) (min value 0x7fffffffffffffff)

/-- A clamped integer is one that JSON numbers keep exactly. -/
theorem clamp64_exact (value : Int) : Json.ExactRange (clamp64 value) := by
  unfold Json.ExactRange clamp64
  omega

/-- A number without its fractional part. -/
def Json.Number.truncated : Json.Number → Int
  | .integer value _ => value
  | .float value => value.truncated

/-- A number cut to a signed 64-bit integer. -/
def Json.Number.toInteger (number : Json.Number) : Json.Number :=
  .integer (clamp64 number.truncated) (clamp64_exact _)

/-- The value that a parameter of a declared type is passed on as. -/
def ParamType.convert : ParamType → Json.Value → Json.Value
  | .int, .number number => .number number.toInteger
  | _, value => value

/-- Check one declared parameter. -/
def checkParam (spec : ParamSpec) (params : Json.Members) : Except ParamFault Json.Value :=
  match ParamType.read? spec.type with
  | none => .error (.unknownType spec.name spec.type)
  | some declared =>
    match Json.Value.find? spec.name params with
    | none => .error (.missing spec.name)
    | some value =>
      if declared.accepts (.of value) then .ok (declared.convert value)
      else .error (.mismatch spec.name (.of value) declared)

/-- Check the declared parameters in order and add them to those accepted so far. -/
def validateFrom (params : Json.Members) : Json.Members → List ParamSpec →
    Except ParamFault Json.Members
  | accepted, [] => .ok accepted
  | accepted, spec :: rest =>
    match checkParam spec params with
    | .error fault => .error fault
    | .ok value => validateFrom params (Json.Value.insert spec.name value accepted) rest

/-- Check a caller's parameters against a schema. -/
def validate (schema : List ParamSpec) (params : Json.Members) :
    Except ParamFault Json.Members :=
  validateFrom params [] schema

end ConfigDelivery
