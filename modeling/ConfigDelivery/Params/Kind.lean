import ConfigDelivery.Json.Value
/-!
# Types of parameters

The types that a code version may declare for its parameters, the kinds of JSON
values, and which kind fits which type. Null fits none, and both number types
take any number.
-/

namespace ConfigDelivery

/-- The types that a parameter may be declared with. -/
inductive ParamType where
  | string
  | int
  | float
  | bool
  | array
  | dictionary
  deriving DecidableEq, Repr

/-- The written name of a parameter type. -/
def ParamType.name : ParamType → String
  | string => "string"
  | int => "int"
  | float => "float"
  | bool => "bool"
  | array => "array"
  | dictionary => "dictionary"

/-- Read the name of a parameter type. -/
def ParamType.read? : String → Option ParamType
  | "string" => some .string
  | "int" => some .int
  | "float" => some .float
  | "bool" => some .bool
  | "array" => some .array
  | "dictionary" => some .dictionary
  | _ => none

/-- The kinds of JSON values. -/
inductive JsonKind where
  | null
  | bool
  | number
  | string
  | array
  | object
  deriving DecidableEq, Repr

/-- The written name of a kind. -/
def JsonKind.name : JsonKind → String
  | null => "null"
  | bool => "bool"
  | number => "number"
  | string => "string"
  | array => "array"
  | object => "object"

/-- The kind of a value. -/
def JsonKind.of : Json.Value → JsonKind
  | .null => null
  | .bool _ => bool
  | .number _ => number
  | .string _ => string
  | .array _ => array
  | .object _ => object

/-- Values of a kind fit a parameter type. -/
def ParamType.accepts : ParamType → JsonKind → Bool
  | .string, .string => true
  | .int, .number => true
  | .float, .number => true
  | .bool, .bool => true
  | .array, .array => true
  | .dictionary, .object => true
  | _, _ => false

end ConfigDelivery
