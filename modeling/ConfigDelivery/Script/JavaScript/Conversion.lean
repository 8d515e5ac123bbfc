import ConfigDelivery.Script.JavaScript.Property
/-!
# Conversions and operators

How values become truth values, numbers, texts, keys and objects, what operators
make of them, and how values that list others are gone through.
-/

namespace ConfigDelivery.Script.JavaScript

open ConfigDelivery.Text (Units)

namespace Value

/-- What counts as true. -/
def truth : Value → Bool
  | undefined | null => false
  | bool value => value
  | number value => !(value == 0 || value.isNaN)
  | bigInt value => value != 0
  | text value => !value.isEmpty
  | symbol _ | object _ => true

/-- Equality of values of one kind; objects by their places. -/
def isSame : Value → Value → Bool
  | undefined, undefined => true
  | null, null => true
  | bool left, bool right => left == right
  | number left, number right => left == right
  | bigInt left, bigInt right => left == right
  | text left, text right => left == right
  | symbol left, symbol right => left == right
  | object left, object right => left == right
  | _, _ => false

/-- Equality in which a number that is none equals itself. -/
def isSameKey : Value → Value → Bool
  | number left, number right => left == right || left.isNaN && right.isNaN
  | left, right => left.isSame right

end Value

/-- Which primitive value an object should become. -/
inductive Preference where
  | number
  | text
  | none
  deriving DecidableEq

namespace Run

/-- The name of a value's type. -/
def typeName (value : Value) : Run String := do
  match value with
  | .undefined => return "undefined"
  | .null => return "object"
  | .bool _ => return "boolean"
  | .number _ => return "number"
  | .bigInt _ => return "bigint"
  | .text _ => return "string"
  | .symbol _ => return "symbol"
  | .object _ => return if ← isCallable value then "function" else "object"

/-- The first of an object's methods that gives a primitive value. -/
def firstPrimitive (machine : Machine) (value : Value) : List String → Run Value
  | [] => failType "toPrimitive"
  | name :: rest => do
    let method ← getNamed machine value name
    if ← isCallable method then
      match ← machine.call method value [] with
      | .object _ => firstPrimitive machine value rest
      | primitive => return primitive
    else firstPrimitive machine value rest

/-- The primitive value of a value. -/
def toPrimitive (machine : Machine) (preference : Preference) (value : Value) : Run Value := do
  match value with
  | .object _ =>
    let method ← getProperty machine value WellKnown.toPrimitive.key
    if method.isNullish then
      firstPrimitive machine value
        (if preference == .text then ["toString", "valueOf"] else ["valueOf", "toString"])
    else
      let hint :=
        match preference with
        | .number => "number"
        | .text => "string"
        | .none => "default"
      match ← machine.call method value [.ofString hint] with
      | .object _ => failType "toPrimitive"
      | primitive => return primitive
  | primitive => return primitive

/-- The number of a value. -/
def toNumber (machine : Machine) (value : Value) : Run Float := do
  match ← toPrimitive machine .number value with
  | .undefined => return 0.0 / 0.0
  | .null => return 0
  | .bool value => return if value then 1 else 0
  | .number value => return value
  | .text value => return readNumber value.chars
  | .bigInt _ => failType "cannot convert bigint to number"
  | .symbol _ => failType "cannot convert symbol to number"
  | .object _ => return 0.0 / 0.0

/-- The number or unbounded whole number of a value. -/
def toNumeric (machine : Machine) (value : Value) : Run Value := do
  match ← toPrimitive machine .number value with
  | .bigInt value => return .bigInt value
  | other => return .number (← toNumber machine other)

/-- The whole part of a value's number; zero when it has none. -/
def toInteger (machine : Machine) (value : Value) : Run Int :=
  return toPosition (← toNumber machine value)

/-- The text of a value that is no object. -/
def primitiveText (value : Value) : Run Units := do
  match value with
  | .undefined => return Units.ofString "undefined"
  | .null => return Units.ofString "null"
  | .bool value => return Units.ofString (if value then "true" else "false")
  | .number value => return Units.ofString (numberText value)
  | .bigInt value => return Units.ofString (Text.integerText value)
  | .text value => return value
  | .symbol _ | .object _ => failType "cannot convert symbol to string"

/-- The text of a value. -/
def toText (machine : Machine) (value : Value) : Run Units := do
  match value with
  | .text value => return value
  | .object _ => primitiveText (← toPrimitive machine .text value)
  | primitive => primitiveText primitive

/-- The key of a value. -/
def toKey (machine : Machine) (value : Value) : Run Key := do
  match value with
  | .text name => return .text name
  | .symbol id => return .symbol id
  | other =>
    match ← toPrimitive machine .text other with
    | .symbol id => return .symbol id
    | primitive => return .text (← primitiveText primitive)

/-- The object of a value; a primitive one is wrapped. -/
def toObject (value : Value) : Run Value := do
  match value with
  | .object _ => return value
  | .undefined | .null => failType "cannot convert to object"
  | primitive => allocate { prototype := baseOf primitive, kind := .wrapper primitive }

/-- The length of an array-like value. -/
def lengthOf (machine : Machine) (value : Value) : Run Nat := do
  let length := (← toInteger machine (← getProperty machine value lengthKey)).toNat
  return min length 0x1fffffffffffff

/-- The item of an array-like value at a position. -/
def itemAt (machine : Machine) (value : Value) (position : Nat) : Run Value :=
  getProperty machine value (indexKey position)

/-- The items of an array-like value. -/
def itemsOf (machine : Machine) (value : Value) : Run (List Value) := do
  match value with
  | .object cell =>
    match (← load cell).kind with
    | .array items => return items.toList.map fun item => item.getD .undefined
    | _ =>
      let length ← lengthOf machine value
      spend length
      (List.range length).mapM (itemAt machine value)
  | _ => return []

/-! ## Going through values -/

/-- Go through an iterator until it is done or the body gives a result; `fuel` bounds the
rounds. -/
def overIterator {Result : Type} (machine : Machine) (iterator next : Value)
    (body : Value → Run (Option Result)) : Nat → Run (Option Result)
  | 0 => throw .outOfSteps
  | fuel + 1 => do
    tick
    let round ← machine.call next iterator []
    unless round matches .object _ do failType "iterator must return an object"
    if (← getNamed machine round "done").truth then return none
    let value ← getNamed machine round "value"
    let close : Run Unit := do
      let finish ← getNamed machine iterator "return"
      unless finish.isNullish do
        let _ ← machine.call finish iterator []
    let result ←
      try body value
      catch halt =>
        match halt with
        | .thrown _ =>
          try close catch _ => pure ()
          throw halt
        | halt => throw halt
    match result with
    | some result =>
      close
      return some result
    | none => overIterator machine iterator next body fuel

/-- Go through the values that a value lists until the body gives a result. -/
def overValues {Result : Type} (machine : Machine) (values : Value)
    (body : Value → Run (Option Result)) : Run (Option Result) := do
  let method ← getProperty machine values WellKnown.iterator.key
  unless ← isCallable method do failType "value is not iterable"
  let iterator ← machine.call method values []
  unless iterator matches .object _ do failType "not an object"
  let next ← getNamed machine iterator "next"
  overIterator machine iterator next body ((← get).steps + 1)

/-- The values that a value lists. -/
def valuesOf (machine : Machine) (values : Value) : Run (List Value) := do
  let list ← newArray []
  match list with
  | .object cell =>
    let _ : Option Unit ← overValues machine values fun value => do
      putItem cell (match (← load cell).kind with
        | .array items => items.size
        | _ => 0) value
      return none
    itemsOf machine list
  | _ => return []

/-! ## Operators -/

/-- Remainder of numbers with the sign of the dividend. -/
def floatRemainder (left right : Float) : Float :=
  if left.isNaN || right.isNaN || left.isInf || right == 0 then 0.0 / 0.0
  else if right.isInf || left == 0 then left
  else
    let negative := left < 0
    match exactInt? left.abs, exactInt? right.abs with
    | some top, some bottom =>
      let value := floatOfInt (top % bottom)
      if negative then -value else value
    | _, _ =>
      let (top, bottom) := (binaryOf left).ratio
      let (top', bottom') := (binaryOf right).ratio
      floatOf (.ofRatio negative (top * bottom' % (top' * bottom)) (bottom * bottom'))

/-- A number to the power of another. -/
def floatPower (base power : Float) : Float :=
  if power.isNaN || (base.abs == 1 && power.isInf) then 0.0 / 0.0 else base.pow power

/-- Combine two whole numbers bit by bit, negative ones as if they had endless leading ones. -/
def bitwise (combine : Nat → Nat → Nat) (left right : Int) : Int :=
  let width := max left.natAbs.log2 right.natAbs.log2 + 2
  let bits (value : Int) : Nat := (value % (Nat.pow 2 width : Nat)).toNat
  let combined := combine (bits left) (bits right) % Nat.pow 2 width
  if Nat.pow 2 (width - 1) ≤ combined then (combined : Int) - (Nat.pow 2 width : Nat) else combined

/-- Arithmetic on numbers. -/
def numberArithmetic (operator : BinaryOp) (left right : Float) : Float :=
  let wordwise (combine : Nat → Nat → Nat) : Float :=
    floatOfInt (signedWord (combine (toWord left) (toWord right) % 0x100000000))
  let places := toWord right % 32
  match operator with
  | .add => left + right
  | .subtract => left - right
  | .multiply => left * right
  | .divide => left / right
  | .remainder => floatRemainder left right
  | .power => floatPower left right
  | .bitAnd => wordwise Nat.land
  | .bitOr => wordwise Nat.lor
  | .bitXor => wordwise Nat.xor
  | .shiftLeft => floatOfInt (signedWord (toWord left * Nat.pow 2 places % 0x100000000))
  | .shiftRight => floatOfInt ((signedWord (toWord left)).shiftRight places)
  | .shiftRightUnsigned => floatOfInt (toWord left / Nat.pow 2 places : Nat)
  | _ => 0.0 / 0.0

/-- The largest power and shift of an unbounded whole number. -/
def bigIntLimit : Int := 1000000

/-- Arithmetic on unbounded whole numbers. -/
def bigIntArithmetic (operator : BinaryOp) (left right : Int) : Run Value := do
  let shifted (value places : Int) : Run Value := do
    if bigIntLimit < places then fail .badRange "bigint too large"
    if 0 ≤ places then return .bigInt (value * (Nat.pow 2 places.toNat : Nat))
    return .bigInt (value.shiftRight (-places).toNat)
  match operator with
  | .add => return .bigInt (left + right)
  | .subtract => return .bigInt (left - right)
  | .multiply => return .bigInt (left * right)
  | .divide =>
    if right = 0 then fail .badRange "division by zero"
    return .bigInt (left.tdiv right)
  | .remainder =>
    if right = 0 then fail .badRange "division by zero"
    return .bigInt (left.tmod right)
  | .power =>
    if right < 0 then fail .badRange "bigint power: negative exponent"
    if bigIntLimit < right then fail .badRange "bigint too large"
    return .bigInt (Int.pow left right.toNat)
  | .bitAnd => return .bigInt (bitwise Nat.land left right)
  | .bitOr => return .bigInt (bitwise Nat.lor left right)
  | .bitXor => return .bigInt (bitwise Nat.xor left right)
  | .shiftLeft => shifted left right
  | .shiftRight => shifted left (-right)
  | _ => failType "bigint operands are forbidden for >>>"

/-- What an arithmetic operator makes of two values. -/
def arithmetic (machine : Machine) (operator : BinaryOp) (left right : Value) : Run Value := do
  let left ← toNumeric machine left
  match left, ← toNumeric machine right with
  | .number left, .number right => return .number (numberArithmetic operator left right)
  | .bigInt left, .bigInt right => bigIntArithmetic operator left right
  | _, _ => failType "cannot convert to bigint"

/-- The sum of two values, or one text behind the other. -/
def add (machine : Machine) (left right : Value) : Run Value := do
  let left ← toPrimitive machine .none left
  let right ← toPrimitive machine .none right
  if left matches .text _ || right matches .text _ then
    let left ← primitiveText left
    let right ← primitiveText right
    spend ((left.size + right.size) / 8)
    return .text (left ++ right)
  else arithmetic machine .add left right

/-- The order of a whole number and a number; none when there is none. -/
def compareMixed (left : Int) (right : Float) : Option Ordering :=
  if right.isNaN then none
  else if right.isInf then some (if right < 0 then .gt else .lt)
  else
    let (top, bottom) := (binaryOf right).ratio
    let signed : Int := if right < 0 then -top else top
    some (compare (left * bottom) signed)

/-- The order of two numbers; none when there is none. -/
def compareNumbers (left right : Float) : Option Ordering :=
  if left < right then some .lt
  else if right < left then some .gt
  else if left == right then some .eq
  else none

/-- The order of two values; none when there is none. -/
def compareValues (machine : Machine) (left right : Value) : Run (Option Ordering) := do
  let left ← toPrimitive machine .number left
  let right ← toPrimitive machine .number right
  match left, right with
  | .text left, .text right =>
    return some (if left.precedes right then .lt else if left == right then .eq else .gt)
  | left, right =>
    match ← toNumeric machine left, ← toNumeric machine right with
    | .bigInt left, .bigInt right => return some (compare left right)
    | .bigInt left, .number right => return compareMixed left right
    | .number left, .bigInt right => return (compareMixed right left).map Ordering.swap
    | .number left, .number right => return compareNumbers left right
    | _, _ => return none

/-- Equality of values that may be of different kinds; `depth` bounds the conversions. -/
def looselyEqual (machine : Machine) : Nat → Value → Value → Run Bool
  | 0, _, _ => return false
  | depth + 1, left, right => do
    match left, right with
    | .undefined, .null | .null, .undefined => return true
    | .undefined, _ | _, .undefined | .null, _ | _, .null =>
      return left.isNullish && right.isNullish
    | .object left, .object right => return left == right
    | .object _, right => looselyEqual machine depth (← toPrimitive machine .none left) right
    | left, .object _ => looselyEqual machine depth left (← toPrimitive machine .none right)
    | .bool left, .bool right => return left == right
    | .bool left, right =>
      looselyEqual machine depth (.number (if left then 1 else 0)) right
    | left, .bool right =>
      looselyEqual machine depth left (.number (if right then 1 else 0))
    | .number left, .text right => return left == readNumber right.chars
    | .text left, .number right => return readNumber left.chars == right
    | .bigInt left, .number right | .number right, .bigInt left =>
      return compareMixed left right == some .eq
    | .bigInt left, .text right | .text right, .bigInt left =>
      return readBigInt? right.chars == some left
    | left, right => return left.isSame right

/-- An object has another one among its prototypes; `depth` bounds those. -/
def hasPrototype (parent : Cell) : Nat → Cell → Run Bool
  | 0, _ => return false
  | depth + 1, cell => do
    match (← load cell).prototype with
    | some next => if next == parent then return true else hasPrototype parent depth next
    | none => return false

/-- A value is an instance of what a function constructs. -/
def isInstance (machine : Machine) (value callee : Value) : Run Bool := do
  let callee ←
    match callee with
    | .object cell =>
      match (← load cell).kind with
      | .bound target _ _ => pure target
      | _ => pure callee
    | other => pure other
  unless ← isCallable callee do failType "invalid 'instanceof' right operand"
  match value, ← getNamed machine callee "prototype" with
  | .object cell, .object parent => hasPrototype parent prototypeDepth cell
  | .object _, _ => failType "operand 'prototype' property is not an object"
  | _, _ => return false

/-- A value has a property of a name. -/
def hasProperty (machine : Machine) (key target : Value) : Run Bool := do
  match target with
  | .object cell => return (← findProperty (← toKey machine key) prototypeDepth cell).isSome
  | _ => failType "invalid 'in' operand"

/-- What an operator makes of its operands. -/
def operate (machine : Machine) (operator : BinaryOp) (left right : Value) : Run Value := do
  let ordered (holds : Ordering → Bool) : Run Value :=
    return .bool ((← compareValues machine left right).any holds)
  match operator with
  | .add =>
    match left, right with
    | .number left, .number right => return .number (left + right)
    | left, right => add machine left right
  | .equal => return .bool (← looselyEqual machine 8 left right)
  | .unequal => return .bool (!(← looselyEqual machine 8 left right))
  | .same => return .bool (left.isSame right)
  | .different => return .bool (!left.isSame right)
  | .less => ordered (· == .lt)
  | .lessEqual => ordered (· != .gt)
  | .greater => ordered (· == .gt)
  | .greaterEqual => ordered (· != .lt)
  | .instanceOf => return .bool (← isInstance machine left right)
  | .within => return .bool (← hasProperty machine left right)
  | operator =>
    match left, right with
    | .number left, .number right => return .number (numberArithmetic operator left right)
    | left, right => arithmetic machine operator left right

/-- What an operator in front makes of its operand. -/
def operateUnary (machine : Machine) (operator : UnaryOp) (operand : Value) : Run Value := do
  match operator with
  | .plus => return .number (← toNumber machine operand)
  | .minus =>
    match ← toNumeric machine operand with
    | .bigInt value => return .bigInt (-value)
    | .number value => return .number (-value)
    | _ => return .undefined
  | .invert =>
    match ← toNumeric machine operand with
    | .bigInt value => return .bigInt (-value - 1)
    | .number value => return .number (floatOfInt (-(signedWord (toWord value)) - 1))
    | _ => return .undefined
  | .not => return .bool (!operand.truth)
  | .void => return .undefined
  | .typeOf => return .ofString (← typeName operand)

end Run

end ConfigDelivery.Script.JavaScript
