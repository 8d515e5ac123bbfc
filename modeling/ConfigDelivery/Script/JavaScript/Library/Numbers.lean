import ConfigDelivery.Script.JavaScript.Library.Texts
/-!
# Built-in functions on numbers and other primitive values

What `Number`, `Math`, `Boolean`, `Symbol`, `BigInt`, the methods of their values and
the functions that every script can name do.
-/

namespace ConfigDelivery.Script.JavaScript.Library

open ConfigDelivery.Text (Units)
open Run

/-- The number that is none. -/
def notANumber : Float := 0.0 / 0.0

/-- Call a function that every script can name. -/
def callGlobal (machine : Machine) (name : String) (arguments : List Value) : Run Value := do
  let first := argument arguments 0
  match name with
  | "parseInt" =>
    let text ← toText machine first
    let base := signedWord (toWord (← toNumber machine (argument arguments 1)))
    return .number (readWhole base text.chars)
  | "parseFloat" =>
    let text ← toText machine first
    match readSigned? (trimmed text.chars) with
    | some (value, _) => return .number value
    | none => return .number notANumber
  | "isNaN" => return .bool (← toNumber machine first).isNaN
  | _ => return .bool (← toNumber machine first).isFinite

/-- The unbounded whole number of a value. -/
def toBigInt (machine : Machine) (value : Value) : Run Value := do
  match ← toPrimitive machine .number value with
  | .bigInt value => return .bigInt value
  | .bool value => return .bigInt (if value then 1 else 0)
  | .number value =>
    if value.floor == value && value.isFinite then
      return .bigInt (binaryOf value).truncated
    else fail .badRange "cannot convert to BigInt: not an integer"
  | .text text =>
    match readBigInt? text.chars with
    | some value => return .bigInt value
    | none => fail .badSyntax "invalid bigint literal"
  | _ => failType "cannot convert to BigInt"

/-- Call a function of `Number`, `Boolean` or `BigInt`. -/
def callNumber (machine : Machine) (name : String) (arguments : List Value) : Run Value := do
  let first := argument arguments 0
  let test (holds : Float → Bool) : Run Value :=
    match first with
    | .number value => return .bool (holds value)
    | _ => return .bool false
  match name with
  | "isNaN" => test Float.isNaN
  | "isFinite" => test Float.isFinite
  | "isInteger" => test fun value => value.isFinite && value.floor == value
  | "isSafeInteger" => test fun value => (exactInt? value).isSome
  | "Boolean" => return .bool first.truth
  | "BigInt" => toBigInt machine first
  | "asIntN" | "asUintN" =>
    let bits := (← toInteger machine first).toNat
    match ← toBigInt machine (argument arguments 1) with
    | .bigInt value =>
      let wrapped := value % (Nat.pow 2 bits : Nat)
      let high := name == "asIntN" && 0 < bits && (Nat.pow 2 (bits - 1) : Nat) ≤ wrapped
      return .bigInt (if high then wrapped - (Nat.pow 2 bits : Nat) else wrapped)
    | other => return other
  | _ =>
    match arguments with
    | [] => return .number 0
    | value :: _ =>
      match ← toNumeric machine value with
      | .bigInt value => return .number (floatOfInt value)
      | other => return other

/-- The number that a method of numbers works on. -/
def numberReceiver (receiver : Value) : Run Float := do
  match receiver with
  | .number value => return value
  | .object cell =>
    match (← load cell).kind with
    | .wrapper (.number value) => return value
    | _ => failType "not a number"
  | _ => failType "not a number"

/-- A number with a count of digits in front of a power of ten. -/
def exponentialText (number : Float) (places : Option Nat) : String :=
  let binary := binaryOf number
  let sign := if number < 0 then ['-'] else []
  let (digits, power) : List Char × Int :=
    match places with
    | some places => binary.significant .up (places + 1)
    | none =>
      if binary.mantissa = 0 then (['0'], 0)
      else
        let shortest := binary.shortest
        (shortest.digitChars, shortest.pointPlace - 1)
  let mantissa :=
    match digits with
    | digit :: next :: rest => digit :: '.' :: next :: rest
    | digits => digits
  String.ofList (sign ++ mantissa ++ 'e' :: (if power < 0 then '-' else '+')
    :: Text.natDigits power.natAbs)

/-- A number with a count of digits. -/
def precisionText (number : Float) (count : Nat) : String :=
  let (digits, power) := (binaryOf number).significant .up count
  if power < -6 ∨ (count : Int) ≤ power then exponentialText number (some (count - 1))
  else
    let sign := if number < 0 then ['-'] else []
    let body :=
      if power < 0 then '0' :: '.' :: (Decimal.zeros (-power - 1).toNat ++ digits)
      else if power.toNat + 1 < digits.length then
        digits.take (power.toNat + 1) ++ '.' :: digits.drop (power.toNat + 1)
      else digits
    String.ofList (sign ++ body)

/-- Call a method of numbers. -/
def callNumberPrototype (machine : Machine) (name : String) (receiver : Value)
    (arguments : List Value) : Run Value := do
  let number ← numberReceiver receiver
  let first := argument arguments 0
  let digits (least most : Nat) : Run Nat := do
    let count ← toInteger machine first
    if count < least ∨ most < count then fail .badRange "invalid number of digits"
    return count.toNat
  match name with
  | "valueOf" => return .number number
  | "toString" =>
    let base ← if first matches .undefined then pure 10 else toInteger machine first
    if base < 2 ∨ 36 < base then fail .badRange "radix must be between 2 and 36"
    return .ofString (numberTextIn base.toNat number)
  | "toFixed" =>
    let places ← digits 0 100
    if 1e21 ≤ number.abs || number.isNaN then return .ofString (numberText number)
    let text := (binaryOf number).fixedChars .up places
    let isZero := text.all fun character => character == '0' || character == '.'
    return .ofString (String.ofList (if number < 0 && !isZero then '-' :: text else text))
  | "toExponential" =>
    if !number.isFinite then return .ofString (numberText number)
    let places ← if first matches .undefined then pure none else pure (some (← digits 0 100))
    return .ofString (exponentialText number places)
  | "toPrecision" =>
    if first matches .undefined then return .ofString (numberText number)
    if !number.isFinite then return .ofString (numberText number)
    return .ofString (precisionText number (← digits 1 100))
  | _ => return .ofString (numberText number)

/-- Call a method of truth values, symbols or unbounded whole numbers. -/
def callPrimitivePrototype (machine : Machine) (name : String) (receiver : Value)
    (arguments : List Value) : Run Value := do
  let primitive ←
    match receiver with
    | .object cell =>
      match (← load cell).kind with
      | .wrapper primitive => pure primitive
      | _ => failType "not a primitive value"
    | primitive => pure primitive
  match name, primitive with
  | "description", .symbol id =>
    match ((← get).symbols[id]?).join with
    | some description => return .text description
    | none => return .undefined
  | "toString", .symbol _ => callText machine "String" [primitive]
  | "toString", .bigInt value =>
    let base ←
      match argument arguments 0 with
      | .undefined => pure 10
      | base => toInteger machine base
    if base < 2 ∨ 36 < base then fail .badRange "radix must be between 2 and 36"
    let digits := Nat.toDigits base.toNat value.natAbs
    return .ofString (String.ofList (if value < 0 then '-' :: digits else digits))
  | "toString", primitive | "toLocaleString", primitive => return .text (← primitiveText primitive)
  | _, primitive => return primitive

/-- The number nearest to another one that is whole; of two equally near the greater. -/
def roundedNumber (value : Float) : Float :=
  if !value.isFinite || 4503599627370496 ≤ value.abs then value
  else
    let floor := value.floor
    let rounded := if 0.5 ≤ value - floor then floor + 1 else floor
    if rounded == 0 && (value < 0 || value.toBits == (-0.0 : Float).toBits) then -0.0 else rounded

/-- Call a function of `Math`. -/
def callMath (machine : Machine) (name : String) (arguments : List Value) : Run Value := do
  let numbers ← arguments.mapM (toNumber machine)
  let first := numbers.getD 0 notANumber
  let second := numbers.getD 1 notANumber
  let extreme (start : Float) (better : Float → Float → Bool) : Float :=
    numbers.foldl (fun best next =>
      if best.isNaN || next.isNaN then notANumber
      else if better next best then next else best) start
  let isNegativeZero (value : Float) : Bool := value.toBits == (-0.0 : Float).toBits
  match name with
  | "abs" => return .number first.abs
  | "floor" => return .number first.floor
  | "ceil" => return .number first.ceil
  | "round" => return .number (roundedNumber first)
  | "trunc" => return .number (if first < 0 then first.ceil else first.floor)
  | "sign" =>
    return .number (if 0 < first then 1 else if first < 0 then -1 else first)
  | "sqrt" => return .number first.sqrt
  | "cbrt" => return .number first.cbrt
  | "exp" => return .number first.exp
  | "expm1" => return .number (first.exp - 1)
  | "log" => return .number first.log
  | "log1p" => return .number (1 + first).log
  | "log2" => return .number first.log2
  | "log10" => return .number first.log10
  | "sin" => return .number first.sin
  | "cos" => return .number first.cos
  | "tan" => return .number first.tan
  | "asin" => return .number first.asin
  | "acos" => return .number first.acos
  | "atan" => return .number first.atan
  | "sinh" => return .number first.sinh
  | "cosh" => return .number first.cosh
  | "tanh" => return .number first.tanh
  | "atan2" => return .number (Float.atan2 first second)
  | "pow" => return .number (floatPower first second)
  | "hypot" =>
    return .number (numbers.foldl (fun sum value => sum + value * value) 0).sqrt
  | "max" =>
    return .number (extreme (-1.0 / 0.0) fun next best =>
      best < next || next == best && isNegativeZero best)
  | "min" =>
    return .number (extreme (1.0 / 0.0) fun next best =>
      next < best || next == best && isNegativeZero next)
  | "imul" =>
    return .number (floatOfInt (signedWord (toWord first * toWord second % 0x100000000)))
  | "clz32" =>
    let word := toWord first
    return .ofNat (if word = 0 then 32 else 31 - word.log2)
  | "fround" => return .number first.toFloat32.toFloat
  | _ => return .number 0.5

/-- Call a function of `Symbol`. -/
def callSymbol (machine : Machine) (name : String) (arguments : List Value) : Run Value := do
  match name, argument arguments 0 with
  | "Symbol", .undefined => newSymbol none
  | _, description => newSymbol (some (← toText machine description))

end ConfigDelivery.Script.JavaScript.Library
