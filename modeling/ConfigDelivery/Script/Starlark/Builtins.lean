import ConfigDelivery.Script.Starlark.Methods
/-!
# Built-in functions of Starlark

The functions and constants that every program can name. A function that takes
another one as a key calls it through the parameter `call`.
-/

namespace ConfigDelivery.Script.Starlark

open ConfigDelivery.Decimal (Binary64)

/-- The names of the built-in functions. -/
def builtins : List String :=
  ["abs", "all", "any", "bool", "chr", "dict", "dir", "enumerate", "fail", "float", "getattr",
    "hasattr", "hash", "int", "len", "list", "max", "min", "ord", "range", "repr", "reversed",
    "sorted", "str", "tuple", "type", "zip"]

/-- The value of a name that no scope binds. -/
def globalValue? (name : String) : Option Value :=
  match name with
  | "None" => some .none
  | "True" => some (.bool true)
  | "False" => some (.bool false)
  | "json" => some .json
  | name => if builtins.contains name then some (.builtin name) else none

/-- Read a text as a float. -/
def readFloat? (text : String) : Option Float :=
  let (negative, digits) := Json.powerSign text.toList
  let signed (number : Binary64) : Float :=
    let value := Float.ofBits number.bits
    if negative then -value else value
  match (String.ofList digits).toLower with
  | "inf" | "infinity" => some (signed (.infinity false))
  | "nan" => some (0 / 0)
  | _ =>
    if digits.head?.any fun character => Json.isDigit character || character == '.' then
      let significant := digits.dropWhile (· == '0')
      let numeral := if significant.head?.any Json.isDigit then significant else '0' :: significant
      match readNumeral? numeral with
      | some (.integer value, []) => some (signed (Binary64.ofInt value))
      | some (.float value, []) => some (signed value)
      | _ => none
    else none

/-- Read a text as a whole number in a base; base zero is told by the digits. -/
def readWhole? (base : Nat) (text : String) : Option Int := do
  let (negative, digits) := Json.powerSign text.toList
  let (named, rest) :=
    match digits with
    | '0' :: 'x' :: rest | '0' :: 'X' :: rest => (16, rest)
    | '0' :: 'o' :: rest | '0' :: 'O' :: rest => (8, rest)
    | '0' :: 'b' :: rest | '0' :: 'B' :: rest => (2, rest)
    | _ => (0, digits)
  let (base, digits) :=
    if named ≠ 0 ∧ (base = 0 ∨ base = named) then (named, rest)
    else (if base = 0 then 10 else base, digits)
  let value ← digitsOf? base digits
  return if negative then -(value : Int) else value
where
  /-- The value of digits and letters in a base. -/
  digitsOf? (base : Nat) (digits : List Char) : Option Nat :=
    if digits.isEmpty then none
    else
      digits.foldlM (fun value digit =>
        let next :=
          if Json.isDigit digit then digit.toNat - '0'.toNat
          else if digit.isAlpha then digit.toLower.toNat - 'a'.toNat + 10
          else base
        if next < base then some (value * base + next) else none) 0

/-- A text's hash: a polynomial of its UTF-16 units in 31, as a signed 32-bit number. -/
def textHash (text : String) : Int :=
  let units (character : Char) : List Nat :=
    let code := character.toNat
    if code < 0x10000 then [code]
    else [0xd800 + (code - 0x10000) / 0x400, 0xdc00 + (code - 0x10000) % 0x400]
  let step (hash unit : Nat) : Nat := (hash * 31 + unit) % 0x100000000
  let hash := (text.toList.flatMap units).foldl step 0
  if 0x80000000 ≤ hash then (hash : Int) - 0x100000000 else hash

namespace Run

/-- The length of a value that has one. -/
def lengthOf (value : Value) : Run Nat := do
  match value with
  | .text text => return text.length
  | .tuple items => return items.length
  | .list cell => return (← itemsOf cell).size
  | .dict cell => return (← entriesOf cell).size
  | .range start stop step => return Value.rangeLength start stop step
  | other => fail ("Operation `len()` not supported on type `" ++ other.typeName ++ "`")

/-- The key of every item, by a function if there is one. -/
def keysOf (call : Value → Arguments → Run Value) (named : List (String × Value))
    (items : List Value) : Run (List (Value × Value)) := do
  match named.find? (·.1 == "key") with
  | some (_, .none) | none => return items.map fun item => (item, item)
  | some (_, function) => items.mapM fun item => return (← call function ⟨[item], []⟩, item)

/-- All keys can be compared with the first. -/
def checkOrder (keyed : List (Value × Value)) : Run Unit := do
  match keyed with
  | [] => return
  | (first, _) :: rest => rest.forM fun (key, _) => do let _ ← order first key

/-- The first of the values that no other one precedes in an order. -/
def extreme (call : Value → Arguments → Run Value) (better : Ordering) (arguments : Arguments) :
    Run Value := do
  let items ←
    match arguments.positional with
    | [value] => pure (← iterated value).toList
    | items => pure items
  match ← keysOf call arguments.named items with
  | [] => fail "Argument is an empty iterable"
  | first :: rest =>
    let best ← rest.foldlM (fun best next => do
      return if (← order next.1 best.1) == better then next else best) first
    return best.2

/-- The items of a value in ascending or descending order; equal ones stay as they are. -/
def sorted (call : Value → Arguments → Run Value) (arguments : Arguments) : Run Value := do
  let items ← iterated (← positionals "sorted" 1 1 ⟨arguments.positional, []⟩)[0]!
  let keyed ← keysOf call arguments.named items.toList
  checkOrder keyed
  let descends ←
    match arguments.named.find? (·.1 == "reverse") with
    | some (_, flag) => isTrue flag
    | none => pure false
  let objects := (← get).objects
  let before (left right : Value × Value) : Bool :=
    let (left, right) := if descends then (right, left) else (left, right)
    Value.compare? objects valueDepth left.1 right.1 != some .gt
  newList ((keyed.mergeSort before).map Prod.snd).toArray

/-- The rows of the columns that values list; the shortest ends them. -/
def zipped : List (List Value) → List Value
  | [] => []
  | first :: rest =>
    rest.foldl (fun rows column => (rows.zip column).map fun (row, item) =>
      match row with
      | .tuple items => .tuple (items ++ [item])
      | other => other) (first.map fun item => .tuple [item])

/-- A whole number from a text, number or truth value. -/
def toWhole (arguments : List Value) : Run Value := do
  match arguments with
  | [] => return .int 0
  | .text text :: rest =>
    let base ←
      match rest with
      | [] => pure 10
      | base :: _ => expectInt base
    match readWhole? base.toNat text with
    | some value => return .int value
    | none => fail ("Cannot parse `" ++ text ++ "` as an integer")
  | .int value :: _ => return .int value
  | .bool value :: _ => return .int (if value then 1 else 0)
  | .float value :: _ =>
    let number : Binary64 := ⟨value.toBits⟩
    if number.isFinite then return .int number.truncated
    else fail "Cannot convert a float that is not finite to an integer"
  | other :: _ => fail ("Cannot convert `" ++ other.typeName ++ "` to an integer")

/-- A float from a text, number or truth value. -/
def toFloat (arguments : List Value) : Run Value := do
  match arguments with
  | [] => return .float 0
  | .text text :: _ =>
    match readFloat? text with
    | some value => return .float value
    | none => fail ("Cannot parse `" ++ text ++ "` as a float")
  | .bool value :: _ => return .float (if value then 1 else 0)
  | value :: _ =>
    match value.toFloat? with
    | some value => return .float value
    | none => fail ("Cannot convert `" ++ value.typeName ++ "` to a float")

/-- A range from its bounds. -/
def newRange (arguments : List Value) : Run Value := do
  match ← arguments.mapM expectInt with
  | [stop] => return .range 0 stop 1
  | [start, stop] => return .range start stop 1
  | [start, stop, step] =>
    if step = 0 then fail "Third argument of range (step) cannot be null"
    return .range start stop step
  | _ => fail "Wrong number of arguments of range"

/-- Call a built-in function. -/
def callBuiltin (call : Value → Arguments → Run Value) (name : String) (arguments : Arguments) :
    Run Value := do
  let take (least most : Nat) : Run (List Value) := positionals name least most arguments
  let one : Run Value := return (← take 1 1).getD 0 .none
  match name with
  | "abs" =>
    match ← one with
    | .int value => return .int value.natAbs
    | .float value => return .float value.abs
    | other => fail ("Cannot take the absolute value of `" ++ other.typeName ++ "`")
  | "all" => return .bool (← (← iterated (← one)).allM isTrue)
  | "any" => return .bool (← (← iterated (← one)).anyM isTrue)
  | "bool" => return .bool (← isTrue ((← take 0 1).getD 0 .none))
  | "chr" =>
    match charOf? (← expectInt (← one)).toNat with
    | some character => return .text (String.singleton character)
    | none => fail "Code point out of range"
  | "dict" => newDict (← withEntries #[] arguments)
  | "dir" => newList ((← one).attributes.map Value.text).toArray
  | "enumerate" =>
    let arguments ← take 1 2
    let start ← expectInt (arguments.getD 1 (.int 0))
    let items ← iterated (arguments.getD 0 .none)
    newList (items.mapIdx fun index item => .tuple [.int (start + index), item])
  | "fail" =>
    let parts ← arguments.positional.mapM textOf
    fail ("fail: " ++ String.intercalate " " parts)
  | "float" => toFloat (← take 0 1)
  | "getattr" =>
    let arguments ← take 2 3
    let target := arguments.getD 0 .none
    let attributeName := String.ofList (← expectText (arguments.getD 1 .none))
    match arguments[2]? with
    | some default =>
      if target.attributes.contains attributeName then memberOf target attributeName
      else return default
    | none => memberOf target attributeName
  | "hasattr" =>
    let arguments ← take 2 2
    let attributeName := String.ofList (← expectText (arguments.getD 1 .none))
    return .bool ((arguments.getD 0 .none).attributes.contains attributeName)
  | "hash" => return .int (textHash (String.ofList (← expectText (← one))))
  | "int" =>
    match arguments.named with
    | [("base", base)] => toWhole (arguments.positional ++ [base])
    | _ => toWhole (← take 0 2)
  | "len" => return .int (← lengthOf (← one))
  | "list" =>
    match ← take 0 1 with
    | [] => newList #[]
    | value :: _ => newList (← iterated value)
  | "max" => extreme call .gt arguments
  | "min" => extreme call .lt arguments
  | "ord" =>
    match ← expectText (← one) with
    | [character] => return .int character.toNat
    | _ => fail "Expected a text of one character"
  | "range" => newRange (← take 1 3)
  | "repr" => return .text (← reprOf (← one))
  | "reversed" => newList (← iterated (← one)).reverse
  | "sorted" => sorted call arguments
  | "str" => return .text (← textOf (← one))
  | "tuple" =>
    match ← take 0 1 with
    | [] => return .tuple []
    | value :: _ => return .tuple (← iterated value).toList
  | "type" => return .text (← one).typeName
  | "zip" =>
    unless arguments.named.isEmpty do fail "Unexpected named argument of `zip`"
    let columns ← arguments.positional.mapM fun value => return (← iterated value).toList
    newList (zipped columns).toArray
  | "json.decode" =>
    ofJsonText (String.ofList (← expectText (← one)))
  | "json.encode" =>
    match ← jsonOf (← one) with
    | .ok text => return .text text
    | .error reason => fail reason
  | other => fail ("Unknown function `" ++ other ++ "`")

end Run

end ConfigDelivery.Script.Starlark
