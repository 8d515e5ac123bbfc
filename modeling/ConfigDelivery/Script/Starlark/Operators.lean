import ConfigDelivery.Script.Starlark.Writing
/-!
# Operators of Starlark

What operators, subscripts and slices make of values. Whole numbers are unbounded
and divided toward the floor.
-/

namespace ConfigDelivery.Script.Starlark

namespace BinaryOp

/-- How an operator is written. -/
def symbol : BinaryOp → String
  | add => "+"
  | subtract => "-"
  | multiply => "*"
  | divide => "/"
  | floorDivide => "//"
  | remainder => "%"
  | bitAnd => "&"
  | bitOr => "|"
  | bitXor => "^"
  | shiftLeft => "<<"
  | shiftRight => ">>"
  | equal => "=="
  | unequal => "!="
  | less => "<"
  | lessEqual => "<="
  | greater => ">"
  | greaterEqual => ">="
  | within => "in"
  | notWithin => "not in"

end BinaryOp

/-- Combine two whole numbers bit by bit, negative ones as if they had endless leading ones. -/
def bitwise (combine : Nat → Nat → Nat) (left right : Int) : Int :=
  let width := max left.natAbs.log2 right.natAbs.log2 + 2
  let bits (value : Int) : Nat := (value % (Nat.pow 2 width : Nat)).toNat
  let combined := combine (bits left) (bits right) % Nat.pow 2 width
  if Nat.pow 2 (width - 1) ≤ combined then (combined : Int) - (Nat.pow 2 width : Nat) else combined

/-- The largest number of places that a number is shifted to the left. -/
def shiftLimit : Int := 100000

namespace Run

/-- The failure of an operator on values that it is not for. -/
def unsupported {Result : Type} (operator : BinaryOp) (left right : Value) : Run Result :=
  fail ("Operation `" ++ operator.symbol ++ "` not supported for types `" ++ left.typeName
    ++ "` and `" ++ right.typeName ++ "`")

/-- Repeat the items of a list; a negative count is none. -/
def repeated {Item : Type} (items : List Item) (count : Int) : Run (List Item) := do
  spend (items.length * count.toNat)
  return (List.replicate count.toNat items).flatten

/-- Arithmetic on whole numbers. -/
def wholeArithmetic (operator : BinaryOp) (left right : Int) : Run Value := do
  match operator with
  | .add => return .int (left + right)
  | .subtract => return .int (left - right)
  | .multiply => return .int (left * right)
  | .divide =>
    if right = 0 then fail "Division by zero"
    let ratio := ((Value.int left).toFloat?.getD 0) / ((Value.int right).toFloat?.getD 1)
    return .float ratio
  | .floorDivide =>
    if right = 0 then fail "Division by zero"
    return .int (left.fdiv right)
  | .remainder =>
    if right = 0 then fail "Division by zero"
    return .int (left.fmod right)
  | .bitAnd => return .int (bitwise Nat.land left right)
  | .bitOr => return .int (bitwise Nat.lor left right)
  | .bitXor => return .int (bitwise Nat.xor left right)
  | .shiftLeft =>
    if right < 0 then fail "Negative shift"
    if shiftLimit < right then fail "Integer overflow"
    return .int (left * (Nat.pow 2 right.toNat : Nat))
  | .shiftRight =>
    if right < 0 then fail "Negative shift"
    return .int (left.shiftRight right.toNat)
  | other => unsupported other (.int left) (.int right)

/-- Arithmetic on floats. -/
def floatArithmetic (operator : BinaryOp) (left right : Float) : Run Value := do
  match operator with
  | .add => return .float (left + right)
  | .subtract => return .float (left - right)
  | .multiply => return .float (left * right)
  | .divide =>
    if right == 0 then fail "Division by zero"
    return .float (left / right)
  | .floorDivide =>
    if right == 0 then fail "Division by zero"
    return .float (left / right).floor
  | .remainder =>
    if right == 0 then fail "Division by zero"
    return .float (left - right * (left / right).floor)
  | other => unsupported other (.float left) (.float right)

/-- A value occurs in another one. -/
def occurs (item container : Value) : Run Bool := do
  match item, container with
  | .text part, .text whole => return part.isEmpty || (whole.splitOn part).length != 1
  | item, .list cell => (← itemsOf cell).anyM (areEqual item ·)
  | item, .tuple items => items.anyM (areEqual item ·)
  | item, .dict cell => return (← findEntry (← entriesOf cell) item).isSome
  | .int value, .range start stop step =>
    let offset := value - start
    return offset % step = 0 && 0 ≤ offset / step
      && offset / step < Value.rangeLength start stop step
  | item, container => unsupported .within item container

/-- What an operator makes of its operands. -/
def operate (operator : BinaryOp) (left right : Value) : Run Value := do
  match operator with
  | .equal => return .bool (← areEqual left right)
  | .unequal => return .bool (!(← areEqual left right))
  | .less => return .bool ((← order left right) == .lt)
  | .lessEqual => return .bool ((← order left right) != .gt)
  | .greater => return .bool ((← order left right) == .gt)
  | .greaterEqual => return .bool ((← order left right) != .lt)
  | .within => return .bool (← occurs left right)
  | .notWithin => return .bool (!(← occurs left right))
  | operator =>
    match operator, left, right with
    | operator, .int left, .int right => wholeArithmetic operator left right
    | .add, .text left, .text right =>
      spend (right.length / 8)
      return .text (left ++ right)
    | .add, .tuple left, .tuple right => return .tuple (left ++ right)
    | .add, .list left, .list right => newList ((← itemsOf left) ++ (← itemsOf right))
    | .multiply, .text text, .int count | .multiply, .int count, .text text =>
      return .text (String.ofList (← repeated text.toList count))
    | .multiply, .tuple items, .int count | .multiply, .int count, .tuple items =>
      return .tuple (← repeated items count)
    | .multiply, .list cell, .int count | .multiply, .int count, .list cell =>
      newList (← repeated (← itemsOf cell).toList count).toArray
    | .remainder, .text template, value => return .text (← percentText template value)
    | .bitOr, .dict left, .dict right =>
      let entries ← (← entriesOf right).foldlM
        (fun entries (key, value) => putEntry entries key value) (← entriesOf left)
      newDict entries
    | operator, left, right =>
      match left.toFloat?, right.toFloat? with
      | some left, some right => floatArithmetic operator left right
      | _, _ => unsupported operator left right

/-- What a sign makes of its operand. -/
def operateUnary (operator : UnaryOp) (operand : Value) : Run Value := do
  match operator, operand with
  | .not, operand => return .bool (!(← isTrue operand))
  | .plus, .int value => return .int value
  | .plus, .float value => return .float value
  | .minus, .int value => return .int (-value)
  | .minus, .float value => return .float (-value)
  | .invert, .int value => return .int (-value - 1)
  | _, operand => fail ("Operation not supported on type `" ++ operand.typeName ++ "`")

/-- The position that an index means in a sequence; a negative one counts from the end. -/
def positionOf (length : Nat) (index : Value) : Run Nat := do
  match index with
  | .int index =>
    let position := if index < 0 then index + length else index
    if position < 0 ∨ (length : Int) ≤ position then
      fail ("Index `" ++ Text.integerText index ++ "` is out of bound")
    return position.toNat
  | other => fail ("Type of parameters mismatch, expected `int`, actual `" ++ other.typeName ++ "`")

/-- The value at an index or key. -/
def indexed (target key : Value) : Run Value := do
  match target with
  | .list cell =>
    let items ← itemsOf cell
    return items.getD (← positionOf items.size key) .none
  | .tuple items => return items.getD (← positionOf items.length key) .none
  | .text text =>
    let characters := text.toList
    return .text (String.singleton (characters.getD (← positionOf characters.length key) ' '))
  | .range start stop step =>
    return .int (start + step * (← positionOf (Value.rangeLength start stop step) key))
  | .dict cell =>
    match ← findEntry (← entriesOf cell) key with
    | some value => return value
    | none => fail ("Key `" ++ (← reprOf key) ++ "` was not found")
  | other => fail ("Operation `[]` not supported on type `" ++ other.typeName ++ "`")

/-- Replace the value at an index or key. -/
def setIndexed (target key value : Value) : Run Unit := do
  match target with
  | .list cell =>
    let position ← positionOf (← itemsOf cell).size key
    changeItems cell fun items => items.setIfInBounds position value
  | .dict cell =>
    let entries ← putEntry (← entriesOf cell) key value
    changeEntries cell fun _ => entries
  | other => fail ("Immutable value of type `" ++ other.typeName ++ "`")

/-- An optional whole number of a slice. -/
def bound? (value : Option Value) : Run (Option Int) := do
  match value with
  | none | some .none => return none
  | some (.int value) => return some value
  | some other => fail ("Expected `int`, got `" ++ other.typeName ++ "`")

end Run

/-- The positions that a slice takes from a sequence. -/
def slicePositions (length : Nat) (low high : Option Int) (step : Int) : List Nat :=
  let place (least most : Int) (bound : Int) : Int :=
    max least (min most (if bound < 0 then bound + length else bound))
  if 0 < step then
    let start := place 0 length (low.getD 0)
    let stop := place 0 length (high.getD length)
    (List.range (Value.rangeLength start stop step)).map fun index =>
      (start + step * (index : Nat)).toNat
  else
    let start := (low.map (place (-1) (length - 1))).getD (length - 1)
    let stop := (high.map (place (-1) (length - 1))).getD (-1)
    (List.range (Value.rangeLength start stop step)).map fun index =>
      (start + step * (index : Nat)).toNat

namespace Run

/-- A slice of a sequence. -/
def sliced (target : Value) (low high step : Option Value) : Run Value := do
  let low ← bound? low
  let high ← bound? high
  let step := (← bound? step).getD 1
  if step = 0 then fail "Third argument of range (step) cannot be null"
  let take {Item : Type} (items : Array Item) : List Item :=
    (slicePositions items.size low high step).filterMap fun position => items[position]?
  match target with
  | .list cell => newList (take (← itemsOf cell)).toArray
  | .tuple items => return .tuple (take items.toArray)
  | .text text => return .text (String.ofList (take text.toList.toArray))
  | .range start stop rangeStep =>
    let count := Value.rangeLength start stop rangeStep
    match slicePositions count low high step with
    | [] => return .range 0 0 1
    | first :: rest =>
      let first : Int := start + rangeStep * (first : Nat)
      let stride := rangeStep * step
      return .range first (first + stride * (rest.length + 1 : Nat)) stride
  | other => fail ("Operation `[::]` not supported on type `" ++ other.typeName ++ "`")

end Run

end ConfigDelivery.Script.Starlark
