import ConfigDelivery.Script.Starlark.Tree
/-!
# Starlark values and memory

Numbers, texts and tuples are values; lists, dicts, functions and the variables of
a scope live in memory and are shared by reference. A run has a number of steps
that it may take.
-/

namespace ConfigDelivery.Script.Starlark

/-- A reference into memory. -/
abbrev Cell := Nat

/-- A value. Built-in functions and methods are known by name. -/
inductive Value where
  | none
  | bool (value : Bool)
  | int (value : Int)
  | float (value : Float)
  | text (value : String)
  | tuple (items : List Value)
  | range (start stop step : Int)
  | list (cell : Cell)
  | dict (cell : Cell)
  | function (cell : Cell)
  | builtin (name : String)
  | method (receiver : Value) (name : String)
  | json

instance : Inhabited Value := ⟨.none⟩

/-- A function with the values of its defaults, in the order of the optional parameters, and the
scopes around it, innermost first. -/
structure Closure where
  function : Function
  defaults : List Value
  scopes : List Cell

/-- What memory holds. Lists and dicts count the loops that go over them. -/
inductive Object where
  | list (items : Array Value) (loops : Nat)
  | dict (entries : Array (Value × Value)) (loops : Nat)
  | closure (closure : Closure)
  | scope (bindings : List (String × Option Value))

/-- Memory, the steps that are left, and the number of calls under way. -/
structure Memory where
  objects : Array Object := #[]
  steps : Nat
  calls : Nat := 0

/-- Why a run ends without a result. -/
inductive Halt where
  | failure (message : String)
  | outOfSteps

/-- A run that may change memory. -/
abbrev Run := EStateM Halt Memory

namespace Run

/-- End the run with a failure. -/
def fail {Result : Type} (message : String) : Run Result := throw (.failure message)

/-- Take a step. -/
def tick : Run Unit := fun memory =>
  if memory.steps = 0 then .error .outOfSteps memory
  else .ok () { memory with steps := memory.steps - 1 }

/-- Take as many steps as a value is long that is about to be built. -/
def spend (count : Nat) : Run Unit := fun memory =>
  if memory.steps < count then .error .outOfSteps { memory with steps := 0 }
  else .ok () { memory with steps := memory.steps - count }

/-- Put an object into memory. -/
def allocate (object : Object) : Run Cell := fun memory =>
  .ok memory.objects.size { memory with objects := memory.objects.push object }

/-- The object of a cell. -/
def load (cell : Cell) : Run Object := do
  return (← get).objects[cell]?.getD (.scope [])

/-- Replace the object of a cell. -/
def store (cell : Cell) (object : Object) : Run Unit :=
  modify fun memory => { memory with objects := memory.objects.setIfInBounds cell object }

/-- A new list. -/
def newList (items : Array Value) : Run Value := do
  spend (items.size / 8)
  return .list (← allocate (.list items 0))

/-- A new dict. -/
def newDict (entries : Array (Value × Value)) : Run Value :=
  return .dict (← allocate (.dict entries 0))

/-- The items of a list. -/
def itemsOf (cell : Cell) : Run (Array Value) := do
  match ← load cell with
  | .list items _ => return items
  | _ => return #[]

/-- The entries of a dict. -/
def entriesOf (cell : Cell) : Run (Array (Value × Value)) := do
  match ← load cell with
  | .dict entries _ => return entries
  | _ => return #[]

/-- Change the items of a list that no loop goes over. -/
def changeItems (cell : Cell) (change : Array Value → Array Value) : Run Unit := fun memory =>
  match memory.objects[cell]? with
  | some (.list items 0) =>
    let objects := memory.objects.setIfInBounds cell (.scope [])
    .ok () { memory with objects := objects.setIfInBounds cell (.list (change items) 0) }
  | _ => .error (.failure "This value cannot be changed while a loop goes over it") memory

/-- Change the entries of a dict that no loop goes over. -/
def changeEntries (cell : Cell) (change : Array (Value × Value) → Array (Value × Value)) :
    Run Unit := fun memory =>
  match memory.objects[cell]? with
  | some (.dict entries 0) =>
    let objects := memory.objects.setIfInBounds cell (.scope [])
    .ok () { memory with objects := objects.setIfInBounds cell (.dict (change entries) 0) }
  | _ => .error (.failure "This value cannot be changed while a loop goes over it") memory

/-- Begin or end a loop over a list or dict. -/
def countLoop (value : Value) (change : Nat → Nat) : Run Unit := do
  match value with
  | .list cell | .dict cell =>
    match ← load cell with
    | .list items loops => store cell (.list items (change loops))
    | .dict entries loops => store cell (.dict entries (change loops))
    | _ => return
  | _ => return

end Run

/-- How deep values inside values are followed. -/
def valueDepth : Nat := 1000

namespace Value

/-- The name of a value's type. -/
def typeName : Value → String
  | none => "NoneType"
  | bool _ => "bool"
  | int _ => "int"
  | float _ => "float"
  | text _ => "string"
  | tuple _ => "tuple"
  | range _ _ _ => "range"
  | list _ => "list"
  | dict _ => "dict"
  | function _ | builtin _ | method _ _ => "function"
  | json => "namespace"

/-- The number of integers in a range. -/
def rangeLength (start stop step : Int) : Nat :=
  if 0 < step then ((stop - start + step - 1) / step).toNat
  else ((start - stop - step - 1) / (-step)).toNat

/-- The integers of a range. -/
def rangeItems (start stop step : Int) : Array Value :=
  ((List.range (rangeLength start stop step)).map fun (index : Nat) =>
    int (start + step * index)).toArray

/-- A number as a float. -/
def toFloat? : Value → Option Float
  | int value => some (Float.ofBits (Decimal.Binary64.ofInt value).bits)
  | float value => some value
  | _ => Option.none

/-- A value can be a dict's key: nothing in it can change. -/
def isHashable : Value → Bool
  | list _ | dict _ => false
  | tuple items => allHashable items
  | _ => true
where
  /-- All values of a list can be keys. -/
  allHashable : List Value → Bool
    | [] => true
    | item :: rest => isHashable item && allHashable rest

/-- Equality; whole numbers equal floats of their value, and lists and dicts are compared by what
they hold. -/
def equal (objects : Array Object) : Nat → Value → Value → Bool
  | _, none, none => true
  | _, bool left, bool right => left == right
  | _, int left, int right => left == right
  | _, text left, text right => left == right
  | depth + 1, tuple left, tuple right =>
    left.length == right.length && (left.zip right).all fun (left, right) =>
      equal objects depth left right
  | _, range start stop step, range start' stop' step' =>
    let count := rangeLength start stop step
    count == rangeLength start' stop' step'
      && (count == 0 || start == start' && (count == 1 || step == step'))
  | depth + 1, list left, list right =>
    left == right ||
    match objects[left]?, objects[right]? with
    | some (.list left _), some (.list right _) =>
      left.size == right.size && (left.zip right).all fun (left, right) =>
        equal objects depth left right
    | _, _ => false
  | depth + 1, dict left, dict right =>
    left == right ||
    match objects[left]?, objects[right]? with
    | some (.dict left _), some (.dict right _) =>
      left.size == right.size && left.all fun (key, value) =>
        right.any fun (key', value') =>
          equal objects depth key key' && equal objects depth value value'
    | _, _ => false
  | _, function left, function right => left == right
  | _, builtin left, builtin right => left == right
  | _, json, json => true
  | _, left, right =>
    match left.toFloat?, right.toFloat? with
    | some left, some right => left == right
    | _, _ => false

/-- Order of two values; none when they have none. -/
def compare? (objects : Array Object) : Nat → Value → Value → Option Ordering
  | _, int left, int right => some (compare left right)
  | _, text left, text right => some (compare left right)
  | _, bool left, bool right => some (compare left.toNat right.toNat)
  | depth + 1, tuple left, tuple right => inOrder (compare? objects depth) left right
  | depth + 1, list left, list right =>
    match objects[left]?, objects[right]? with
    | some (.list left _), some (.list right _) =>
      inOrder (compare? objects depth) left.toList right.toList
    | _, _ => Option.none
  | _, left, right =>
    match left.toFloat?, right.toFloat? with
    | some left, some right =>
      some (if left < right then .lt else if left == right then .eq else .gt)
    | _, _ => Option.none
where
  /-- Order of two lists by the first items that differ. -/
  inOrder (order : Value → Value → Option Ordering) : List Value → List Value → Option Ordering
    | [], [] => some .eq
    | [], _ :: _ => some .lt
    | _ :: _, [] => some .gt
    | left :: lefts, right :: rights =>
      match order left right with
      | some .eq => inOrder order lefts rights
      | other => other

/-- What counts as true. -/
def truth (objects : Array Object) : Value → Bool
  | none => false
  | bool value => value
  | int value => value != 0
  | float value => value != 0
  | text value => !value.isEmpty
  | tuple items => !items.isEmpty
  | range start stop step => rangeLength start stop step != 0
  | list cell =>
    match objects[cell]? with
    | some (.list items _) => !items.isEmpty
    | _ => false
  | dict cell =>
    match objects[cell]? with
    | some (.dict entries _) => !entries.isEmpty
    | _ => false
  | _ => true

end Value

namespace Run

/-- What counts as true. -/
def isTrue (value : Value) : Run Bool := return value.truth (← get).objects

/-- Equality of values. -/
def areEqual (left right : Value) : Run Bool :=
  return Value.equal (← get).objects valueDepth left right

/-- Order of two values that have one. -/
def order (left right : Value) : Run Ordering := do
  match Value.compare? (← get).objects valueDepth left right with
  | some ordering => return ordering
  | none =>
    fail ("Operation `compare` not supported for types `" ++ left.typeName ++ "` and `"
      ++ right.typeName ++ "`")

/-- The value of a key in a dict's entries. -/
def findEntry (entries : Array (Value × Value)) (key : Value) : Run (Option Value) := do
  unless key.isHashable do
    fail ("Value of type `" ++ key.typeName ++ "` is not hashable")
  let objects := (← get).objects
  return (entries.find? fun entry => Value.equal objects valueDepth entry.1 key).map Prod.snd

/-- A dict's entries with a value for a key; a key that is there keeps its place. -/
def putEntry (entries : Array (Value × Value)) (key value : Value) :
    Run (Array (Value × Value)) := do
  unless key.isHashable do
    fail ("Value of type `" ++ key.typeName ++ "` is not hashable")
  let objects := (← get).objects
  match entries.findIdx? fun entry => Value.equal objects valueDepth entry.1 key with
  | some index => return entries.modify index fun entry => (entry.1, value)
  | none => return entries.push (key, value)

/-- A dict's entries without a key. -/
def dropEntry (entries : Array (Value × Value)) (key : Value) : Run (Array (Value × Value)) := do
  let objects := (← get).objects
  return entries.filter fun entry => !Value.equal objects valueDepth entry.1 key

/-- The values that a loop over a value goes through. -/
def iterated (value : Value) : Run (Array Value) := do
  match value with
  | .list cell => itemsOf cell
  | .dict cell => return (← entriesOf cell).map Prod.fst
  | .tuple items => return items.toArray
  | .range start stop step =>
    spend (Value.rangeLength start stop step)
    return Value.rangeItems start stop step
  | other => fail ("Operation `(iter)` not supported on type `" ++ other.typeName ++ "`")

end Run

end ConfigDelivery.Script.Starlark
