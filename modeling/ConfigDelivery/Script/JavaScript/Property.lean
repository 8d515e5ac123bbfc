import ConfigDelivery.Script.JavaScript.Number
import ConfigDelivery.Script.JavaScript.Value
/-!
# Properties

Looking properties up along prototypes, setting, defining and deleting them. An
array has its items and its length as properties, a text its units. A property may
be a pair of functions that get and set it; those are called through a machine.
-/

namespace ConfigDelivery.Script.JavaScript

open ConfigDelivery.Text (Units)

/-- The position that a name means in a row of items: a decimal number without zeros in front. -/
def arrayIndex? (name : Units) : Option Nat :=
  let units := name.units
  if units.isEmpty || 10 < units.size then none
  else
    let digits := units.toList.map UInt16.toNat
    if digits.all fun unit => 0x30 ≤ unit && unit ≤ 0x39 then
      if digits.head? == some 0x30 && 1 < digits.length then none
      else
        let value := digits.foldl (fun value unit => value * 10 + (unit - 0x30)) 0
        if value < 0xffffffff then some value else none
    else none

/-- The name of a position. -/
def indexName (position : Nat) : Units := Units.ofChars (Text.natDigits position)

/-- The key of a position. -/
def indexKey (position : Nat) : Key := .text (indexName position)

/-- The key of the length. -/
def lengthKey : Key := .ofString "length"

/-- The farthest position that an array without holes to it may grow to. -/
def arrayLimit : Nat := 5000000

/-- A property with a value that can be changed. -/
def PropertySlot.ofValue (value : Value) : PropertySlot := ⟨.data value true, true, true⟩

/-- A property that loops and JSON pass over. -/
def PropertySlot.hidden (value : Value) : PropertySlot := ⟨.data value true, false, true⟩

namespace Object

/-- A property that an object has as the kind that it is. -/
def exotic? (object : Object) (key : Key) : Option PropertySlot :=
  match object.kind, key with
  | .array items, .text name =>
    match arrayIndex? name with
    | some index =>
      (items[index]?.join).map fun value =>
        ⟨.data value object.hasWritableItems, true, object.hasWritableItems⟩
    | none =>
      if key == lengthKey then
        some ⟨.data (.ofNat items.size) object.hasWritableItems, false, false⟩
      else none
  | .wrapper (.text text), .text name =>
    match arrayIndex? name with
    | some index =>
      (text.units[index]?).map fun unit => ⟨.data (.text (Units.singleton unit)) false, true, false⟩
    | none => if key == lengthKey then some ⟨.data (.ofNat text.size) false, false, false⟩ else none
  | _, _ => none

/-- A property of an object's own. -/
def own? (object : Object) (key : Key) : Option PropertySlot :=
  match object.exotic? key with
  | some slot => some slot
  | none => (object.properties.find? (·.1 == key)).map Prod.snd

/-- Put a property among those of an object that are no items. -/
def putProperty (object : Object) (key : Key) (slot : PropertySlot) : Object :=
  match object.properties.findIdx? (·.1 == key) with
  | some index => { object with properties := object.properties.setIfInBounds index (key, slot) }
  | none => { object with properties := object.properties.push (key, slot) }

/-- The keys of an object's own properties: positions first, then names, then symbols. -/
def ownKeys (object : Object) : List Key :=
  let items : List Key :=
    match object.kind with
    | .array items =>
      (List.range items.size).filterMap fun index =>
        (items[index]?.join).map fun _ => indexKey index
    | .wrapper (.text text) => (List.range text.size).map indexKey
    | _ => []
  let keys := object.properties.toList.map Prod.fst
  let position? : Key → Option Nat
    | .text name => arrayIndex? name
    | .symbol _ => none
  let positions := (keys.filterMap position?).mergeSort (· ≤ ·)
  let exoticNames : List Key :=
    match object.kind with
    | .array _ | .wrapper (.text _) => [lengthKey]
    | _ => []
  let names := keys.filter fun key => (position? key).isNone && key matches .text _
  let symbols := keys.filter (· matches .symbol _)
  items ++ positions.map indexKey ++ exoticNames ++ names ++ symbols

end Object

namespace Run

/-- The text of a key, as messages show it. -/
def keyText (key : Key) : Run String := do
  match key with
  | .text name => return name.toText
  | .symbol id => return (((← get).symbols[id]?.join).map Units.toText).getD ""

/-- A property of an object or of those that it has for prototypes; `depth` bounds those. -/
def findProperty (key : Key) : Nat → Cell → Run (Option PropertySlot)
  | 0, _ => return none
  | depth + 1, cell => do
    let object ← load cell
    match object.own? key with
    | some slot => return some slot
    | none =>
      match object.prototype with
      | some parent => findProperty key depth parent
      | none => return none

/-- How many prototypes are followed. -/
def prototypeDepth : Nat := 1000

/-- The value of a property for a receiver. -/
def slotValue (machine : Machine) (receiver : Value) (slot : Option PropertySlot) : Run Value := do
  match slot with
  | none => return .undefined
  | some ⟨.data value _, _, _⟩ => return value
  | some ⟨.accessor .undefined _, _, _⟩ => return .undefined
  | some ⟨.accessor getter _, _, _⟩ => machine.call getter receiver []

/-- The object that a value has its properties from; none for a nullish value. -/
def baseOf (value : Value) : Option Cell :=
  match value with
  | .undefined | .null => none
  | .bool _ => some Intrinsic.boolPrototype.cell
  | .number _ => some Intrinsic.numberPrototype.cell
  | .bigInt _ => some Intrinsic.bigIntPrototype.cell
  | .text _ => some Intrinsic.textPrototype.cell
  | .symbol _ => some Intrinsic.symbolPrototype.cell
  | .object cell => some cell

/-- The name of a nullish value. -/
def nullishName (value : Value) : String := if value matches .null then "null" else "undefined"

/-- A property of a value. -/
def getProperty (machine : Machine) (target : Value) (key : Key) : Run Value := do
  match target, key with
  | .text text, .text name =>
    match arrayIndex? name with
    | some index =>
      match text.units[index]? with
      | some unit => return .text (Units.singleton unit)
      | none => slotValue machine target (← findProperty key prototypeDepth
          Intrinsic.textPrototype.cell)
    | none =>
      if key == lengthKey then return .ofNat text.size
      else slotValue machine target (← findProperty key prototypeDepth Intrinsic.textPrototype.cell)
  | target, key =>
    match baseOf target with
    | some cell => slotValue machine target (← findProperty key prototypeDepth cell)
    | none =>
      failType ("cannot read property '" ++ (← keyText key) ++ "' of " ++ nullishName target)

/-- A property of a value by name. -/
def getNamed (machine : Machine) (target : Value) (name : String) : Run Value :=
  getProperty machine target (.ofString name)

/-- Set an item of an array, with holes up to it if it is beyond the end. -/
def putItem (cell : Cell) (index : Nat) (value : Value) : Run Unit := do
  if arrayLimit < index then fail .internal "out of memory"
  modify fun memory =>
    { memory with
      objects := memory.objects.modify cell fun object =>
        match object with
        | { kind := .array items, prototype, properties, isExtensible, hasWritableItems } =>
          let items :=
            if index < items.size then items.setIfInBounds index (some value)
            else if index = items.size then items.push (some value)
            else (items ++ Array.replicate (index - items.size) none).push (some value)
          { kind := .array items, prototype, properties, isExtensible, hasWritableItems }
        | other => other }

/-- Cut or extend an array to a length. -/
def setLength (cell : Cell) (length : Nat) : Run Unit := do
  if arrayLimit < length then fail .badRange "invalid array length"
  change cell fun object =>
    match object.kind with
    | .array items =>
      let items :=
        if length ≤ items.size then items.extract 0 length
        else items ++ Array.replicate (length - items.size) none
      { object with kind := .array items }
    | _ => object

/-- Set the value of an object's own property, or add one. -/
def putOwn (cell : Cell) (key : Key) (slot : PropertySlot) : Run Unit := do
  let object ← load cell
  match object.kind, key with
  | .array _, .text name =>
    match arrayIndex? name, slot.slot with
    | some index, .data value _ => putItem cell index value
    | none, .data (.number length) _ =>
      if key == lengthKey then
        match exactInt? length with
        | some length =>
          if length < 0 then fail .badRange "invalid array length"
          setLength cell length.toNat
        | none => fail .badRange "invalid array length"
      else change cell (·.putProperty key slot)
    | _, _ => change cell (·.putProperty key slot)
  | _, _ => change cell (·.putProperty key slot)

/-- Define a property, whatever the object has under its key. -/
def define (target : Value) (key : Key) (slot : PropertySlot) : Run Unit := do
  match target with
  | .object cell => putOwn cell key slot
  | _ => return

/-- Define a property with a value. -/
def defineValue (target : Value) (key : Key) (value : Value) : Run Unit :=
  define target key (.ofValue value)

/-- The failure to change what cannot be changed. -/
def failReadOnly {Result : Type} (key : Key) : Run Result := do
  failType ("'" ++ (← keyText key) ++ "' is read-only")

/-- Set a property of an object. -/
def setOwn (machine : Machine) (cell : Cell) (key : Key) (value : Value) : Run Unit := do
  let object ← load cell
  match object.own? key with
  | some ⟨.data _ true, isEnumerable, isConfigurable⟩ =>
    putOwn cell key ⟨.data value true, isEnumerable, isConfigurable⟩
  | some ⟨.data _ false, _, _⟩ => failReadOnly key
  | some ⟨.accessor _ .undefined, _, _⟩ => failType "no setter for property"
  | some ⟨.accessor _ setter, _, _⟩ =>
    let _ ← machine.call setter (.object cell) [value]
  | none =>
    let inherited ←
      match object.prototype with
      | some parent => findProperty key prototypeDepth parent
      | none => pure none
    match inherited with
    | some ⟨.accessor _ .undefined, _, _⟩ => failType "no setter for property"
    | some ⟨.accessor _ setter, _, _⟩ =>
      let _ ← machine.call setter (.object cell) [value]
    | some ⟨.data _ false, _, _⟩ => failReadOnly key
    | _ =>
      unless object.isExtensible do failType "object is not extensible"
      putOwn cell key (.ofValue value)

/-- Set a property of a value. -/
def setProperty (machine : Machine) (target : Value) (key : Key) (value : Value) : Run Unit := do
  match target with
  | .object cell => setOwn machine cell key value
  | .undefined | .null =>
    failType ("cannot set property '" ++ (← keyText key) ++ "' of " ++ nullishName target)
  | _ => failType "not an object"

/-- Delete a property of an object; one that cannot be deleted fails. -/
def deleteProperty (target : Value) (key : Key) : Run Value := do
  match target with
  | .object cell =>
    let object ← load cell
    match object.own? key with
    | none => return .bool true
    | some slot =>
      unless slot.isConfigurable do failType "could not delete property"
      match object.kind, key with
      | .array items, .text name =>
        match arrayIndex? name with
        | some index =>
          change cell fun object => { object with kind := .array (items.setIfInBounds index none) }
        | none =>
          change cell fun object =>
            { object with properties := object.properties.filter (·.1 != key) }
      | _, _ =>
        change cell fun object =>
          { object with properties := object.properties.filter (·.1 != key) }
      return .bool true
  | .undefined | .null => failType "cannot convert to object"
  | _ => return .bool true

/-- A value can be called. -/
def isCallable (value : Value) : Run Bool := do
  match value with
  | .object cell =>
    match (← load cell).kind with
    | .closure _ | .native _ _ | .bound _ _ _ => return true
    | _ => return false
  | _ => return false

/-- A value is an array. -/
def isArray (value : Value) : Run Bool := do
  match value with
  | .object cell => return ((← load cell).kind matches .array _)
  | _ => return false

/-- The keys of an object's own properties that loops go through, which are no symbols. -/
def enumerableKeys (value : Value) : Run (List Units) := do
  match value with
  | .object cell =>
    let object ← load cell
    return object.ownKeys.filterMap fun key =>
      match key, object.own? key with
      | .text name, some slot => if slot.isEnumerable then some name else none
      | _, _ => none
  | .text text => return (List.range text.size).map indexName
  | _ => return []

end Run

end ConfigDelivery.Script.JavaScript
