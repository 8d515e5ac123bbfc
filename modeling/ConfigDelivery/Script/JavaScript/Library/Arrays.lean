import ConfigDelivery.Script.JavaScript.Library.Objects
/-!
# Built-in functions on arrays

What `Array` and the methods of arrays do. They work on everything with a length
and items.
-/

namespace ConfigDelivery.Script.JavaScript.Library

open ConfigDelivery.Text (Units)
open Run

/-- The items of an array-like value, with holes. -/
def sparseItems (machine : Machine) (value : Value) : Run (Array (Option Value)) := do
  match value with
  | .object cell =>
    match (← load cell).kind with
    | .array items => return items
    | _ => return (← itemsOf machine value).toArray.map some
  | .undefined | .null => failType "cannot convert to object"
  | .text text => return text.units.map fun unit => some (.text (Units.singleton unit))
  | _ => return #[]

/-- Replace the items of an array, or of an array-like object. -/
def replaceItems (machine : Machine) (target : Value) (items : Array (Option Value)) :
    Run Unit := do
  match target with
  | .object cell =>
    let object ← load cell
    match object.kind with
    | .array _ =>
      unless object.hasWritableItems do failReadOnly lengthKey
      if arrayLimit < items.size then fail .internal "out of memory"
      change cell fun object => { object with kind := .array items }
    | _ =>
      items.toList.zipIdx.forM fun (item, index) =>
        setProperty machine target (indexKey index) (item.getD .undefined)
      setProperty machine target lengthKey (.ofNat items.size)
  | _ => failType "not an object"

/-- The position that an argument means in a row of items; a negative one counts from the end. -/
def positionIn (machine : Machine) (size : Nat) (otherwise : Nat) (value : Value) : Run Nat := do
  match value with
  | .undefined => return otherwise
  | value =>
    let position ← toInteger machine value
    return (max 0 (min (size : Int) (if position < 0 then position + size else position))).toNat

/-- A function that has to be callable. -/
def expectFunction (value : Value) : Run Unit := do
  unless ← isCallable value do failType "not a function"

/-- The texts of items with a separator between them; nullish items are empty. -/
def joinItems (machine : Machine) (separator : Units) (items : List Value) : Run Value := do
  let parts ← items.mapM fun item =>
    if item.isNullish then pure (Units.ofString "") else toText machine item
  let joined : Units :=
    match parts with
    | [] => Units.ofString ""
    | first :: rest =>
      ⟨rest.foldl (fun done part => done ++ separator.units ++ part.units) first.units⟩
  spend (joined.size / 8)
  return .text joined

/-- Put the items of a nested array next to the others; `depth` bounds how many levels. -/
def flattened (machine : Machine) : Nat → List Value → Run (List Value)
  | 0, items => return items
  | depth + 1, items => do
    let parts ← items.mapM fun item => do
      if ← isArray item then
        tick
        flattened machine depth (← itemsOf machine item)
      else return [item]
    return parts.flatten

/-- Merge two lists in order; `fuel` bounds their length. -/
def mergeInOrder (follows : Value → Value → Run Bool) : Nat → List Value → List Value →
    Run (List Value)
  | 0, left, right => return left ++ right
  | _ + 1, [], right => return right
  | _ + 1, left, [] => return left
  | fuel + 1, left :: lefts, right :: rights => do
    if ← follows left right then
      return right :: (← mergeInOrder follows fuel (left :: lefts) rights)
    else return left :: (← mergeInOrder follows fuel lefts (right :: rights))

/-- Sort a list; equal items stay in order. `depth` bounds how often it is halved. -/
def sortInOrder (follows : Value → Value → Run Bool) : Nat → List Value → Run (List Value)
  | 0, items => return items
  | depth + 1, items => do
    tick
    if items.length ≤ 1 then return items
    let half := items.length / 2
    let left ← sortInOrder follows depth (items.take half)
    let right ← sortInOrder follows depth (items.drop half)
    mergeInOrder follows (items.length + 1) left right

/-- One value comes after another one: by a function, or as texts. -/
def comesAfter (machine : Machine) (comparison left right : Value) : Run Bool := do
  if comparison matches .undefined then
    return (← toText machine right).precedes (← toText machine left)
  else return 0 < (← toNumber machine (← machine.call comparison .undefined [left, right]))

/-- Sort items: holes last, undefined ones before them. -/
def sortItems (machine : Machine) (comparison : Value) (items : Array (Option Value)) :
    Run (Array (Option Value)) := do
  unless comparison matches .undefined do expectFunction comparison
  let values := items.toList.filterMap id
  let (undefineds, defined) := values.partition (· matches .undefined)
  let sorted ← sortInOrder (comesAfter machine comparison) 64 defined
  let holes := items.size - values.length
  return ((sorted ++ undefineds).map some ++ List.replicate holes none).toArray

/-- Call a function of `Array`. -/
def callArray (machine : Machine) (name : String) (arguments : List Value) : Run Value := do
  match name with
  | "isArray" => return .bool (← isArray (argument arguments 0))
  | "of" => newArray arguments
  | "from" =>
    let source := argument arguments 0
    let mapping := argument arguments 1
    if source.isNullish then failType "cannot convert to object"
    let items ←
      if (← getProperty machine source WellKnown.iterator.key).isNullish then
        itemsOf machine (← toObject source)
      else valuesOf machine source
    if mapping matches .undefined then newArray items
    else
      expectFunction mapping
      newArray (← items.mapIdxM fun index item =>
        machine.call mapping (argument arguments 2) [item, .ofNat index])
  | _ =>
    match arguments with
    | [.number length] =>
      match exactInt? length with
      | some length =>
        if length < 0 ∨ (0x100000000 : Int) ≤ length then fail .badRange "invalid array length"
        if arrayLimit < length.toNat then fail .internal "out of memory"
        newSparseArray (Array.replicate length.toNat none)
      | none => fail .badRange "invalid array length"
    | items => newArray items

/-- Call a function for each item that is there, with its position, until it gives a result. -/
def overItems {Result : Type} (machine : Machine) (function receiver target : Value)
    (body : Nat → Value → Value → Run (Option Result)) :
    List (Option Value × Nat) → Run (Option Result)
  | [] => return none
  | (item, index) :: rest => do
    tick
    match item with
    | none => overItems machine function receiver target body rest
    | some item =>
      let outcome ← machine.call function receiver [item, .ofNat index, target]
      match ← body index item outcome with
      | some result => return some result
      | none => overItems machine function receiver target body rest

/-- Combine the items that are there from the left. -/
def reduceItems (machine : Machine) (function target : Value) :
    Value → List (Option Value × Nat) → Run Value
  | done, [] => return done
  | done, (none, _) :: rest => reduceItems machine function target done rest
  | done, (some item, index) :: rest => do
    tick
    let next ← machine.call function .undefined [done, item, .ofNat index, target]
    reduceItems machine function target next rest

/-- A new iterator over a value. -/
def newIterator (source : Value) (kind : IterationKind) : Run Value :=
  allocate
    { prototype := some Intrinsic.iteratorPrototype.cell, kind := .iterator source 0 kind }

/-- Put items at the end of an array; none for a value that is no array that can be changed. -/
def pushItems? (receiver : Value) (values : List Value) : Run (Option Nat) := do
  match receiver with
  | .object cell =>
    let object ← load cell
    match object.kind with
    | .array items =>
      unless object.hasWritableItems && object.isExtensible do return none
      let size := items.size
      values.zipIdx.forM fun (value, index) => putItem cell (size + index) value
      return some (size + values.length)
    | _ => return none
  | _ => return none

/-- Call a method of arrays that changes its receiver. -/
def changeArray (machine : Machine) (name : String) (receiver : Value) (arguments : List Value) :
    Run Value := do
  let items ← sparseItems machine receiver
  let size := items.size
  let first := argument arguments 0
  match name with
  | "push" =>
    replaceItems machine receiver (items ++ (arguments.map some).toArray)
    return .ofNat (size + arguments.length)
  | "pop" =>
    if size = 0 then return .undefined
    replaceItems machine receiver items.pop
    return (items[size - 1]?.join).getD .undefined
  | "shift" =>
    if size = 0 then return .undefined
    replaceItems machine receiver (items.extract 1 size)
    return (items[0]?.join).getD .undefined
  | "unshift" =>
    replaceItems machine receiver ((arguments.map some).toArray ++ items)
    return .ofNat (size + arguments.length)
  | "reverse" =>
    replaceItems machine receiver items.reverse
    return receiver
  | "sort" =>
    replaceItems machine receiver (← sortItems machine first items)
    return receiver
  | "fill" =>
    let start ← positionIn machine size 0 (argument arguments 1)
    let stop ← positionIn machine size size (argument arguments 2)
    replaceItems machine receiver
      (items.mapIdx fun index item => if start ≤ index && index < stop then some first else item)
    return receiver
  | "copyWithin" =>
    let target ← positionIn machine size 0 first
    let start ← positionIn machine size 0 (argument arguments 1)
    let stop ← positionIn machine size size (argument arguments 2)
    let count := min (stop - start) (size - target)
    replaceItems machine receiver <| items.mapIdx fun index item =>
      if target ≤ index && index < target + count then (items[start + index - target]?).join
      else item
    return receiver
  | _ =>
    let start ← positionIn machine size 0 first
    let count ←
      match arguments with
      | [] => pure 0
      | [_] => pure (size - start)
      | _ :: count :: _ =>
        pure (min (size - start) (max 0 (← toInteger machine count)).toNat)
    let added := ((arguments.drop 2).map some).toArray
    replaceItems machine receiver
      (items.extract 0 start ++ added ++ items.extract (start + count) size)
    newSparseArray (items.extract start (start + count))

/-- Call a method of arrays that calls a function for its items. -/
def visitArray (machine : Machine) (name : String) (receiver : Value) (arguments : List Value) :
    Run Value := do
  let items ← sparseItems machine receiver
  let function := argument arguments 0
  expectFunction function
  let indexed := items.toList.zipIdx
  let dense := indexed.map fun (item, index) => (some (item.getD .undefined), index)
  let visit {Result : Type} (items : List (Option Value × Nat))
      (body : Nat → Value → Value → Run (Option Result)) : Run (Option Result) :=
    overItems machine function (argument arguments 1) receiver body items
  let gather (items : List (Option Value × Nat))
      (gathered : Value → Value → Run (List (Option Value))) : Run (Array (Option Value)) := do
    let results ← items.mapM fun (item, index) => do
      match item with
      | none => return []
      | some item =>
        tick
        gathered item
          (← machine.call function (argument arguments 1) [item, .ofNat index, receiver])
    return results.flatten.toArray
  match name with
  | "forEach" =>
    let _ : Option Unit ← visit indexed fun _ _ _ => return none
    return .undefined
  | "map" =>
    let results ← indexed.mapM fun (item, index) => do
      match item with
      | none => return none
      | some item =>
        tick
        return some
          (← machine.call function (argument arguments 1) [item, .ofNat index, receiver])
    newSparseArray results.toArray
  | "filter" =>
    newSparseArray (← gather indexed fun item outcome =>
      return if outcome.truth then [some item] else [])
  | "flatMap" =>
    newSparseArray (← gather indexed fun _ outcome => do
      if ← isArray outcome then return (← itemsOf machine outcome).map some
      else return [some outcome])
  | "some" =>
    let found : Option Unit ← visit indexed fun _ _ outcome =>
      return if outcome.truth then some () else none
    return .bool found.isSome
  | "every" =>
    let failed : Option Unit ← visit indexed fun _ _ outcome =>
      return if outcome.truth then none else some ()
    return .bool failed.isNone
  | "find" | "findLast" =>
    let found ← visit (if name == "find" then dense else dense.reverse) fun _ item outcome =>
      return if outcome.truth then some item else none
    return found.getD .undefined
  | "findIndex" | "findLastIndex" =>
    let found ← visit (if name == "findIndex" then dense else dense.reverse)
      fun index _ outcome => return if outcome.truth then some index else none
    return (found.map Value.ofNat).getD (.number (-1))
  | _ =>
    let indexed := if name == "reduceRight" then indexed.reverse else indexed
    match arguments with
    | _ :: initial :: _ => reduceItems machine function receiver initial indexed
    | _ =>
      match indexed.dropWhile fun (item, _) => item.isNone with
      | (some item, _) :: rest => reduceItems machine function receiver item rest
      | _ => failType "empty array"

/-- The methods of arrays that change their receiver. -/
def changingMethods : List String :=
  ["push", "pop", "shift", "unshift", "reverse", "sort", "fill", "copyWithin", "splice"]

/-- The methods of arrays that call a function for their items. -/
def visitingMethods : List String :=
  ["forEach", "map", "filter", "flatMap", "some", "every", "find", "findLast", "findIndex",
    "findLastIndex", "reduce", "reduceRight"]

/-- Call a method of arrays. -/
def callArrayPrototype (machine : Machine) (name : String) (receiver : Value)
    (arguments : List Value) : Run Value := do
  if name == "push" then
    match ← pushItems? receiver arguments with
    | some size => return .ofNat size
    | none => pure ()
  if changingMethods.contains name then return ← changeArray machine name receiver arguments
  if visitingMethods.contains name then return ← visitArray machine name receiver arguments
  let first := argument arguments 0
  match name with
  | "keys" => return ← newIterator receiver .keys
  | "values" => return ← newIterator receiver .values
  | "entries" => return ← newIterator receiver .entries
  | _ => pure ()
  let items ← sparseItems machine receiver
  let size := items.size
  let values := items.toList.map fun item => item.getD .undefined
  match name with
  | "join" =>
    let separator ←
      if first matches .undefined then pure (Units.ofString ",") else toText machine first
    joinItems machine separator values
  | "toString" | "toLocaleString" =>
    let join ← getNamed machine receiver "join"
    if ← isCallable join then machine.call join receiver []
    else return .ofString ("[object " ++ (← tagOf machine receiver) ++ "]")
  | "slice" =>
    let start ← positionIn machine size 0 first
    let stop ← positionIn machine size size (argument arguments 1)
    newSparseArray (items.extract start stop)
  | "concat" =>
    let parts ← arguments.mapM fun value => do
      if ← isArray value then return (← sparseItems machine value).toList else return [some value]
    newSparseArray (items ++ parts.flatten.toArray)
  | "indexOf" =>
    let start ← positionIn machine size 0 (argument arguments 1)
    let found := items.toList.zipIdx.find? fun (item, index) =>
      start ≤ index && item.any (·.isSame first)
    return (found.map fun (_, index) => Value.ofNat index).getD (.number (-1))
  | "lastIndexOf" =>
    let stop ←
      match arguments with
      | _ :: stop :: _ =>
        let stop ← toInteger machine stop
        pure (if stop < 0 then stop + size else stop)
      | _ => pure (size : Int)
    let found := items.toList.zipIdx.reverse.find? fun (item, index) =>
      (index : Int) ≤ stop && item.any (·.isSame first)
    return (found.map fun (_, index) => Value.ofNat index).getD (.number (-1))
  | "includes" =>
    let start ← positionIn machine size 0 (argument arguments 1)
    return .bool ((values.drop start).any (·.isSameKey first))
  | "at" =>
    let position ← toInteger machine first
    let position := if position < 0 then position + size else position
    if position < 0 then return .undefined
    return values.getD position.toNat .undefined
  | "flat" =>
    let depth ← if first matches .undefined then pure 1 else toInteger machine first
    let there := items.toList.filterMap id
    newArray (← flattened machine (min depth.toNat 1000) there)
  | "with" =>
    let position ← toInteger machine first
    let position := if position < 0 then position + size else position
    if position < 0 ∨ (size : Int) ≤ position then fail .badRange "invalid array index"
    newArray (values.set position.toNat (argument arguments 1))
  | "toReversed" => newArray values.reverse
  | "toSorted" => newSparseArray (← sortItems machine first (values.map some).toArray)
  | _ => return .undefined

/-- A round of an iterator. -/
def newRound (value : Option Value) : Run Value :=
  newObject [(.ofString "value", value.getD .undefined), (.ofString "done", .bool value.isNone)]

/-- The entry of a collection from a position on, and the position behind it. -/
def nextEntry? (entries : Array (Option (Value × Value))) :
    Nat → Nat → Option ((Value × Value) × Nat)
  | 0, _ => none
  | fuel + 1, position =>
    match entries[position]? with
    | none => none
    | some (some entry) => some (entry, position + 1)
    | some none => nextEntry? entries fuel (position + 1)

/-- Call a method of iterators. -/
def callIterator (machine : Machine) (name : String) (receiver : Value) : Run Value := do
  if name != "next" then return receiver
  match receiver with
  | .object cell =>
    match (← load cell).kind with
    | .iterator source position kind =>
      let advance (position : Nat) : Run Unit :=
        change cell fun object => { object with kind := .iterator source position kind }
      let collection ←
        match source with
        | .object cell =>
          match (← load cell).kind with
          | .map entries | .set entries => pure (some entries)
          | _ => pure none
        | _ => pure none
      match collection, source with
      | some entries, _ =>
        match nextEntry? entries (entries.size + 1) position with
        | none =>
          advance entries.size
          newRound none
        | some ((key, value), position) =>
          advance position
          match kind with
          | .keys => newRound (some key)
          | .values => newRound (some value)
          | .entries => newRound (some (← newArray [key, value]))
      | none, .text text =>
        if text.size ≤ position then newRound none
        else
          let units := text.units.toList.drop position
          let width :=
            match units with
            | lead :: trail :: _ => if Units.isLead lead && Units.isTrail trail then 2 else 1
            | _ => 1
          advance (position + width)
          newRound (some (.text ⟨(units.take width).toArray⟩))
      | none, source =>
        let length ← lengthOf machine source
        if length ≤ position then
          advance 0x20000000000000
          newRound none
        else
          advance (position + 1)
          match kind with
          | .keys => newRound (some (.ofNat position))
          | .values => newRound (some (← itemAt machine source position))
          | .entries =>
            newRound (some (← newArray [.ofNat position, ← itemAt machine source position]))
    | _ => failType "not an iterator"
  | _ => failType "not an iterator"

end ConfigDelivery.Script.JavaScript.Library
