import ConfigDelivery.Script.JavaScript.Function
/-!
# Built-in functions on objects, functions and errors

What `Object` and the methods that every object, function and error inherits do.
-/

namespace ConfigDelivery.Script.JavaScript.Library

open ConfigDelivery.Text (Units)
open Run

/-- The argument at a position; undefined when there is none. -/
def argument (arguments : List Value) (index : Nat) : Value := arguments.getD index .undefined

/-- The object of a property, as a script describes it. -/
def describeSlot (slot : PropertySlot) : Run Value := do
  let own : List (Key × Value) :=
    match slot.slot with
    | .data value isWritable =>
      [(.ofString "value", value), (.ofString "writable", .bool isWritable)]
    | .accessor getter setter => [(.ofString "get", getter), (.ofString "set", setter)]
  newObject (own ++ [(.ofString "enumerable", .bool slot.isEnumerable),
    (.ofString "configurable", .bool slot.isConfigurable)])

/-- A part of a property's description, if it has one. -/
def describedPart (machine : Machine) (description : Value) (name : String) :
    Run (Option Value) := do
  if ← hasProperty machine (.ofString name) description then
    return some (← getNamed machine description name)
  else return none

/-- Define a property as a script describes it; what the description leaves out stays, or is off in
a new one. -/
def defineDescribed (machine : Machine) (target : Value) (key : Key) (description : Value) :
    Run Unit := do
  match target, description with
  | .object cell, .object _ =>
    let object ← load cell
    let old := object.own? key
    match old with
    | some slot =>
      unless slot.isConfigurable || (slot.slot matches .data _ true) do
        failType "property is not configurable"
    | none => unless object.isExtensible do failType "object is not extensible"
    let flag (name : String) (otherwise : Bool) : Run Bool := do
      return ((← describedPart machine description name).map Value.truth).getD otherwise
    let isEnumerable ← flag "enumerable" ((old.map PropertySlot.isEnumerable).getD false)
    let isConfigurable ← flag "configurable" ((old.map PropertySlot.isConfigurable).getD false)
    let getter ← describedPart machine description "get"
    let setter ← describedPart machine description "set"
    let slot : Slot ←
      if getter.isSome || setter.isSome then
        pure (.accessor (getter.getD .undefined) (setter.getD .undefined))
      else
        let (oldValue, wasWritable) : Value × Bool :=
          match old with
          | some ⟨.data value isWritable, _, _⟩ => (value, isWritable)
          | _ => (.undefined, false)
        let value := (← describedPart machine description "value").getD oldValue
        pure (.data value (← flag "writable" wasWritable))
    putOwn cell key ⟨slot, isEnumerable, isConfigurable⟩
  | .object _, _ => failType "not an object"
  | _, _ => failType "not an object"

/-- Make the properties of an object unchangeable; when it freezes also their values. -/
def lock (freezes : Bool) (value : Value) : Run Unit := do
  match value with
  | .object cell =>
    change cell fun object =>
      { object with
        isExtensible := false
        hasWritableItems := object.hasWritableItems && !freezes
        properties := object.properties.map fun (key, slot) =>
          let inner : Slot :=
            match slot.slot with
            | .data value isWritable => .data value (isWritable && !freezes)
            | other => other
          (key, { slot with slot := inner, isConfigurable := false }) }
  | _ => return

/-- The properties of a value are unchangeable; when it asks for frozen ones also their values. -/
def isLocked (frozen : Bool) (value : Value) : Run Bool := do
  match value with
  | .object cell =>
    let object ← load cell
    let slots := object.ownKeys.filterMap object.own?
    return !object.isExtensible && slots.all fun slot =>
      !slot.isConfigurable && !(frozen && slot.slot matches .data _ true)
        || (object.kind matches .array _) && !object.hasWritableItems
  | _ => return true

/-- The prototype of a value. -/
def prototypeValue (value : Value) : Run Value := do
  match value with
  | .object cell =>
    match (← load cell).prototype with
    | some parent => return .object parent
    | none => return .null
  | other =>
    match baseOf other with
    | some cell => return .object cell
    | none => failType "not an object"

/-- Set the prototype of a value. -/
def setPrototype (value parent : Value) : Run Unit := do
  match value, parent with
  | .object cell, .object parent =>
    if cell == parent || (← hasPrototype cell prototypeDepth parent) then
      failType "circular prototype chain"
    change cell fun object => { object with prototype := some parent }
  | .object cell, .null => change cell fun object => { object with prototype := none }
  | _, _ => return

/-- The own keys of a value. -/
def keysOf (value : Value) : Run (List Key) := do
  match value with
  | .object cell => return (← load cell).ownKeys
  | .text text => return (List.range text.size).map indexKey ++ [lengthKey]
  | _ => return []

/-- Call a function of `Object`. -/
def callObject (machine : Machine) (name : String) (arguments : List Value) : Run Value := do
  let target := argument arguments 0
  let needsObject : Run Unit :=
    if target.isNullish then failType "cannot convert to object" else pure ()
  let listed (entry : Units → Run Value) : Run Value := do
    needsObject
    newArray (← (← enumerableKeys target).mapM entry)
  match name with
  | "Object" => if target.isNullish then newObject [] else toObject target
  | "keys" => listed fun name => return .text name
  | "values" => listed fun name => getProperty machine target (.text name)
  | "entries" =>
    listed fun name => do newArray [.text name, ← getProperty machine target (.text name)]
  | "assign" =>
    let target ← toObject target
    (arguments.drop 1).forM fun source => do
      (← enumerableKeys source).forM fun name => do
        setProperty machine target (.text name) (← getProperty machine source (.text name))
    return target
  | "freeze" => lock true target; return target
  | "seal" => lock false target; return target
  | "preventExtensions" =>
    match target with
    | .object cell => change cell fun object => { object with isExtensible := false }
    | _ => pure ()
    return target
  | "isFrozen" => return .bool (← isLocked true target)
  | "isSealed" => return .bool (← isLocked false target)
  | "isExtensible" =>
    match target with
    | .object cell => return .bool (← load cell).isExtensible
    | _ => return .bool false
  | "create" =>
    let object ←
      match target with
      | .object parent => allocate { prototype := some parent }
      | .null => allocate { prototype := none }
      | _ => failType "not a prototype"
    let descriptions := argument arguments 1
    (← enumerableKeys descriptions).forM fun name => do
      defineDescribed machine object (.text name) (← getProperty machine descriptions (.text name))
    return object
  | "getPrototypeOf" => needsObject; prototypeValue target
  | "setPrototypeOf" => needsObject; setPrototype target (argument arguments 1); return target
  | "defineProperty" =>
    unless target matches .object _ do failType "not an object"
    let key ← toKey machine (argument arguments 1)
    defineDescribed machine target key (argument arguments 2)
    return target
  | "defineProperties" =>
    unless target matches .object _ do failType "not an object"
    let descriptions := argument arguments 1
    (← enumerableKeys descriptions).forM fun name => do
      defineDescribed machine target (.text name) (← getProperty machine descriptions (.text name))
    return target
  | "getOwnPropertyNames" =>
    needsObject
    newArray ((← keysOf target).filterMap fun
      | .text name => some (.text name)
      | .symbol _ => none)
  | "getOwnPropertySymbols" =>
    needsObject
    newArray ((← keysOf target).filterMap fun
      | .text _ => none
      | .symbol id => some (.symbol id))
  | "getOwnPropertyDescriptor" =>
    needsObject
    let key ← toKey machine (argument arguments 1)
    match target with
    | .object cell =>
      match (← load cell).own? key with
      | some slot => describeSlot slot
      | none => return .undefined
    | _ => return .undefined
  | "fromEntries" =>
    let object ← newObject []
    let _ : Option Unit ← overValues machine target fun entry => do
      unless entry matches .object _ do failType "not an object"
      let key ← toKey machine (← itemAt machine entry 0)
      defineValue object key (← itemAt machine entry 1)
      return none
    return object
  | "is" =>
    let other := argument arguments 1
    match target, other with
    | .number left, .number right =>
      return .bool (left.toBits == right.toBits || left.isNaN && right.isNaN)
    | left, right => return .bool (left.isSame right)
  | _ =>
    needsObject
    let key ← toKey machine (argument arguments 1)
    match ← toObject target with
    | .object cell => return .bool ((← load cell).own? key).isSome
    | _ => return .bool false

/-- The word that tells what an object is. -/
def tagOf (machine : Machine) (value : Value) : Run String := do
  match value with
  | .undefined => return "Undefined"
  | .null => return "Null"
  | value =>
    let builtin ←
      match ← toObject value with
      | .object cell =>
        match (← load cell).kind with
        | .array _ => pure "Array"
        | .closure _ | .native _ _ | .bound _ _ _ => pure "Function"
        | .error => pure "Error"
        | .wrapper (.text _) => pure "String"
        | .wrapper (.number _) => pure "Number"
        | .wrapper (.bool _) => pure "Boolean"
        | _ => pure "Object"
      | _ => pure "Object"
    match ← getProperty machine value WellKnown.toStringTag.key with
    | .text tag => return tag.toText
    | _ => return builtin

/-- Call a method that every object inherits. -/
def callObjectPrototype (machine : Machine) (name : String) (receiver : Value)
    (arguments : List Value) : Run Value := do
  match name with
  | "toString" => return .ofString ("[object " ++ (← tagOf machine receiver) ++ "]")
  | "toLocaleString" => return .text (← toText machine receiver)
  | "valueOf" => toObject receiver
  | "hasOwnProperty" =>
    let key ← toKey machine (argument arguments 0)
    match ← toObject receiver with
    | .object cell => return .bool ((← load cell).own? key).isSome
    | _ => return .bool false
  | "propertyIsEnumerable" =>
    let key ← toKey machine (argument arguments 0)
    match ← toObject receiver with
    | .object cell => return .bool (((← load cell).own? key).any PropertySlot.isEnumerable)
    | _ => return .bool false
  | "isPrototypeOf" =>
    match receiver, argument arguments 0 with
    | .object parent, .object cell => return .bool (← hasPrototype parent prototypeDepth cell)
    | _, _ => return .bool false
  | "get __proto__" => prototypeValue receiver
  | _ => setPrototype receiver (argument arguments 0); return .undefined

/-- The source of a function. -/
def functionText (value : Value) : Run String := do
  match value with
  | .object cell =>
    let native (name : String) : String := "function " ++ name ++ "() \x7b\n    [native code]\n\x7d"
    match (← load cell).kind with
    | .closure closure => return closure.function.info.text
    | .native _ name => return native name
    | .bound _ _ _ => return native "bound"
    | _ => failType "not a function"
  | _ => failType "not a function"

/-- The arguments that a list of them stands for; none for no value. -/
def argumentsOf (machine : Machine) (list : Value) : Run (List Value) := do
  if list.isNullish then return []
  unless list matches .object _ do failType "not a object"
  itemsOf machine list

/-- Call a method that every function inherits. -/
def callFunctionPrototype (machine : Machine) (name : String) (receiver : Value)
    (arguments : List Value) : Run Value := do
  match name with
  | "call" => machine.call receiver (argument arguments 0) (arguments.drop 1)
  | "apply" =>
    machine.call receiver (argument arguments 0) (← argumentsOf machine (argument arguments 1))
  | "bind" =>
    unless ← isCallable receiver do failType "not a function"
    let bound ← allocate
      { prototype := some Intrinsic.functionPrototype.cell
        kind := .bound receiver (argument arguments 0) (arguments.drop 1) }
    let length ← lengthOf machine receiver
    let name ← getNamed machine receiver "name"
    let name := match name with
      | .text name => name.toText
      | _ => ""
    match bound with
    | .object cell =>
      change cell fun object =>
        { object with
          properties := functionProperties (length - (arguments.length - 1)) ("bound " ++ name) }
    | _ => pure ()
    return bound
  | "toString" => return .ofString (← functionText receiver)
  | _ => return .undefined

/-- The kind of error of a name. -/
def errorKindOf (name : String) : ErrorKind :=
  (ErrorKind.all.find? fun kind => kind.name == name).getD .plain

/-- Make an error from the arguments of its constructor. -/
def makeError (machine : Machine) (name : String) (arguments : List Value) (target : Value) :
    Run Value := do
  let prototype ←
    match target with
    | .undefined => pure (Intrinsic.errorPrototype (errorKindOf name)).cell
    | target => machine.prototypeOf target (.errorPrototype (errorKindOf name))
  let error ← allocate { prototype := some prototype, kind := .error }
  match argument arguments 0 with
  | .undefined => pure ()
  | message => define error (.ofString "message") (.hidden (.text (← toText machine message)))
  match argument arguments 1 with
  | .object cell =>
    if ← hasProperty machine (.ofString "cause") (.object cell) then
      define error (.ofString "cause") (.hidden (← getNamed machine (.object cell) "cause"))
  | _ => pure ()
  define error (.ofString "stack") (.hidden (.ofString "    at <anonymous>\n"))
  return error

/-- The text of an error: its name and its message. -/
def errorText (machine : Machine) (receiver : Value) : Run Value := do
  unless receiver matches .object _ do failType "not an object"
  let name ← getNamed machine receiver "name"
  let message ← getNamed machine receiver "message"
  let name ← if name matches .undefined then pure (Units.ofString "Error") else toText machine name
  let message ←
    if message matches .undefined then pure (Units.ofString "") else toText machine message
  if message.isEmpty then return .text name
  if name.isEmpty then return .text message
  return .text (name ++ Units.ofString ": " ++ message)

end ConfigDelivery.Script.JavaScript.Library
