import ConfigDelivery.Script.JavaScript.Conversion
/-!
# Functions and classes

Calling and constructing what scripts define. What a function has beside its
variables (its receiver, what `new` was applied to, the object whose parent `super`
means) is kept in its scope under words that are no names, so that arrow functions
find that of the function around them.
-/

namespace ConfigDelivery.Script.JavaScript

open ConfigDelivery.Text (Units)

/-- The word for the receiver of a call. -/
def receiverWord : String := "this"

/-- The word for what `new` was applied to. -/
def targetWord : String := "new.target"

/-- The word for the object whose parent `super` means. -/
def homeWord : String := "super.home"

/-- The word for the function that is running, in a class's constructor. -/
def functionWord : String := "super.function"

/-- The number of calls that may be under way at once. -/
def callLimit : Nat := 800

namespace Run

/-- Count a call while it is under way. -/
def counted {Result : Type} (run : Run Result) : Run Result := fun memory =>
  if callLimit ≤ memory.calls then (fail .internal "stack overflow") memory
  else
    match run { memory with calls := memory.calls + 1 } with
    | .ok result memory => .ok result { memory with calls := memory.calls - 1 }
    | .error halt memory => .error halt { memory with calls := memory.calls - 1 }

/-- The value of a word that is no name. -/
def wordValue? (word : String) (scope : Cell) : Run (Option Value) := do
  match ← findVariable word (← scopeCount) scope with
  | some (_, variable_) => return variable_.value
  | none => return none

/-- The receiver of the function around a scope. -/
def receiver (scope : Cell) : Run Value := do
  match ← findVariable receiverWord (← scopeCount) scope with
  | some (_, { value := some value, .. }) => return value
  | some (_, { value := none, .. }) => fail .badReference "this is not initialized"
  | none => return .undefined

/-- The value of a name. -/
def lookup (machine : Machine) (scope : Cell) (name : String) : Run Value := do
  match ← findVariable name (← scopeCount) scope with
  | some (_, { value := some value, .. }) => return value
  | some (_, { value := none, .. }) => fail .badReference (name ++ " is not initialized")
  | none =>
    let key := Key.ofString name
    match ← findProperty key prototypeDepth Intrinsic.global.cell with
    | none => fail .badReference ("'" ++ name ++ "' is not defined")
    | slot => slotValue machine (.ofIntrinsic .global) slot

/-- Assign a value to a name. -/
def assignName (machine : Machine) (scope : Cell) (name : String) (value : Value) : Run Unit := do
  match ← findVariable name (← scopeCount) scope with
  | some (_, { value := none, .. }) => fail .badReference (name ++ " is not initialized")
  | some (_, { mutability := .constant, .. }) => failReadOnly (.ofString name)
  | some (scope, _) => setVariable scope name value
  | none =>
    let key := Key.ofString name
    match ← findProperty key prototypeDepth Intrinsic.global.cell with
    | none => fail .badReference ("'" ++ name ++ "' is not defined")
    | some _ => setProperty machine (.ofIntrinsic .global) key value

/-- Give a declared name its first value. -/
def initializeName (scope : Cell) (name : String) (value : Value) : Run Unit := do
  match ← findVariable name (← scopeCount) scope with
  | some (scope, _) => setVariable scope name value
  | none => return

/-! ## Making functions -/

/-- A function of a kind can be constructed with. -/
def canConstruct (info : FunctionInfo) : Bool :=
  !info.isAsync && match info.kind with
    | .ordinary | .constructor | .derivedConstructor => true
    | .arrow | .method => false

/-- The properties that every function has: its length and its name. -/
def functionProperties (length : Nat) (name : String) : Array (Key × PropertySlot) :=
  #[(lengthKey, ⟨.data (.ofNat length) false, false, true⟩),
    (.ofString "name", ⟨.data (.ofString name) false, false, true⟩)]

/-- Put a function into memory. One that can be constructed with has an object that what it
constructs has for its prototype. -/
def newFunction (closure : Closure) : Run Value := do
  let info := closure.function.info
  let callee ← allocate
    { prototype := some Intrinsic.functionPrototype.cell
      kind := .closure closure
      properties := functionProperties info.length info.name }
  if info.kind == .ordinary && canConstruct info then
    let prototype ← newObject []
    define prototype (.ofString "constructor") (.hidden callee)
    define callee (.ofString "prototype") ⟨.data prototype true, false, false⟩
  return callee

/-- Put a function expression into memory. A name of its own is a name in its body only. -/
def closeOver (scope : Cell) (function : Function) (home : Option Cell) : Run Value := do
  if function.info.bindsItself then
    let inner ← openScope [⟨function.info.name, .constant, none⟩] (some scope)
    let callee ← newFunction { function, scope := inner, home }
    setVariable inner function.info.name callee
    return callee
  else newFunction { function, scope, home }

/-- Open a scope for what a block declares, with its functions; the same scope if it declares
nothing. -/
def enterBlock (scope : Cell) (declared : List (String × Mutability)) (functions : List Function) :
    Run Cell := do
  if declared.isEmpty && functions.isEmpty then return scope
  let unset := declared.map fun (name, mutability) => ⟨name, mutability, none⟩
  let inner ← openScope unset (some scope)
  functions.forM fun function => do
    setVariable inner function.info.name (← newFunction { function, scope := inner })
  return inner

end Run

open Run

namespace Machine

variable (machine : Machine)

/-- Execute statements until one leaves off elsewhere than at its end. -/
def executeAll (scope : Cell) : List Statement → Run Flow
  | [] => return .next
  | statement :: rest => do
    match ← machine.execute scope statement with
    | .next => executeAll scope rest
    | flow => return flow

/-- Execute a block in a scope of its own. -/
def executeBlock (scope : Cell) (block : Block) : Run Flow := do
  let ⟨declared, functions, statements⟩ := block
  machine.executeAll (← enterBlock scope declared functions) statements

/-! ## Patterns -/

/-- The key of a property's name. -/
def evaluateName (scope : Cell) (name : PropertyName) : Run Key := do
  match name with
  | .fixed name => return .text name
  | .computed name => toKey machine (← machine.evaluate scope name)

/-- Assign to an expression on the left of an assignment. -/
def assignPlace (scope : Cell) (target : Expr) (value : Value) : Run Unit := do
  match target with
  | .name name => assignName machine scope name value
  | .member target name => setProperty machine (← machine.evaluate scope target) (.text name) value
  | .index target key =>
    let target ← machine.evaluate scope target
    let key ← machine.evaluate scope key
    setProperty machine target (← toKey machine key) value
  | .superMember key =>
    let key ← toKey machine (← machine.evaluate scope key)
    setProperty machine (← receiver scope) key value
  | _ => fail .badSyntax "invalid assignment left-hand side"

/-- A value, or that of a default if it is undefined. -/
def withDefault (scope : Cell) (default : Option Expr) (value : Value) : Run Value := do
  match value, default with
  | .undefined, some default => machine.evaluate scope default
  | value, _ => return value

/-- An object with the properties of a value that are not among some keys. -/
def restOf (taken : List Key) (value : Value) : Run Value := do
  let names ← enumerableKeys value
  let properties ← (names.filter fun name => !taken.contains (.text name)).mapM fun name =>
    return (Key.text name, ← getProperty machine value (.text name))
  newObject properties

/-- Bind the values that a value lists to targets in order. -/
def bindItems (bind : Pattern → Value → Run Unit) (scope : Cell) :
    List PatternItem → List Value → Run (List Value)
  | [], values => return values
  | .hole :: items, values => bindItems bind scope items (values.drop 1)
  | .item target default :: items, values => do
    bind target (← machine.withDefault scope default (values.headD .undefined))
    bindItems bind scope items (values.drop 1)

/-- The first values that a value lists, or all of them. -/
def takeValues (count : Option Nat) (value : Value) : Run (List Value) := do
  match count with
  | none => valuesOf machine value
  | some count =>
    let list ← newArray []
    let _ : Option Unit ←
      if count = 0 then pure none
      else
        overValues machine value fun item => do
          match list with
          | .object cell =>
            let size ← lengthOf machine list
            putItem cell size item
            return if count ≤ size + 1 then some () else none
          | _ => return some ()
    itemsOf machine list

/-- Bind or assign a value to a pattern; `initial` gives declared names their first value, and
`depth` bounds the nesting. -/
def bindPattern (scope : Cell) (initial : Bool) : Nat → Pattern → Value → Run Unit
  | _, .name name, value =>
    if initial then initializeName scope name value else assignName machine scope name value
  | _, .place target, value => machine.assignPlace scope target value
  | depth + 1, .object entries rest, value => do
    if value.isNullish then failType "cannot convert to object"
    let taken ← entries.mapM fun ⟨name, target, default⟩ => do
      let key ← machine.evaluateName scope name
      let item ← getProperty machine value key
      bindPattern scope initial depth target (← machine.withDefault scope default item)
      return key
    match rest with
    | some rest => bindPattern scope initial depth rest (← machine.restOf taken value)
    | none => return
  | depth + 1, .array items rest, value => do
    let count := if rest.isSome then none else some items.length
    let values ← machine.takeValues count value
    let values ← machine.bindItems (bindPattern scope initial depth) scope items values
    match rest with
    | some rest => bindPattern scope initial depth rest (← newArray values)
    | none => return
  | 0, _, _ => fail .internal "stack overflow"

/-! ## Calls -/

/-- The list of its arguments that a function can name. -/
def newArguments (arguments : List Value) : Run Value := do
  let values ← getProperty machine (.ofIntrinsic .arrayPrototype) (.ofString "values")
  let items := arguments.mapIdx fun index value => (indexKey index, value)
  let list ← newObject items
  define list lengthKey (.hidden (.ofNat arguments.length))
  define list WellKnown.iterator.key (.hidden values)
  return list

/-- Open a function's scope and bind its parameters to arguments. -/
def enterFunction (closure : Closure) (words : List Variable) (arguments : List Value) :
    Run Cell := do
  let ⟨info, parameters, rest, ⟨declared, functions, _⟩⟩ := closure.function
  let parameterNames := boundBy patternDepth (.array parameters rest)
  let own ←
    if info.usesArguments && info.kind != .arrow then do
      pure [Variable.mk "arguments" .variable (some (← machine.newArguments arguments))]
    else pure []
  let bindings :=
    parameterNames.map (fun name => Variable.mk name .variable none)
      ++ (info.bindings.filter fun name => !parameterNames.contains name).map
        (fun name => Variable.mk name .variable (some .undefined))
      ++ declared.map (fun (name, mutability) => Variable.mk name mutability none)
  let scope ← openScope (bindings ++ own ++ words) (some closure.scope)
  let values ←
    machine.bindItems (machine.bindPattern scope true patternDepth) scope parameters arguments
  match rest with
  | some rest => machine.bindPattern scope true patternDepth rest (← newArray values)
  | none => pure ()
  functions.forM fun function => do
    setVariable scope function.info.name (← newFunction { function, scope })
  return scope

/-- Execute a function's body; the answer is what it returns. -/
def runBody (closure : Closure) (scope : Cell) : Run Value := do
  let ⟨_, _, _, ⟨_, _, statements⟩⟩ := closure.function
  match ← machine.executeAll scope statements with
  | .return value => return value
  | _ => return .undefined

/-- The words of a function's scope. Arrow functions have none. -/
def wordsOf (closure : Closure) (callee : Value) (receiver : Option Value) (target : Value) :
    List Variable :=
  if closure.function.info.kind == .arrow then []
  else
    [⟨receiverWord, .variable, receiver⟩, ⟨targetWord, .constant, some target⟩]
      ++ match closure.home with
        | some home =>
          [⟨homeWord, .constant, some (.object home)⟩, ⟨functionWord, .constant, some callee⟩]
        | none => []

/-- The promise of an asynchronous function. What it waits for never comes while a script runs. -/
def runAsync (run : Run Value) : Run Value := fun memory =>
  let promise : Run Value :=
    allocate { prototype := some Intrinsic.promisePrototype.cell, kind := .promise }
  match run memory with
  | .ok _ memory => promise memory
  | .error (.thrown _) memory => promise memory
  | .error .suspended memory => promise memory
  | .error halt memory => .error halt memory

/-- Call a function that a script defines. -/
def callClosure (closure : Closure) (callee receiver : Value) (arguments : List Value) :
    Run Value :=
  counted do
    let info := closure.function.info
    if info.kind == .constructor || info.kind == .derivedConstructor then
      failType "class constructors must be invoked with 'new'"
    let run : Run Value := do
      let words := wordsOf closure callee (some receiver) .undefined
      machine.runBody closure (← machine.enterFunction closure words arguments)
    if info.isAsync then runAsync run else run

/-- The prototype that a function gives to what it constructs. -/
def prototypeOf (target : Value) (default : Intrinsic) : Run Cell := do
  match ← getNamed machine target "prototype" with
  | .object cell => return cell
  | _ => return default.cell

/-- Give an instance the fields of its class. -/
def initializeFields (closure : Closure) (instance_ : Value) : Run Unit :=
  closure.fields.forM fun (key, initializer) => do
    defineValue instance_ key (← machine.call initializer instance_ [])

/-- Construct with a function that a script defines. -/
def constructClosure (closure : Closure) (callee : Value) (arguments : List Value)
    (target : Value) : Run Value :=
  counted do
    let info := closure.function.info
    unless canConstruct info do failType "not a constructor"
    if info.kind == .derivedConstructor then
      let words := wordsOf closure callee none target
      let scope ← machine.enterFunction closure words arguments
      match ← machine.runBody closure scope with
      | .object cell => return .object cell
      | .undefined => Run.receiver scope
      | _ => failType "derived class constructor must return an object or undefined"
    else
      let prototype ← machine.prototypeOf target .objectPrototype
      let instance_ ← allocate { prototype := some prototype }
      machine.initializeFields closure instance_
      let words := wordsOf closure callee (some instance_) target
      match ← machine.runBody closure (← machine.enterFunction closure words arguments) with
      | .object cell => return .object cell
      | _ => return instance_

/-- Call the constructor of the parent class: what it constructs is the receiver from then on. -/
def callParent (scope : Cell) (arguments : List Value) : Run Value := do
  let callee := (← wordValue? functionWord scope).getD .undefined
  let target := (← wordValue? targetWord scope).getD .undefined
  match callee with
  | .object cell =>
    let object ← load cell
    let parent :=
      match object.prototype with
      | some parent => Value.object parent
      | none => .null
    let instance_ ← machine.construct parent arguments target
    match ← findVariable receiverWord (← scopeCount) scope with
    | some (_, { value := some _, .. }) => fail .badReference "'this' can be initialized only once"
    | some (scope, _) => setVariable scope receiverWord instance_
    | none => pure ()
    match object.kind with
    | .closure closure => machine.initializeFields closure instance_
    | _ => pure ()
    return instance_
  | _ => failType "not a constructor"

/-! ## Classes -/

/-- The constructor of a class that defines none: it does nothing, or constructs with the parent's
on the same arguments. -/
def defaultConstructor (isDerived : Bool) : Function :=
  let info : FunctionInfo :=
    { name := "", kind := if isDerived then .derivedConstructor else .constructor
      isAsync := false, bindsItself := false, usesArguments := false, length := 0, text := ""
      bindings := [] }
  if isDerived then
    let call := Expr.superCall [.spread (.name "arguments.rest")]
    ⟨info, [], some (.name "arguments.rest"), ⟨[], [], [.expression call]⟩⟩
  else ⟨info, [], none, Block.empty⟩

/-- Define a method, or one of the functions that get and set a property. -/
def defineMember (holder : Value) (key : Key) (kind : MemberKind) (isEnumerable : Bool)
    (function : Value) : Run Unit := do
  let old ←
    match holder with
    | .object cell => pure (((← load cell).own? key).map PropertySlot.slot)
    | _ => pure none
  let (getter, setter) : Value × Value :=
    match old with
    | some (.accessor getter setter) => (getter, setter)
    | _ => (.undefined, .undefined)
  let slot : Slot :=
    match kind with
    | .getter => .accessor function setter
    | .setter => .accessor getter function
    | .method | .field => .data function true
  define holder key ⟨slot, isEnumerable, true⟩

/-- A method's name, if its key tells it. -/
def namedBy (key : Key) (function : Function) : Run Function := do
  if function.info.name.isEmpty then return function.named (← keyText key) else return function

/-- Make a class. -/
def makeClass (scope : Cell) (definition : Class) : Run Value := do
  let ⟨name, parent, constructor, members, text⟩ := definition
  let scope ←
    if name.isEmpty then pure scope
    else openScope [⟨name, .constant, none⟩] (some scope)
  let (parentPrototype, parentFunction) : Option Cell × Cell ←
    match parent with
    | none => pure (some Intrinsic.objectPrototype.cell, Intrinsic.functionPrototype.cell)
    | some parent => do
      match ← machine.evaluate scope parent with
      | .null => pure (none, Intrinsic.functionPrototype.cell)
      | value =>
        unless ← isCallable value do failType "parent class must be constructor"
        match value, ← getNamed machine value "prototype" with
        | .object parent, .object prototype => pure (some prototype, parent)
        | .object parent, .null => pure (none, parent)
        | _, _ => failType "parent prototype must be an object or null"
  let prototype ← allocate { prototype := parentPrototype }
  let home :=
    match prototype with
    | .object cell => cell
    | _ => 0
  let ⟨info, parameters, rest, body⟩ := constructor.getD (defaultConstructor parent.isSome)
  let function : Function := ⟨{ info with name, text }, parameters, rest, body⟩
  let callee ← newFunction { function, scope, home := some home }
  let cell :=
    match callee with
    | .object cell => cell
    | _ => 0
  change cell fun object => { object with prototype := some parentFunction }
  define callee (.ofString "prototype") ⟨.data prototype false, false, false⟩
  define prototype (.ofString "constructor") (.hidden callee)
  let fields ← members.filterMapM fun ⟨isStatic, name, kind, function⟩ => do
    let key ← machine.evaluateName scope name
    let holder := if isStatic then callee else prototype
    let memberHome := if isStatic then cell else home
    let function ← if kind == .field then pure function else namedBy key function
    let function ← newFunction { function, scope, home := some memberHome }
    if kind == .field then return some (isStatic, key, function)
    else
      defineMember holder key kind false function
      return none
  let instanceFields := (fields.filter fun (isStatic, _) => !isStatic).map Prod.snd
  change cell fun object =>
    match object.kind with
    | .closure closure => { object with kind := .closure { closure with fields := instanceFields } }
    | _ => object
  unless name.isEmpty do setVariable scope name callee
  fields.forM fun (isStatic, key, initializer) => do
    if isStatic then defineValue callee key (← machine.call initializer callee [])
  return callee

end Machine

end ConfigDelivery.Script.JavaScript
