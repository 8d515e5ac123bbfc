import ConfigDelivery.Script.JavaScript.Tree
/-!
# JavaScript values and memory

Primitive values, objects and scopes. Objects and scopes live in memory and are
shared by reference. The objects that exist before a script runs have fixed places
there. A run has a number of steps that it may take.
-/

namespace ConfigDelivery.Script.JavaScript

open ConfigDelivery.Text (Units)

/-- A reference into memory. -/
abbrev Cell := Nat

/-- A value. -/
inductive Value where
  | undefined
  | null
  | bool (value : Bool)
  | number (value : Float)
  | bigInt (value : Int)
  | text (value : Units)
  | symbol (id : Nat)
  | object (cell : Cell)

instance : Inhabited Value := ⟨.undefined⟩

/-- The name of a property. -/
inductive Key where
  | text (name : Units)
  | symbol (id : Nat)
  deriving DecidableEq

/-- The key of a text. -/
def Key.ofString (text : String) : Key := .text (Units.ofString text)

/-- What a property holds. -/
inductive Slot where
  | data (value : Value) (isWritable : Bool)
  | accessor (getter setter : Value)

/-- A property of an object. -/
structure PropertySlot where
  slot : Slot
  isEnumerable : Bool := true
  isConfigurable : Bool := true

/-- The groups of functions that exist before a script runs. -/
inductive Family where
  | global
  | object
  | objectPrototype
  | functionPrototype
  | array
  | arrayPrototype
  | textPrototype
  | text
  | numberPrototype
  | number
  | primitivePrototype
  | math
  | json
  | error
  | symbol
  | collection
  | promise
  | iterator
  deriving DecidableEq

/-- What an iterator goes through: an array-like object's indices and items, the characters of a
text, or the entries of a collection. -/
inductive IterationKind where
  | keys
  | values
  | entries
  deriving DecidableEq

/-- A function that a script defines, with the scope around it, the object whose parent `super`
means, and the fields that a class gives to its instances. -/
structure Closure where
  function : Function
  scope : Cell
  home : Option Cell := none
  fields : List (Key × Value) := []

/-- What an object is beside its properties. -/
inductive ObjectKind where
  | ordinary
  | array (items : Array (Option Value))
  | closure (closure : Closure)
  | native (family : Family) (name : String)
  | bound (target receiver : Value) (arguments : List Value)
  | error
  | wrapper (primitive : Value)
  | promise
  | map (entries : Array (Option (Value × Value)))
  | set (entries : Array (Option (Value × Value)))
  | iterator (source : Value) (position : Nat) (kind : IterationKind)

/-- An object. Properties keep the order in which they came. -/
structure Object where
  prototype : Option Cell
  kind : ObjectKind := .ordinary
  properties : Array (Key × PropertySlot) := #[]
  isExtensible : Bool := true
  /-- The items of an array can be changed. -/
  hasWritableItems : Bool := true

/-- A variable; it has no value before its declaration has run. -/
structure Variable where
  name : String
  mutability : Mutability
  value : Option Value

/-- A scope and the one around it. -/
structure Scope where
  bindings : List Variable
  outer : Option Cell

/-- Memory, the descriptions of symbols, the steps that are left, and the number of calls under
way. -/
structure Memory where
  objects : Array Object := #[]
  scopes : Array Scope := #[]
  symbols : Array (Option Units) := #[]
  steps : Nat := 0
  calls : Nat := 0

/-- Why an evaluation leaves off. -/
inductive Halt where
  /-- A value was thrown. -/
  | thrown (value : Value)
  | outOfSteps
  /-- A chain ends at a nullish value. -/
  | chainEnds
  /-- An asynchronous function waits. -/
  | suspended

/-- A run that may change memory. -/
abbrev Run := EStateM Halt Memory

/-- The kinds of built-in errors. -/
inductive ErrorKind where
  | plain
  | badType
  | badRange
  | badSyntax
  | badReference
  | internal
  | badEval
  | badUri
  deriving DecidableEq

/-- The objects that exist before a script runs and that evaluation refers to. -/
inductive Intrinsic where
  | objectPrototype
  | functionPrototype
  | arrayPrototype
  | textPrototype
  | numberPrototype
  | boolPrototype
  | symbolPrototype
  | bigIntPrototype
  | promisePrototype
  | mapPrototype
  | setPrototype
  | iteratorPrototype
  | global
  | errorPrototype (kind : ErrorKind)

namespace ErrorKind

/-- The kinds of errors in the order of their prototypes in memory. -/
def all : List ErrorKind := 
  [plain, badType, badRange, badSyntax, badReference, internal, badEval, badUri]

/-- The place of a kind among all. -/
def index : ErrorKind → Nat
  | plain => 0
  | badType => 1
  | badRange => 2
  | badSyntax => 3
  | badReference => 4
  | internal => 5
  | badEval => 6
  | badUri => 7

/-- The name of a kind of error. -/
def name : ErrorKind → String
  | plain => "Error"
  | badType => "TypeError"
  | badRange => "RangeError"
  | badSyntax => "SyntaxError"
  | badReference => "ReferenceError"
  | internal => "InternalError"
  | badEval => "EvalError"
  | badUri => "URIError"

end ErrorKind

/-- The place of an object in memory that exists before a script runs. -/
def Intrinsic.cell : Intrinsic → Cell
  | objectPrototype => 0
  | functionPrototype => 1
  | arrayPrototype => 2
  | textPrototype => 3
  | numberPrototype => 4
  | boolPrototype => 5
  | symbolPrototype => 6
  | bigIntPrototype => 7
  | promisePrototype => 8
  | mapPrototype => 9
  | setPrototype => 10
  | iteratorPrototype => 11
  | global => 12
  | errorPrototype kind => 13 + kind.index

/-- The symbols that exist before a script runs. -/
inductive WellKnown where
  | iterator
  | toPrimitive
  | toStringTag
  | hasInstance

namespace WellKnown

/-- The symbols in the order of their numbers. -/
def all : List WellKnown := [iterator, toPrimitive, toStringTag, hasInstance]

/-- The number of a symbol. -/
def id : WellKnown → Nat
  | iterator => 0
  | toPrimitive => 1
  | toStringTag => 2
  | hasInstance => 3

/-- The name of a symbol. -/
def name : WellKnown → String
  | iterator => "iterator"
  | toPrimitive => "toPrimitive"
  | toStringTag => "toStringTag"
  | hasInstance => "hasInstance"

/-- The key of a symbol. -/
def key (symbol : WellKnown) : Key := .symbol symbol.id

end WellKnown

/-- Where a statement leaves off. -/
inductive Flow where
  | next
  | break (label : Option String)
  | continue (label : Option String)
  | return (value : Value)

/-- How expressions are evaluated, statements executed, and functions called inside others. -/
structure Machine where
  evaluate : Cell → Expr → Run Value
  execute : Cell → Statement → Run Flow
  call : (callee receiver : Value) → (arguments : List Value) → Run Value
  construct : (callee : Value) → (arguments : List Value) → (target : Value) → Run Value

namespace Value

/-- The text value of a text. -/
def ofString (text : String) : Value := .text (Units.ofString text)

/-- The number value of a count. -/
def ofNat (count : Nat) : Value := .number count.toFloat

/-- The value of an object that exists before a script runs. -/
def ofIntrinsic (intrinsic : Intrinsic) : Value := .object intrinsic.cell

/-- Neither a value nor an object. -/
def isNullish : Value → Bool
  | undefined | null => true
  | _ => false

end Value

namespace Run

/-- Throw a value. -/
def throwValue {Result : Type} (value : Value) : Run Result := throw (.thrown value)

/-- Take a step. -/
def tick : Run Unit := fun memory =>
  if memory.steps = 0 then .error .outOfSteps memory
  else .ok () { memory with steps := memory.steps - 1 }

/-- Take as many steps as a value is long that is about to be built. -/
def spend (count : Nat) : Run Unit := fun memory =>
  if memory.steps < count then .error .outOfSteps { memory with steps := 0 }
  else .ok () { memory with steps := memory.steps - count }

/-- Put an object into memory. -/
def allocate (object : Object) : Run Value := fun memory =>
  .ok (.object memory.objects.size) { memory with objects := memory.objects.push object }

/-- The object of a cell. -/
def load (cell : Cell) : Run Object :=
  return (← get).objects[cell]?.getD { prototype := none }

/-- Change the object of a cell. -/
def change (cell : Cell) (update : Object → Object) : Run Unit :=
  modify fun memory => { memory with objects := memory.objects.modify cell update }

/-- A new object with data properties. -/
def newObject (properties : List (Key × Value)) : Run Value :=
  let slots := properties.map fun (key, value) => (key, ⟨.data value true, true, true⟩)
  allocate { prototype := some Intrinsic.objectPrototype.cell, properties := slots.toArray }

/-- A new array that may have holes. -/
def newSparseArray (items : Array (Option Value)) : Run Value := do
  spend (items.size / 8)
  allocate { prototype := some Intrinsic.arrayPrototype.cell, kind := .array items }

/-- A new array. -/
def newArray (items : List Value) : Run Value := newSparseArray (items.map some).toArray

/-- A new error with a message. -/
def newError (kind : ErrorKind) (message : String) : Run Value :=
  allocate
    { prototype := some (Intrinsic.errorPrototype kind).cell
      kind := .error
      properties :=
        #[(.ofString "message", ⟨.data (.ofString message) true, false, true⟩)] }

/-- Throw an error with a message. -/
def fail {Result : Type} (kind : ErrorKind) (message : String) : Run Result := do
  throwValue (← newError kind message)

/-- Throw a type error. -/
def failType {Result : Type} (message : String) : Run Result := fail .badType message

/-- A new symbol. -/
def newSymbol (description : Option Units) : Run Value := fun memory =>
  .ok (.symbol memory.symbols.size) { memory with symbols := memory.symbols.push description }

/-- Put a scope into memory. -/
def openScope (bindings : List Variable) (outer : Option Cell) : Run Cell := fun memory =>
  .ok memory.scopes.size { memory with scopes := memory.scopes.push ⟨bindings, outer⟩ }

/-- The variable of a name, in the innermost scope that has one; `depth` bounds the scopes. -/
def findVariable (name : String) : Nat → Cell → Run (Option (Cell × Variable))
  | 0, _ => return none
  | depth + 1, scope => do
    match (← get).scopes[scope]? with
    | none => return none
    | some ⟨bindings, outer⟩ =>
      match bindings.find? (·.name == name) with
      | some variable_ => return some (scope, variable_)
      | none =>
        match outer with
        | some outer => findVariable name depth outer
        | none => return none

/-- The number of scopes. -/
def scopeCount : Run Nat := return (← get).scopes.size

/-- Set a variable of a scope. -/
def setVariable (scope : Cell) (name : String) (value : Value) : Run Unit :=
  modify fun memory =>
    { memory with
      scopes := memory.scopes.modify scope fun scope =>
        { scope with
          bindings := scope.bindings.map fun variable_ =>
            if variable_.name == name then { variable_ with value := some value } else variable_ } }

end Run

end ConfigDelivery.Script.JavaScript
