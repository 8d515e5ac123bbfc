import ConfigDelivery.Script.JavaScript.Grammar
import ConfigDelivery.Script.JavaScript.Library
/-!
# The memory that scripts start from

The objects that exist before a script runs, what they hold, and the function that
every script's own is called through: it decodes the parameters, and encodes a
result that is an object.
-/

namespace ConfigDelivery.Script.JavaScript

open ConfigDelivery.Text (Units)
open Run

/-- How deep a program may be nested. -/
def grammarDepth : Nat := 1000

/-- How deep a run may nest what it evaluates. -/
def machineDepth : Nat := 4000

/-- The source of the function that scripts are called through. -/
def caller : String :=
  "function __run(runner, p) \x7b\n    var ret = runner(JSON.parse(p));\n" ++
  "    if (typeof ret === \"object\" && ret !== null) \x7b\n" ++
  "        return JSON.stringify(ret);\n" ++
  "    \x7d\n    return String(ret);\n\x7d"

/-- The name of the function that scripts are called through. -/
def callerName : String := "__run"

/-- The function that scripts are called through. -/
def callerFunction : Function :=
  let characters := caller.toList
  let read : Parse Function := do
    Parse.advance
    let name ← Parse.takeName
    Grammar.readFunction .ordinary false false name 0 (grammar grammarDepth).readParameters
      (grammar grammarDepth).readBody
  let source : Source :=
    { tokens := (tokens? characters).getD [], text := characters.toArray }
  match read.run source with
  | .ok (function, _) => function
  | .error _ => Machine.defaultConstructor false

/-- The objects that evaluation refers to, in the order of their places. -/
def intrinsics : Array Object :=
  let ofObject (kind : ObjectKind) : Object :=
    { prototype := some Intrinsic.objectPrototype.cell, kind }
  let errors := ErrorKind.all.map fun kind : ErrorKind =>
    let parent : Intrinsic := if kind == .plain then .objectPrototype else .errorPrototype .plain
    ({ prototype := some parent.cell } : Object)
  #[{ prototype := none },
    ofObject (.native .functionPrototype ""),
    ofObject (.array #[]),
    ofObject (.wrapper (.ofString "")),
    ofObject (.wrapper (.number 0)),
    ofObject (.wrapper (.bool false)),
    ofObject .ordinary,
    ofObject .ordinary,
    ofObject .ordinary,
    ofObject .ordinary,
    ofObject .ordinary,
    ofObject .ordinary,
    ofObject .ordinary] ++ errors.toArray

/-- A built-in function. -/
def newNative (family : Family) (name : String) (length : Nat) : Run Value :=
  allocate
    { prototype := some Intrinsic.functionPrototype.cell
      kind := .native family name
      properties := functionProperties length name }

/-- Functions by name, with their lengths. -/
abbrev FunctionList := List (String × Nat)

/-- Give functions to an object. -/
def addFunctions (holder : Value) (family : Family) (functions : FunctionList) : Run Unit :=
  functions.forM fun (name, length) => do
    define holder (.ofString name) (.hidden (← newNative family name length))

/-- Give values that cannot change to an object. -/
def addConstants (holder : Value) (constants : List (String × Value)) : Run Unit :=
  constants.forM fun (name, value) =>
    define holder (.ofString name) ⟨.data value false, false, false⟩

/-- A function that constructs, under its name, with the prototype of what it constructs. -/
def addConstructor (family : Family) (name : String) (length : Nat) (prototype : Intrinsic) :
    Run Value := do
  let callee ← newNative family name length
  let prototype := Value.ofIntrinsic prototype
  define callee (.ofString "prototype") ⟨.data prototype false, false, false⟩
  define prototype (.ofString "constructor") (.hidden callee)
  define (.ofIntrinsic .global) (.ofString name) (.hidden callee)
  return callee

/-- An object that holds functions, under its name. -/
def addModule (family : Family) (name : String) (functions : FunctionList) : Run Value := do
  let holder ← newObject []
  addFunctions holder family functions
  define holder WellKnown.toStringTag.key ⟨.data (.ofString name) false, false, true⟩
  define (.ofIntrinsic .global) (.ofString name) (.hidden holder)
  return holder

/-- Give an object a property that a function gets. -/
def addGetter (holder : Intrinsic) (family : Family) (name : String) (setter : Option String) :
    Run Unit := do
  let getter ← newNative family (if family == .primitivePrototype then name else "get " ++ name) 0
  let setter ←
    match setter with
    | some name => newNative family name 1
    | none => pure .undefined
  define (.ofIntrinsic holder) (.ofString name) ⟨.accessor getter setter, false, true⟩

/-- Give an object the word that tells what it is. -/
def addTag (holder : Intrinsic) (tag : String) : Run Unit :=
  define (.ofIntrinsic holder) WellKnown.toStringTag.key
    ⟨.data (.ofString tag) false, false, true⟩

/-- Give an object one of its own functions under a symbol. -/
def addAlias (holder : Intrinsic) (symbol : WellKnown) (name : String) : Run Unit := do
  match (← load holder.cell).own? (.ofString name) with
  | some slot => putOwn holder.cell symbol.key slot
  | none => return

/-- The functions of `Object`. -/
def objectFunctions : FunctionList :=
  [("keys", 1), ("values", 1), ("entries", 1), ("assign", 2), ("freeze", 1), ("seal", 1),
    ("preventExtensions", 1), ("isFrozen", 1), ("isSealed", 1), ("isExtensible", 1), ("create", 2),
    ("getPrototypeOf", 1), ("setPrototypeOf", 2), ("defineProperty", 3), ("defineProperties", 2),
    ("getOwnPropertyNames", 1), ("getOwnPropertySymbols", 1), ("getOwnPropertyDescriptor", 2),
    ("fromEntries", 1), ("is", 2), ("hasOwn", 2)]

/-- The methods of arrays. -/
def arrayMethods : FunctionList :=
  [("at", 1), ("with", 2), ("concat", 1), ("every", 1), ("some", 1), ("forEach", 1), ("map", 1),
    ("filter", 1), ("reduce", 1), ("reduceRight", 1), ("fill", 1), ("find", 1), ("findIndex", 1),
    ("findLast", 1), ("findLastIndex", 1), ("indexOf", 1), ("lastIndexOf", 1), ("includes", 1),
    ("join", 1), ("toString", 0), ("toLocaleString", 0), ("pop", 0), ("push", 1), ("shift", 0),
    ("unshift", 1), ("reverse", 0), ("toReversed", 0), ("sort", 1), ("toSorted", 1), ("slice", 2),
    ("splice", 2), ("copyWithin", 2), ("flatMap", 1), ("flat", 0), ("values", 0), ("keys", 0),
    ("entries", 0)]

/-- The methods of texts. -/
def textMethods : FunctionList :=
  [("at", 1), ("charCodeAt", 1), ("charAt", 1), ("concat", 1), ("codePointAt", 1),
    ("isWellFormed", 0), ("toWellFormed", 0), ("indexOf", 1), ("lastIndexOf", 1), ("includes", 1),
    ("endsWith", 1), ("startsWith", 1), ("split", 2), ("substring", 2), ("substr", 2), ("slice", 2),
    ("repeat", 1), ("replace", 2), ("replaceAll", 2), ("padEnd", 1), ("padStart", 1), ("trim", 0),
    ("trimEnd", 0), ("trimStart", 0), ("toString", 0), ("valueOf", 0), ("localeCompare", 1),
    ("toLowerCase", 0), ("toUpperCase", 0), ("toLocaleLowerCase", 0), ("toLocaleUpperCase", 0),
    ("normalize", 0)]

/-- The functions of `Math`. -/
def mathFunctions : FunctionList :=
  ["abs", "floor", "ceil", "round", "trunc", "sign", "sqrt", "cbrt", "exp", "expm1", "log", "log1p",
    "log2", "log10", "sin", "cos", "tan", "asin", "acos", "atan", "sinh", "cosh", "tanh", "clz32",
    "fround"].map (·, 1) ++
  [("atan2", 2), ("pow", 2), ("hypot", 2), ("max", 2), ("min", 2), ("imul", 2), ("random", 0)]

/-- Fill objects, functions, arrays and texts. -/
def setUpObjects : Run Unit := do
  let object ← addConstructor .object "Object" 1 .objectPrototype
  addFunctions object .object objectFunctions
  addFunctions (.ofIntrinsic .objectPrototype) .objectPrototype
    [("toString", 0), ("toLocaleString", 0), ("valueOf", 0), ("hasOwnProperty", 1),
      ("isPrototypeOf", 1), ("propertyIsEnumerable", 1)]
  addGetter .objectPrototype .objectPrototype "__proto__" (some "set __proto__")
  let _ ← addConstructor .functionPrototype "Function" 1 .functionPrototype
  addFunctions (.ofIntrinsic .functionPrototype) .functionPrototype
    [("call", 1), ("apply", 2), ("bind", 1), ("toString", 0)]
  let array ← addConstructor .array "Array" 1 .arrayPrototype
  addFunctions array .array [("isArray", 1), ("from", 1), ("of", 0)]
  addFunctions (.ofIntrinsic .arrayPrototype) .arrayPrototype arrayMethods
  addAlias .arrayPrototype .iterator "values"
  let text ← addConstructor .text "String" 1 .textPrototype
  addFunctions text .text [("fromCharCode", 1), ("fromCodePoint", 1)]
  addFunctions (.ofIntrinsic .textPrototype) .textPrototype textMethods
  define (.ofIntrinsic .textPrototype) WellKnown.iterator.key
    (.hidden (← newNative .textPrototype "[Symbol.iterator]" 0))

/-- Fill the objects of numbers and of the other primitive values. -/
def setUpNumbers : Run Unit := do
  let shared : FunctionList := [("parseInt", 2), ("parseFloat", 1)]
  let global := Value.ofIntrinsic .global
  addFunctions global .global (shared ++ [("isNaN", 1), ("isFinite", 1)])
  let number ← addConstructor .number "Number" 1 .numberPrototype
  addFunctions number .number
    [("isNaN", 1), ("isFinite", 1), ("isInteger", 1), ("isSafeInteger", 1)]
  for (name, _) in shared do
    match (← load Intrinsic.global.cell).own? (.ofString name) with
    | some slot => define number (.ofString name) slot
    | none => pure ()
  addConstants number
    [("MAX_SAFE_INTEGER", .number 9007199254740991),
      ("MIN_SAFE_INTEGER", .number (-9007199254740991)),
      ("EPSILON", .number 2.220446049250313e-16), ("MAX_VALUE", .number 1.7976931348623157e308),
      ("MIN_VALUE", .number 5e-324), ("POSITIVE_INFINITY", .number (1.0 / 0.0)),
      ("NEGATIVE_INFINITY", .number (-1.0 / 0.0)), ("NaN", .number (0.0 / 0.0))]
  addFunctions (.ofIntrinsic .numberPrototype) .numberPrototype
    [("toString", 1), ("toLocaleString", 0), ("valueOf", 0), ("toFixed", 1), ("toExponential", 1),
      ("toPrecision", 1)]
  let primitive : FunctionList := [("toString", 0), ("valueOf", 0)]
  let _ ← addConstructor .number "Boolean" 1 .boolPrototype
  addFunctions (.ofIntrinsic .boolPrototype) .primitivePrototype primitive
  let bigInt ← addConstructor .number "BigInt" 1 .bigIntPrototype
  addFunctions bigInt .number [("asIntN", 2), ("asUintN", 2)]
  addFunctions (.ofIntrinsic .bigIntPrototype) .primitivePrototype
    (primitive ++ [("toLocaleString", 0)])
  addTag .bigIntPrototype "BigInt"
  let symbol ← addConstructor .symbol "Symbol" 0 .symbolPrototype
  addConstants symbol (WellKnown.all.map fun known => (known.name, .symbol known.id))
  addFunctions symbol .symbol [("for", 1)]
  addFunctions (.ofIntrinsic .symbolPrototype) .primitivePrototype primitive
  addGetter .symbolPrototype .primitivePrototype "description" none
  addTag .symbolPrototype "Symbol"
  let math ← addModule .math "Math" mathFunctions
  addConstants math
    [("PI", .number 3.141592653589793), ("E", .number 2.718281828459045),
      ("LN2", .number 0.6931471805599453), ("LN10", .number 2.302585092994046),
      ("LOG2E", .number 1.4426950408889634), ("LOG10E", .number 0.4342944819032518),
      ("SQRT2", .number 1.4142135623730951), ("SQRT1_2", .number 0.7071067811865476)]
  addConstants global
    [("undefined", .undefined), ("NaN", .number (0.0 / 0.0)), ("Infinity", .number (1.0 / 0.0))]

/-- Fill the objects of errors. -/
def setUpErrors : Run Unit := do
  let plain ← addConstructor .error "Error" 1 (.errorPrototype .plain)
  ErrorKind.all.forM fun kind => do
    let prototype := Value.ofIntrinsic (.errorPrototype kind)
    define prototype (.ofString "name") (.hidden (.ofString kind.name))
    define prototype (.ofString "message") (.hidden (.ofString ""))
    if kind != .plain then
      let callee ← addConstructor .error kind.name 1 (.errorPrototype kind)
      match callee, plain with
      | .object cell, .object parent =>
        change cell fun object => { object with prototype := some parent }
      | _, _ => pure ()
  addFunctions (.ofIntrinsic (.errorPrototype .plain)) .error [("toString", 0)]

/-- Fill the objects of JSON, collections, promises and iterators. -/
def setUpCollections : Run Unit := do
  let _ ← addModule .json "JSON" [("parse", 2), ("stringify", 3)]
  let shared : FunctionList :=
    [("has", 1), ("delete", 1), ("clear", 0), ("forEach", 1), ("values", 0), ("keys", 0),
      ("entries", 0)]
  let _ ← addConstructor .collection "Map" 0 .mapPrototype
  addFunctions (.ofIntrinsic .mapPrototype) .collection (shared ++ [("get", 1), ("set", 2)])
  addGetter .mapPrototype .collection "size" none
  addAlias .mapPrototype .iterator "entries"
  addTag .mapPrototype "Map"
  let _ ← addConstructor .collection "Set" 0 .setPrototype
  addFunctions (.ofIntrinsic .setPrototype) .collection (shared ++ [("add", 1)])
  addGetter .setPrototype .collection "size" none
  addAlias .setPrototype .iterator "values"
  addTag .setPrototype "Set"
  let promise ← addConstructor .promise "Promise" 1 .promisePrototype
  addFunctions promise .promise
    [("resolve", 1), ("reject", 1), ("all", 1), ("allSettled", 1), ("any", 1), ("race", 1)]
  addFunctions (.ofIntrinsic .promisePrototype) .promise
    [("then", 2), ("catch", 1), ("finally", 1)]
  addTag .promisePrototype "Promise"
  addFunctions (.ofIntrinsic .iteratorPrototype) .iterator [("next", 0)]
  define (.ofIntrinsic .iteratorPrototype) WellKnown.iterator.key
    (.hidden (← newNative .iterator "[Symbol.iterator]" 0))

/-- Fill all objects that exist before a script runs. -/
def setUp : Run Unit := do
  setUpObjects
  setUpNumbers
  setUpErrors
  setUpCollections
  let global := Value.ofIntrinsic .global
  define global (.ofString "globalThis") (.hidden global)
  let scope ← openScope [] none
  let caller ← newFunction { function := callerFunction, scope }
  define global (.ofString callerName) ⟨.data caller true, true, false⟩

/-- The memory that every script starts from. -/
def freshMemory : Memory :=
  let symbols := WellKnown.all.map fun symbol =>
    some (Units.ofString ("Symbol." ++ symbol.name))
  let start : Memory := { objects := intrinsics, symbols := symbols.toArray, steps := 1000000 }
  match setUp start with
  | .ok _ memory => memory
  | .error _ memory => memory

end ConfigDelivery.Script.JavaScript
