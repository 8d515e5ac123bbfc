import ConfigDelivery.Script.Finished
import ConfigDelivery.Script.JavaScript.Realm
/-!
# JavaScript programs

A script is the body of a function of one parameter, which a module exports. This
module puts the script into that function, compiles the whole, and runs it on
parameters in a memory of its own.
-/

namespace ConfigDelivery.Script.JavaScript

open ConfigDelivery.Text (Units)
open Run

/-- A script in the function that it is the body of. -/
def wrap (source : List Char) : List Char :=
  "export default function (p) \x7b\n".toList ++ source ++ ['\n', '\x7d']

/-- A compiled script: a module and the function that it exports. -/
structure Program where
  body : Block
  bindings : List String
  entry : Option Function

/-- The name of what a module exports without one. -/
def defaultName : String := "default"

/-- Read what a module exports behind the keyword; the answer has what it exports without a
name. -/
def readExport : Parse (Option Function × Statement) := do
  let grammar := grammar grammarDepth
  if ← Parse.acceptWord "default" then
    let start ← Parse.position
    let isAsync ← Parse.acceptWord "async"
    Parse.expectWord "function"
    match ← grammar.readFunctionExpression isAsync start with
    | .function function =>
      let isNamed := !function.info.name.isEmpty
      let function := if isNamed then function else function.named defaultName
      if isNamed then Parse.declareFunction function
      return (some function, .empty)
    | _ => Parse.refuse "expecting a function"
  else
    match ← Parse.peek with
    | some (.word word) =>
      if ["var", "let", "const", "function", "async", "class"].contains word then
        return (none, ← grammar.readStatement true)
      else Parse.refuse "invalid export syntax"
    | _ => Parse.refuse "invalid export syntax"

/-- Read a module. It exports at most one function without a name. -/
def readModule : Parse Program := do
  let ((items, scope), bindings, _) ← Parse.inFunction false {} do
    Parse.inScope {} do
      Parse.many do
        if (← get).tokens.isEmpty then return none
        if ← Parse.acceptWord "export" then return some (← readExport)
        return some (none, ← (grammar grammarDepth).readStatement true)
  let entries := items.filterMap Prod.fst
  if 1 < entries.length then Parse.refuse "duplicate exported name 'default'"
  return ⟨⟨scope.declared, scope.functions, items.map Prod.snd⟩, bindings, entries.head?⟩

/-- Compile a script. -/
def compile (source : String) : Except String Program := do
  let characters := wrap source.toList
  match tokens? characters with
  | none => throw "unexpected token"
  | some tokens =>
    let (program, _) ← readModule.run { tokens, text := characters.toArray }
    return program

/-! ## Results as text -/

/-- The kind of a value, as a failed conversion names it. -/
def kindName (value : Value) : Run String := do
  match value with
  | .undefined => return "undefined"
  | .null => return "null"
  | .bool _ => return "bool"
  | .number value =>
    let isWord := (exactInt? value).any fun whole => -0x80000000 ≤ whole && whole < 0x80000000
    let isNegativeZero := value == 0 && 1 / value < 0
    return if isWord && !isNegativeZero then "int" else "float"
  | .bigInt _ => return "big_int"
  | .text _ => return "string"
  | .symbol _ => return "symbol"
  | .object cell =>
    match (← load cell).kind with
    | .array _ => return "array"
    | .closure closure =>
      return if canConstruct closure.function.info then "constructor" else "function"
    | .native _ _ | .bound _ _ _ => return "function"
    | .error => return "exception"
    | _ => return "object"

/-- The wording for a value that is not of a kind. -/
def conversionFailure (value : Value) (kind : String) : Run String :=
  return "Error converting from js '" ++ (← kindName value) ++ "' into type '" ++ kind ++ "'"

/-- The number of bytes in front of the first half of a surrogate pair that stands alone. -/
def bytesBefore : List Nat → Nat
  | [] => 0
  | code :: rest =>
    if Units.isSurrogate code then 0 else (Char.ofNat code).utf8Size + bytesBefore rest

/-- The text of a result; one that is no text, or whose units are none, has none. -/
def resultText (value : Value) : Run (Except String String) := do
  match value with
  | .text text =>
    match text.toText? with
    | some text => return .ok text
    | none =>
      return .error ("Conversion from string failed: invalid utf-8 sequence of 1 bytes from index "
        ++ toString (bytesBefore text.codes))
  | other => return .error (← conversionFailure other "string")

/-- The text of what a script throws: an error's message, or a text. -/
def thrownText (machine : Machine) (value : Value) : Run String := do
  let uncaught := "uncaught exception"
  match value with
  | .text text => return text.toText?.getD uncaught
  | .object cell =>
    match (← load cell).kind with
    | .error =>
      let message : Run String := do
        match ← getNamed machine value "message" with
        | .undefined | .null => return uncaught
        | message => return (← toText machine message).toText?.getD uncaught
      fun memory =>
        match message memory with
        | .error (.thrown _) memory => .ok uncaught memory
        | result => result
    | _ => return uncaught
  | _ => return uncaught

/-! ## Runs -/

/-- Evaluate a module, and call the function that it exports on a text. -/
def Program.call (program : Program) (params : String) : Run (Except String String) := do
  let machine := machine machineDepth
  let ⟨declared, functions, statements⟩ := program.body
  let bindings :=
    program.bindings.map (fun name => Variable.mk name .variable (some .undefined))
      ++ declared.map (fun (name, mutability) => Variable.mk name mutability none)
      ++ [⟨receiverWord, .constant, some .undefined⟩]
  let scope ← openScope bindings none
  functions.forM fun function => do
    setVariable scope function.info.name (← newFunction { function, scope })
  let entry ←
    match program.entry with
    | some function => newFunction { function, scope }
    | none => pure .undefined
  let _ ← machine.executeAll scope statements
  let caller ← getNamed machine (.ofIntrinsic .global) callerName
  if ← isCallable caller then
    resultText (← machine.call caller .undefined [entry, .ofString params])
  else return .error (← conversionFailure caller "function")

/-- Run a program on parameters with a number of steps. -/
def Program.run (program : Program) (params : String) (steps : Nat) : Finished :=
  let machine := machine machineDepth
  let guarded : Run (Except String String) := fun memory =>
    match program.call params memory with
    | .error (.thrown value) memory =>
      (do return Except.error (← thrownText machine value) : Run (Except String String))
        { memory with calls := 0 }
    | result => result
  match guarded { freshMemory with steps } with
  | .ok (.ok text) memory => ⟨some (.ok text), steps - memory.steps⟩
  | .ok (.error reason) memory => ⟨some (.error (.runtime reason)), steps - memory.steps⟩
  | .error .outOfSteps _ => ⟨none, steps⟩
  | .error _ memory => ⟨some (.error (.runtime "uncaught exception")), steps - memory.steps⟩

end ConfigDelivery.Script.JavaScript
