import ConfigDelivery.Script.Finished
import ConfigDelivery.Script.Starlark.Evaluation
import ConfigDelivery.Script.Starlark.Grammar
/-!
# Starlark programs

A script is the body of a function of one parameter, which arrives as JSON text.
This module puts the script under its header, compiles the whole, and runs it:
texts come back as they are, tuples, lists and dicts as JSON, and all other values
as Starlark writes them.
-/

namespace ConfigDelivery.Script.Starlark

/-- The name of the function that a script is the body of. -/
def entryPoint : String := "run"

/-- The lines in front of a script. -/
def header : List Char := "def run(p):\n    p = json.decode(p)\n".toList

/-- What every line of a script is indented by. -/
def indentation : List Char := [' ', ' ', ' ', ' ']

/-- A line without the carriage return at its end. -/
def dropReturn (line : List Char) : List Char :=
  match line.reverse with
  | '\r' :: rest => rest.reverse
  | _ => line

/-- The lines of a text, without their ends. The last one may lack its end. -/
def lines (characters : List Char) : List (List Char) :=
  let pieces := Text.splitOn '\n' characters
  let ended := pieces.dropLast.map dropReturn
  match pieces.getLast? with
  | none | some [] => ended
  | some last => ended ++ [last]

/-- A script under its header, line by line. -/
def wrap (source : List Char) : List Char :=
  -- The lines inside a literal are indented as well.
  header ++ (lines source).flatMap fun line => indentation ++ line ++ ['\n']

/-- A compiled script. -/
structure Program where
  /-- The name that its failures show. -/
  fileName : String
  entry : Function

/-- The name of a compiled script's text. -/
def fileName (cacheId : String) : String :=
  (if cacheId.isEmpty then "script" else cacheId) ++ ".star"

/-- How deep a program may be nested, and how deep a run may nest what it evaluates. -/
def nestingLimit : Nat := 2000

/-- Read a whole text as statements, and say which names it leaves free. -/
def readProgram (text : String) : Except String (List Statement × List String) := do
  match tokens? text with
  | none => throw "the text has a part that is no token"
  | some tokens =>
    let statements : Parse (List Statement) := do
      let blocks ← Parse.many do
        if (← get).tokens.isEmpty then return none
        return some (← (grammar nestingLimit).statement)
      return blocks.flatten
    let (statements, source) ← statements.run { tokens }
    return (statements, source.uses.filter fun name => !source.binds.contains name)

/-- Compile a script. Every name has to be bound by a scope around it or built in. -/
def compile (cacheId source : String) : Except String Program := do
  let (statements, free) ← readProgram (String.ofList (wrap source.toList))
  match free.find? fun name => (globalValue? name).isNone with
  | some name => throw ("Variable `" ++ name ++ "` not found")
  | none =>
    match statements with
    | [.define entry] => return ⟨fileName cacheId, entry⟩
    | _ => throw "a script is the body of one function"

/-- The text of a result, or why it has none. -/
def resultText (value : Value) : Run (Except String String) := do
  match value with
  | .text text => return .ok text
  | .list _ | .dict _ | .tuple _ => Run.jsonOf value
  | other => return .ok (← Run.reprOf other)

/-- Run a program's function on a text. -/
def Program.call (program : Program) (params : String) : Run (Except String String) := do
  let machine := machine nestingLimit
  let scope ← Run.allocate (.scope [(entryPoint, none)])
  let function ← machine.close [scope] program.entry
  Run.assignName entryPoint function [scope]
  resultText (← machine.call callLimit function ⟨[.text params], []⟩)

/-- The wording of a failure in a program's text. -/
def Program.failureText (program : Program) (message : String) : String :=
  "error: " ++ message ++ "\n --> " ++ program.fileName

/-- Run a program on parameters with a number of steps. -/
def Program.run (program : Program) (params : String) (steps : Nat) : Finished :=
  match program.call params { steps } with
  | .ok (.ok text) memory => ⟨some (.ok text), steps - memory.steps⟩
  | .ok (.error reason) memory =>
    ⟨some (.error (.runtime ("result is not JSON encodable: " ++ reason))), steps - memory.steps⟩
  | .error (.failure message) memory =>
    ⟨some (.error (.runtime (program.failureText message))), steps - memory.steps⟩
  | .error .outOfSteps _ => ⟨none, steps⟩

end ConfigDelivery.Script.Starlark
