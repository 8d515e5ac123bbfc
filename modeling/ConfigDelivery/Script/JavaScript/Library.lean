import ConfigDelivery.Script.JavaScript.Evaluation
import ConfigDelivery.Script.JavaScript.Library.Collections
/-!
# Calling and constructing

What it means to call a value or to construct with it, whether a script defines it
or it exists before scripts run; and with that the machine for every depth of
nesting.
-/

namespace ConfigDelivery.Script.JavaScript

open ConfigDelivery.Text (Units)
open Run Library

/-- Call a function that exists before scripts run. -/
def callNative (machine : Machine) (family : Family) (name : String) (receiver : Value)
    (arguments : List Value) : Run Value :=
  match family with
  | .global => callGlobal machine name arguments
  | .object => callObject machine name arguments
  | .objectPrototype => callObjectPrototype machine name receiver arguments
  | .functionPrototype => callFunctionPrototype machine name receiver arguments
  | .array => callArray machine name arguments
  | .arrayPrototype => callArrayPrototype machine name receiver arguments
  | .text => callText machine name arguments
  | .textPrototype => callTextPrototype machine name receiver arguments
  | .number => callNumber machine name arguments
  | .numberPrototype => callNumberPrototype machine name receiver arguments
  | .primitivePrototype => callPrimitivePrototype machine name receiver arguments
  | .math => callMath machine name arguments
  | .json => callJson machine name arguments
  | .error =>
    if name == "toString" then errorText machine receiver
    else makeError machine name arguments .undefined
  | .symbol => callSymbol machine name arguments
  | .collection =>
    if name == "Map" || name == "Set" then failType "must be called with new"
    else callCollection machine name receiver arguments
  | .promise =>
    if name == "Promise" then failType "must be called with new" else callPromise name arguments
  | .iterator => callIterator machine name receiver

/-- Wrap a primitive value. -/
def wrapPrimitive (primitive : Value) : Run Value :=
  allocate { prototype := baseOf primitive, kind := .wrapper primitive }

/-- Construct with a function that exists before scripts run, for what `new` was applied to. -/
def constructNative (machine : Machine) (family : Family) (name : String)
    (arguments : List Value) (callee target : Value) : Run Value := do
  let adopted (value : Value) : Run Value := do
    match value with
    | .object cell =>
      unless callee.isSame target do
        match ← getNamed machine target "prototype" with
        | .object parent => change cell fun object => { object with prototype := some parent }
        | _ => pure ()
      return value
    | value => return value
  match family, name with
  | .error, "toString" => failType "not a constructor"
  | .error, name => makeError machine name arguments target
  | .object, "Object" => adopted (← callObject machine name arguments)
  | .array, "Array" => adopted (← callArray machine name arguments)
  | .text, "String" =>
    match arguments with
    | .symbol _ :: _ => failType "cannot convert symbol to string"
    | arguments => adopted (← wrapPrimitive (← callText machine name arguments))
  | .number, "Number" | .number, "Boolean" =>
    adopted (← wrapPrimitive (← callNumber machine name arguments))
  | .collection, "Map" => makeCollection machine true (argument arguments 0) target
  | .collection, "Set" => makeCollection machine false (argument arguments 0) target
  | .promise, "Promise" => adopted (← makePromise machine (argument arguments 0))
  | _, _ => failType "not a constructor"

/-- Call a value. -/
def callStep (machine : Machine) (callee receiver : Value) (arguments : List Value) :
    Run Value := do
  tick
  match callee with
  | .object cell =>
    match (← load cell).kind with
    | .closure closure => machine.callClosure closure callee receiver arguments
    | .native family name => callNative machine family name receiver arguments
    | .bound target receiver first => machine.call target receiver (first ++ arguments)
    | _ => failType "not a function"
  | _ => failType "not a function"

/-- Construct with a value. -/
def constructStep (machine : Machine) (callee : Value) (arguments : List Value) (target : Value) :
    Run Value := do
  tick
  match callee with
  | .object cell =>
    match (← load cell).kind with
    | .closure closure => machine.constructClosure closure callee arguments target
    | .native family name => constructNative machine family name arguments callee target
    | .bound inner _ first => machine.construct inner (first ++ arguments) inner
    | _ => failType "not a constructor"
  | _ => failType "not a constructor"

/-- The machine for what is nested at most `depth` deep. -/
def machine : Nat → Machine
  | 0 =>
    { evaluate := fun _ _ => fail .internal "stack overflow"
      execute := fun _ _ => fail .internal "stack overflow"
      call := fun _ _ _ => fail .internal "stack overflow"
      construct := fun _ _ _ => fail .internal "stack overflow" }
  | depth + 1 =>
    { evaluate := fun scope expression => (machine depth).evaluateStep scope expression
      execute := fun scope statement => (machine depth).executeStep scope statement
      call := fun callee receiver arguments => callStep (machine depth) callee receiver arguments
      construct := fun callee arguments target =>
        constructStep (machine depth) callee arguments target }

end ConfigDelivery.Script.JavaScript
