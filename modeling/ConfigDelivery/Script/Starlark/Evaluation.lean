import ConfigDelivery.Script.Starlark.Builtins
/-!
# Running Starlark

One step of evaluation is written against a machine for what lies inside, and
there is a machine for every depth of nesting. A run therefore always ends: by a
result, by a failure, or because it has no steps left.
-/

namespace ConfigDelivery.Script.Starlark

/-- Where a statement leaves off. -/
inductive Flow where
  | next
  | break
  | continue
  | return (value : Value)

/-- The scopes around a piece of program, innermost first. -/
abbrev Scopes := List Cell

/-- How expressions are evaluated and statements executed inside others. -/
structure Machine where
  evaluate : Scopes → Expr → Run Value
  execute : Scopes → Statement → Run Flow

/-- The number of calls that may be under way at once. -/
def callLimit : Nat := 50

namespace Run

/-- The value of a name. -/
def lookup (name : String) : Scopes → Run Value
  | [] =>
    match globalValue? name with
    | some value => return value
    | none => fail ("Variable `" ++ name ++ "` not found")
  | scope :: outer => do
    match ← load scope with
    | .scope bindings =>
      match bindings.find? (·.1 == name) with
      | some (_, some value) => return value
      | some (_, none) => fail ("Local variable `" ++ name ++ "` referenced before assignment")
      | none => lookup name outer
    | _ => lookup name outer

/-- Set the variable of a name, in the innermost scope that binds it. -/
def assignName (name : String) (value : Value) : Scopes → Run Unit
  | [] => fail ("Variable `" ++ name ++ "` not found")
  | scope :: outer => do
    match ← load scope with
    | .scope bindings =>
      if bindings.any (·.1 == name) then
        store scope <| .scope <| bindings.map fun (other, old) =>
          if other == name then (other, some value) else (other, old)
      else assignName name value outer
    | _ => assignName name value outer

end Run

open Run

namespace Machine

variable (machine : Machine)

/-- Assign a value to a target; `depth` bounds its nesting. -/
def assign (scopes : Scopes) : Nat → Target → Value → Run Unit
  | _, .name name, value => assignName name value scopes
  | _, .index target key, value => do
    let target ← machine.evaluate scopes target
    setIndexed target (← machine.evaluate scopes key) value
  | _, .member target name, _ => do
    let target ← machine.evaluate scopes target
    fail ("Object of type `" ++ target.typeName ++ "` has no attribute `" ++ name ++ "`")
  | depth + 1, .tuple targets, value => do
    let items := (← iterated value).toList
    if items.length ≠ targets.length then fail "Unpacked value has the wrong length"
    (targets.zip items).forM fun (target, item) => assign scopes depth target item
  | 0, .tuple _, _ => fail "Targets nested too deep"

/-- Give each parameter its value; the answer also has the arguments that no parameter takes. -/
def bindParameters : List Parameter → List Value → Arguments →
    Run (List (String × Option Value) × Arguments)
  | [], _, arguments => return ([], arguments)
  | ⟨name, kind⟩ :: rest, defaults, arguments => do
    let continued (value : Value) (defaults : List Value) (arguments : Arguments) :
        Run (List (String × Option Value) × Arguments) := do
      let (bindings, arguments) ← bindParameters rest defaults arguments
      return ((name, some value) :: bindings, arguments)
    let taken (defaults : List Value) (otherwise : Run Value) :
        Run (List (String × Option Value) × Arguments) := do
      match arguments.positional, arguments.named.find? (·.1 == name) with
      | _ :: _, some _ => fail ("Argument `" ++ name ++ "` occurs more than once")
      | value :: positional, none => continued value defaults { arguments with positional }
      | [], some (_, value) =>
        continued value defaults
          { arguments with named := arguments.named.filter (·.1 != name) }
      | [], none => continued (← otherwise) defaults arguments
    match kind with
    | .required => taken defaults (fail ("Missing parameter `" ++ name ++ "`"))
    | .optional _ => taken (defaults.drop 1) (return defaults.headD .none)
    | .rest => continued (.tuple arguments.positional) defaults { arguments with positional := [] }
    | .restNamed =>
      let entries := arguments.named.map fun (name, value) => (Value.text name, value)
      let value ← newDict entries.toArray
      continued value defaults { arguments with named := [] }

/-- Execute statements until one leaves off elsewhere than at its end. -/
def executeAll (scopes : Scopes) : List Statement → Run Flow
  | [] => return .next
  | statement :: rest => do
    match ← machine.execute scopes statement with
    | .next => executeAll scopes rest
    | flow => return flow

/-- Call a function that the program defines. -/
def callClosure (cell : Cell) (arguments : Arguments) : Run Value := do
  match ← load cell with
  | .closure ⟨function, defaults, scopes⟩ =>
    if callLimit ≤ (← get).calls then fail "Starlark call stack overflow"
    let (bindings, extra) ← bindParameters function.parameters defaults arguments
    unless extra.positional.isEmpty && extra.named.isEmpty do
      fail "Found extra arguments that no parameter takes"
    let bound := bindings.map Prod.fst
    let unset := function.locals.filter fun name => !bound.contains name
    let scope ← allocate (.scope (bindings ++ unset.map fun name => (name, none)))
    modify fun memory => { memory with calls := memory.calls + 1 }
    let flow ← machine.executeAll (scope :: scopes) function.body
    modify fun memory => { memory with calls := memory.calls - 1 }
    match flow with
    | .return value => return value
    | _ => return .none
  | _ => fail "Not a function"

/-- Call a value; `depth` bounds how often a built-in function calls another. -/
def call : Nat → Value → Arguments → Run Value
  | 0, _, _ => fail "Starlark call stack overflow"
  | depth + 1, callee, arguments => do
    tick
    match callee with
    | .function cell => machine.callClosure cell arguments
    | .builtin name => callBuiltin (call depth) name arguments
    | .method receiver name => callMethod receiver name arguments
    | other => fail ("Operation `call()` not supported on type `" ++ other.typeName ++ "`")

/-- Evaluate the arguments of a call. -/
def evaluateArguments (scopes : Scopes) (arguments : List Argument) : Run Arguments :=
  arguments.foldlM (fun done argument => do
    match argument with
    | .positional value =>
      return { done with positional := done.positional ++ [← machine.evaluate scopes value] }
    | .named name value =>
      return { done with named := done.named ++ [(name, ← machine.evaluate scopes value)] }
    | .spread values =>
      let items ← iterated (← machine.evaluate scopes values)
      return { done with positional := done.positional ++ items.toList }
    | .spreadNamed values =>
      match ← machine.evaluate scopes values with
      | .dict cell =>
        let named ← (← entriesOf cell).toList.mapM fun (key, value) => do
          match key with
          | .text name =>
            if done.named.any (·.1 == name) then
              fail ("Argument `" ++ name ++ "` occurs more than once")
            return (name, value)
          | _ => fail "The argument provided for **kwargs has a key that is not a string"
        return { done with named := done.named ++ named }
      | _ => fail "The argument provided for **kwargs is not a dictionary") ⟨[], []⟩

/-- Run a body for the items of an array from an index on. -/
def overItems (body : Value → Run Flow) (items : Array Value) : Nat → Run Flow
  | 0 => return .next
  | left + 1 => do
    tick
    match ← body (items.getD (items.size - left - 1) .none) with
    | .next | .continue => overItems body items left
    | .break => return .next
    | flow => return flow

/-- Run a body for the integers of a range. -/
def overRange (body : Value → Run Flow) (step : Int) : Nat → Int → Run Flow
  | 0, _ => return .next
  | left + 1, value => do
    tick
    match ← body (.int value) with
    | .next | .continue => overRange body step left (value + step)
    | .break => return .next
    | flow => return flow

/-- Run a body for the items of a value. A list or dict does not change meanwhile. -/
def forEach (items : Value) (body : Value → Run Flow) : Run Flow := do
  match items with
  | .range start stop step =>
    overRange body step (Value.rangeLength start stop step) start
  | items =>
    let values ← iterated items
    countLoop items (· + 1)
    let flow ← overItems body values values.size
    countLoop items (· - 1)
    return flow

/-- Run what the clauses of a comprehension select. -/
def select (scopes : Scopes) (emit : Run Unit) : List Clause → Run Unit
  | [] => emit
  | .when condition :: rest => do
    if ← isTrue (← machine.evaluate scopes condition) then select scopes emit rest
  | .each target items :: rest => do
    let items ← machine.evaluate scopes items
    let _ ← forEach items fun item => do
      machine.assign scopes targetDepth target item
      select scopes emit rest
      return .next

/-- Run what a comprehension selects, in a scope of its own. -/
def comprehend (scopes : Scopes) (clauses : List Clause) (emit : Scopes → Run Unit) :
    Run Unit := do
  match clauses with
  | .each target items :: rest =>
    let items ← machine.evaluate scopes items
    let bound := clauses.flatMap fun
      | .each target _ => boundBy targetDepth target
      | .when _ => []
    let scope ← allocate (.scope (bound.map fun name => (name, none)))
    let inner := scope :: scopes
    let _ ← forEach items fun item => do
      machine.assign inner targetDepth target item
      machine.select inner (emit inner) rest
      return .next
  | _ => return

/-- Put a function and the values of its defaults into memory. -/
def close (scopes : Scopes) (function : Function) : Run Value := do
  let defaults ← function.parameters.filterMapM fun parameter => do
    match parameter.kind with
    | .optional default => return some (← machine.evaluate scopes default)
    | _ => return none
  return .function (← allocate (.closure ⟨function, defaults, scopes⟩))

/-- Evaluate an optional expression. -/
def evaluateOptional (scopes : Scopes) : Option Expr → Run (Option Value)
  | none => return none
  | some expression => return some (← machine.evaluate scopes expression)

/-- Evaluate an expression whose parts the machine evaluates. -/
def evaluateStep (scopes : Scopes) (expression : Expr) : Run Value := do
  tick
  let evaluate := machine.evaluate scopes
  match expression with
  | .name name => lookup name scopes
  | .integer value => return .int value
  | .float value => return .float (Float.ofBits value.bits)
  | .text value => return .text value
  | .tuple items => return .tuple (← items.mapM evaluate)
  | .list items => newList (← items.mapM evaluate).toArray
  | .dict entries =>
    let entries ← entries.foldlM (fun done (key, value) => do
      let key ← evaluate key
      let value ← evaluate value
      if (← findEntry done key).isSome then
        fail ("Key repeated more than once `" ++ (← reprOf key) ++ "`")
      return done.push (key, value)) #[]
    newDict entries
  | .listOf item clauses =>
    let cell ← allocate (.list #[] 0)
    machine.comprehend scopes clauses fun inner => do
      let value ← machine.evaluate inner item
      changeItems cell (·.push value)
    return .list cell
  | .dictOf key value clauses =>
    let cell ← allocate (.dict #[] 0)
    machine.comprehend scopes clauses fun inner => do
      let key ← machine.evaluate inner key
      let value ← machine.evaluate inner value
      let entries ← putEntry (← entriesOf cell) key value
      changeEntries cell fun _ => entries
    return .dict cell
  | .unary operator operand => operateUnary operator (← evaluate operand)
  | .binary operator left right =>
    let left ← evaluate left
    operate operator left (← evaluate right)
  | .and left right =>
    let value ← evaluate left
    if ← isTrue value then evaluate right else return value
  | .or left right =>
    let value ← evaluate left
    if ← isTrue value then return value else evaluate right
  | .conditional condition consequent alternative =>
    if ← isTrue (← evaluate condition) then evaluate consequent else evaluate alternative
  | .member target name => memberOf (← evaluate target) name
  | .index target key =>
    let target ← evaluate target
    indexed target (← evaluate key)
  | .slice target low high step =>
    let target ← evaluate target
    let low ← machine.evaluateOptional scopes low
    let high ← machine.evaluateOptional scopes high
    sliced target low high (← machine.evaluateOptional scopes step)
  | .call callee arguments =>
    let callee ← evaluate callee
    let arguments ← machine.evaluateArguments scopes arguments
    machine.call callLimit callee arguments
  | .lambda function => machine.close scopes function

/-- Combine the old value of an updated target with another one. A list grows in place. -/
def updated (operator : BinaryOp) (old value : Value) : Run Value := do
  match operator, old with
  | .add, .list cell =>
    let more ← iterated value
    changeItems cell (· ++ more)
    return old
  | operator, old => operate operator old value

/-- Execute a statement whose parts the machine evaluates and executes. -/
def executeStep (scopes : Scopes) (statement : Statement) : Run Flow := do
  tick
  let evaluate := machine.evaluate scopes
  match statement with
  | .pass => return .next
  | .break => return .break
  | .continue => return .continue
  | .return none => return .return .none
  | .return (some value) => return .return (← evaluate value)
  | .expression value =>
    let _ ← evaluate value
    return .next
  | .assign target value =>
    let value ← evaluate value
    machine.assign scopes targetDepth target value
    return .next
  | .update (.name name) operator value =>
    let old ← lookup name scopes
    let value ← updated operator old (← evaluate value)
    assignName name value scopes
    return .next
  | .update (.index target key) operator value =>
    let target ← evaluate target
    let key ← evaluate key
    let old ← indexed target key
    let value ← updated operator old (← evaluate value)
    setIndexed target key value
    return .next
  | .update target _ _ =>
    machine.assign scopes targetDepth target .none
    return .next
  | .branch condition consequent alternative =>
    if ← isTrue (← evaluate condition) then machine.executeAll scopes consequent
    else machine.executeAll scopes alternative
  | .loop target items body =>
    forEach (← evaluate items) fun item => do
      machine.assign scopes targetDepth target item
      machine.executeAll scopes body
  | .define function =>
    let value ← machine.close scopes function
    assignName function.name value scopes
    return .next

end Machine

/-- The machine for what is nested at most `depth` deep. -/
def machine : Nat → Machine
  | 0 =>
    ⟨fun _ _ => fail "Starlark call stack overflow", fun _ _ => fail "Starlark call stack overflow"⟩
  | depth + 1 =>
    ⟨fun scopes => (machine depth).evaluateStep scopes,
      fun scopes => (machine depth).executeStep scopes⟩

end ConfigDelivery.Script.Starlark
