import ConfigDelivery.Script.JavaScript.Function
/-!
# Running JavaScript

One step of evaluation is written against a machine for what lies inside, and
there is a machine for every depth of nesting. A run therefore always ends: with a
result, with a thrown value, or because it has no steps left.
-/

namespace ConfigDelivery.Script.JavaScript

open ConfigDelivery.Text (Units)
open Run

namespace Machine

variable (machine : Machine)

/-! ## Expressions -/

/-- Evaluate a function to call, and the receiver that it is called on. -/
def evaluateCallee (scope : Cell) : Nat → Expr → Run (Value × Value)
  | 0, callee => return (← machine.evaluate scope callee, .undefined)
  | depth + 1, callee => do
    match callee with
    | .member target name =>
      let target ← machine.evaluate scope target
      return (← getProperty machine target (.text name), target)
    | .index target key =>
      let target ← machine.evaluate scope target
      let key ← machine.evaluate scope key
      return (← getProperty machine target (← toKey machine key), target)
    | .superMember _ => return (← machine.evaluate scope callee, ← receiver scope)
    | .optional inner =>
      let (callee, target) ← evaluateCallee scope depth inner
      if callee.isNullish then throw .chainEnds
      return (callee, target)
    | .chain inner =>
      try evaluateCallee scope depth inner
      catch halt =>
        match halt with
        | .chainEnds => return (.undefined, .undefined)
        | halt => throw halt
    | other => return (← machine.evaluate scope other, .undefined)

/-- How deep the callee of a call is looked into for its receiver. -/
def calleeDepth : Nat := 8

/-- Evaluate the arguments of a call. -/
def evaluateArguments (scope : Cell) (items : List Item) : Run (List Value) := do
  let values ← items.mapM fun item => do
    match item with
    | .hole => return []
    | .value value => return [← machine.evaluate scope value]
    | .spread values => valuesOf machine (← machine.evaluate scope values)
  return values.flatten

/-- Evaluate the items of an array. -/
def evaluateItems (scope : Cell) (items : List Item) : Run Value := do
  let values ← items.mapM fun item => do
    match item with
    | .hole => return [none]
    | .value value => return [some (← machine.evaluate scope value)]
    | .spread values => return (← valuesOf machine (← machine.evaluate scope values)).map some
  newSparseArray values.flatten.toArray

/-- Add a property to an object. -/
def evaluateProperty (scope : Cell) (target : Value) (property : Property) : Run Unit := do
  match property with
  | .value name value =>
    let key ← machine.evaluateName scope name
    let value ← machine.evaluate scope value
    defineValue target key value
  | .prototype value =>
    match ← machine.evaluate scope value, target with
    | .object parent, .object cell =>
      change cell fun object => { object with prototype := some parent }
    | .null, .object cell => change cell fun object => { object with prototype := none }
    | _, _ => return
  | .method name kind function =>
    let key ← machine.evaluateName scope name
    let home :=
      match target with
      | .object cell => some cell
      | _ => none
    let function ← namedBy key function
    defineMember target key kind true (← newFunction { function, scope, home })
  | .spread values =>
    let value ← machine.evaluate scope values
    (← enumerableKeys value).forM fun name => do
      defineValue target (.text name) (← getProperty machine value (.text name))

/-- The property of the parent of the object whose parent `super` means. -/
def evaluateSuper (scope : Cell) (key : Expr) : Run Value := do
  let key ← toKey machine (← machine.evaluate scope key)
  match ← wordValue? homeWord scope with
  | some (.object home) =>
    match (← load home).prototype with
    | some parent => slotValue machine (← receiver scope) (← findProperty key prototypeDepth parent)
    | none => return .undefined
  | _ => return .undefined

/-- The property of a value under a computed key. Items of arrays need no name. -/
def evaluateIndex (target key : Value) : Run Value := do
  match target, key with
  | .object cell, .number position =>
    match (← load cell).kind, exactInt? position with
    | .array items, some index =>
      if h : 0 ≤ index ∧ index.toNat < items.size then
        match items[index.toNat] with
        | some value => return value
        | none => getProperty machine target (indexKey index.toNat)
      else getProperty machine target (← toKey machine key)
    | _, _ => getProperty machine target (← toKey machine key)
  | .undefined, key | .null, key =>
    getProperty machine target (← toKey machine key)
  | target, key => getProperty machine target (← toKey machine key)

/-- Read what is on the left of an assignment, and how to assign to it. -/
def evaluatePlace (scope : Cell) (target : Expr) : Run (Value × (Value → Run Unit)) := do
  match target with
  | .name name =>
    return (← lookup machine scope name, fun value => assignName machine scope name value)
  | .member target name =>
    let target ← machine.evaluate scope target
    return (← getProperty machine target (.text name),
      fun value => setProperty machine target (.text name) value)
  | .index target key =>
    let target ← machine.evaluate scope target
    let key ← toKey machine (← machine.evaluate scope key)
    return (← getProperty machine target key, fun value => setProperty machine target key value)
  | other =>
    return (← machine.evaluate scope other, fun value => machine.assignPlace scope other value)

/-- Delete what an expression stands for. -/
def evaluateDelete (scope : Cell) (target : Expr) : Run Value := do
  match target with
  | .member target name => deleteProperty (← machine.evaluate scope target) (.text name)
  | .index target key =>
    let target ← machine.evaluate scope target
    deleteProperty target (← toKey machine (← machine.evaluate scope key))
  | other =>
    let _ ← machine.evaluate scope other
    return .bool true

/-- Evaluate a chain; where it ends early it is undefined. -/
def evaluateChain (evaluate : Run Value) : Run Value := do
  try evaluate
  catch halt =>
    match halt with
    | .chainEnds => return .undefined
    | halt => throw halt

/-- Whether an operator's right operand is evaluated. -/
def needsRight (operator : LogicalOp) (left : Value) : Bool :=
  match operator with
  | .and => left.truth
  | .or => !left.truth
  | .coalesce => left.isNullish

/-- The value next to a number: one more, or one less. -/
def counted (isIncrement : Bool) (value : Value) : Value :=
  match value with
  | .bigInt value => .bigInt (if isIncrement then value + 1 else value - 1)
  | .number value => .number (if isIncrement then value + 1 else value - 1)
  | other => other

/-- Evaluate an expression whose parts the machine evaluates. -/
def evaluateStep (scope : Cell) (expression : Expr) : Run Value := do
  tick
  let evaluate := machine.evaluate scope
  match expression with
  | .undefined => return .undefined
  | .null => return .null
  | .bool value => return .bool value
  | .number value => return .number (floatOf value)
  | .bigInt value => return .bigInt value
  | .text value => return .text value
  | .template head parts =>
    return .text (← parts.foldlM (fun (text : Units) (value, tail) => do
      return text ++ (← toText machine (← evaluate value)) ++ tail) head)
  | .name name => lookup machine scope name
  | .this => receiver scope
  | .newTarget => return (← wordValue? targetWord scope).getD .undefined
  | .array items => machine.evaluateItems scope items
  | .object properties =>
    let target ← newObject []
    properties.forM (machine.evaluateProperty scope target)
    return target
  | .function function => closeOver scope function none
  | .class definition => machine.makeClass scope definition
  | .unary .typeOf (.name name) =>
    match ← findVariable name (← scopeCount) scope with
    | some _ => return .ofString (← typeName (← lookup machine scope name))
    | none =>
      let slot ← findProperty (.ofString name) prototypeDepth Intrinsic.global.cell
      return .ofString (← typeName (← slotValue machine (.ofIntrinsic .global) slot))
  | .unary operator operand => operateUnary machine operator (← evaluate operand)
  | .update target isPrefix isIncrement =>
    let (old, assign) ← machine.evaluatePlace scope target
    let old ← toNumeric machine old
    let new := counted isIncrement old
    assign new
    return if isPrefix then new else old
  | .binary operator left right =>
    let left ← evaluate left
    operate machine operator left (← evaluate right)
  | .logical operator left right =>
    let left ← evaluate left
    if needsRight operator left then evaluate right else return left
  | .conditional condition consequent alternative =>
    if (← evaluate condition).truth then evaluate consequent else evaluate alternative
  | .assign (.name name) value =>
    let value ← evaluate value
    assignName machine scope name value
    return value
  | .assign (.place (.member target name)) value =>
    let target ← evaluate target
    let value ← evaluate value
    setProperty machine target (.text name) value
    return value
  | .assign (.place (.index target key)) value =>
    let target ← evaluate target
    let key ← evaluate key
    let value ← evaluate value
    setProperty machine target (← toKey machine key) value
    return value
  | .assign target value =>
    let value ← evaluate value
    machine.bindPattern scope false patternDepth target value
    return value
  | .assignWith operator target value =>
    let (old, assign) ← machine.evaluatePlace scope target
    let new ← operate machine operator old (← evaluate value)
    assign new
    return new
  | .assignIf operator target value =>
    let (old, assign) ← machine.evaluatePlace scope target
    if needsRight operator old then
      let new ← evaluate value
      assign new
      return new
    else return old
  | .sequence first second =>
    let _ ← evaluate first
    evaluate second
  | .member target name => getProperty machine (← evaluate target) (.text name)
  | .index target key =>
    let target ← evaluate target
    machine.evaluateIndex target (← evaluate key)
  | .superMember key => machine.evaluateSuper scope key
  | .call callee arguments =>
    let (callee, target) ← machine.evaluateCallee scope calleeDepth callee
    let arguments ← machine.evaluateArguments scope arguments
    machine.call callee target arguments
  | .superCall arguments =>
    let arguments ← machine.evaluateArguments scope arguments
    machine.callParent scope arguments
  | .construct callee arguments =>
    let callee ← evaluate callee
    let arguments ← machine.evaluateArguments scope arguments
    machine.construct callee arguments callee
  | .optional target =>
    let value ← evaluate target
    if value.isNullish then throw .chainEnds else return value
  | .chain body => evaluateChain (evaluate body)
  | .delete (.chain target) => evaluateChain (machine.evaluateDelete scope target)
  | .delete target => machine.evaluateDelete scope target
  | .await operand =>
    let _ ← evaluate operand
    throw .suspended

/-! ## Statements -/

/-- What a loop does when its body leaves off: go on, or leave off itself. -/
def afterRound (labels : List String) (flow : Flow) : Option Flow :=
  match flow with
  | .next | .continue none => none
  | .continue (some label) => if labels.contains label then none else some flow
  | .break none => some .next
  | flow => some flow

/-- Repeat rounds until one gives where the loop leaves off; `fuel` bounds their number. -/
def repeatRounds (round : Run (Option Flow)) : Nat → Run Flow
  | 0 => throw .outOfSteps
  | fuel + 1 => do
    match ← round with
    | some flow => return flow
    | none => repeatRounds round fuel

/-- Repeat rounds until one gives where the loop leaves off. Each takes a step. -/
def loop (round : Run (Option Flow)) : Run Flow := do
  repeatRounds (do tick; round) ((← get).steps + 1)

/-- The scope of a counting loop's next round: a copy, if a function may have kept the last. -/
def nextScope (objectsBefore : Nat) (scope : Cell) : Run Cell := do
  let memory ← get
  if memory.objects.size = objectsBefore then return scope
  match memory.scopes[scope]? with
  | some ⟨bindings, outer⟩ => openScope bindings outer
  | none => return scope

/-- Execute a counting loop. -/
def executeFor (scope : Cell) (labels : List String) (declared : List (String × Mutability))
    (start : Statement) (condition update : Option Expr) (body : Statement) : Run Flow := do
  let scope ← enterBlock scope declared []
  match ← machine.execute scope start with
  | .next => pure ()
  | flow => return flow
  let rec rounds : Nat → Cell → Run Flow
    | 0, _ => throw .outOfSteps
    | fuel + 1, scope => do
      tick
      let holds ←
        match condition with
        | some condition => pure (← machine.evaluate scope condition).truth
        | none => pure true
      unless holds do return .next
      let objects := (← get).objects.size
      match afterRound labels (← machine.execute scope body) with
      | some flow => return flow
      | none =>
        let scope ← if declared.isEmpty then pure scope else nextScope objects scope
        match update with
        | some update =>
          let _ ← machine.evaluate scope update
        | none => pure ()
        rounds fuel scope
  rounds ((← get).steps + 1) scope

/-- Bind a value that a loop goes through, and execute its body. -/
def executeRound (scope : Cell) (labels : List String) (target : LoopTarget) (body : Statement)
    (value : Value) : Run (Option Flow) := do
  tick
  let scope ←
    match target with
    | .declare declared pattern =>
      let scope ← enterBlock scope declared []
      machine.bindPattern scope true patternDepth pattern value
      pure scope
    | .assign pattern =>
      machine.bindPattern scope false patternDepth pattern value
      pure scope
  return afterRound labels (← machine.execute scope body)

/-- The names of the properties that a loop over an object's names goes through, those of its
prototypes after its own; `depth` bounds the prototypes. -/
def loopNames : Nat → List Units → Value → Run (List Units)
  | 0, _, _ => return []
  | depth + 1, seen, value => do
    match value with
    | .object cell =>
      let own := (← enumerableKeys value).filter fun name => !seen.contains name
      match (← load cell).prototype with
      | some parent => return own ++ (← loopNames depth (seen ++ own) (.object parent))
      | none => return own
    | value => enumerableKeys value

/-- Go through names until a round leaves off. -/
def overNames (round : Value → Run (Option Flow)) : List Units → Run Flow
  | [] => return .next
  | name :: rest => do
    match ← round (.text name) with
    | some flow => return flow
    | none => overNames round rest

/-- Execute a loop that may have labels. -/
def executeLoop (scope : Cell) (labels : List String) (statement : Statement) : Run Flow := do
  match statement with
  | .whileLoop condition body =>
    loop do
      if (← machine.evaluate scope condition).truth then
        return afterRound labels (← machine.execute scope body)
      else return some .next
  | .doWhile body condition =>
    loop do
      match afterRound labels (← machine.execute scope body) with
      | some flow => return some flow
      | none =>
        if (← machine.evaluate scope condition).truth then return none else return some .next
  | .forLoop declared start condition update body =>
    machine.executeFor scope labels declared start condition update body
  | .forIn target values body =>
    let value ← machine.evaluate scope values
    if value.isNullish then return .next
    let names ← loopNames 20 [] value
    overNames (machine.executeRound scope labels target body) names
  | .forOf target values body =>
    let values ← machine.evaluate scope values
    let flow ← overValues machine values (machine.executeRound scope labels target body)
    return flow.getD .next
  | other => machine.execute scope other

/-- The labels in front of a statement; `depth` bounds their number. -/
def labelsOf : Nat → List String → Statement → List String × Statement
  | depth + 1, labels, .labelled label body => labelsOf depth (label :: labels) body
  | _, labels, statement => (labels, statement)

/-- Execute a statement behind labels. A jump out of one of them ends it. -/
def executeLabelled (scope : Cell) (statement : Statement) : Run Flow := do
  let (labels, body) := labelsOf 100 [] statement
  let flow ← machine.executeLoop scope labels body
  match flow with
  | .break (some label) => return if labels.contains label then .next else flow
  | flow => return flow

/-- The statements of a switch from the case on that a value equals, or from the default. -/
def selectCase (scope : Cell) (value : Value) (cases : List Case) :
    List Case → Run (List Statement)
  | [] =>
    return (cases.dropWhile fun ⟨test, _⟩ => test.isSome).flatMap fun ⟨_, statements⟩ => statements
  | ⟨test, statements⟩ :: rest => do
    let selects ←
      match test with
      | some test => pure (value.isSame (← machine.evaluate scope test))
      | none => pure false
    if selects then
      return statements ++ rest.flatMap fun ⟨_, statements⟩ => statements
    else selectCase scope value cases rest

/-- Execute a body, and a handler for what it throws. -/
def guarded (body : Run Flow) (handler : Option (Value → Run Flow)) : Run Flow := fun memory =>
  match body memory, handler with
  | .error (.thrown value) memory, some handler => handler value memory
  | result, _ => result

/-- Execute a body and then a finalizer, however the body leaves off. The finalizer's own way to
leave off comes before the body's. -/
def finalized (body finalizer : Run Flow) : Run Flow := fun memory =>
  match body memory with
  | .ok flow memory =>
    (do match ← finalizer with
        | .next => return flow
        | other => return other : Run Flow) memory
  | .error (.thrown value) memory =>
    (do match ← finalizer with
        | .next => throwValue value
        | other => return other : Run Flow) memory
  | .error halt memory => .error halt memory

/-- Handle a thrown value. -/
def handle (scope : Cell) (pattern : Option Pattern) (declared : List (String × Mutability))
    (block : Block) (value : Value) : Run Flow := do
  let scope ← enterBlock scope declared []
  match pattern with
  | some pattern => machine.bindPattern scope true patternDepth pattern value
  | none => pure ()
  machine.executeBlock scope block

/-- Execute a statement whose parts the machine evaluates and executes. -/
def executeStep (scope : Cell) (statement : Statement) : Run Flow := do
  tick
  let evaluate := machine.evaluate scope
  match statement with
  | .empty => return .next
  | .expression value =>
    let _ ← evaluate value
    return .next
  | .declare pattern value isInitial =>
    let value ← evaluate value
    machine.bindPattern scope isInitial patternDepth pattern value
    return .next
  | .several statements => machine.executeAll scope statements
  | .block block => machine.executeBlock scope block
  | .branch condition consequent alternative =>
    if (← evaluate condition).truth then machine.execute scope consequent
    else
      match alternative with
      | some alternative => machine.execute scope alternative
      | none => return .next
  | .break label => return .break label
  | .continue label => return .continue label
  | .return none => return .return .undefined
  | .return (some value) => return .return (← evaluate value)
  | .throw value => throwValue (← evaluate value)
  | .try body handler finalizer =>
    let handler := handler.map fun (pattern, declared, block) =>
      machine.handle scope pattern declared block
    let run := guarded (machine.executeBlock scope body) handler
    match finalizer with
    | some finalizer => finalized run (machine.executeBlock scope finalizer)
    | none => run
  | .switch value declared functions cases =>
    let value ← evaluate value
    let scope ← enterBlock scope declared functions
    let statements ← machine.selectCase scope value cases cases
    match ← machine.executeAll scope statements with
    | .break none => return .next
    | flow => return flow
  | .class definition =>
    let ⟨name, _, _, _, _⟩ := definition
    initializeName scope name (← machine.makeClass scope definition)
    return .next
  | .labelled _ _ => machine.executeLabelled scope statement
  | loop => machine.executeLoop scope [] loop

end Machine

end ConfigDelivery.Script.JavaScript
