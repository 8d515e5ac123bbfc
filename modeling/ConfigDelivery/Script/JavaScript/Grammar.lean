import ConfigDelivery.Script.JavaScript.Parse
/-!
# The grammar of JavaScript

Trees are read from tokens by one function per construct. Those that lie inside
others are reached through `Grammar`, a grammar of bounded nesting; there is one for
every bound. All code is strict.
-/

namespace ConfigDelivery.Script.JavaScript

open ConfigDelivery.Text (Units)
open Parse

/-- The readers of the trees that contain themselves. -/
structure Grammar where
  /-- An expression without commas outside of brackets. -/
  assignment : Parse Expr
  /-- An operand with the operators in front of it and behind it. -/
  operand : Parse Expr
  /-- A pattern; when it binds, its parts are names. -/
  pattern : Bool → Parse Pattern
  /-- A statement; declarations are one where the flag allows them. -/
  statement : Bool → Parse Statement

namespace Grammar

variable (grammar : Grammar)

/-- Read expressions with commas between them; the last one gives the value. -/
def readExpression : Parse Expr := do
  let first ← grammar.assignment
  let rest ← many do
    if ← acceptMark "," then return some (← grammar.assignment) else return none
  return rest.foldl .sequence first

/-- Read inside brackets, where the operator `in` has its meaning. -/
def bracketed {Result : Type} (read : Parse Result) : Parse Result :=
  placed ({ · with refusesIn := false }) read

/-- Read an item of an array, or an argument. -/
def readItem : Parse Item := do
  if ← acceptMark "..." then return .spread (← grammar.assignment)
  else return .value (← grammar.assignment)

/-- Read arguments behind their opening parenthesis. -/
def readArguments : Parse (List Item) := bracketed (listed ")" grammar.readItem)

/-- Read the name of a property; a word, literal or computed name. -/
def readPropertyName : Parse PropertyName := do
  match ← peek with
  | some (.word word) =>
    advance
    return .fixed (Units.ofString word)
  | some (.text text) =>
    advance
    return .fixed text
  | some (.number value) =>
    advance
    return .computed (.number value)
  | some (.bigInt value) =>
    advance
    return .fixed (Units.ofString (toString value))
  | some (.mark "[") =>
    advance
    let name ← bracketed grammar.assignment
    expectMark "]"
    return .computed name
  | _ => refuse "invalid property name"

/-- Read what a pattern takes if its value is undefined. -/
def readDefault (pattern : Pattern) : Parse (Option Expr) := do
  if ← acceptMark "=" then
    return some (withNameOf pattern (← bracketed grammar.assignment))
  else return none

/-- Read a target with its default. -/
def readPatternItem (binds : Bool) : Parse PatternItem := do
  let target ← grammar.pattern binds
  return .item target (← grammar.readDefault target)

/-- Read an entry of an object pattern, or its rest. -/
def readPatternEntry (binds : Bool) : Parse (PatternEntry ⊕ Pattern) := do
  if ← acceptMark "..." then return .inr (← grammar.pattern binds)
  match ← peek, ← peekSecond with
  | some (.word word), second =>
    if second.any fun token => token.lexeme == .mark ":" then
      advance
      advance
      let target ← grammar.pattern binds
      return .inl ⟨.fixed (Units.ofString word), target, ← grammar.readDefault target⟩
    else
      let name ← takeName
      checkBinding name
      return .inl ⟨.fixed (Units.ofString name), .name name, ← grammar.readDefault (.name name)⟩
  | _, _ =>
    let name ← grammar.readPropertyName
    expectMark ":"
    let target ← grammar.pattern binds
    return .inl ⟨name, target, ← grammar.readDefault target⟩

/-- The entries of a pattern and its rest, which comes last. -/
def splitRest {Entry : Type} : List (Entry ⊕ Pattern) → Parse (List Entry × Option Pattern)
  | [] => return ([], none)
  | [.inr rest] => return ([], some rest)
  | .inr _ :: _ => refuse "rest element must be the last one"
  | .inl entry :: more => do
    let (entries, rest) ← splitRest more
    return (entry :: entries, rest)

/-- Read items of an array pattern, or parameters; a hole where only a comma stands. -/
def readPatternItems (binds holes : Bool) (close : String) :
    Parse (List PatternItem × Option Pattern) := do
  let items ← many do
    if ← isMark close then return none
    if ← pure holes <&&> acceptMark "," then
      return some (.inl PatternItem.hole)
    let item ←
      if ← acceptMark "..." then pure (.inr (← grammar.pattern binds))
      else pure (Sum.inl (← grammar.readPatternItem binds))
    unless ← isMark close do expectMark ","
    return some item
  expectMark close
  splitRest items

/-- Read a pattern. -/
def readPattern (binds : Bool) : Parse Pattern := do
  if ← acceptMark "\x7b" then
    let entries ← bracketed (listed "\x7d" (grammar.readPatternEntry binds))
    let (entries, rest) ← splitRest entries
    return .object entries rest
  else if ← acceptMark "[" then
    let (items, rest) ← bracketed (grammar.readPatternItems binds true "]")
    return .array items rest
  else if binds then
    let name ← takeName
    checkBinding name
    return .name name
  else
    let target ← grammar.operand
    unless isAssignable target do refuse "invalid destructuring target"
    return placeOf target

/-- Read statements up to a closing brace. -/
def readStatements : Parse (List Statement) := do
  let statements ← many do
    if ← isMark "\x7d" then return none
    return some (← grammar.statement true)
  expectMark "\x7d"
  return statements

/-- Read a block behind its opening brace; `crossing` are the names that it may not declare. -/
def readBlock (crossing : List String) : Parse Block := do
  let (statements, scope) ← inScope { crossing } grammar.readStatements
  return ⟨scope.declared, scope.functions, statements⟩

/-- The number of parameters in front of the first with a default. -/
def parameterCount (parameters : List PatternItem) : Nat :=
  (parameters.takeWhile fun
    | .item _ none => true
    | _ => false).length

/-- The place inside a function of a kind. -/
def functionPlace (kind : FunctionKind) (isAsync : Bool) (around : Place) : Place :=
  let isArrow := kind == .arrow
  { inFunction := true
    inAsync := isAsync
    allowsNewTarget := !isArrow || around.allowsNewTarget
    allowsSuperMember :=
      if isArrow then around.allowsSuperMember
      else kind == .method || kind == .constructor || kind == .derivedConstructor
    allowsSuperCall := if isArrow then around.allowsSuperCall else kind == .derivedConstructor }

/-- Read a function from its parameters on; `start` is where its source begins. -/
def readFunction (kind : FunctionKind) (isAsync bindsItself : Bool) (name : String) (start : Nat)
    (readParameters : Parse (List PatternItem × Option Pattern))
    (readBody : Parse (List Statement)) : Parse Function := do
  let place := functionPlace kind isAsync (← get).place
  let ((parameters, rest, body), bindings, usesArguments) ← inFunction (kind == .arrow) place do
    let (parameters, rest) ← readParameters
    let names := boundBy patternDepth (.array parameters rest)
    unless names.eraseDups.length == names.length do refuse "duplicate parameter name"
    let (statements, scope) ←
      inScope { crossing := names, isFunctionTop := true } readBody
    return (parameters, rest, Block.mk scope.declared scope.functions statements)
  let info : FunctionInfo :=
    { name, kind, isAsync, bindsItself, usesArguments, length := parameterCount parameters
      text := ← textFrom start, bindings }
  return ⟨info, parameters, rest, body⟩

/-- Read parameters in parentheses. -/
def readParameters : Parse (List PatternItem × Option Pattern) := do
  expectMark "("
  grammar.readPatternItems true false ")"

/-- Read a function's body in braces. -/
def readBody : Parse (List Statement) := do
  expectMark "\x7b"
  grammar.readStatements

/-- Read an arrow function's body: a block, or an expression whose value it returns. -/
def readArrowBody (refusesIn : Bool) : Parse (List Statement) := do
  if ← acceptMark "\x7b" then grammar.readStatements
  else return [.return (some (← placed ({ · with refusesIn }) grammar.assignment))]

/-- Read an arrow function from its parameters on. -/
def readArrow (isAsync : Bool) (start : Nat) : Parse Expr := do
  let refusesIn := (← get).place.refusesIn
  let parameters : Parse (List PatternItem × Option Pattern) := do
    let parameters ←
      if ← isMark "(" then grammar.readParameters
      else
        let name ← takeName
        checkBinding name
        pure ([.item (.name name) none], none)
    if ← atLineStart then refuse "unexpected line terminator"
    expectMark "=>"
    return parameters
  return .function
    (← readFunction .arrow isAsync false "" start parameters (grammar.readArrowBody refusesIn))

/-- Read a function expression behind its keyword. -/
def readFunctionExpression (isAsync : Bool) (start : Nat) : Parse Expr := do
  if ← isMark "*" then refuse "generators are not supported"
  let name ← if ← isMark "(" then pure "" else takeName
  return .function
    (← readFunction .ordinary isAsync (!name.isEmpty) name start grammar.readParameters
      grammar.readBody)

/-- The name of a method whose property name is known. -/
def methodName : PropertyName → String
  | .fixed name => name.toText
  | .computed _ => ""

/-- The next tokens start a member of a kind that a word announces: a name follows on the word. -/
def announces (word : String) : Parse Bool := do
  unless ← isWord word do return false
  match ← peekSecond with
  | some token =>
    match token.lexeme with
    | .mark "[" => return true
    | .mark _ => return false
    | _ => return true
  | none => return false

/-- Read a method from its parameters on. -/
def readMethod (kind : FunctionKind) (isAsync : Bool) (name : PropertyName) (start : Nat) :
    Parse Function :=
  readFunction kind isAsync false (methodName name) start grammar.readParameters grammar.readBody

/-- Read a method, getter or setter, if one starts here: its kind and name, and whether it is
asynchronous. Plain members have the kind `field`. -/
def readMemberHead : Parse (MemberKind × Bool × PropertyName) := do
  if ← isMark "*" then refuse "generators are not supported"
  if ← announces "get" then
    advance
    return (.getter, false, ← grammar.readPropertyName)
  else if ← announces "set" then
    advance
    return (.setter, false, ← grammar.readPropertyName)
  else if ← announces "async" <&&> (return !(← peekSecond).any Token.afterLine) then
    advance
    return (.method, true, ← grammar.readPropertyName)
  else return (.field, false, ← grammar.readPropertyName)

/-- Read a property of an object literal. -/
def readProperty : Parse Property := do
  let start ← position
  if ← acceptMark "..." then return .spread (← grammar.assignment)
  let shorthand := (← peek).bind fun
    | .word word => some word
    | _ => none
  let (kind, isAsync, name) ← grammar.readMemberHead
  if ← isMark "(" then
    let kind := if kind == .field then .method else kind
    return .method name kind (← grammar.readMethod .method isAsync name start)
  else if kind != .field then refuse "expecting '('"
  else if ← acceptMark ":" then
    let value ← grammar.assignment
    match name with
    | .fixed fixed =>
      if fixed == Units.ofString "__proto__" then return .prototype value
      return .value name (withName fixed.toText value)
    | .computed _ => return .value name value
  else
    match shorthand with
    | some word =>
      unless isNameWord word do refuse "unexpected reserved word"
      return .value name (.name word)
    | none => refuse "expecting ':'"

/-- The properties hold at most one that sets the prototype. -/
def checkPrototypes (properties : List Property) : Parse Unit := do
  let count := properties.countP fun
    | .prototype _ => true
    | _ => false
  if 1 < count then refuse "duplicate __proto__ property name"

/-- Read the first value of a class field, as a function. -/
def readFieldValue (name : PropertyName) : Parse Function := do
  let start ← position
  let read : Parse (List Statement) := do
    if ← acceptMark "=" then
      let value ← grammar.assignment
      return [.return (some (withName (methodName name) value))]
    else return []
  let function ← readFunction .method false false "" start (return ([], none)) read
  endStatement
  return function

/-- Read a member of a class, or its constructor. -/
def readMember (isDerived : Bool) : Parse (Member ⊕ Function) := do
  let start ← position
  let isStatic ← announces "static"
  if isStatic then advance
  let (kind, isAsync, name) ← grammar.readMemberHead
  let isConstructor :=
    !isStatic && match name with
      | .fixed name => name == Units.ofString "constructor"
      | .computed _ => false
  if ← isMark "(" then
    if isConstructor then
      if kind != .field then refuse "invalid method name"
      let kind : FunctionKind := if isDerived then .derivedConstructor else .constructor
      return .inr (← grammar.readMethod kind false name start)
    let kind := if kind == .field then .method else kind
    return .inl ⟨isStatic, name, kind, ← grammar.readMethod .method isAsync name start⟩
  else
    if kind != .field then refuse "expecting '('"
    if isConstructor then refuse "invalid field name"
    return .inl ⟨isStatic, name, .field, ← grammar.readFieldValue name⟩

/-- Read a class behind its keyword. -/
def readClass (start : Nat) (name : String) : Parse Class := do
  let parent ← if ← acceptWord "extends" then pure (some (← grammar.operand)) else pure none
  expectMark "\x7b"
  let members ← many do
    let _ ← many do return if ← acceptMark ";" then some () else none
    if ← isMark "\x7d" then return none
    return some (← grammar.readMember parent.isSome)
  expectMark "\x7d"
  let constructors := members.filterMap fun
    | .inr function => some function
    | .inl _ => none
  if 1 < constructors.length then refuse "property constructor appears more than once"
  let others := members.filterMap fun
    | .inl member => some member
    | .inr _ => none
  return ⟨name, parent, constructors.head?, others, ← textFrom start⟩

/-- Read the parts of a template behind its first one. -/
def readTemplateParts : Nat → Parse (List (Expr × Units))
  | 0 => refuse "template too long"
  | fuel + 1 => do
    let value ← bracketed grammar.readExpression
    match ← peek with
    | some (.template text false isLast) =>
      advance
      if isLast then return [(value, text)]
      return (value, text) :: (← readTemplateParts fuel)
    | _ => refuse "unexpected token in template"

/-- Read an operand that is a word. -/
def readWordOperand (word : String) : Parse Expr := do
  let start ← position
  match word with
  | "null" => advance; return .null
  | "true" => advance; return .bool true
  | "false" => advance; return .bool false
  | "this" => advance; return .this
  | "function" =>
    advance
    grammar.readFunctionExpression false start
  | "class" =>
    advance
    let name ← if (← isMark "\x7b") || (← isWord "extends") then pure "" else takeName
    return .class (← grammar.readClass start name)
  | "super" =>
    advance
    let place := (← get).place
    if ← acceptMark "(" then
      unless place.allowsSuperCall do refuse "super() is only valid in a derived class constructor"
      return .superCall (← grammar.readArguments)
    unless place.allowsSuperMember do refuse "'super' is only valid in a method"
    if ← acceptMark "." then
      match ← peek with
      | some (.word name) =>
        advance
        return .superMember (.text (Units.ofString name))
      | _ => refuse "expecting field name"
    expectMark "["
    let key ← bracketed grammar.readExpression
    expectMark "]"
    return .superMember key
  | "async" =>
    match ← peekSecond with
    | some token =>
      if token.lexeme == .word "function" && !token.afterLine then
        advance
        advance
        return ← grammar.readFunctionExpression true start
    | none => pure ()
    return .name (← takeName)
  | _ =>
    if word == "arguments" then
      modify fun source => { source with usesArguments := true }
    return .name (← takeName)

/-- Read an operand without suffixes. -/
def readPrimary : Parse Expr := do
  match ← peek with
  | some (.word word) => grammar.readWordOperand word
  | some (.number value) => advance; return .number value
  | some (.bigInt value) => advance; return .bigInt value
  | some (.text value) => advance; return .text value
  | some (.template text true isLast) =>
    advance
    if isLast then return .template text []
    return .template text (← grammar.readTemplateParts ((← get).tokens.length + 1))
  | some (.mark "(") =>
    advance
    let value ← bracketed grammar.readExpression
    expectMark ")"
    return value
  | some (.mark "[") =>
    advance
    let items ← bracketed <| many do
      if ← isMark "]" then return none
      if ← acceptMark "," then return some Item.hole
      let item ← grammar.readItem
      unless ← isMark "]" do expectMark ","
      return some item
    expectMark "]"
    return .array items
  | some (.mark "\x7b") =>
    advance
    let properties ← bracketed (listed "\x7d" grammar.readProperty)
    checkPrototypes properties
    return .object properties
  | _ => refuse "unexpected token in expression"

/-- Read the suffixes of an operand; the flag says whether the chain may end early. Calls are read
where they are allowed. -/
def readSuffixes (allowsCalls : Bool) : Nat → Bool → Expr → Parse (Expr × Bool)
  | 0, isChain, target => return (target, isChain)
  | fuel + 1, isChain, target => do
    let named (target : Expr) : Parse Expr := do
      match ← peek with
      | some (.word name) =>
        advance
        return .member target (Units.ofString name)
      | _ => refuse "expecting field name"
    let subscript (target : Expr) : Parse Expr := do
      let key ← bracketed grammar.readExpression
      expectMark "]"
      return .index target key
    if ← acceptMark "." then readSuffixes allowsCalls fuel isChain (← named target)
    else if ← acceptMark "[" then readSuffixes allowsCalls fuel isChain (← subscript target)
    else if ← pure allowsCalls <&&> acceptMark "(" then
      readSuffixes allowsCalls fuel isChain (.call target (← grammar.readArguments))
    else if ← pure allowsCalls <&&> acceptMark "?." then
      let target := Expr.optional target
      let next ←
        if ← acceptMark "(" then pure (.call target (← grammar.readArguments))
        else if ← acceptMark "[" then subscript target
        else named target
      readSuffixes allowsCalls fuel true next
    else
      match ← peek with
      | some (.template _ true _) => refuse "tagged templates are not supported"
      | _ => return (target, isChain)

/-- Read an operand behind `new`, which may have its arguments. -/
def readNew : Nat → Parse Expr
  | 0 => refuse "too deeply nested"
  | fuel + 1 => do
    if ← acceptMark "." then
      expectWord "target"
      unless (← get).place.allowsNewTarget do refuse "new.target only allowed within functions"
      return .newTarget
    let callee ← if ← acceptWord "new" then readNew fuel else grammar.readPrimary
    let (callee, _) ← grammar.readSuffixes false ((← get).tokens.length + 1) false callee
    let arguments ← if ← acceptMark "(" then grammar.readArguments else pure []
    return .construct callee arguments

/-- Read an operand with its suffixes. -/
def readChain : Parse Expr := do
  let fuel := (← get).tokens.length + 1
  let first ← if ← acceptWord "new" then grammar.readNew fuel else grammar.readPrimary
  let (target, isChain) ← grammar.readSuffixes true fuel false first
  return if isChain then .chain target else target

/-- Read an operand with its suffixes, counted up or down behind it. -/
def readPostfix : Parse Expr := do
  let target ← grammar.readChain
  let counts := (← isMark "++") || (← isMark "--")
  if counts && !(← atLineStart) then
    unless isAssignable target do refuse "invalid increment/decrement operand"
    let isIncrement ← isMark "++"
    advance
    return .update target false isIncrement
  else return target

/-- An operator in front of an operand. -/
inductive Leading where
  | unary (operator : UnaryOp)
  | count (isIncrement : Bool)
  | delete
  | await

/-- Pass an operator in front of an operand, if one is next. -/
def readLeading : Parse (Option Leading) := do
  let found : Option Leading :=
    match ← peek with
    | some (.mark "+") => some (.unary .plus)
    | some (.mark "-") => some (.unary .minus)
    | some (.mark "~") => some (.unary .invert)
    | some (.mark "!") => some (.unary .not)
    | some (.mark "++") => some (.count true)
    | some (.mark "--") => some (.count false)
    | some (.word "typeof") => some (.unary .typeOf)
    | some (.word "void") => some (.unary .void)
    | some (.word "delete") => some .delete
    | some (.word "await") => some .await
    | _ => none
  if found.isSome then advance
  return found

/-- Put an operator in front of an operand. -/
def applyLeading (leading : Leading) (operand : Expr) : Parse Expr := do
  match leading with
  | .unary operator => return .unary operator operand
  | .count isIncrement =>
    unless isAssignable operand do refuse "invalid increment/decrement operand"
    return .update operand true isIncrement
  | .delete =>
    match operand with
    | .name _ => refuse "cannot delete a direct reference in strict mode"
    | operand => return .delete operand
  | .await =>
    unless (← get).place.inAsync do refuse "unexpected 'await' keyword"
    return .await operand

/-- Read an operand with the operators in front of it; what they apply to is no base of a power. -/
def readUnary : Parse Expr := do
  let leading ← many readLeading
  let operand ← grammar.readPostfix
  let result ← leading.foldrM applyLeading operand
  let signed := leading.any fun
    | .unary _ | .delete | .await => true
    | .count _ => false
  if ← pure signed <&&> isMark "**" then
    refuse "unparenthesized unary expression can't appear on the left-hand side of '**'"
  return result

/-- The operators of a chain do not mix `??` with `&&` or `||`. -/
def checkMixing (joints : List Joint) : Parse Unit := do
  let mixes := joints.contains (.logical .coalesce)
    && (joints.contains (.logical .or) || joints.contains (.logical .and))
  if mixes then refuse "cannot mix ?? with && or ||"

/-- Read operands with operators between them. -/
def readBinary : Parse Expr := do
  let first ← grammar.readUnary
  let rest ← many do
    match (← peek).bind joint? with
    | none => return none
    | some joint =>
      if joint.1 == .binary .within && (← get).place.refusesIn then return none
      advance
      return some (joint, ← grammar.readUnary)
  checkMixing (rest.map fun ((joint, _), _) => joint)
  return climb [] first rest

/-- Read an expression without commas outside of brackets that is no arrow function. -/
def readAssigned : Parse Expr := do
  let tokens := (← get).tokens
  let isPattern := (← isMark "[") || (← isMark "\x7b")
  if isPattern && closesBefore "=" tokens then
    let target ← grammar.pattern false
    expectMark "="
    return .assign target (← grammar.assignment)
  let left ← grammar.readBinary
  match ← peek with
  | some (.mark "?") =>
    advance
    let consequent ← bracketed grammar.assignment
    expectMark ":"
    return .conditional left consequent (← grammar.assignment)
  | some (.mark "=") =>
    unless isAssignable left do refuse "invalid assignment left-hand side"
    advance
    let target := placeOf left
    return .assign target (withNameOf target (← grammar.assignment))
  | some (.mark mark) =>
    match assignOperator? mark, assignLogical? mark with
    | some operator, _ =>
      unless isAssignable left do refuse "invalid assignment left-hand side"
      advance
      return .assignWith operator left (← grammar.assignment)
    | none, some operator =>
      unless isAssignable left do refuse "invalid assignment left-hand side"
      advance
      return .assignIf operator left (withNameOf (placeOf left) (← grammar.assignment))
    | none, none => return left
  | _ => return left

/-- Read an expression without commas outside of brackets. -/
def readAssignment : Parse Expr := do
  let start ← position
  match (← get).tokens with
  | ⟨.mark "(", _, _, _⟩ :: _ =>
    if startsArrow (← get).tokens then grammar.readArrow false start else grammar.readAssigned
  | ⟨.word "async", _, _, _⟩ :: next :: rest =>
    let isArrow :=
      !next.afterLine &&
        match next.lexeme with
        | .mark "(" => startsArrow (next :: rest)
        | .word _ => rest.head?.any (·.lexeme == .mark "=>")
        | _ => false
    if isArrow then
      advance
      grammar.readArrow true start
    else if next.lexeme == .mark "=>" then grammar.readArrow false start
    else grammar.readAssigned
  | ⟨.word _, _, _, _⟩ :: next :: _ =>
    if next.lexeme == .mark "=>" then grammar.readArrow false start else grammar.readAssigned
  | _ => grammar.readAssigned

/-- The word that starts declarations of a kind; none for the kind that lasts the whole
function. -/
def mutabilityOf (word : String) : Option Mutability :=
  match word with
  | "let" => some .variable
  | "const" => some .constant
  | _ => none

/-- Declare the names of a pattern. -/
def declarePattern (mutability : Option Mutability) (pattern : Pattern) : Parse Unit :=
  (boundBy patternDepth pattern).forM fun name =>
    match mutability with
    | some mutability => declareName mutability name
    | none => declareVariable name

/-- Read a declaration; one without a value has to be a plain name that may change. -/
def readDeclaration (mutability : Option Mutability) : Parse Statement := do
  let pattern ← grammar.pattern true
  declarePattern mutability pattern
  if ← acceptMark "=" then
    let value ← grammar.assignment
    return .declare pattern (withNameOf pattern value) mutability.isSome
  else
    match pattern with
    | .name _ =>
      if mutability == some .constant then refuse "missing initializer for const variable"
      return if mutability.isSome then .declare pattern .undefined true else .empty
    | _ => refuse "missing initializer in destructuring declaration"

/-- Read declarations with commas between them. -/
def readDeclarations (mutability : Option Mutability) : Parse Statement := do
  let first ← grammar.readDeclaration mutability
  let rest ← many do
    if ← acceptMark "," then return some (← grammar.readDeclaration mutability) else return none
  return if rest.isEmpty then first else .several (first :: rest)

/-- Read the body of a loop. -/
def readLoopBody : Parse Statement :=
  placed ({ · with inLoop := true, refusesIn := false }) (grammar.statement false)

/-- Read a condition in parentheses. -/
def readCondition : Parse Expr := do
  expectMark "("
  let condition ← grammar.readExpression
  expectMark ")"
  return condition

/-- Read the rest of a counting loop behind what it starts with. -/
def readForRest (declared : Parse (List (String × Mutability))) (start : Statement) :
    Parse Statement := do
  expectMark ";"
  let condition ← if ← isMark ";" then pure none else pure (some (← grammar.readExpression))
  expectMark ";"
  let update ← if ← isMark ")" then pure none else pure (some (← grammar.readExpression))
  expectMark ")"
  let body ← grammar.readLoopBody
  return .forLoop (← declared) start condition update body

/-- Read the rest of a loop over values behind what it binds. -/
def readForValues (target : Parse LoopTarget) : Parse Statement := do
  if ← acceptWord "of" then
    let values ← grammar.assignment
    expectMark ")"
    let body ← grammar.readLoopBody
    return .forOf (← target) values body
  else
    expectWord "in"
    let values ← grammar.readExpression
    expectMark ")"
    let body ← grammar.readLoopBody
    return .forIn (← target) values body

/-- What the innermost scope declares so far. -/
def declaredHere : Parse (List (String × Mutability)) :=
  return ((← get).scopes.head?.map OpenScope.declared).getD []

/-- Read a loop that starts with a declaration behind its keyword. -/
def readForDeclaration (mutability : Option Mutability) : Parse Statement := do
  let before := (← get).tokens
  let isSimple :=
    match before with
    | ⟨.mark "[", _, _, _⟩ :: _ | ⟨.mark "\x7b", _, _, _⟩ :: _ => behindBracket 0 before
    | _ => before.drop 1
  let overValues := isSimple.head?.any fun token =>
    token.lexeme == .word "of" || token.lexeme == .word "in"
  if overValues then
    let pattern ← grammar.pattern true
    declarePattern mutability pattern
    grammar.readForValues do
      match mutability with
      | some _ => return .declare (← declaredHere) pattern
      | none => return .assign pattern
  else
    let start ← placed ({ · with refusesIn := true }) (grammar.readDeclarations mutability)
    grammar.readForRest declaredHere start

/-- Read a loop behind its keyword. -/
def readFor : Parse Statement := do
  if ← isWord "await" then refuse "for await is not supported"
  expectMark "("
  let (statement, _) ← inScope {} do
    match ← peek with
    | some (.mark ";") => grammar.readForRest (return []) .empty
    | some (.word "let") => advance; grammar.readForDeclaration (some .variable)
    | some (.word "const") => advance; grammar.readForDeclaration (some .constant)
    | some (.word "var") => advance; grammar.readForDeclaration none
    | lexeme =>
      let isPattern := lexeme == some (.mark "[") || lexeme == some (.mark "\x7b")
      let tokens := (← get).tokens
      let isLoopOver := (behindBracket 0 tokens).head?.any fun token =>
        token.lexeme == .word "of" || token.lexeme == .word "in"
      if isPattern && isLoopOver then
        let pattern ← grammar.pattern false
        grammar.readForValues (return .assign pattern)
      else
        let start ← placed ({ · with refusesIn := true }) grammar.readExpression
        if (← isWord "of") || (← isWord "in") then
          unless isAssignable start do refuse "invalid for in/of left hand-side"
          grammar.readForValues (return .assign (placeOf start))
        else grammar.readForRest (return []) (.expression start)
  return statement

/-- Read a case of a switch. -/
def readCase : Parse (Option Case) := do
  let test ←
    if ← acceptWord "case" then pure (some (← grammar.readExpression))
    else if ← acceptWord "default" then pure none
    else return none
  expectMark ":"
  let statements ← many do
    if (← isMark "\x7d") || (← isWord "case") || (← isWord "default") then return none
    return some (← grammar.statement true)
  return some ⟨test, statements⟩

/-- Read a switch behind its keyword. -/
def readSwitch : Parse Statement := do
  let value ← grammar.readCondition
  expectMark "\x7b"
  let (cases, scope) ← inScope {} do
    let cases ← placed ({ · with inSwitch := true }) (many grammar.readCase)
    expectMark "\x7d"
    return cases
  let defaults := cases.countP fun ⟨test, _⟩ => test.isNone
  if 1 < defaults then refuse "duplicate default"
  return .switch value scope.declared scope.functions cases

/-- Read a try statement behind its keyword. -/
def readTry : Parse Statement := do
  expectMark "\x7b"
  let body ← grammar.readBlock []
  let handler ←
    if ← acceptWord "catch" then
      if ← acceptMark "(" then
        let ((pattern, block), scope) ← inScope {} do
          let pattern ← grammar.pattern true
          declarePattern (some .variable) pattern
          let scope := (← get).scopes.headD {}
          let isName := pattern matches .name _
          modify fun source =>
            { source with
              scopes := (if isName then {} else scope) :: source.scopes.drop 1 }
          expectMark ")"
          expectMark "\x7b"
          let block ← grammar.readBlock (scope.declared.map Prod.fst)
          modify fun source => { source with scopes := scope :: source.scopes.drop 1 }
          return (pattern, block)
        pure (some (some pattern, scope.declared, block))
      else
        expectMark "\x7b"
        pure (some (none, [], ← grammar.readBlock []))
    else pure none
  let finalizer ←
    if ← acceptWord "finally" then
      expectMark "\x7b"
      pure (some (← grammar.readBlock []))
    else pure none
  if handler.isNone && finalizer.isNone then refuse "expecting catch or finally"
  return .try body handler finalizer

/-- Read a jump's label, if there is one on its line. -/
def readLabel : Parse (Option String) := do
  match ← peek with
  | some (.word _) => if ← atLineStart then return none else return some (← takeName)
  | _ => return none

/-- Read a jump behind its keyword: out of a loop or switch, or on to a loop's next round. -/
def readJump (isContinue : Bool) : Parse Statement := do
  let label ← readLabel
  let place := (← get).place
  match label with
  | some name =>
    match place.labels.find? (·.1 == name) with
    | none => refuse "break/continue label not found"
    | some (_, isLoop) =>
      if isContinue && !isLoop then refuse "continue label is not of a loop"
  | none =>
    unless place.inLoop || (place.inSwitch && !isContinue) do
      refuse "break/continue must be inside a loop or switch"
  endStatement
  return if isContinue then .continue label else .break label

/-- Declare a function and read it behind its keyword. -/
def readFunctionDeclaration (isAsync : Bool) (start : Nat) : Parse Statement := do
  if ← isMark "*" then refuse "generators are not supported"
  let name ← takeName
  let function ←
    readFunction .ordinary isAsync false name start grammar.readParameters grammar.readBody
  declareFunction function
  return .empty

/-- Declare a class and read it behind its keyword. -/
def readClassDeclaration (start : Nat) : Parse Statement := do
  let name ← takeName
  declareName .variable name
  return .class (← grammar.readClass start name)

/-- The next word starts a labelled statement. -/
def startsLabel : Parse Bool := do
  match (← get).tokens with
  | ⟨.word _, _, _, _⟩ :: ⟨.mark ":", _, _, _⟩ :: _ => return true
  | _ => return false

/-- The next word starts a loop. -/
def startsLoop : Parse Bool :=
  return (← isWord "for") || (← isWord "while") || (← isWord "do")

/-- Read a labelled statement. -/
def readLabelled : Parse Statement := do
  let label ← takeName
  expectMark ":"
  if (← get).place.labels.any (·.1 == label) then refuse "duplicate label name"
  let isLoop ← startsLoop
  let body ← placed (fun place => { place with labels := (label, isLoop) :: place.labels })
    (grammar.statement false)
  return .labelled label body

/-- Read a statement that starts with a word, if it is a keyword of statements; the flag allows
declarations. -/
def readWordStatement (declares : Bool) (word : String) : Parse (Option Statement) := do
  let start ← position
  let declaration : Parse Unit := unless declares do refuse "declaration not allowed here"
  match word with
  | "var" =>
    advance
    let statement ← grammar.readDeclarations none
    endStatement
    return some statement
  | "let" | "const" =>
    declaration
    advance
    let statement ← grammar.readDeclarations (mutabilityOf word)
    endStatement
    return some statement
  | "function" =>
    declaration
    advance
    return some (← grammar.readFunctionDeclaration false start)
  | "async" =>
    match ← peekSecond with
    | some token =>
      if token.lexeme == .word "function" && !token.afterLine then
        declaration
        advance
        advance
        return some (← grammar.readFunctionDeclaration true start)
      else return none
    | none => return none
  | "class" =>
    declaration
    advance
    return some (← grammar.readClassDeclaration start)
  | "if" =>
    advance
    let condition ← grammar.readCondition
    let consequent ← grammar.statement false
    let alternative ←
      if ← acceptWord "else" then pure (some (← grammar.statement false)) else pure none
    return some (.branch condition consequent alternative)
  | "for" => advance; return some (← grammar.readFor)
  | "while" =>
    advance
    let condition ← grammar.readCondition
    return some (.whileLoop condition (← grammar.readLoopBody))
  | "do" =>
    advance
    let body ← grammar.readLoopBody
    expectWord "while"
    let condition ← grammar.readCondition
    let _ ← acceptMark ";"
    return some (.doWhile body condition)
  | "return" =>
    unless (← get).place.inFunction do refuse "return not in a function"
    advance
    let ends := (← isMark ";") || (← isMark "\x7d") || (← atLineStart) || (← peek).isNone
    let value ← if ends then pure none else pure (some (← grammar.readExpression))
    endStatement
    return some (.return value)
  | "break" => advance; return some (← readJump false)
  | "continue" => advance; return some (← readJump true)
  | "throw" =>
    advance
    if ← atLineStart then refuse "line terminator not allowed after throw"
    let value ← grammar.readExpression
    endStatement
    return some (.throw value)
  | "try" => advance; return some (← grammar.readTry)
  | "switch" => advance; return some (← grammar.readSwitch)
  | "debugger" =>
    advance
    endStatement
    return some .empty
  | "with" => refuse "invalid keyword: with"
  | "import" | "export" => refuse "unsupported keyword"
  | _ => if ← startsLabel then return some (← grammar.readLabelled) else return none

/-- Read a statement; the flag allows declarations. -/
def readStatement (declares : Bool) : Parse Statement := do
  let read : Option Statement ←
    match ← peek with
    | some (.mark "\x7b") =>
      advance
      pure (some (.block (← grammar.readBlock [])))
    | some (.mark ";") =>
      advance
      pure (some .empty)
    | some (.word word) => grammar.readWordStatement declares word
    | _ => pure none
  match read with
  | some statement => return statement
  | none =>
    let value ← grammar.readExpression
    endStatement
    return .expression value

end Grammar

/-- The grammar in which at most `depth` trees are nested. -/
def grammar : Nat → Grammar
  | 0 =>
    { assignment := refuse "too deeply nested"
      operand := refuse "too deeply nested"
      pattern := fun _ => refuse "too deeply nested"
      statement := fun _ => refuse "too deeply nested" }
  | depth + 1 =>
    let inner := grammar depth
    { assignment := inner.readAssignment
      operand := inner.readChain
      pattern := inner.readPattern
      statement := inner.readStatement }

end ConfigDelivery.Script.JavaScript
