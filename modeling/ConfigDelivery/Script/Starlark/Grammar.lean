import ConfigDelivery.Script.Starlark.Token
import ConfigDelivery.Script.Starlark.Tree
/-!
# The grammar of Starlark

Trees are read from tokens by one function per level of the grammar. The levels
that lie inside others are reached through `Grammar`, a grammar of bounded
nesting; there is one for every bound. While it reads, the reader keeps the names
that are used and bound in the scope that it is in.
-/

namespace ConfigDelivery.Script.Starlark

/-- The tokens ahead, and the names of the scope that is being read: those used, those used by
what belongs to the scope around it, and those bound. -/
structure Source where
  tokens : List Token
  uses : List String := []
  outerUses : List String := []
  binds : List String := []
  inFunction : Bool := false
  inLoop : Bool := false

/-- A reader of tokens. -/
abbrev Parse := StateT Source (Except String)

namespace Parse

/-- Refuse what is ahead. -/
def refuse {Result : Type} (reason : String) : Parse Result := throw reason

/-- The next token. -/
def peek : Parse (Option Token) := return (← get).tokens.head?

/-- Pass the next token. -/
def advance : Parse Unit := modify fun source => { source with tokens := source.tokens.drop 1 }

/-- Pass a token if it is next. -/
def accept (token : Token) : Parse Bool := do
  if (← peek) == some token then
    advance
    return true
  else return false

/-- Pass a token that has to be next. -/
def expect (token : Token) : Parse Unit := do
  unless ← accept token do refuse "unexpected token"

/-- Pass a name that has to be next. -/
def takeName : Parse String := do
  match ← peek with
  | some (.name text) =>
    advance
    return text
  | _ => refuse "expected a name"

/-- Use a name in the scope. -/
def use (name : String) : Parse Unit :=
  modify fun source => { source with uses := name :: source.uses }

/-- Bind a name in the scope. -/
def bindName (name : String) : Parse Unit :=
  modify fun source =>
    if source.binds.contains name then source else { source with binds := name :: source.binds }

/-- Read items until there is none; `fuel` bounds their number. -/
def manyWithin {Item : Type} (next : Parse (Option Item)) : Nat → Parse (List Item)
  | 0 => refuse "too long"
  | fuel + 1 => do
    match ← next with
    | none => return []
    | some item => return item :: (← manyWithin next fuel)

/-- Read items until there is none; each passes a token. -/
def many {Item : Type} (next : Parse (Option Item)) : Parse (List Item) := do
  manyWithin next ((← get).tokens.length + 1)

/-- Read items with a separator between them. -/
def separated {Item : Type} (separator : Token) (item : Parse Item) : Parse (List Item) := do
  let first ← item
  let rest ← many do
    if ← accept separator then return some (← item) else return none
  return first :: rest

/-- Read items with commas between them up to a closing mark; a comma may come before it. -/
def listed {Item : Type} (close : Token) (item : Parse Item) : Parse (List Item) := do
  let done ← many do
    if (← peek) == some close then return none
    else
      let next ← item
      unless (← peek) == some close do expect (.mark ",")
      return some next
  expect close
  return done

/-- Read in a scope of its own, and say which names it binds. The names that it uses and does not
bind are used by the scope around it. -/
def inScope {Result : Type} (read : Parse Result) : Parse (Result × List String) := do
  let around ← get
  set { around with uses := [], outerUses := [], binds := [] }
  let result ← read
  let inner ← get
  let free := inner.uses.filter fun name => !inner.binds.contains name
  set { inner with
    uses := free ++ inner.outerUses ++ around.uses
    outerUses := around.outerUses
    binds := around.binds
    inFunction := around.inFunction
    inLoop := around.inLoop }
  return (result, inner.binds.reverse)

/-- Read a part of a scope that uses the names of the scope around it. -/
def outside {Result : Type} (read : Parse Result) : Parse Result := do
  let before ← get
  set { before with uses := [] }
  let result ← read
  let after ← get
  set { after with uses := before.uses, outerUses := after.uses ++ after.outerUses }
  return result

end Parse

open Parse

/-- The readers of the trees that contain themselves. -/
structure Grammar where
  operand : Parse Expr
  test : Parse Expr
  statement : Parse (List Statement)

/-- How tightly an arithmetic operator binds. -/
def tightness : BinaryOp → Nat
  | .bitOr => 1
  | .bitXor => 2
  | .bitAnd => 3
  | .shiftLeft | .shiftRight => 4
  | .add | .subtract => 5
  | .multiply | .divide | .floorDivide | .remainder => 6
  | _ => 0

/-- The arithmetic operator of a mark. -/
def arithmetic? : String → Option BinaryOp
  | "|" => some .bitOr
  | "^" => some .bitXor
  | "&" => some .bitAnd
  | "<<" => some .shiftLeft
  | ">>" => some .shiftRight
  | "+" => some .add
  | "-" => some .subtract
  | "*" => some .multiply
  | "/" => some .divide
  | "//" => some .floorDivide
  | "%" => some .remainder
  | _ => none

/-- The comparison of a mark. -/
def comparison? : String → Option BinaryOp
  | "==" => some .equal
  | "!=" => some .unequal
  | "<" => some .less
  | "<=" => some .lessEqual
  | ">" => some .greater
  | ">=" => some .greaterEqual
  | _ => none

/-- The operator of a mark that updates its target. -/
def updating? (mark : String) : Option BinaryOp :=
  match mark.toList.reverse with
  | '=' :: rest => arithmetic? (String.ofList rest.reverse)
  | _ => none

/-- An operand to the left of an operator that waits for its right one. -/
structure Waiting where
  left : Expr
  operator : BinaryOp

/-- Close the operators that bind at least as tightly as the next one. -/
def reduce (least : Nat) : List Waiting → Expr → List Waiting × Expr
  | [], right => ([], right)
  | ⟨left, operator⟩ :: rest, right =>
    if least ≤ tightness operator then reduce least rest (.binary operator left right)
    else (⟨left, operator⟩ :: rest, right)

/-- The tree of a chain of operands with operators between them, by how tightly they bind and then
from the left. -/
def climb (waiting : List Waiting) (left : Expr) : List (BinaryOp × Expr) → Expr
  | [] => (reduce 0 waiting left).2
  | (operator, right) :: rest =>
    let (waiting, left) := reduce (tightness operator) waiting left
    climb (⟨left, operator⟩ :: waiting) right rest

/-- What an expression stands for on the left of an assignment; `depth` bounds its nesting. -/
def targetOf? : Nat → Expr → Option Target
  | _, .name text => some (.name text)
  | _, .index target key => some (.index target key)
  | _, .member target name => some (.member target name)
  | depth + 1, .tuple items => (items.mapM (targetOf? depth)).map .tuple
  | depth + 1, .list items => (items.mapM (targetOf? depth)).map .tuple
  | _, _ => none

/-- Read an expression as a target, and bind its names. -/
def bindTarget (expression : Expr) : Parse Target := do
  match targetOf? targetDepth expression with
  | none => refuse "cannot assign to this expression"
  | some target =>
    (boundBy targetDepth target).forM bindName
    return target

namespace Grammar

variable (grammar : Grammar)

/-- Read what starts a subscript's part: nothing before a colon or bracket. -/
def readBound : Parse (Option Expr) := do
  match ← peek with
  | some (.mark ":") | some (.mark "]") => return none
  | _ => return some (← grammar.test)

/-- Read an index or a slice behind its opening bracket. -/
def readSubscript (target : Expr) : Parse Expr := do
  let low ← grammar.readBound
  if ← accept (.mark ":") then
    let high ← grammar.readBound
    let step ← if ← accept (.mark ":") then grammar.readBound else pure none
    expect (.mark "]")
    return .slice target low high step
  else
    expect (.mark "]")
    match low with
    | some key => return .index target key
    | none => refuse "expected an index"

/-- Read an argument of a call. -/
def readArgument : Parse Argument := do
  if ← accept (.mark "*") then return .spread (← grammar.test)
  else if ← accept (.mark "**") then return .spreadNamed (← grammar.test)
  else
    match (← get).tokens with
    | .name name :: .mark "=" :: _ =>
      advance
      advance
      return .named name (← grammar.test)
    | _ => return .positional (← grammar.test)

/-- How far along the order of a call's arguments an argument stands. -/
def argumentRank : Argument → Nat
  | .positional _ => 0
  | .named _ _ => 1
  | .spread _ => 2
  | .spreadNamed _ => 3

/-- Arguments come in the order of their ranks, and no name comes twice. -/
def checkArguments (arguments : List Argument) : Parse Unit := do
  let ranks := arguments.map argumentRank
  unless (ranks.zip (ranks.drop 1)).all fun (left, right) => left ≤ right do
    refuse "arguments out of order"
  unless ranks.count 2 ≤ 1 && ranks.count 3 ≤ 1 do refuse "repeated spread argument"
  let names := arguments.filterMap fun
    | .named name _ => some name
    | _ => none
  unless names.eraseDups.length == names.length do refuse "repeated named argument"

/-- Read the suffixes of an operand: attributes, calls and subscripts. -/
def readSuffixes : Nat → Expr → Parse Expr
  | 0, expression => return expression
  | fuel + 1, expression => do
    if ← accept (.mark ".") then
      readSuffixes fuel (.member expression (← takeName))
    else if ← accept (.mark "(") then
      let arguments ← listed (.mark ")") grammar.readArgument
      checkArguments arguments
      readSuffixes fuel (.call expression arguments)
    else if ← accept (.mark "[") then
      readSuffixes fuel (← grammar.readSubscript expression)
    else return expression

/-- Read an operand and the signs in front of it. -/
def readFactor : Parse Expr := do
  let signs ← many do
    if ← accept (.mark "-") then return some UnaryOp.minus
    else if ← accept (.mark "+") then return some .plus
    else if ← accept (.mark "~") then return some .invert
    else return none
  let expression ← grammar.operand
  let expression ← grammar.readSuffixes ((← get).tokens.length + 1) expression
  return signs.foldr .unary expression

/-- Read operands with arithmetic operators between them. -/
def readChain : Parse Expr := do
  let first ← grammar.readFactor
  let rest ← many do
    match ← peek with
    | some (.mark mark) =>
      match arithmetic? mark with
      | some operator =>
        advance
        return some (operator, ← grammar.readFactor)
      | none => return none
    | _ => return none
  return climb [] first rest

/-- Read a comparison; comparisons are not chained. -/
def readComparison : Parse Expr := do
  let left ← grammar.readChain
  match (← get).tokens with
  | .mark mark :: _ =>
    match comparison? mark with
    | some operator =>
      advance
      return .binary operator left (← grammar.readChain)
    | none => return left
  | .keyword "in" :: _ =>
    advance
    return .binary .within left (← grammar.readChain)
  | .keyword "not" :: .keyword "in" :: _ =>
    advance
    advance
    return .binary .notWithin left (← grammar.readChain)
  | _ => return left

/-- Read a comparison and the negations in front of it. -/
def readNegation : Parse Expr := do
  let negations ← many do
    if ← accept (.keyword "not") then return some UnaryOp.not else return none
  return negations.foldr .unary (← grammar.readComparison)

/-- Join operands from the left. -/
def joined (join : Expr → Expr → Expr) : List Expr → Expr
  | [] => .tuple []
  | first :: rest => rest.foldl join first

/-- Read a disjunction of conjunctions. -/
def readDisjunction : Parse Expr := do
  let conjunction : Parse Expr :=
    return joined .and (← separated (.keyword "and") (grammar.readNegation))
  return joined .or (← separated (.keyword "or") conjunction)

/-- Read targets of a loop: operands with commas between them. -/
def readTargets : Parse Target := do
  let first ← grammar.readChain
  let rest ← many do
    if ← accept (.mark ",") then
      if (← peek) == some (.keyword "in") then return none
      return some (← grammar.readChain)
    else return none
  bindTarget (if rest.isEmpty then first else .tuple (first :: rest))

/-- Read the clauses of a comprehension. -/
def readClauses : Parse (List Clause) := do
  expect (.keyword "for")
  let target ← grammar.readTargets
  expect (.keyword "in")
  let items ← outside (grammar.readDisjunction)
  let rest ← many do
    if ← accept (.keyword "for") then
      let target ← grammar.readTargets
      expect (.keyword "in")
      return some (Clause.each target (← grammar.readDisjunction))
    else if ← accept (.keyword "if") then
      return some (.when (← grammar.readDisjunction))
    else return none
  return .each target items :: rest

/-- Read a list or its comprehension behind the opening bracket. -/
def readList : Parse Expr := do
  if ← accept (.mark "]") then return .list []
  let (expression, _) ← inScope do
    let first ← grammar.test
    if (← peek) == some (.keyword "for") then
      let clauses ← grammar.readClauses
      expect (.mark "]")
      return .listOf first clauses
    else
      unless (← peek) == some (.mark "]") do expect (.mark ",")
      return .list (first :: (← listed (.mark "]") grammar.test))
  return expression

/-- Read an entry of a dict. -/
def readEntry : Parse (Expr × Expr) := do
  let key ← grammar.test
  expect (.mark ":")
  return (key, ← grammar.test)

/-- Read a dict or its comprehension behind the opening brace. -/
def readDict : Parse Expr := do
  if ← accept (.mark "\x7d") then return .dict []
  let (expression, _) ← inScope do
    let (key, value) ← grammar.readEntry
    if (← peek) == some (.keyword "for") then
      let clauses ← grammar.readClauses
      expect (.mark "\x7d")
      return .dictOf key value clauses
    else
      unless (← peek) == some (.mark "\x7d") do expect (.mark ",")
      return .dict ((key, value) :: (← listed (.mark "\x7d") grammar.readEntry))
  return expression

/-- Read a tuple or an expression in parentheses behind the opening one. -/
def readParenthesized : Parse Expr := do
  if ← accept (.mark ")") then return .tuple []
  let first ← grammar.test
  if ← accept (.mark ",") then
    return .tuple (first :: (← listed (.mark ")") grammar.test))
  else
    expect (.mark ")")
    return first

/-- Read an operand. -/
def readOperand : Parse Expr := do
  match ← peek with
  | some (.name text) =>
    advance
    use text
    return .name text
  | some (.integer value) =>
    advance
    return .integer value
  | some (.float value) =>
    advance
    return .float value
  | some (.text value) =>
    advance
    return .text value
  | some (.mark "(") =>
    advance
    grammar.readParenthesized
  | some (.mark "[") =>
    advance
    grammar.readList
  | some (.mark "\x7b") =>
    advance
    grammar.readDict
  | _ => refuse "expected an expression"

/-- Read a parameter. -/
def readParameter : Parse Parameter := do
  if ← accept (.mark "*") then return ⟨← takeName, .rest⟩
  else if ← accept (.mark "**") then return ⟨← takeName, .restNamed⟩
  else
    let name ← takeName
    if ← accept (.mark "=") then return ⟨name, .optional (← grammar.test)⟩
    else return ⟨name, .required⟩

/-- Parameters have different names; one without a default does not come after one with one,
unless all positions are taken already. -/
def checkParameters : Bool → List Parameter → Parse Unit
  | _, [] => return
  | defaulted, ⟨name, kind⟩ :: rest => do
    if rest.any fun other => other.name == name then refuse "repeated parameter"
    match kind with
    | .required =>
      if defaulted then refuse "parameter without a default after one with a default"
      checkParameters defaulted rest
    | .optional _ => checkParameters true rest
    | .rest =>
      if rest.any fun other => other.kind matches .rest then refuse "repeated rest parameter"
      checkParameters false rest
    | .restNamed =>
      unless rest.isEmpty do refuse "parameter after the named rest"

/-- Read a function's body in the scope of its parameters. -/
def readFunction (name : String) (parameters : List Parameter)
    (body : Parse (List Statement)) : Parse Function := do
  checkParameters false parameters
  let (body, locals) ← inScope do
    (parameters.map Parameter.name).forM bindName
    modify fun source => { source with inFunction := true, inLoop := false }
    body
  return ⟨name, parameters, locals, body⟩

/-- Read a function without a name behind its keyword. -/
def readLambda : Parse Expr := do
  let parameters ← listed (.mark ":") grammar.readParameter
  let function ← readFunction "lambda" parameters do
    return [.return (some (← grammar.test))]
  return .lambda function

/-- Read an expression. -/
def readTest : Parse Expr := do
  if ← accept (.keyword "lambda") then grammar.readLambda
  else
    let consequent ← grammar.readDisjunction
    if ← accept (.keyword "if") then
      let condition ← grammar.readDisjunction
      expect (.keyword "else")
      return .conditional condition consequent (← grammar.test)
    else return consequent

/-- The tokens that may come behind a list of expressions. -/
def endsTests : Option Token → Bool
  | none | some .newline | some (.mark ";") | some (.mark "=") | some (.mark ":") => true
  | _ => false

/-- Read expressions with commas between them; several, or one with a comma, are a tuple. -/
def readTests : Parse Expr := do
  let first ← grammar.test
  if (← peek) == some (.mark ",") then
    let rest ← many do
      if ← accept (.mark ",") then
        if endsTests (← peek) then return none
        return some (← grammar.test)
      else return none
    return .tuple (first :: rest)
  else return first

/-- Read an assignment, an update, or an expression that is evaluated for its effect. -/
def readAssignment : Parse Statement := do
  let left ← grammar.readTests
  match ← peek with
  | some (.mark "=") =>
    advance
    let value ← grammar.readTests
    return .assign (← bindTarget left) value
  | some (.mark mark) =>
    match updating? mark, comparison? mark with
    | some operator, none =>
      advance
      let value ← grammar.readTests
      match ← bindTarget left with
      | .tuple _ => refuse "cannot update several targets"
      | target => return .update target operator value
    | _, _ => return .expression left
  | _ => return .expression left

/-- Read a statement that fits into a line. -/
def readSimple : Parse Statement := do
  let source ← get
  if ← accept (.keyword "return") then
    unless source.inFunction do refuse "return outside of a function"
    if endsTests (← peek) then return .return none
    return .return (some (← grammar.readTests))
  else if ← accept (.keyword "pass") then return .pass
  else if ← accept (.keyword "break") then
    unless source.inLoop do refuse "break outside of a loop"
    return .break
  else if ← accept (.keyword "continue") then
    unless source.inLoop do refuse "continue outside of a loop"
    return .continue
  else grammar.readAssignment

/-- Read a line of statements with semicolons between them. -/
def readLine : Parse (List Statement) := do
  let first ← grammar.readSimple
  let rest ← many do
    if ← accept (.mark ";") then
      if (← peek) == some .newline then return none
      return some (← grammar.readSimple)
    else return none
  expect .newline
  return first :: rest

/-- Read the body of a compound statement: statements on its line, or an indented block. -/
def readSuite : Parse (List Statement) := do
  expect (.mark ":")
  if ← accept .newline then
    expect .indent
    let blocks ← many do
      if (← peek) == some .dedent then return none
      return some (← grammar.statement)
    expect .dedent
    return blocks.flatten
  else grammar.readLine

/-- Read the alternatives of a branch; `fuel` bounds their number. -/
def readAlternatives : Nat → Parse (List Statement)
  | 0 => return []
  | fuel + 1 => do
    if ← accept (.keyword "elif") then
      let condition ← grammar.test
      let consequent ← grammar.readSuite
      return [.branch condition consequent (← readAlternatives fuel)]
    else if ← accept (.keyword "else") then grammar.readSuite
    else return []

/-- Read a statement, or a line of them. -/
def readStatement : Parse (List Statement) := do
  if ← accept (.keyword "def") then
    let name ← takeName
    bindName name
    expect (.mark "(")
    let parameters ← listed (.mark ")") grammar.readParameter
    return [.define (← readFunction name parameters grammar.readSuite)]
  else if ← accept (.keyword "if") then
    let condition ← grammar.test
    let consequent ← grammar.readSuite
    let alternative ← grammar.readAlternatives ((← get).tokens.length + 1)
    return [.branch condition consequent alternative]
  else if ← accept (.keyword "for") then
    let target ← grammar.readTargets
    expect (.keyword "in")
    let items ← grammar.readTests
    let before ← get
    set { before with inLoop := true }
    let body ← grammar.readSuite
    modify fun source => { source with inLoop := before.inLoop }
    return [.loop target items body]
  else grammar.readLine

end Grammar

/-- The grammar in which at most `depth` expressions and blocks are nested. -/
def grammar : Nat → Grammar
  | 0 => ⟨refuse "too deeply nested", refuse "too deeply nested", refuse "too deeply nested"⟩
  | depth + 1 =>
    let inner := grammar depth
    ⟨inner.readOperand, inner.readTest, inner.readStatement⟩

end ConfigDelivery.Script.Starlark
