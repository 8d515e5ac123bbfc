import ConfigDelivery.Script.JavaScript.Token
import ConfigDelivery.Script.JavaScript.Tree
/-!
# Reading tokens of JavaScript

The reader that the grammar is written with. It carries the tokens ahead and what
is known of the place that is being read: the scopes that are open, the names that
they declare, and which statements may occur.
-/

namespace ConfigDelivery.Script.JavaScript

open ConfigDelivery.Text (Units)

/-- A scope that is being read: what it declares, the functions among that, and the names that are
declared in it or through it for the whole function. -/
structure OpenScope where
  declared : List (String × Mutability) := []
  functions : List Function := []
  crossing : List String := []
  isFunctionTop : Bool := false

/-- Which constructs may occur at a place. -/
structure Place where
  inFunction : Bool := false
  inAsync : Bool := false
  inLoop : Bool := false
  inSwitch : Bool := false
  allowsSuperMember : Bool := false
  allowsSuperCall : Bool := false
  allowsNewTarget : Bool := false
  /-- The operator `in` is not read, for it separates a loop's parts. -/
  refusesIn : Bool := false
  /-- The labels around the place, and whether each is a loop's. -/
  labels : List (String × Bool) := []

/-- The tokens ahead, the whole text, where the last token stopped, the scopes of the function,
innermost first, the names declared for all of it, whether it names its arguments, and the place. -/
structure Source where
  tokens : List Token
  text : Array Char
  lastStop : Nat := 0
  scopes : List OpenScope := []
  bindings : List String := []
  usesArguments : Bool := false
  place : Place := {}

/-- A reader of tokens. -/
abbrev Parse := StateT Source (Except String)

/-- The words that are no names. -/
def reservedWords : List String :=
  ["await", "break", "case", "catch", "class", "const", "continue", "debugger", "default", "delete",
    "do", "else", "enum", "export", "extends", "false", "finally", "for", "function", "if",
    "implements", "import", "in", "instanceof", "interface", "let", "new", "null", "package",
    "private", "protected", "public", "return", "static", "super", "switch", "this", "throw",
    "true", "try", "typeof", "var", "void", "while", "with", "yield"]

namespace Parse

/-- Refuse what is ahead. -/
def refuse {Result : Type} (reason : String) : Parse Result := throw reason

/-- What the next token is. -/
def peek : Parse (Option Lexeme) := return (← get).tokens.head?.map Token.lexeme

/-- What the token behind the next one is. -/
def peekSecond : Parse (Option Token) := return (← get).tokens[1]?

/-- A line ends in front of the next token. -/
def atLineStart : Parse Bool := return (← get).tokens.head?.any Token.afterLine

/-- Pass the next token. -/
def advance : Parse Unit :=
  modify fun source =>
    match source.tokens with
    | [] => source
    | token :: rest => { source with tokens := rest, lastStop := token.stop }

/-- The next token is a mark. -/
def isMark (mark : String) : Parse Bool := return (← peek) == some (.mark mark)

/-- The next token is a word. -/
def isWord (word : String) : Parse Bool := return (← peek) == some (.word word)

/-- Pass a mark if it is next. -/
def acceptMark (mark : String) : Parse Bool := do
  if ← isMark mark then
    advance
    return true
  else return false

/-- Pass a word if it is next. -/
def acceptWord (word : String) : Parse Bool := do
  if ← isWord word then
    advance
    return true
  else return false

/-- Pass a mark that has to be next. -/
def expectMark (mark : String) : Parse Unit := do
  unless ← acceptMark mark do refuse ("expecting '" ++ mark ++ "'")

/-- Pass a word that has to be next. -/
def expectWord (word : String) : Parse Unit := do
  unless ← acceptWord word do refuse ("expecting '" ++ word ++ "'")

/-- Where the next token starts. -/
def position : Parse Nat := return (← get).tokens.head?.elim 0 Token.start

/-- The source from a position to the last token. -/
def textFrom (start : Nat) : Parse String := do
  let source ← get
  return String.ofList (source.text.extract start source.lastStop).toList

/-- Pass the end of a statement: a semicolon, or none before a closing brace, at the end of a line
or at the end of the text. -/
def endStatement : Parse Unit := do
  if ← acceptMark ";" then return
  match (← get).tokens with
  | [] => return
  | token :: _ =>
    unless token.afterLine || token.lexeme == .mark "\x7d" do refuse "expecting ';'"

/-- Read items until there is none; `fuel` bounds their number. -/
def manyWithin {Result : Type} (next : Parse (Option Result)) : Nat → Parse (List Result)
  | 0 => refuse "too long"
  | fuel + 1 => do
    match ← next with
    | none => return []
    | some item => return item :: (← manyWithin next fuel)

/-- Read items until there is none; each passes a token. -/
def many {Result : Type} (next : Parse (Option Result)) : Parse (List Result) := do
  manyWithin next ((← get).tokens.length + 1)

/-- Read items with commas between them up to a closing mark; a comma may come before it. -/
def listed {Result : Type} (close : String) (item : Parse Result) : Parse (List Result) := do
  let items ← many do
    if ← isMark close then return none
    let next ← item
    unless ← isMark close do expectMark ","
    return some next
  expectMark close
  return items

/-- Read with a change of the place. -/
def placed {Result : Type} (change : Place → Place) (read : Parse Result) : Parse Result := do
  let before := (← get).place
  modify fun source => { source with place := change before }
  let result ← read
  modify fun source => { source with place := before }
  return result

/-- A word may be used as a name. -/
def isNameWord (word : String) : Bool := !reservedWords.contains word

/-- Pass a name that has to be next. -/
def takeName : Parse String := do
  match ← peek with
  | some (.word word) =>
    unless isNameWord word do refuse "unexpected reserved word"
    advance
    return word
  | _ => refuse "identifier expected"

/-- Refuse the names that strict code does not let be declared or assigned to. -/
def checkBinding (name : String) : Parse Unit := do
  if name == "eval" || name == "arguments" then refuse "invalid variable name in strict mode"

/-- Declare a name in the innermost scope. -/
def declareName (mutability : Mutability) (name : String) : Parse Unit := do
  checkBinding name
  match (← get).scopes with
  | [] => return
  | scope :: outer =>
    if scope.declared.any (·.1 == name) || scope.crossing.contains name then
      refuse "invalid redefinition of lexical identifier"
    let scope := { scope with declared := scope.declared ++ [(name, mutability)] }
    modify fun source => { source with scopes := scope :: outer }

/-- Mark a name as declared through scopes up to the function's own. -/
def crossing (name : String) : List OpenScope → Option (List OpenScope)
  | [] => some []
  | scope :: outer =>
    if scope.declared.any (·.1 == name) then none
    else
      let crossed := { scope with crossing := name :: scope.crossing }
      if scope.isFunctionTop then some (crossed :: outer)
      else (crossing name outer).map (crossed :: ·)

/-- Declare a name for the whole function. -/
def declareVariable (name : String) : Parse Unit := do
  checkBinding name
  let source ← get
  match crossing name source.scopes with
  | none => refuse "invalid redefinition of lexical identifier"
  | some scopes =>
    let bindings :=
      if source.bindings.contains name then source.bindings else source.bindings ++ [name]
    set { source with scopes, bindings }

/-- Declare a function: for the whole function at its top, else in the innermost scope. -/
def declareFunction (function : Function) : Parse Unit := do
  let isTop := (← get).scopes.head?.any OpenScope.isFunctionTop
  if isTop then declareVariable function.info.name
  else declareName .variable function.info.name
  modify fun source =>
    match source.scopes with
    | [] => source
    | scope :: outer =>
      { source with scopes := { scope with functions := scope.functions ++ [function] } :: outer }

/-- Read in a scope of its own, and answer with what it declares. -/
def inScope {Result : Type} (scope : OpenScope) (read : Parse Result) :
    Parse (Result × OpenScope) := do
  modify fun source => { source with scopes := scope :: source.scopes }
  let result ← read
  let source ← get
  set { source with scopes := source.scopes.drop 1 }
  return (result, source.scopes.headD {})

/-- Read a function's parts, with scopes, variables and place of its own; the answer also has the
names that it declares for all of it, and whether it names its arguments. An arrow function has no
arguments of its own and names those of the function around it. -/
def inFunction {Result : Type} (isArrow : Bool) (place : Place) (read : Parse Result) :
    Parse (Result × List String × Bool) := do
  let around ← get
  set { around with scopes := [], bindings := [], usesArguments := false, place }
  let result ← read
  let inner ← get
  set { inner with
    scopes := around.scopes
    bindings := around.bindings
    usesArguments := around.usesArguments || isArrow && inner.usesArguments
    place := around.place }
  return (result, inner.bindings, inner.usesArguments)

end Parse

/-- What stands behind the bracket that closes the one in front; `depth` counts those open. -/
def behindBracket : Nat → List Token → List Token
  | _, [] => []
  | depth, token :: rest =>
    match token.lexeme with
    | .mark "(" | .mark "[" | .mark "\x7b" | .template _ true false =>
      behindBracket (depth + 1) rest
    | .mark ")" | .mark "]" | .mark "\x7d" | .template _ false true =>
      if depth ≤ 1 then rest else behindBracket (depth - 1) rest
    | _ => behindBracket depth rest

/-- The bracket in front is closed before a mark. -/
def closesBefore (mark : String) (tokens : List Token) : Bool :=
  match behindBracket 0 tokens with
  | token :: _ => token.lexeme == .mark mark
  | [] => false

/-- The tokens are an arrow function's parameters in brackets and its arrow. -/
def startsArrow (tokens : List Token) : Bool :=
  match behindBracket 0 tokens with
  | token :: _ => token.lexeme == .mark "=>" && !token.afterLine
  | [] => false

/-- How an operator joins its operands. -/
inductive Joint where
  | binary (operator : BinaryOp)
  | logical (operator : LogicalOp)
  deriving DecidableEq

/-- The tree of two joined operands. -/
def Joint.join : Joint → Expr → Expr → Expr
  | binary operator, left, right => .binary operator left right
  | logical operator, left, right => .logical operator left right

/-- The operator of a mark or word, and how tightly it binds. -/
def joint? : Lexeme → Option (Joint × Nat)
  | .mark "??" => some (.logical .coalesce, 1)
  | .mark "||" => some (.logical .or, 2)
  | .mark "&&" => some (.logical .and, 3)
  | .mark "|" => some (.binary .bitOr, 4)
  | .mark "^" => some (.binary .bitXor, 5)
  | .mark "&" => some (.binary .bitAnd, 6)
  | .mark "==" => some (.binary .equal, 7)
  | .mark "!=" => some (.binary .unequal, 7)
  | .mark "===" => some (.binary .same, 7)
  | .mark "!==" => some (.binary .different, 7)
  | .mark "<" => some (.binary .less, 8)
  | .mark "<=" => some (.binary .lessEqual, 8)
  | .mark ">" => some (.binary .greater, 8)
  | .mark ">=" => some (.binary .greaterEqual, 8)
  | .word "instanceof" => some (.binary .instanceOf, 8)
  | .word "in" => some (.binary .within, 8)
  | .mark "<<" => some (.binary .shiftLeft, 9)
  | .mark ">>" => some (.binary .shiftRight, 9)
  | .mark ">>>" => some (.binary .shiftRightUnsigned, 9)
  | .mark "+" => some (.binary .add, 10)
  | .mark "-" => some (.binary .subtract, 10)
  | .mark "*" => some (.binary .multiply, 11)
  | .mark "/" => some (.binary .divide, 11)
  | .mark "%" => some (.binary .remainder, 11)
  | .mark "**" => some (.binary .power, 12)
  | _ => none

/-- The power operator groups from the right, all others from the left. -/
def groupsRight (joint : Joint) : Bool := joint == .binary .power

/-- An operand to the left of an operator that waits for its right one. -/
structure Waiting where
  left : Expr
  joint : Joint
  tightness : Nat

/-- Close the operators that bind more tightly than the next one, or as tightly where they group
from the left. -/
def reduce (least : Nat) (isRight : Bool) : List Waiting → Expr → List Waiting × Expr
  | [], right => ([], right)
  | waiting :: rest, right =>
    if least < waiting.tightness || (least == waiting.tightness && !isRight) then
      reduce least isRight rest (waiting.joint.join waiting.left right)
    else (waiting :: rest, right)

/-- The tree of a chain of operands with operators between them. -/
def climb (waiting : List Waiting) (left : Expr) : List ((Joint × Nat) × Expr) → Expr
  | [] => (reduce 0 false waiting left).2
  | ((joint, tightness), right) :: rest =>
    let (waiting, left) := reduce tightness (groupsRight joint) waiting left
    climb (⟨left, joint, tightness⟩ :: waiting) right rest

/-- The operator of a mark that updates its target with a value. -/
def assignOperator? : String → Option BinaryOp
  | "+=" => some .add
  | "-=" => some .subtract
  | "*=" => some .multiply
  | "/=" => some .divide
  | "%=" => some .remainder
  | "**=" => some .power
  | "&=" => some .bitAnd
  | "|=" => some .bitOr
  | "^=" => some .bitXor
  | "<<=" => some .shiftLeft
  | ">>=" => some .shiftRight
  | ">>>=" => some .shiftRightUnsigned
  | _ => none

/-- The operator of a mark that updates its target if need be. -/
def assignLogical? : String → Option LogicalOp
  | "&&=" => some .and
  | "||=" => some .or
  | "??=" => some .coalesce
  | _ => none

/-- An expression may stand on the left of an assignment. -/
def isAssignable : Expr → Bool
  | .name text => text != "eval" && text != "arguments"
  | .member _ _ | .index _ _ | .superMember _ => true
  | _ => false

/-- What a simple expression on the left of an assignment stands for. -/
def placeOf (expression : Expr) : Pattern :=
  match expression with
  | .name text => .name text
  | other => .place other

/-- Give a function or class without a name the name of what it is bound to. -/
def withName (name : String) (expression : Expr) : Expr :=
  match expression with
  | .function function =>
    if function.info.name.isEmpty then .function (function.named name) else expression
  | .class ⟨"", parent, constructor, members, text⟩ =>
    .class ⟨name, parent, constructor, members, text⟩
  | other => other

/-- Name a value after the pattern that takes it. -/
def withNameOf (pattern : Pattern) (expression : Expr) : Expr :=
  match pattern with
  | .name name => withName name expression
  | _ => expression

end ConfigDelivery.Script.JavaScript
