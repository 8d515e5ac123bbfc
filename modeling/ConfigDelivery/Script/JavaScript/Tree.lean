import ConfigDelivery.Decimal.Binary64
import ConfigDelivery.Text.Units
/-!
# JavaScript programs as trees

Expressions, patterns, functions, classes and statements of strict code. Each block
lists the names that it declares, and each function those that are declared
anywhere in it, so scopes can be set up before their statements run.
-/

namespace ConfigDelivery.Script.JavaScript

open ConfigDelivery.Decimal (Binary64)
open ConfigDelivery.Text (Units)

/-- An operator in front of its operand. -/
inductive UnaryOp where
  | plus
  | minus
  | invert
  | not
  | void
  | typeOf
  deriving DecidableEq, Repr

/-- An operator between two operands that are both evaluated. -/
inductive BinaryOp where
  | add | subtract | multiply | divide | remainder | power
  | bitAnd | bitOr | bitXor | shiftLeft | shiftRight | shiftRightUnsigned
  | equal | unequal | same | different
  | less | lessEqual | greater | greaterEqual
  | instanceOf | within
  deriving DecidableEq, Repr

/-- An operator whose right operand may not be evaluated. -/
inductive LogicalOp where
  | and
  | or
  | coalesce
  deriving DecidableEq, Repr

/-- How a function is written and may be called. -/
inductive FunctionKind where
  | ordinary
  | arrow
  | method
  | constructor
  | derivedConstructor
  deriving DecidableEq, Repr

/-- What is known of a function beside its parameters and body. -/
structure FunctionInfo where
  name : String
  kind : FunctionKind
  isAsync : Bool
  /-- Its name is a name in its own body. -/
  bindsItself : Bool
  /-- Its body names the list of its arguments. -/
  usesArguments : Bool
  /-- The number of parameters in front of the first with a default. -/
  length : Nat
  /-- Its source. -/
  text : String
  /-- The names that it declares for all of its body. -/
  bindings : List String
  deriving Repr

/-- Whether a name can be assigned to again. -/
inductive Mutability where
  | variable
  | constant
  deriving DecidableEq, Repr

/-- What a class member is. -/
inductive MemberKind where
  | method
  | getter
  | setter
  | field
  deriving DecidableEq, Repr

mutual

/-- An expression. -/
inductive Expr where
  | undefined
  | null
  | bool (value : Bool)
  | number (value : Binary64)
  | bigInt (value : Int)
  | text (value : Units)
  | template (head : Units) (parts : List (Expr × Units))
  | name (text : String)
  | this
  | newTarget
  | array (items : List Item)
  | object (properties : List Property)
  | function (function : Function)
  | class (definition : Class)
  | unary (operator : UnaryOp) (operand : Expr)
  | update (target : Expr) (isPrefix : Bool) (isIncrement : Bool)
  | binary (operator : BinaryOp) (left right : Expr)
  | logical (operator : LogicalOp) (left right : Expr)
  | conditional (condition consequent alternative : Expr)
  | assign (target : Pattern) (value : Expr)
  | assignWith (operator : BinaryOp) (target value : Expr)
  | assignIf (operator : LogicalOp) (target value : Expr)
  | sequence (first second : Expr)
  | member (target : Expr) (name : Units)
  | index (target key : Expr)
  | superMember (key : Expr)
  | call (callee : Expr) (arguments : List Item)
  | superCall (arguments : List Item)
  | construct (callee : Expr) (arguments : List Item)
  /-- The part of a chain behind a question mark: the chain ends when the target is nullish. -/
  | optional (target : Expr)
  /-- A chain that may end early. -/
  | chain (body : Expr)
  | delete (target : Expr)
  | await (operand : Expr)

/-- An item of an array or an argument of a call. -/
inductive Item where
  | hole
  | value (value : Expr)
  | spread (values : Expr)

/-- The name of a property. -/
inductive PropertyName where
  | fixed (name : Units)
  | computed (name : Expr)

/-- A property of an object literal. -/
inductive Property where
  | value (name : PropertyName) (value : Expr)
  | prototype (value : Expr)
  | method (name : PropertyName) (kind : MemberKind) (function : Function)
  | spread (values : Expr)

/-- What values are bound or assigned to. -/
inductive Pattern where
  | name (text : String)
  | place (target : Expr)
  | object (entries : List PatternEntry) (rest : Option Pattern)
  | array (items : List PatternItem) (rest : Option Pattern)

/-- A property that an object pattern takes. -/
inductive PatternEntry where
  | mk (name : PropertyName) (target : Pattern) (default : Option Expr)

/-- An item that an array pattern takes, or a parameter. -/
inductive PatternItem where
  | hole
  | item (target : Pattern) (default : Option Expr)

/-- A function. -/
inductive Function where
  | mk (info : FunctionInfo) (parameters : List PatternItem) (rest : Option Pattern) (body : Block)

/-- Statements with the names and functions that they declare. -/
inductive Block where
  | mk (declared : List (String × Mutability)) (functions : List Function)
      (statements : List Statement)

/-- A class. -/
inductive Class where
  | mk (name : String) (parent : Option Expr) (constructor : Option Function)
      (members : List Member) (text : String)

/-- A member of a class. A field's function gives its first value. -/
inductive Member where
  | mk (isStatic : Bool) (name : PropertyName) (kind : MemberKind) (function : Function)

/-- What a loop over values binds: new names in each round, or what is assigned to. -/
inductive LoopTarget where
  | declare (declared : List (String × Mutability)) (pattern : Pattern)
  | assign (pattern : Pattern)

/-- A case of a switch; without a test the default. -/
inductive Case where
  | mk (test : Option Expr) (statements : List Statement)

/-- A statement. -/
inductive Statement where
  | empty
  | expression (value : Expr)
  | declare (pattern : Pattern) (value : Expr) (isInitial : Bool)
  | several (statements : List Statement)
  | block (block : Block)
  | branch (condition : Expr) (consequent : Statement) (alternative : Option Statement)
  | whileLoop (condition : Expr) (body : Statement)
  | doWhile (body : Statement) (condition : Expr)
  | forLoop (declared : List (String × Mutability)) (start : Statement) (condition : Option Expr)
      (update : Option Expr) (body : Statement)
  | forIn (target : LoopTarget) (values : Expr) (body : Statement)
  | forOf (target : LoopTarget) (values : Expr) (body : Statement)
  | break (label : Option String)
  | continue (label : Option String)
  | return (value : Option Expr)
  | throw (value : Expr)
  | try (body : Block) (handler : Option (Option Pattern × List (String × Mutability) × Block))
      (finalizer : Option Block)
  | switch (value : Expr) (declared : List (String × Mutability)) (functions : List Function)
      (cases : List Case)
  | labelled (label : String) (body : Statement)
  | class (definition : Class)

end

instance : Inhabited Expr := ⟨.undefined⟩

/-- The block without statements. -/
def Block.empty : Block := ⟨[], [], []⟩

namespace Function

/-- What is known of a function beside its parameters and body. -/
def info : Function → FunctionInfo
  | mk info _ _ _ => info

/-- A function under another name. -/
def named (name : String) : Function → Function
  | mk info parameters rest body => mk { info with name } parameters rest body

end Function

/-- The names that a pattern binds; `depth` bounds its nesting. -/
def boundBy : Nat → Pattern → List String
  | _, .name text => [text]
  | depth + 1, .object entries rest =>
    (entries.flatMap fun ⟨_, target, _⟩ => boundBy depth target)
      ++ (rest.map (boundBy depth)).getD []
  | depth + 1, .array items rest =>
    (items.flatMap fun
      | .hole => []
      | .item target _ => boundBy depth target) ++ (rest.map (boundBy depth)).getD []
  | _, _ => []

/-- The deepest nesting of patterns. -/
def patternDepth : Nat := 100

end ConfigDelivery.Script.JavaScript
