import ConfigDelivery.Decimal.Binary64
/-!
# Starlark programs as trees

Expressions, statements and functions. A function lists the names that it binds,
so which name belongs to which scope is settled before anything runs.
-/

namespace ConfigDelivery.Script.Starlark

open ConfigDelivery.Decimal (Binary64)

/-- An operator in front of its operand. -/
inductive UnaryOp where
  | plus
  | minus
  | invert
  | not
  deriving DecidableEq, Repr

/-- An operator between two operands that are both evaluated. -/
inductive BinaryOp where
  | add | subtract | multiply | divide | floorDivide | remainder
  | bitAnd | bitOr | bitXor | shiftLeft | shiftRight
  | equal | unequal | less | lessEqual | greater | greaterEqual
  | within | notWithin
  deriving DecidableEq, Repr

mutual

/-- An expression. -/
inductive Expr where
  | name (text : String)
  | integer (value : Int)
  | float (value : Binary64)
  | text (value : String)
  | tuple (items : List Expr)
  | list (items : List Expr)
  | dict (entries : List (Expr × Expr))
  | listOf (item : Expr) (clauses : List Clause)
  | dictOf (key value : Expr) (clauses : List Clause)
  | unary (operator : UnaryOp) (operand : Expr)
  | binary (operator : BinaryOp) (left right : Expr)
  | and (left right : Expr)
  | or (left right : Expr)
  | conditional (condition consequent alternative : Expr)
  | member (target : Expr) (name : String)
  | index (target key : Expr)
  | slice (target : Expr) (low high step : Option Expr)
  | call (callee : Expr) (arguments : List Argument)
  | lambda (function : Function)

/-- An argument of a call. -/
inductive Argument where
  | positional (value : Expr)
  | named (name : String) (value : Expr)
  | spread (values : Expr)
  | spreadNamed (values : Expr)

/-- A clause of a comprehension. The first has its items evaluated outside of it. -/
inductive Clause where
  | each (target : Target) (items : Expr)
  | when (condition : Expr)

/-- What can be assigned to. -/
inductive Target where
  | name (text : String)
  | index (target key : Expr)
  | member (target : Expr) (name : String)
  | tuple (items : List Target)

/-- How a parameter gets its value. -/
inductive ParameterKind where
  | required
  | optional (default : Expr)
  | rest
  | restNamed

/-- A parameter. -/
inductive Parameter where
  | mk (name : String) (kind : ParameterKind)

/-- A function: its name, parameters, bound names and body. -/
inductive Function where
  | mk (name : String) (parameters : List Parameter) (locals : List String)
      (body : List Statement)

/-- A statement. -/
inductive Statement where
  | pass
  | break
  | continue
  | return (value : Option Expr)
  | expression (value : Expr)
  | assign (target : Target) (value : Expr)
  | update (target : Target) (operator : BinaryOp) (value : Expr)
  | branch (condition : Expr) (consequent alternative : List Statement)
  | loop (target : Target) (items : Expr) (body : List Statement)
  | define (function : Function)

end

instance : Inhabited Expr := ⟨.tuple []⟩

namespace Parameter

/-- The name of a parameter. -/
def name : Parameter → String
  | mk name _ => name

/-- How a parameter gets its value. -/
def kind : Parameter → ParameterKind
  | mk _ kind => kind

end Parameter

namespace Function

/-- The name of a function. -/
def name : Function → String
  | mk name _ _ _ => name

/-- The parameters of a function. -/
def parameters : Function → List Parameter
  | mk _ parameters _ _ => parameters

/-- The names that a function binds. -/
def locals : Function → List String
  | mk _ _ locals _ => locals

/-- The body of a function. -/
def body : Function → List Statement
  | mk _ _ _ body => body

end Function

/-- The names that a target binds; `depth` bounds its nesting. -/
def boundBy : Nat → Target → List String
  | _, .name text => [text]
  | depth + 1, .tuple items => items.flatMap (boundBy depth)
  | _, _ => []

/-- The deepest nesting of targets. -/
def targetDepth : Nat := 100

end ConfigDelivery.Script.Starlark
