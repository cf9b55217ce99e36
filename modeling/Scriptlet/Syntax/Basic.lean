/-!
# Syntax trees

Expressions give a value, statements have an effect. Every node knows the line that an error found
at it is reported on.
-/

namespace Scriptlet

/-- A value that is written out in a program. -/
inductive Literal where
  | number (value : Float)
  | text (content : String)
  | bool (value : Bool)
  | nil
  deriving DecidableEq

/-- An operator in front of its operand. -/
inductive UnaryOp where
  | negate | not
  deriving Repr, DecidableEq

/-- An operator between two operands, both of which are always evaluated. -/
inductive BinaryOp where
  | add | concat | subtract | multiply | divide | remainder | power
  | less | lessEqual | greater | greaterEqual | equal | notEqual
  deriving Repr, DecidableEq

/-- An operator whose right operand is evaluated only when the left one does not decide. -/
inductive LogicalOp where
  | and | or
  deriving Repr, DecidableEq

/-- An operator that combines a variable with an operand and writes the result back. -/
inductive UpdateOp where
  | add | subtract | multiply | divide | increment | decrement
  deriving Repr, DecidableEq

/-- An expression. -/
inductive Expr where
  | literal (line : Nat) (value : Literal)
  | grouping (line : Nat) (inner : Expr)
  | unary (line : Nat) (op : UnaryOp) (operand : Expr)
  | binary (line : Nat) (op : BinaryOp) (left right : Expr)
  | logical (line : Nat) (op : LogicalOp) (left right : Expr)
  | reference (line : Nat) (name : String)
  | assign (line : Nat) (name : String) (value : Expr)
  | update (line : Nat) (op : UpdateOp) (name : String) (operand : Expr)
  | call (line : Nat) (callee : Expr) (arguments : List Expr)

/-- The line of an expression. -/
def Expr.line : Expr → Nat
  | literal line _ | grouping line _ | unary line _ _ | binary line _ _ _ | logical line _ _ _
  | reference line _ | assign line _ _ | update line _ _ _ | call line _ _ => line

/-- A statement. -/
inductive Statement where
  | expression (line : Nat) (expr : Expr)
  | print (line : Nat) (expr : Expr)
  | declare (line : Nat) (name : String) (initial : Option Expr)
  | block (line : Nat) (body : List Statement)
  | branch (line : Nat) (condition : Expr) (positive : Statement) (negative : Option Statement)
  | choice (line : Nat) (condition : Expr) (positive negative : Statement)
  | whileLoop (line : Nat) (condition : Expr) (body : Statement)
  | doWhileLoop (line : Nat) (body : Statement) (condition : Expr)
  | function (line : Nat) (name : String) (parameters : List String) (body : List Statement)
  | giveBack (line : Nat) (value : Option Expr)

/-- The line of a statement. -/
def Statement.line : Statement → Nat
  | expression line _ | print line _ | declare line _ _ | block line _ | branch line _ _ _
  | choice line _ _ _ | whileLoop line _ _ | doWhileLoop line _ _ | function line _ _ _
  | giveBack line _ => line

/-- What a function is declared as. -/
structure Declaration where
  line : Nat
  name : String
  parameters : List String
  body : List Statement

end Scriptlet
