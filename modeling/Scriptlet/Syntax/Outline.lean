import Scriptlet.Number.Notation
import Scriptlet.Syntax.Basic

/-!
# Outlines of syntax trees

A tree as one line of text: each node between parentheses, its kind and line first, then its parts
in order. A part that is left out is a dash. Outlines are built by adding to the text so far.
-/

namespace Scriptlet

/-- The outline of an operator between operands. -/
def BinaryOp.outline : BinaryOp → String
  | add => "+"
  | concat => "+."
  | subtract => "-"
  | multiply => "*"
  | divide => "/"
  | remainder => "%"
  | power => "**"
  | less => "<"
  | lessEqual => "<="
  | greater => ">"
  | greaterEqual => ">="
  | equal => "=="
  | notEqual => "!="

/-- The outline of a logical operator. -/
def LogicalOp.outline : LogicalOp → String
  | and => "and"
  | or => "or"

/-- The outline of an operator in front of its operand. -/
def UnaryOp.outline : UnaryOp → String
  | negate => "neg"
  | not => "not"

/-- The outline of an updating operator. -/
def UpdateOp.outline : UpdateOp → String
  | add => "+="
  | subtract => "-="
  | multiply => "*="
  | divide => "/="
  | increment => "++"
  | decrement => "--"

/-- A character of a text literal: backslashes, quotes and line breaks are escaped. -/
def escapedChar : Char → List Char
  | '\\' => ['\\', '\\']
  | '"' => ['\\', '"']
  | '\n' => ['\\', 'n']
  | c => [c]

/-- A text literal between quotes. -/
def quotedLiteral (content : String) : String :=
  "\"" ++ String.ofList (content.toList.flatMap escapedChar) ++ "\""

/-- The beginning of a node. -/
def openNode (kind : String) (line : Nat) (text : String) : String :=
  text ++ "(" ++ kind ++ "@" ++ toString line

/-- The outline of a literal. -/
def Literal.outline (line : Nat) (value : Literal) (text : String) : String :=
  match value with
  | .number value => openNode "num" line text ++ " " ++ Number.text value ++ ")"
  | .text content => openNode "str" line text ++ " " ++ quotedLiteral content ++ ")"
  | .bool true => openNode "bool" line text ++ " true)"
  | .bool false => openNode "bool" line text ++ " false)"
  | .nil => openNode "nil" line text ++ ")"

mutual

/-- The outline of an expression, behind `text`. -/
def Expr.outline (expr : Expr) (text : String) : String :=
  match expr with
  | .literal line value => value.outline line text
  | .grouping line inner => inner.outline (openNode "group" line text ++ " ") ++ ")"
  | .unary line op operand =>
    operand.outline (openNode op.outline line text ++ " ") ++ ")"
  | .binary line op left right =>
    let text := left.outline (openNode op.outline line text ++ " ")
    right.outline (text ++ " ") ++ ")"
  | .logical line op left right =>
    let text := left.outline (openNode op.outline line text ++ " ")
    right.outline (text ++ " ") ++ ")"
  | .reference line name => openNode "var" line text ++ " " ++ name ++ ")"
  | .assign line name value =>
    value.outline (openNode "=" line text ++ " " ++ name ++ " ") ++ ")"
  | .update line op name operand =>
    operand.outline (openNode op.outline line text ++ " " ++ name ++ " ") ++ ")"
  | .call line callee arguments =>
    let text := callee.outline (openNode "call" line text ++ " ")
    Expr.outlineAll arguments text ++ ")"

/-- The outlines of some expressions, each behind a space. -/
def Expr.outlineAll (exprs : List Expr) (text : String) : String :=
  match exprs with
  | [] => text
  | expr :: rest => Expr.outlineAll rest (expr.outline (text ++ " "))

end

/-- The outline of an expression that may be left out. -/
def Expr.outlineOption (expr : Option Expr) (text : String) : String :=
  match expr with
  | none => text ++ "-"
  | some expr => expr.outline text

mutual

/-- The outline of a statement, behind `text`. -/
def Statement.outline (statement : Statement) (text : String) : String :=
  match statement with
  | .expression line expr => expr.outline (openNode "expr" line text ++ " ") ++ ")"
  | .print line expr => expr.outline (openNode "print" line text ++ " ") ++ ")"
  | .declare line name initial =>
    Expr.outlineOption initial (openNode "let" line text ++ " " ++ name ++ " ") ++ ")"
  | .block line body =>
    Statement.outlineAll body (openNode "block" line text) ++ ")"
  | .branch line condition positive negative =>
    let text := condition.outline (openNode "if" line text ++ " ")
    let text := positive.outline (text ++ " ")
    match negative with
    | none => text ++ " -)"
    | some negative => negative.outline (text ++ " ") ++ ")"
  | .choice line condition positive negative =>
    let text := condition.outline (openNode "ternary" line text ++ " ")
    let text := positive.outline (text ++ " ")
    negative.outline (text ++ " ") ++ ")"
  | .whileLoop line condition body =>
    let text := condition.outline (openNode "while" line text ++ " ")
    body.outline (text ++ " ") ++ ")"
  | .doWhileLoop line body condition =>
    let text := body.outline (openNode "do" line text ++ " ")
    condition.outline (text ++ " ") ++ ")"
  | .function line name parameters body =>
    let text := openNode "fun" line text ++ " " ++ name ++ " [" ++ " ".intercalate parameters
    Statement.outlineAll body (text ++ "]") ++ ")"
  | .giveBack line value =>
    Expr.outlineOption value (openNode "return" line text ++ " ") ++ ")"

/-- The outlines of some statements, each behind a space. -/
def Statement.outlineAll (statements : List Statement) (text : String) : String :=
  match statements with
  | [] => text
  | statement :: rest =>
    Statement.outlineAll rest (statement.outline (text ++ " "))

end

/-- The outline of a statement of a program. -/
def Statement.text (statement : Statement) : String :=
  statement.outline ""

end Scriptlet
