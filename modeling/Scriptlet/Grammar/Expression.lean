import Scriptlet.Grammar.Parser
import Scriptlet.Syntax.Basic

/-!
# The grammar of expressions

Operators between operands stand on levels from the loosest to the tightest, and the operators of
one level group to the left. Below all levels come signs, calls and what stands by itself; above
them assignment, which groups to the right. `bound` limits how deep expressions nest and how long
their chains are: more tokens than there are suffice.
-/

namespace Scriptlet

/-- An operator between two operands. -/
inductive Connective where
  | logical (op : LogicalOp)
  | binary (op : BinaryOp)
  deriving Repr, DecidableEq

/-- The node of an operator on the given line. -/
def Connective.node (line : Nat) (left right : Expr) : Connective → Expr
  | logical op => .logical line op left right
  | binary op => .binary line op left right

/-- A level of precedence: the operators that stand on it. -/
abbrev Level : Type := TokenKind → Option Connective

namespace Level

/-- The level of `or`. -/
def disjunction : Level
  | .keyword .orWord => some (.logical .or)
  | _ => none

/-- The level of `and`. -/
def conjunction : Level
  | .keyword .andWord => some (.logical .and)
  | _ => none

/-- The level of the operators that compare any two values. -/
def equality : Level
  | .symbol .equalEqual => some (.binary .equal)
  | .symbol .bangEqual => some (.binary .notEqual)
  | _ => none

/-- The level of the operators that compare numbers. -/
def comparison : Level
  | .symbol .greater => some (.binary .greater)
  | .symbol .greaterEqual => some (.binary .greaterEqual)
  | .symbol .less => some (.binary .less)
  | .symbol .lessEqual => some (.binary .lessEqual)
  | _ => none

/-- The level of sums. -/
def sum : Level
  | .symbol .minus => some (.binary .subtract)
  | .symbol .plus => some (.binary .add)
  | .symbol .plusDot => some (.binary .concat)
  | _ => none

/-- The level of products. It lists `**` too, which a tighter level takes first. -/
def product : Level
  | .symbol .slash => some (.binary .divide)
  | .symbol .star => some (.binary .multiply)
  | .symbol .starStar => some (.binary .power)
  | .symbol .percent => some (.binary .remainder)
  | _ => none

/-- The level of powers. -/
def power : Level
  | .symbol .starStar => some (.binary .power)
  | _ => none

/-- The levels of the language, the loosest first. -/
def all : List Level :=
  [disjunction, conjunction, equality, comparison, sum, product, power]

end Level

/-- What an assignment does to its target. -/
inductive AssignmentOp where
  | set
  | update (op : UpdateOp)
  | step (op : UpdateOp) (amount : Float)

/-- The assignment that a token stands for. -/
def AssignmentOp.ofToken? (token : Token) : Option (AssignmentOp × Token) :=
  match token.kind with
  | .symbol .equal => some (set, token)
  | .symbol .plusEqual => some (update .add, token)
  | .symbol .minusEqual => some (update .subtract, token)
  | .symbol .starEqual => some (update .multiply, token)
  | .symbol .slashEqual => some (update .divide, token)
  | .symbol .plusPlus => some (step .increment 1, token)
  | .symbol .minusMinus => some (step .decrement (-1), token)
  | _ => none

/-- The sign that a token stands for, with its line. -/
def UnaryOp.ofToken? (token : Token) : Option (UnaryOp × Nat) :=
  match token.kind with
  | .symbol .bang => some (not, token.line)
  | .symbol .minus => some (negate, token.line)
  | _ => none

/-- The expression that a token is by itself. -/
def Expr.ofToken? (token : Token) : Option Expr :=
  match token.kind with
  | .keyword .falseWord => some (literal token.line (.bool false))
  | .keyword .trueWord => some (literal token.line (.bool true))
  | .keyword .nilWord => some (literal token.line .nil)
  | .number value => some (literal token.line (.number value))
  | .text content => some (literal token.line (.text content))
  | .identifier name => some (reference token.line name)
  | _ => none

namespace Grammar

open Scriptlet.Parser

/-- Operands joined by the operators of one level. -/
def chain (bound : Nat) (level : Level) (operand : Parser Expr) : Parser Expr := do
  let first ← operand
  iterate (fun left => do
    match ← accept fun token => (level token.kind).map (·, token.line) with
    | none => return .done left
    | some (connective, line) =>
      let right ← operand
      return .more (connective.node line left right)) bound first

/-- Operands joined by the operators of some levels. -/
def chains (bound : Nat) (operand : Parser Expr) : List Level → Parser Expr
  | [] => operand
  | level :: tighter => chain bound level (chains bound operand tighter)

/-- An operand behind any number of signs. -/
def signed (bound : Nat) (operand : Parser Expr) : Parser Expr := do
  let signs ← iterate (fun signs => do
    match ← accept UnaryOp.ofToken? with
    | none => return .done signs
    | some sign => return .more (sign :: signs)) bound ([] : List (UnaryOp × Nat))
  let operand ← operand
  return signs.foldl (fun operand sign => .unary sign.2 sign.1 operand) operand

/-- Items between commas, up to a closing parenthesis, which is not read. -/
def commaSeparated {α : Type} (bound : Nat) (kind : ListKind) (item : Parser α) :
    Parser (List α) := do
  if ← nextIs (·.isSymbol .rightParen) then return []
  iterate (fun (count, items) => do
    if maxListLength ≤ count then reportNext (.tooMany kind)
    let value ← item
    match ← acceptSymbol .comma with
    | some _ => return .more (count + 1, value :: items)
    | none => return .done (value :: items).reverse) bound ((0, []) : Nat × List α)

/-- A callee and any number of argument lists. -/
def calls (bound : Nat) (callee argument : Parser Expr) : Parser Expr := do
  let callee ← callee
  iterate (fun callee => do
    match ← acceptSymbol .leftParen with
    | none => return .done callee
    | some _ =>
      let arguments ← commaSeparated bound .arguments argument
      let closing ← expectSymbol .rightParen .parenAfterArguments
      return .more (.call closing.line callee arguments)) bound callee

/-- An expression that stands by itself or between parentheses. -/
def primary (inner : Parser Expr) : Parser Expr := do
  match ← accept Expr.ofToken? with
  | some expr => return expr
  | none =>
    match ← acceptSymbol .leftParen with
    | none => fail (.expected .expression)
    | some opening =>
      let expr ← inner
      let _ ← expectSymbol .rightParen .parenAfterGrouping
      return .grouping opening.line expr

/-- The node that `build` gives for a name. For any other target the fault is reported at the
operator, and `otherwise` takes the place of the assignment. -/
def assignTo (target : Expr) (operator : Token) (build : Nat → String → Expr)
    (otherwise : Expr) : Parser Expr :=
  match target with
  | .reference line name => return build line name
  | _ => do
    report .invalidAssignmentTarget operator
    return otherwise

/-- An assignment of a value to an operand, or the operand alone. -/
def assignment (operand value : Parser Expr) : Parser Expr := do
  let target ← operand
  match ← accept AssignmentOp.ofToken? with
  | none => return target
  | some (.set, operator) =>
    let value ← value
    assignTo target operator (fun line name => .assign line name value) value
  | some (.update op, operator) =>
    let value ← value
    assignTo target operator (fun line name => .update line op name value) value
  | some (.step op amount, operator) =>
    let amount := .literal operator.line (.number amount)
    assignTo target operator (fun line name => .update line op name amount) target

/-- An expression, with operators on the given levels. -/
def expression (levels : List Level) : (bound : Nat) → Parser Expr
  | 0 => exhausted
  | bound + 1 =>
    let inner := expression levels bound
    let operand := signed bound (calls bound (primary inner) inner)
    assignment (chains bound operand levels) inner

end Grammar

end Scriptlet
