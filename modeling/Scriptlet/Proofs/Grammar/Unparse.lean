import Scriptlet.Proofs.Grammar.Program
import Scriptlet.Proofs.Syntax.Declarations
import Scriptlet.Proofs.Syntax.Lines

/-!
# Trees written out

The tokens that a tree is written out with, and which trees are read back from them: those whose
operands stand at the ranks that their operators take, and whose statements stand where the grammar
has them.
-/

namespace Scriptlet

/-! ## Writing out -/

mutual

/-- The kinds of the tokens of an expression. -/
def Expr.unparse : Expr → List TokenKind
  | .literal _ value => [value.kind]
  | .grouping _ inner => .symbol .leftParen :: inner.unparse ++ [.symbol .rightParen]
  | .unary _ op operand => .symbol op.symbol :: operand.unparse
  | .binary _ op left right => left.unparse ++ .symbol op.symbol :: right.unparse
  | .logical _ op left right => left.unparse ++ .keyword op.keyword :: right.unparse
  | .reference _ name => [.identifier name]
  | .assign _ name value => .identifier name :: .symbol .equal :: value.unparse
  | .update _ op name operand =>
    .identifier name :: .symbol op.symbol ::
      (match op.amount? with
      | none => operand.unparse
      | some _ => [])
  | .call _ callee arguments =>
    callee.unparse ++ .symbol .leftParen :: Expr.unparseAll arguments ++ [.symbol .rightParen]

/-- The kinds of the tokens of expressions with commas between them. -/
def Expr.unparseAll : List Expr → List TokenKind
  | [] => []
  | [expr] => expr.unparse
  | expr :: next :: exprs => expr.unparse ++ .symbol .comma :: Expr.unparseAll (next :: exprs)

end

/-- The kinds of the tokens of an expression that may be left out. -/
def Expr.unparseOption : Option Expr → List TokenKind
  | none => []
  | some expr => expr.unparse

namespace Statement

/-- The kinds of the tokens of names with commas between them. -/
def unparseNames : List String → List TokenKind
  | [] => []
  | [name] => [.identifier name]
  | name :: next :: names => .identifier name :: .symbol .comma :: unparseNames (next :: names)

/-- The kinds of the tokens of a branch of a choice, which `closing` ends. -/
def unparseBranch (closing : Symbol) : Statement → List TokenKind
  | .print _ expr => .keyword .printWord :: expr.unparse ++ [.symbol closing]
  | .expression _ expr => expr.unparse ++ [.symbol closing]
  | _ => []

mutual

/-- The kinds of the tokens of a statement. -/
def unparse : Statement → List TokenKind
  | .expression _ expr => expr.unparse ++ [.symbol .semicolon]
  | .print _ expr => .keyword .printWord :: expr.unparse ++ [.symbol .semicolon]
  | .declare _ name none => [.keyword .varWord, .identifier name, .symbol .semicolon]
  | .declare _ name (some initial) =>
    .keyword .varWord :: .identifier name :: .symbol .equal :: initial.unparse ++
      [.symbol .semicolon]
  | .block _ body => .symbol .leftBrace :: unparseAll body ++ [.symbol .rightBrace]
  | .branch _ condition positive negative =>
    .keyword .ifWord :: .symbol .leftParen :: condition.unparse ++
      .symbol .rightParen :: positive.unparse ++ unparseElse negative
  | .choice _ condition positive negative =>
    condition.unparse ++ .symbol .question :: unparseBranch .colon positive ++
      unparseBranch .semicolon negative
  | .whileLoop _ condition body =>
    .keyword .whileWord :: .symbol .leftParen :: condition.unparse ++
      .symbol .rightParen :: body.unparse
  | .doWhileLoop _ body condition =>
    .keyword .doWord :: body.unparse ++
      .keyword .whileWord :: .symbol .leftParen :: condition.unparse ++
      [.symbol .rightParen, .symbol .semicolon]
  | .function _ name parameters body =>
    .keyword .funWord :: .identifier name :: .symbol .leftParen :: unparseNames parameters ++
      .symbol .rightParen :: .symbol .leftBrace :: unparseAll body ++ [.symbol .rightBrace]
  | .giveBack _ value => .keyword .returnWord :: Expr.unparseOption value ++ [.symbol .semicolon]

/-- The kinds of the tokens of statements, one behind the other. -/
def unparseAll : List Statement → List TokenKind
  | [] => []
  | statement :: statements => statement.unparse ++ unparseAll statements

/-- The kinds of the tokens of what stands behind a branch. -/
def unparseElse : Option Statement → List TokenKind
  | none => []
  | some negative => .keyword .elseWord :: negative.unparse

end

end Statement

/-! ## Well-formed trees -/

/-- How tightly an expression binds. -/
def Expr.rank : Expr → Nat
  | .literal .. | .grouping .. | .reference .. => 10
  | .unary .. => 8
  | .binary _ op _ _ => (Connective.binary op).rank
  | .logical _ op _ _ => (Connective.logical op).rank
  | .assign .. | .update .. => 0
  | .call .. => 9

mutual

/-- Operands stand at the ranks that their operators take, operators between operands group to the
left, an update without an operand has the amount that its operator stands for, and no list of
arguments is too long. -/
def Expr.WellFormed : Expr → Prop
  | .literal _ _ | .reference _ _ => True
  | .grouping _ inner => inner.WellFormed
  | .unary _ _ operand => 8 ≤ operand.rank ∧ operand.WellFormed
  | .binary _ op left right =>
    (Connective.binary op).rank ≤ left.rank ∧ (Connective.binary op).rank < right.rank ∧
      left.WellFormed ∧ right.WellFormed
  | .logical _ op left right =>
    (Connective.logical op).rank ≤ left.rank ∧ (Connective.logical op).rank < right.rank ∧
      left.WellFormed ∧ right.WellFormed
  | .assign _ _ value => value.WellFormed
  | .update _ op _ operand =>
    match op.amount? with
    | none => operand.WellFormed
    | some amount => ∃ line, operand = .literal line (.number amount)
  | .call _ callee arguments =>
    9 ≤ callee.rank ∧ callee.WellFormed ∧ arguments.length ≤ maxListLength ∧
      Expr.AllWellFormed arguments

/-- Each of some expressions is well-formed. -/
def Expr.AllWellFormed : List Expr → Prop
  | [] => True
  | expr :: exprs => expr.WellFormed ∧ Expr.AllWellFormed exprs

end

namespace Statement

/-- Whether a statement may be a branch of a choice. -/
def isSimple : Statement → Bool
  | .print .. | .expression .. => true
  | _ => false

/-- Whether a statement ends with a branch without an `else`, to which an `else` behind it would
belong. -/
def endsOpen : Statement → Bool
  | .branch _ _ _ none => true
  | .branch _ _ _ (some negative) => negative.endsOpen
  | .whileLoop _ _ body => body.endsOpen
  | _ => false

/-- An expression that may be left out is well-formed. -/
def OptionWellFormed (value : Option Expr) : Prop :=
  ∀ expr ∈ value, expr.WellFormed

mutual

/-- Expressions are well-formed, declarations are no branches and no bodies of loops, branches of a
choice are simple, no branch before an `else` ends open, returns stand inside of functions, and no
list of parameters is too long. -/
def WellFormed (inFunction : Bool) : Statement → Prop
  | .expression _ expr | .print _ expr => expr.WellFormed
  | .declare _ _ initial => OptionWellFormed initial
  | .block _ body => AllWellFormed inFunction body
  | .branch _ condition positive negative =>
    condition.WellFormed ∧ positive.isDeclaration = false ∧ positive.WellFormed inFunction ∧
      (negative.isSome → positive.endsOpen = false) ∧ ElseWellFormed inFunction negative
  | .choice _ condition positive negative =>
    condition.WellFormed ∧ positive.isSimple = true ∧ positive.WellFormed inFunction ∧
      negative.isSimple = true ∧ negative.WellFormed inFunction
  | .whileLoop _ condition body | .doWhileLoop _ body condition =>
    condition.WellFormed ∧ body.isDeclaration = false ∧ body.WellFormed inFunction
  | .function _ _ parameters body => parameters.length ≤ maxListLength ∧ AllWellFormed true body
  | .giveBack _ value => inFunction = true ∧ OptionWellFormed value

/-- Each of some statements is well-formed. -/
def AllWellFormed (inFunction : Bool) : List Statement → Prop
  | [] => True
  | statement :: statements =>
    statement.WellFormed inFunction ∧ AllWellFormed inFunction statements

/-- What stands behind an `else`, if one is there, is well-formed and no declaration. -/
def ElseWellFormed (inFunction : Bool) : Option Statement → Prop
  | none => True
  | some negative => negative.isDeclaration = false ∧ negative.WellFormed inFunction

end

end Statement

end Scriptlet
