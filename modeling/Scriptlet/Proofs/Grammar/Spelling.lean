import Scriptlet.Proofs.Grammar.Reading

/-!
# The grammar of the language

Which tokens spell which tree. A derivation leads from some tokens to those that it leaves over, so
that what stands between them is what it accounts for; the lines of the tree are those of its
tokens. The rank of an operator says how tightly it binds: assignments have rank 0, operators
between operands ranks 1 to 7, signs 8, calls 9, and what stands by itself has rank 10.
-/

namespace Scriptlet

/-! ## Words -/

/-- The symbol of an operator between two operands. -/
def BinaryOp.symbol : BinaryOp → Symbol
  | add => .plus
  | concat => .plusDot
  | subtract => .minus
  | multiply => .star
  | divide => .slash
  | remainder => .percent
  | power => .starStar
  | less => .less
  | lessEqual => .lessEqual
  | greater => .greater
  | greaterEqual => .greaterEqual
  | equal => .equalEqual
  | notEqual => .bangEqual

/-- The keyword of a logical operator. -/
def LogicalOp.keyword : LogicalOp → Keyword
  | and => .andWord
  | or => .orWord

/-- The symbol of a sign. -/
def UnaryOp.symbol : UnaryOp → Symbol
  | negate => .minus
  | not => .bang

/-- The symbol of an updating operator. -/
def UpdateOp.symbol : UpdateOp → Symbol
  | add => .plusEqual
  | subtract => .minusEqual
  | multiply => .starEqual
  | divide => .slashEqual
  | increment => .plusPlus
  | decrement => .minusMinus

/-- The operand of an updating operator that is written without one. -/
def UpdateOp.amount? : UpdateOp → Option Float
  | add | subtract | multiply | divide => none
  | increment => some 1
  | decrement => some (-1)

/-- The kind of token that spells a literal. -/
def Literal.kind : Literal → TokenKind
  | .number value => .number value
  | .text content => .text content
  | .bool true => .keyword .trueWord
  | .bool false => .keyword .falseWord
  | .nil => .keyword .nilWord

namespace Connective

/-- The kind of token that spells an operator between two operands. -/
def kind : Connective → TokenKind
  | logical op => .keyword op.keyword
  | binary op => .symbol op.symbol

/-- How tightly an operator between two operands binds. -/
def rank : Connective → Nat
  | logical .or => 1
  | logical .and => 2
  | binary .equal | binary .notEqual => 3
  | binary .less | binary .lessEqual | binary .greater | binary .greaterEqual => 4
  | binary .add | binary .subtract | binary .concat => 5
  | binary .multiply | binary .divide | binary .remainder => 6
  | binary .power => 7

end Connective

/-! ## Expressions -/

mutual

/-- Some tokens spell, at least as tightly as `rank`, an expression, and leave `rest`. -/
inductive Expr.Spelled : (rank : Nat) → List Token → Expr → (rest : List Token) → Prop
  | tighter {rank : Nat} {tokens rest : List Token} {expr : Expr} :
      Expr.Spelled (rank + 1) tokens expr rest → Expr.Spelled rank tokens expr rest
  | literal {token : Token} {rest : List Token} {value : Literal} :
      token.kind = value.kind →
      Expr.Spelled 10 (token :: rest) (.literal token.line value) rest
  | reference {token : Token} {rest : List Token} {name : String} :
      token.kind = .identifier name →
      Expr.Spelled 10 (token :: rest) (.reference token.line name) rest
  | grouping {opening closing : Token} {inside rest : List Token} {expr : Expr} :
      opening.kind = .symbol .leftParen → Expr.Spelled 0 inside expr (closing :: rest) →
      closing.kind = .symbol .rightParen →
      Expr.Spelled 10 (opening :: inside) (.grouping opening.line expr) rest
  | bareCall {tokens rest : List Token} {opening closing : Token} {callee : Expr} :
      Expr.Spelled 9 tokens callee (opening :: closing :: rest) →
      opening.kind = .symbol .leftParen → closing.kind = .symbol .rightParen →
      Expr.Spelled 9 tokens (.call closing.line callee []) rest
  | call {tokens inside rest : List Token} {opening closing : Token} {callee : Expr}
      {arguments : List Expr} :
      Expr.Spelled 9 tokens callee (opening :: inside) → opening.kind = .symbol .leftParen →
      Expr.SpelledArguments inside arguments (closing :: rest) →
      arguments.length ≤ maxListLength → closing.kind = .symbol .rightParen →
      Expr.Spelled 9 tokens (.call closing.line callee arguments) rest
  | unary {sign : Token} {behind rest : List Token} {op : UnaryOp} {operand : Expr} :
      sign.kind = .symbol op.symbol → Expr.Spelled 8 behind operand rest →
      Expr.Spelled 8 (sign :: behind) (.unary sign.line op operand) rest
  | binary {tokens behind rest : List Token} {operator : Token} {connective : Connective}
      {left right : Expr} :
      Expr.Spelled connective.rank tokens left (operator :: behind) →
      operator.kind = connective.kind → Expr.Spelled (connective.rank + 1) behind right rest →
      Expr.Spelled connective.rank tokens (connective.node operator.line left right) rest
  | assign {target operator : Token} {behind rest : List Token} {name : String} {value : Expr} :
      target.kind = .identifier name → operator.kind = .symbol .equal →
      Expr.Spelled 0 behind value rest →
      Expr.Spelled 0 (target :: operator :: behind) (.assign target.line name value) rest
  | update {target operator : Token} {behind rest : List Token} {name : String} {op : UpdateOp}
      {operand : Expr} :
      target.kind = .identifier name → op.amount? = none → operator.kind = .symbol op.symbol →
      Expr.Spelled 0 behind operand rest →
      Expr.Spelled 0 (target :: operator :: behind) (.update target.line op name operand) rest
  | step {target operator : Token} {rest : List Token} {name : String} {op : UpdateOp}
      {amount : Float} :
      target.kind = .identifier name → op.amount? = some amount →
      operator.kind = .symbol op.symbol →
      Expr.Spelled 0 (target :: operator :: rest)
        (.update target.line op name (.literal operator.line (.number amount))) rest

/-- Some tokens spell expressions with a comma between each and the next, at least one, and leave
`rest`. -/
inductive Expr.SpelledArguments : List Token → List Expr → (rest : List Token) → Prop
  | last {tokens rest : List Token} {expr : Expr} :
      Expr.Spelled 0 tokens expr rest → Expr.SpelledArguments tokens [expr] rest
  | more {tokens behind rest : List Token} {comma : Token} {expr : Expr} {exprs : List Expr} :
      Expr.Spelled 0 tokens expr (comma :: behind) → comma.kind = .symbol .comma →
      Expr.SpelledArguments behind exprs rest →
      Expr.SpelledArguments tokens (expr :: exprs) rest

end

/-- Some tokens spell an expression or, where none of them is used, none. -/
inductive Expr.SpelledOption : List Token → Option Expr → (rest : List Token) → Prop
  | none {tokens : List Token} : Expr.SpelledOption tokens none tokens
  | some {tokens rest : List Token} {expr : Expr} :
      Expr.Spelled 0 tokens expr rest → Expr.SpelledOption tokens (some expr) rest

/-- Whether an expression may begin with a token of a kind. -/
def StartsExpr (kind : TokenKind) : Prop :=
  (∃ value : Literal, kind = value.kind) ∨ (∃ name, kind = .identifier name) ∨
    (∃ op : UnaryOp, kind = .symbol op.symbol) ∨ kind = .symbol .leftParen

mutual

/-- What spells an expression begins with a token that an expression may begin with, and takes at
least that one. -/
theorem Expr.Spelled.starts {rank : Nat} {tokens rest : List Token} {expr : Expr} :
    Expr.Spelled rank tokens expr rest → ∃ token behind, tokens = token :: behind ∧
      StartsExpr token.kind ∧ rest.length ≤ behind.length
  | .tighter inside => inside.starts
  | .literal isValue => ⟨_, _, rfl, .inl ⟨_, isValue⟩, Nat.le_refl _⟩
  | .reference isName => ⟨_, _, rfl, .inr (.inl ⟨_, isName⟩), Nat.le_refl _⟩
  | .grouping opens inside _ => by
      obtain ⟨_, _, rfl, -, shorter⟩ := inside.starts
      simp only [List.length_cons] at shorter
      exact ⟨_, _, rfl, .inr (.inr (.inr opens)), by simp only [List.length_cons]; omega⟩
  | .bareCall callee _ _ => by
      obtain ⟨token, behind, rfl, starts, shorter⟩ := callee.starts
      simp only [List.length_cons] at shorter
      exact ⟨token, behind, rfl, starts, by omega⟩
  | .call callee _ arguments _ _ => by
      obtain ⟨token, behind, rfl, starts, shorter⟩ := callee.starts
      have fewer := arguments.shorter
      simp only [List.length_cons] at shorter fewer
      exact ⟨token, behind, rfl, starts, by omega⟩
  | .unary isSign operand => by
      obtain ⟨_, _, rfl, -, shorter⟩ := operand.starts
      exact ⟨_, _, rfl, .inr (.inr (.inl ⟨_, isSign⟩)), by simp only [List.length_cons]; omega⟩
  | .binary left _ right => by
      obtain ⟨token, behind, rfl, starts, shorter⟩ := left.starts
      obtain ⟨_, _, rfl, -, fewer⟩ := right.starts
      simp only [List.length_cons] at shorter
      exact ⟨token, behind, rfl, starts, by omega⟩
  | .assign isName _ value => by
      obtain ⟨_, _, rfl, -, shorter⟩ := value.starts
      exact ⟨_, _, rfl, .inr (.inl ⟨_, isName⟩), by simp only [List.length_cons]; omega⟩
  | .update isName _ _ operand => by
      obtain ⟨_, _, rfl, -, shorter⟩ := operand.starts
      exact ⟨_, _, rfl, .inr (.inl ⟨_, isName⟩), by simp only [List.length_cons]; omega⟩
  | .step isName _ _ => ⟨_, _, rfl, .inr (.inl ⟨_, isName⟩), Nat.le_succ _⟩

/-- What spells arguments is not empty. -/
theorem Expr.SpelledArguments.shorter {tokens rest : List Token} {exprs : List Expr} :
    Expr.SpelledArguments tokens exprs rest → rest.length < tokens.length
  | .last expr => by
      obtain ⟨_, _, rfl, -, shorter⟩ := expr.starts
      exact Nat.lt_succ_of_le shorter
  | .more expr _ exprs => by
      obtain ⟨_, _, rfl, -, shorter⟩ := expr.starts
      have fewer := exprs.shorter
      simp only [List.length_cons] at shorter ⊢
      omega

end

/-- What spells an expression takes at least one token. -/
theorem Expr.Spelled.shorter {rank : Nat} {tokens rest : List Token} {expr : Expr}
    (spelled : Expr.Spelled rank tokens expr rest) : rest.length < tokens.length := by
  obtain ⟨_, _, rfl, -, shorter⟩ := spelled.starts
  exact Nat.lt_succ_of_le shorter

/-! ## Statements -/

namespace Statement

/-- Some tokens spell names with a comma between each and the next, at least one. -/
inductive SpelledNames : List Token → List String → (rest : List Token) → Prop
  | last {token : Token} {rest : List Token} {name : String} :
      token.kind = .identifier name → SpelledNames (token :: rest) [name] rest
  | more {token comma : Token} {behind rest : List Token} {name : String} {names : List String} :
      token.kind = .identifier name → comma.kind = .symbol .comma →
      SpelledNames behind names rest →
      SpelledNames (token :: comma :: behind) (name :: names) rest

/-- Some tokens spell the parameters of a function. -/
inductive SpelledParameters : List Token → List String → (rest : List Token) → Prop
  | none {tokens : List Token} : SpelledParameters tokens [] tokens
  | some {tokens rest : List Token} {names : List String} :
      SpelledNames tokens names rest → names.length ≤ maxListLength →
      SpelledParameters tokens names rest

/-- Some tokens spell a branch of a choice, in which a print statement ends with one of the first
symbols and an expression with one of the second. -/
inductive SpelledBranch (printEnds valueEnds : List Symbol) :
    List Token → Statement → (rest : List Token) → Prop
  | print {keyword closing : Token} {behind rest : List Token} {expr : Expr} {symbol : Symbol} :
      keyword.kind = .keyword .printWord → Expr.Spelled 0 behind expr (closing :: rest) →
      symbol ∈ printEnds → closing.kind = .symbol symbol →
      SpelledBranch printEnds valueEnds (keyword :: behind) (.print keyword.line expr) rest
  | value {closing : Token} {tokens rest : List Token} {expr : Expr} {symbol : Symbol} :
      Expr.Spelled 0 tokens expr (closing :: rest) → symbol ∈ valueEnds →
      closing.kind = .symbol symbol →
      SpelledBranch printEnds valueEnds tokens (.expression expr.line expr) rest

/-- Some tokens spell a statement that begins with an expression. Its first branch, if it is a
choice, ends with a colon, for which a print statement may have a semicolon. -/
inductive SpelledValue : List Token → Statement → (rest : List Token) → Prop
  | expression {tokens rest : List Token} {closing : Token} {expr : Expr} :
      Expr.Spelled 0 tokens expr (closing :: rest) → closing.kind = .symbol .semicolon →
      SpelledValue tokens (.expression expr.line expr) rest
  | choice {tokens middle behind rest : List Token} {question : Token} {condition : Expr}
      {positive negative : Statement} :
      Expr.Spelled 0 tokens condition (question :: middle) →
      question.kind = .symbol .question →
      SpelledBranch [.colon, .semicolon] [.colon] middle positive behind →
      SpelledBranch [.semicolon] [.semicolon] behind negative rest →
      SpelledValue tokens (.choice condition.line condition positive negative) rest

/-- Some tokens spell the declaration of a variable. -/
inductive SpelledVariable : List Token → Statement → (rest : List Token) → Prop
  | bare {keyword target closing : Token} {rest : List Token} {name : String} :
      keyword.kind = .keyword .varWord → target.kind = .identifier name →
      closing.kind = .symbol .semicolon →
      SpelledVariable (keyword :: target :: closing :: rest) (.declare target.line name none) rest
  | initialized {keyword target equal closing : Token} {behind rest : List Token}
      {name : String} {initial : Expr} :
      keyword.kind = .keyword .varWord → target.kind = .identifier name →
      equal.kind = .symbol .equal → Expr.Spelled 0 behind initial (closing :: rest) →
      closing.kind = .symbol .semicolon →
      SpelledVariable (keyword :: target :: equal :: behind)
        (.declare target.line name (some initial)) rest

/-- Some tokens spell the first clause of a loop over clauses, with its semicolon. -/
inductive SpelledInitial : List Token → Option Statement → (rest : List Token) → Prop
  | none {closing : Token} {rest : List Token} :
      closing.kind = .symbol .semicolon → SpelledInitial (closing :: rest) none rest
  | variable {tokens rest : List Token} {initial : Statement} :
      SpelledVariable tokens initial rest → SpelledInitial tokens (some initial) rest
  | value {tokens rest : List Token} {initial : Statement} :
      SpelledValue tokens initial rest → SpelledInitial tokens (some initial) rest

/-- Statements as one: a block, unless there is but one of them. -/
def grouped (line : Nat) : List Statement → Statement
  | [statement] => statement
  | statements => .block line statements

/-- A loop over clauses, written out: the initial clause and a loop whose body ends with the
increment. Where there is no condition, it is true. -/
def unrolled (line : Nat) (initial : Option Statement) (condition increment : Option Expr)
    (body : Statement) : Statement :=
  let condition := condition.getD (.literal line (.bool true))
  let increment := increment.map fun expr => .expression expr.line expr
  grouped line (initial.toList ++
    [.whileLoop line condition (grouped line (body :: increment.toList))])

end Statement

mutual

/-- Some tokens spell a statement and leave `rest`. A return stands inside of a function, and an
`else` belongs to the nearest branch that it can belong to: a branch is without one only where none
follows. -/
inductive Statement.Spelled :
    (inFunction : Bool) → List Token → Statement → (rest : List Token) → Prop
  | value {inFunction : Bool} {tokens rest : List Token} {statement : Statement} :
      Statement.SpelledValue tokens statement rest →
      Statement.Spelled inFunction tokens statement rest
  | print {inFunction : Bool} {keyword closing : Token} {behind rest : List Token}
      {expr : Expr} :
      keyword.kind = .keyword .printWord → Expr.Spelled 0 behind expr (closing :: rest) →
      closing.kind = .symbol .semicolon →
      Statement.Spelled inFunction (keyword :: behind) (.print keyword.line expr) rest
  | giveBack {keyword closing : Token} {behind rest : List Token} {value : Option Expr} :
      keyword.kind = .keyword .returnWord → Expr.SpelledOption behind value (closing :: rest) →
      closing.kind = .symbol .semicolon →
      Statement.Spelled true (keyword :: behind) (.giveBack keyword.line value) rest
  | block {inFunction : Bool} {opening closing : Token} {inside rest : List Token}
      {body : List Statement} :
      opening.kind = .symbol .leftBrace →
      Statement.SpelledList inFunction inside body (closing :: rest) →
      closing.kind = .symbol .rightBrace →
      Statement.Spelled inFunction (opening :: inside) (.block opening.line body) rest
  | branch {inFunction : Bool} {keyword opening closing : Token}
      {inside behind rest : List Token} {condition : Expr} {positive : Statement} :
      keyword.kind = .keyword .ifWord → opening.kind = .symbol .leftParen →
      Expr.Spelled 0 inside condition (closing :: behind) →
      closing.kind = .symbol .rightParen → Statement.Spelled inFunction behind positive rest →
      Ahead (· ≠ .keyword .elseWord) rest →
      Statement.Spelled inFunction (keyword :: opening :: inside)
        (.branch keyword.line condition positive none) rest
  | branchElse {inFunction : Bool} {keyword opening closing otherwise : Token}
      {inside behind middle rest : List Token} {condition : Expr}
      {positive negative : Statement} :
      keyword.kind = .keyword .ifWord → opening.kind = .symbol .leftParen →
      Expr.Spelled 0 inside condition (closing :: behind) →
      closing.kind = .symbol .rightParen →
      Statement.Spelled inFunction behind positive (otherwise :: middle) →
      otherwise.kind = .keyword .elseWord → Statement.Spelled inFunction middle negative rest →
      Statement.Spelled inFunction (keyword :: opening :: inside)
        (.branch keyword.line condition positive (some negative)) rest
  | whileLoop {inFunction : Bool} {keyword opening closing : Token}
      {inside behind rest : List Token} {condition : Expr} {body : Statement} :
      keyword.kind = .keyword .whileWord → opening.kind = .symbol .leftParen →
      Expr.Spelled 0 inside condition (closing :: behind) →
      closing.kind = .symbol .rightParen → Statement.Spelled inFunction behind body rest →
      Statement.Spelled inFunction (keyword :: opening :: inside)
        (.whileLoop keyword.line condition body) rest
  | doWhileLoop {inFunction : Bool} {keyword again opening closing ending : Token}
      {behind inside rest : List Token} {condition : Expr} {body : Statement} :
      keyword.kind = .keyword .doWord →
      Statement.Spelled inFunction behind body (again :: opening :: inside) →
      again.kind = .keyword .whileWord → opening.kind = .symbol .leftParen →
      Expr.Spelled 0 inside condition (closing :: ending :: rest) →
      closing.kind = .symbol .rightParen → ending.kind = .symbol .semicolon →
      Statement.Spelled inFunction (keyword :: behind)
        (.doWhileLoop keyword.line body condition) rest
  | forLoop {inFunction : Bool} {keyword opening separator closing : Token}
      {clauses middle last behind rest : List Token} {initial : Option Statement}
      {condition increment : Option Expr} {body : Statement} :
      keyword.kind = .keyword .forWord → opening.kind = .symbol .leftParen →
      Statement.SpelledInitial clauses initial middle →
      Expr.SpelledOption middle condition (separator :: last) →
      separator.kind = .symbol .semicolon →
      Expr.SpelledOption last increment (closing :: behind) →
      closing.kind = .symbol .rightParen → Statement.Spelled inFunction behind body rest →
      Statement.Spelled inFunction (keyword :: opening :: clauses)
        (Statement.unrolled keyword.line initial condition increment body) rest

/-- Some tokens spell a declaration and leave `rest`. -/
inductive Statement.SpelledDeclaration :
    (inFunction : Bool) → List Token → Statement → (rest : List Token) → Prop
  | variable {inFunction : Bool} {tokens rest : List Token} {statement : Statement} :
      Statement.SpelledVariable tokens statement rest →
      Statement.SpelledDeclaration inFunction tokens statement rest
  | function {inFunction : Bool} {keyword target opening closing brace ending : Token}
      {inside behind rest : List Token} {name : String} {parameters : List String}
      {body : List Statement} :
      keyword.kind = .keyword .funWord → target.kind = .identifier name →
      opening.kind = .symbol .leftParen →
      Statement.SpelledParameters inside parameters (closing :: brace :: behind) →
      closing.kind = .symbol .rightParen → brace.kind = .symbol .leftBrace →
      Statement.SpelledList true behind body (ending :: rest) →
      ending.kind = .symbol .rightBrace →
      Statement.SpelledDeclaration inFunction (keyword :: target :: opening :: inside)
        (.function target.line name parameters body) rest
  | statement {inFunction : Bool} {tokens rest : List Token} {statement : Statement} :
      Statement.Spelled inFunction tokens statement rest →
      Statement.SpelledDeclaration inFunction tokens statement rest

/-- Some tokens spell declarations, one behind the other, and leave `rest`. -/
inductive Statement.SpelledList :
    (inFunction : Bool) → List Token → List Statement → (rest : List Token) → Prop
  | nil {inFunction : Bool} {tokens : List Token} :
      Statement.SpelledList inFunction tokens [] tokens
  | cons {inFunction : Bool} {tokens middle rest : List Token} {statement : Statement}
      {statements : List Statement} :
      Statement.SpelledDeclaration inFunction tokens statement middle →
      Statement.SpelledList inFunction middle statements rest →
      Statement.SpelledList inFunction tokens (statement :: statements) rest

end

end Scriptlet
