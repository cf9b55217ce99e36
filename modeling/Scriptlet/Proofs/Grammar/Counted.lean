import Scriptlet.Proofs.Grammar.Monotone

/-!
# How many function bodies are being read

Whether a return is in place depends on whether the body of a function is being read. The grammar
says so by a flag that is handed down. Here it is read with a count instead, which goes up in front
of a body and down behind it and is looked at where a return is read. Both are the same grammar, and
the count is behind everything what it was in front of it.
-/

namespace Scriptlet

/-- A parser that counts the bodies of functions that are being read. -/
def Counting (α : Type) : Type := Nat → List Token → Reply α × Nat

namespace Counting

variable {α β σ : Type}

/-- A counting parser whose bound on recursion is used up. -/
def exhausted : Counting α := fun depth _ => (.unfinished, depth)

/-- One counting parser after another, which may depend on the value of the first. -/
protected def bind (first : Counting α) (next : α → Counting β) : Counting β := fun depth tokens =>
  match first depth tokens with
  | (.parsed value rest reports, depth) =>
    let (reply, depth) := next value depth rest
    (reply.after reports, depth)
  | (.failed error rest reports, depth) => (.failed error rest reports, depth)
  | (.unfinished, depth) => (.unfinished, depth)

instance : Monad Counting where
  pure value depth tokens := (.parsed value tokens [], depth)
  bind := Counting.bind

/-- What does not count leaves the count as it is. -/
instance : MonadLift Parser Counting where
  monadLift parser depth tokens := (parser tokens, depth)

/-- How many bodies are being read. -/
def depth : Counting Nat := fun depth tokens => (.parsed depth tokens [], depth)

/-- Reads the body of a function. However that ends, the count goes down again behind it. -/
def inBody (body : Counting α) : Counting α := fun depth tokens =>
  let (reply, depth) := body (depth + 1) tokens
  (reply, depth - 1)

/-- Repeats a step until it is done, at most `bound` times. -/
def iterate (step : σ → Counting (Parser.Progress σ α)) : (bound : Nat) → σ → Counting α
  | 0, _ => exhausted
  | bound + 1, state => do
    match ← step state with
    | .more state => iterate step bound state
    | .done value => return value

end Counting

/-! ## The grammar with a count -/

namespace Grammar.Counted

open Scriptlet.Parser

/-- A declaration, or nothing where it fails: the failure is reported and skipped. -/
def recovering (declaration : Counting Statement) : Counting (Option Statement) :=
  fun depth tokens =>
    match declaration depth tokens with
    | (.parsed statement rest reports, depth) => (.parsed (some statement) rest reports, depth)
    | (.failed error rest reports, depth) => (.parsed none (resume rest) (error :: reports), depth)
    | (.unfinished, depth) => (.unfinished, depth)

/-- Declarations up to the end of the input, or up to a token that passes `stop`. -/
def declarations (bound : Nat) (stop : Token → Bool) (declaration : Counting (Option Statement)) :
    Counting (List Statement) :=
  Counting.iterate (fun statements => do
    if (← atEnd) || (← nextIs stop) then return .done statements.reverse
    match ← declaration with
    | some statement => return .more (statement :: statements)
    | none => return .more statements) bound []

/-- A block whose opening brace has been read. -/
def block (bound : Nat) (declaration : Counting (Option Statement)) :
    Counting (List Statement) := do
  let body ← declarations bound (·.isSymbol .rightBrace) declaration
  let _ ← expectSymbol .rightBrace .braceAfterBlock
  return body

/-- A function whose keyword has been read. -/
def function (bound : Nat) (body : Counting (List Statement)) : Counting Statement := do
  let (name, line) ← expectIdentifier .functionName
  let _ ← expectSymbol .leftParen .parenAfterFunctionName
  let parameters ← commaSeparated bound .parameters do
    return (← expectIdentifier .parameterName).1
  let _ ← expectSymbol .rightParen .parenAfterParameters
  let _ ← expectSymbol .leftBrace .braceBeforeFunctionBody
  return .function line name parameters (← Counting.inBody body)

/-- A loop over clauses whose keyword has been read. -/
def forLoop (line : Nat) (expr : Parser Expr) (body : Counting Statement) :
    Counting Statement := do
  let _ ← expectSymbol .leftParen .parenAfterFor
  let initial ← initialClause expr
  let condition ← unlessNext .semicolon expr
  let _ ← expectSymbol .semicolon .semicolonAfterLoopCondition
  let increment ← unlessNext .rightParen expr
  let _ ← expectSymbol .rightParen .parenAfterForClauses
  return clauseLoop line initial condition increment (← body)

/-- A branch whose keyword has been read. -/
def branch (line : Nat) (expr : Parser Expr) (body : Counting Statement) :
    Counting Statement := do
  let _ ← expectSymbol .leftParen .parenAfterIf
  let condition ← expr
  let _ ← expectSymbol .rightParen .parenAfterIfCondition
  let positive ← body
  match ← acceptKeyword .elseWord with
  | some _ => return .branch line condition positive (some (← body))
  | none => return .branch line condition positive none

/-- A return whose keyword has been read, and is reported where no body is being read. -/
def giveBack (keyword : Token) (expr : Parser Expr) : Counting Statement := do
  let depth ← Counting.depth
  if depth = 0 then report .returnOutsideFunction keyword
  let value ← unlessNext .semicolon expr
  let _ ← expectSymbol .semicolon .semicolonAfterReturn
  return .giveBack keyword.line value

/-- A loop whose keyword has been read. -/
def whileLoop (line : Nat) (expr : Parser Expr) (body : Counting Statement) :
    Counting Statement := do
  let _ ← expectSymbol .leftParen .parenAfterWhile
  let condition ← expr
  let _ ← expectSymbol .rightParen .parenAfterWhileCondition
  return .whileLoop line condition (← body)

/-- A loop that checks its condition last, whose keyword has been read. -/
def doWhileLoop (line : Nat) (expr : Parser Expr) (body : Counting Statement) :
    Counting Statement := do
  let body ← body
  let _ ← expectKeyword .whileWord .whileAfterDo
  let _ ← expectSymbol .leftParen .parenAfterDoWhile
  let condition ← expr
  let _ ← expectSymbol .rightParen .parenAfterDoCondition
  let _ ← expectSymbol .semicolon .semicolonAfterDoCondition
  return .doWhileLoop line body condition

/-- A statement, made of expressions, blocks and smaller statements. -/
def statementOf (expr : Parser Expr) (body : Counting Statement)
    (block : Counting (List Statement)) : Counting Statement := do
  match ← accept Opening.ofToken? with
  | none => expressionStatement expr
  | some (.brace, token) => return .block token.line (← block)
  | some (.forWord, token) => forLoop token.line expr body
  | some (.ifWord, token) => branch token.line expr body
  | some (.printWord, token) => print token.line false expr
  | some (.returnWord, token) => giveBack token expr
  | some (.whileWord, token) => whileLoop token.line expr body
  | some (.doWord, token) => doWhileLoop token.line expr body

/-- A declaration, made of expressions, statements and the bodies of functions. -/
def declarationOf (bound : Nat) (expr : Parser Expr) (statement : Counting Statement)
    (body : Counting (List Statement)) : Counting (Option Statement) :=
  recovering do
    match ← acceptKeyword .funWord with
    | some _ => function bound body
    | none =>
      match ← acceptKeyword .varWord with
      | some _ => variableDeclaration expr
      | none => statement

mutual

/-- A statement. -/
def statement (levels : List Level) (bound : Nat) : Counting Statement :=
  match bound with
  | 0 => Counting.exhausted
  | bound + 1 =>
    statementOf (expression levels bound) (statement levels bound)
      (block bound (declaration levels bound))

/-- A declaration, or nothing where it fails. -/
def declaration (levels : List Level) (bound : Nat) : Counting (Option Statement) :=
  match bound with
  | 0 => Counting.exhausted
  | bound + 1 =>
    declarationOf bound (expression levels bound) (statement levels bound)
      (block bound (declaration levels bound))

end

/-- Declarations up to the end of the input. -/
def program (levels : List Level) (bound : Nat) : Counting (List Statement) :=
  declarations bound (fun _ => false) (declaration levels bound)

end Grammar.Counted

/-! ## The count comes back -/

namespace Counting

variable {α β σ : Type} {depth more : Nat}

/-- A counting parser answers as a parser does whose bound is greater by `more`, and the count is
what it was, unless the bound is used up. -/
def Tracks (counting : Counting α) (depth more : Nat) (parser : Parser α) : Prop :=
  ∀ tokens, counting depth tokens = (parser tokens, depth) ∨
    0 < more ∧ (counting depth tokens).1 = .unfinished

variable {counting : Counting α} {parser other : Parser α}

/-- A counting parser behind another one begins with the count that the first one leaves. -/
theorem bind_apply (first : Counting α) (next : α → Counting β) (depth : Nat)
    (tokens : List Token) :
    (first >>= next) depth tokens =
      match first depth tokens with
      | (.parsed value rest reports, depth) =>
        ((next value depth rest).1.after reports, (next value depth rest).2)
      | (.failed error rest reports, depth) => (.failed error rest reports, depth)
      | (.unfinished, depth) => (.unfinished, depth) := rfl

theorem tracks_pure {value : α} : (pure value : Counting α).Tracks depth more (pure value) :=
  fun _ => .inl rfl

/-- A parser that does not count keeps the count, and ends as it does under a greater bound. -/
theorem tracks_lift (ends : parser.EndsAs more other) :
    (liftM parser : Counting α).Tracks depth more other := by
  intro tokens
  rcases ends tokens with same | ⟨some, unfinished⟩
  · exact .inl (congrArg (·, depth) same)
  · exact .inr ⟨some, unfinished⟩

theorem tracks_exhausted (parser : Nat → Parser α) (none : parser 0 = .exhausted) :
    (exhausted : Counting α).Tracks depth more (parser more) := by
  intro tokens
  cases more with
  | zero =>
      rw [none]
      exact .inl rfl
  | succ more => exact .inr ⟨Nat.succ_pos more, rfl⟩

/-- One counting parser after another keeps to one parser after another. -/
theorem tracks_bind {next : α → Counting β} {follow : α → Parser β}
    (first : counting.Tracks depth more parser)
    (second : ∀ value, (next value).Tracks depth more (follow value)) :
    (counting >>= next).Tracks depth more (parser >>= follow) := by
  intro tokens
  rw [bind_apply, Parser.bind_apply]
  rcases first tokens with same | ⟨some, unfinished⟩
  · rw [same]
    cases parser tokens with
    | unfinished => exact .inl rfl
    | failed error rest reports => exact .inl rfl
    | parsed value rest reports =>
        dsimp only
        rcases second value rest with same | ⟨some, unfinished⟩
        · exact .inl (by rw [same])
        · exact .inr ⟨some, by rw [unfinished, Reply.after_unfinished]⟩
  · have answer : counting depth tokens = (.unfinished, (counting depth tokens).2) :=
      Prod.ext unfinished rfl
    exact .inr ⟨some, by rw [answer]⟩

/-- Rounds keep to rounds, the rest of which have the greater bound. -/
theorem tracks_iterate {step : σ → Counting (Parser.Progress σ α)}
    {round : σ → Parser (Parser.Progress σ α)}
    (each : ∀ state, (step state).Tracks depth more (round state)) (bound : Nat) (state : σ) :
    (iterate step bound state).Tracks depth more (Parser.iterate round (bound + more) state) := by
  induction bound generalizing state with
  | zero =>
      rw [Nat.zero_add]
      exact tracks_exhausted (Parser.iterate round · state) rfl
  | succ bound ih =>
      rw [Nat.succ_add]
      refine tracks_bind (each state) fun progress => ?_
      cases progress with
      | more state => exact ih state
      | done value => exact tracks_pure

/-- The count is what it was before, and so what it says may be put in its place. -/
theorem tracks_depth {next : Nat → Counting α} (tracks : (next depth).Tracks depth more parser) :
    (Counting.depth >>= next).Tracks depth more parser := by
  intro tokens
  rw [bind_apply]
  dsimp only [Counting.depth]
  rw [Reply.after_nil]
  exact tracks tokens

/-- The count goes up and down again around a body. -/
theorem tracks_inBody (body : counting.Tracks (depth + 1) more parser) :
    (inBody counting).Tracks depth more parser := by
  intro tokens
  unfold inBody
  rcases body tokens with same | ⟨some, unfinished⟩
  · rw [same]
    exact .inl rfl
  · exact .inr ⟨some, unfinished⟩

end Counting

namespace Grammar

open Scriptlet.Parser Scriptlet.Counting

variable {depth more bound line : Nat} {expr other : Parser Expr}

/-- Recovery leaves the count as it is: a declaration that fails leaves it so. -/
theorem tracks_recovering {counting : Counting Statement} {parser : Parser Statement}
    (tracks : counting.Tracks depth more parser) :
    (Counted.recovering counting).Tracks depth more (recovering parser) := by
  intro tokens
  unfold Counted.recovering recovering
  rcases tracks tokens with same | ⟨some, unfinished⟩
  · rw [same]
    cases parser tokens <;> exact .inl rfl
  · have answer : counting depth tokens = (.unfinished, (counting depth tokens).2) :=
      Prod.ext unfinished rfl
    exact .inr ⟨some, by rw [answer]⟩

theorem tracks_declarations {stop : Token → Bool} {counting : Counting (Option Statement)}
    {parser : Parser (Option Statement)} (tracks : counting.Tracks depth more parser) :
    (Counted.declarations bound stop counting).Tracks depth more
      (declarations (bound + more) stop parser) := by
  refine tracks_iterate (fun statements => ?_) bound []
  refine tracks_bind (tracks_lift endsAs_self) fun ended => ?_
  refine tracks_bind (tracks_lift endsAs_self) fun stopped => ?_
  cases ended || stopped with
  | true => exact tracks_pure
  | false =>
      refine tracks_bind tracks fun read => ?_
      cases read with
      | some statement => exact tracks_pure
      | none => exact tracks_pure

theorem tracks_block {counting : Counting (Option Statement)} {parser : Parser (Option Statement)}
    (tracks : counting.Tracks depth more parser) :
    (Counted.block bound counting).Tracks depth more (block (bound + more) parser) := by
  refine tracks_bind (tracks_declarations tracks) fun statements => ?_
  exact tracks_bind (tracks_lift endsAs_self) fun _ => tracks_pure

/-- The body of a function is read under one more, which is taken back however the body ends. -/
theorem tracks_function {counting : Counting (List Statement)} {parser : Parser (List Statement)}
    (tracks : counting.Tracks (depth + 1) more parser) :
    (Counted.function bound counting).Tracks depth more (function (bound + more) parser) := by
  refine tracks_bind (tracks_lift endsAs_self) fun name => ?_
  refine tracks_bind (tracks_lift endsAs_self) fun opening => ?_
  refine tracks_bind (tracks_lift (endsAs_commaSeparated endsAs_self)) fun parameters => ?_
  refine tracks_bind (tracks_lift endsAs_self) fun closing => ?_
  refine tracks_bind (tracks_lift endsAs_self) fun brace => ?_
  exact tracks_bind (tracks_inBody tracks) fun _ => tracks_pure

/-- A return statement is inside of a function exactly where the count is not zero. -/
theorem tracks_giveBack {keyword : Token} (exprs : expr.EndsAs more other) :
    (Counted.giveBack keyword expr).Tracks depth more (giveBack keyword (0 < depth) other) := by
  have value : (do
      let value ← unlessNext .semicolon expr
      let _ ← expectSymbol .semicolon .semicolonAfterReturn
      return .giveBack keyword.line value : Counting Statement).Tracks depth more (do
      let value ← unlessNext .semicolon other
      let _ ← expectSymbol .semicolon .semicolonAfterReturn
      return .giveBack keyword.line value) := by
    refine tracks_bind (tracks_lift (endsAs_unlessNext exprs)) fun value => ?_
    exact tracks_bind (tracks_lift endsAs_self) fun _ => tracks_pure
  refine tracks_depth ?_
  cases depth with
  | zero => exact tracks_bind (tracks_lift endsAs_self) fun _ => value
  | succ depth => exact value

variable {counting : Counting Statement} {parser : Parser Statement}

theorem tracks_forLoop (exprs : expr.EndsAs more other)
    (tracks : counting.Tracks depth more parser) :
    (Counted.forLoop line expr counting).Tracks depth more (forLoop line other parser) := by
  refine tracks_bind (tracks_lift endsAs_self) fun opening => ?_
  refine tracks_bind (tracks_lift (endsAs_initialClause exprs)) fun initial => ?_
  refine tracks_bind (tracks_lift (endsAs_unlessNext exprs)) fun condition => ?_
  refine tracks_bind (tracks_lift endsAs_self) fun separator => ?_
  refine tracks_bind (tracks_lift (endsAs_unlessNext exprs)) fun increment => ?_
  refine tracks_bind (tracks_lift endsAs_self) fun closing => ?_
  exact tracks_bind tracks fun _ => tracks_pure

theorem tracks_branch (exprs : expr.EndsAs more other)
    (tracks : counting.Tracks depth more parser) :
    (Counted.branch line expr counting).Tracks depth more (branch line other parser) := by
  refine tracks_bind (tracks_lift endsAs_self) fun opening => ?_
  refine tracks_bind (tracks_lift exprs) fun condition => ?_
  refine tracks_bind (tracks_lift endsAs_self) fun closing => ?_
  refine tracks_bind tracks fun positive => ?_
  refine tracks_bind (tracks_lift endsAs_self) fun accepted => ?_
  cases accepted with
  | none => exact tracks_pure
  | some keyword => exact tracks_bind tracks fun _ => tracks_pure

theorem tracks_whileLoop (exprs : expr.EndsAs more other)
    (tracks : counting.Tracks depth more parser) :
    (Counted.whileLoop line expr counting).Tracks depth more (whileLoop line other parser) := by
  refine tracks_bind (tracks_lift endsAs_self) fun opening => ?_
  refine tracks_bind (tracks_lift exprs) fun condition => ?_
  refine tracks_bind (tracks_lift endsAs_self) fun closing => ?_
  exact tracks_bind tracks fun _ => tracks_pure

theorem tracks_doWhileLoop (exprs : expr.EndsAs more other)
    (tracks : counting.Tracks depth more parser) :
    (Counted.doWhileLoop line expr counting).Tracks depth more (doWhileLoop line other parser) := by
  refine tracks_bind tracks fun body => ?_
  refine tracks_bind (tracks_lift endsAs_self) fun again => ?_
  refine tracks_bind (tracks_lift endsAs_self) fun opening => ?_
  refine tracks_bind (tracks_lift exprs) fun condition => ?_
  refine tracks_bind (tracks_lift endsAs_self) fun closing => ?_
  exact tracks_bind (tracks_lift endsAs_self) fun _ => tracks_pure

/-- Statements keep to statements whose flag says whether the count is not zero. -/
theorem tracks_statementOf {blocks : Counting (List Statement)} {body : Parser (List Statement)}
    (exprs : expr.EndsAs more other) (tracks : counting.Tracks depth more parser)
    (inside : blocks.Tracks depth more body) :
    (Counted.statementOf expr counting blocks).Tracks depth more
      (statementOf (0 < depth) other parser body) := by
  refine tracks_bind (tracks_lift endsAs_self) fun accepted => ?_
  rcases accepted with _ | ⟨opening, token⟩
  · exact tracks_lift (endsAs_expressionStatement exprs)
  · cases opening with
    | brace => exact tracks_bind inside fun _ => tracks_pure
    | forWord => exact tracks_forLoop exprs tracks
    | ifWord => exact tracks_branch exprs tracks
    | printWord => exact tracks_lift (endsAs_print exprs)
    | returnWord => exact tracks_giveBack exprs
    | whileWord => exact tracks_whileLoop exprs tracks
    | doWord => exact tracks_doWhileLoop exprs tracks

/-- Declarations keep to declarations, where bodies of functions are read under one more. -/
theorem tracks_declarationOf {blocks : Counting (List Statement)} {body : Parser (List Statement)}
    (exprs : expr.EndsAs more other) (tracks : counting.Tracks depth more parser)
    (inside : blocks.Tracks (depth + 1) more body) :
    (Counted.declarationOf bound expr counting blocks).Tracks depth more
      (declarationOf (bound + more) other parser body) := by
  refine tracks_recovering (tracks_bind (tracks_lift endsAs_self) fun accepted => ?_)
  cases accepted with
  | some keyword => exact tracks_function inside
  | none =>
      refine tracks_bind (tracks_lift endsAs_self) fun accepted => ?_
      cases accepted with
      | some keyword => exact tracks_lift (endsAs_variableDeclaration exprs)
      | none => exact tracks

/-- The count tells what the flag tells, in statements and in declarations. -/
theorem tracks_statement (levels : List Level) (bound more : Nat) :
    (∀ depth, (Counted.statement levels bound).Tracks depth more
      (statement levels (bound + more) (0 < depth))) ∧
    ∀ depth, (Counted.declaration levels bound).Tracks depth more
      (declaration levels (bound + more) (0 < depth)) := by
  induction bound with
  | zero =>
      constructor
      · intro depth
        rw [Nat.zero_add, Counted.statement]
        exact tracks_exhausted (statement levels · (0 < depth)) (by rw [statement])
      · intro depth
        rw [Nat.zero_add, Counted.declaration]
        exact tracks_exhausted (declaration levels · (0 < depth)) (by rw [declaration])
  | succ bound ih =>
      obtain ⟨statements, declarations⟩ := ih
      have exprs := endsAs_expression levels bound more
      constructor
      · intro depth
        rw [Nat.succ_add, Counted.statement, statement]
        exact tracks_statementOf exprs (statements depth) (tracks_block (declarations depth))
      · intro depth
        rw [Nat.succ_add, Counted.declaration, declaration]
        exact tracks_declarationOf exprs (statements depth)
          (tracks_block (declarations (depth + 1)))

/-- A program is read from the count zero on, and comes back to it. -/
theorem tracks_program (levels : List Level) (bound more : Nat) :
    (Counted.program levels bound).Tracks 0 more (program levels (bound + more)) :=
  tracks_declarations ((tracks_statement levels bound more).2 0)

end Grammar

end Scriptlet
