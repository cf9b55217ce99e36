import Scriptlet.Grammar.Expression

/-!
# The grammar of statements

A program is a list of declarations. One that fails is reported and dropped, and reading resumes at
the next place where a declaration may begin. A loop over clauses is read as the block and the loop
that it abbreviates.
-/

namespace Scriptlet.Grammar

open Scriptlet.Parser

/-- Whether a declaration may begin with a token, for the purpose of recovery. -/
def beginsDeclaration (token : Token) : Bool :=
  match token.kind with
  | .keyword keyword =>
    [.classWord, .funWord, .varWord, .forWord, .ifWord, .whileWord, .printWord,
      .returnWord].contains keyword
  | _ => false

/-- The tokens from which reading resumes, where `previous` was skipped last: those behind the
first semicolon, or those from the first token with which a declaration may begin. -/
def resumeAfter (previous : Token) : List Token → List Token
  | [] => []
  | token :: rest =>
    if previous.isSymbol .semicolon || beginsDeclaration token then token :: rest
    else resumeAfter token rest

/-- The tokens from which reading resumes after a failure. The token that could not be used is
skipped in any case. -/
def resume : List Token → List Token
  | [] => []
  | token :: rest => resumeAfter token rest

/-- A declaration, or nothing where it fails: the failure is reported and skipped. -/
def recovering (declaration : Parser Statement) : Parser (Option Statement) := fun tokens =>
  match declaration tokens with
  | .parsed statement rest reports => .parsed (some statement) rest reports
  | .failed error rest reports => .parsed none (resume rest) (error :: reports)
  | .unfinished => .unfinished

/-- Declarations up to the end of the input, or up to a token that passes `stop`. -/
def declarations (bound : Nat) (stop : Token → Bool) (declaration : Parser (Option Statement)) :
    Parser (List Statement) :=
  iterate (fun statements => do
    if (← atEnd) || (← nextIs stop) then return .done statements.reverse
    match ← declaration with
    | some statement => return .more (statement :: statements)
    | none => return .more statements) bound []

/-- A block whose opening brace has been read. -/
def block (bound : Nat) (declaration : Parser (Option Statement)) : Parser (List Statement) := do
  let body ← declarations bound (·.isSymbol .rightBrace) declaration
  let _ ← expectSymbol .rightBrace .braceAfterBlock
  return body

/-- A function whose keyword has been read. -/
def function (bound : Nat) (body : Parser (List Statement)) : Parser Statement := do
  let (name, line) ← expectIdentifier .functionName
  let _ ← expectSymbol .leftParen .parenAfterFunctionName
  let parameters ← commaSeparated bound .parameters do
    return (← expectIdentifier .parameterName).1
  let _ ← expectSymbol .rightParen .parenAfterParameters
  let _ ← expectSymbol .leftBrace .braceBeforeFunctionBody
  return .function line name parameters (← body)

/-- A variable whose keyword has been read. -/
def variableDeclaration (expr : Parser Expr) : Parser Statement := do
  let (name, line) ← expectIdentifier .variableName
  let initial ← do
    match ← acceptSymbol .equal with
    | some _ => some <$> expr
    | none => pure none
  let _ ← expectSymbol .semicolon .semicolonAfterDeclaration
  return .declare line name initial

/-- A print statement whose keyword has been read. Where a colon may follow, it ends the statement
as a semicolon does. -/
def print (line : Nat) (colonMayEnd : Bool) (expr : Parser Expr) : Parser Statement := do
  let value ← expr
  let colon ← if colonMayEnd then acceptSymbol .colon else pure none
  if colon.isNone then
    let _ ← expectSymbol .semicolon .semicolonAfterPrint
  return .print line value

/-- An expression as a statement, ended by the given symbol. -/
def endedBy (symbol : Symbol) (what : Expectation) (expr : Parser Expr) : Parser Statement := do
  let value ← expr
  let _ ← expectSymbol symbol what
  return .expression value.line value

/-- The branches of a choice whose condition and question mark have been read. -/
def choice (condition : Expr) (expr : Parser Expr) : Parser Statement := do
  let positive ← do
    match ← acceptKeyword .printWord with
    | some keyword => print keyword.line true expr
    | none => endedBy .colon .colonAfterStatement expr
  let negative ← do
    match ← acceptKeyword .printWord with
    | some keyword => print keyword.line false expr
    | none => endedBy .semicolon .semicolonAfterExpression expr
  return .choice condition.line condition positive negative

/-- A statement that begins with an expression. -/
def expressionStatement (expr : Parser Expr) : Parser Statement := do
  let value ← expr
  match ← acceptSymbol .question with
  | some _ => choice value expr
  | none =>
    let _ ← expectSymbol .semicolon .semicolonAfterExpression
    return .expression value.line value

/-- The first clause of a loop over clauses. -/
def initialClause (expr : Parser Expr) : Parser (Option Statement) := do
  match ← acceptSymbol .semicolon with
  | some _ => return none
  | none =>
    match ← acceptKeyword .varWord with
    | some _ => some <$> variableDeclaration expr
    | none => some <$> expressionStatement expr

/-- An expression, or none if the given symbol comes next. -/
def unlessNext (symbol : Symbol) (expr : Parser Expr) : Parser (Option Expr) := do
  if ← nextIs (·.isSymbol symbol) then return none
  some <$> expr

/-- What a loop over clauses abbreviates. -/
def clauseLoop (line : Nat) (initial : Option Statement) (condition increment : Option Expr)
    (body : Statement) : Statement :=
  let body :=
    match increment with
    | none => body
    | some increment => .block line [body, .expression increment.line increment]
  let loop := .whileLoop line (condition.getD (.literal line (.bool true))) body
  match initial with
  | none => loop
  | some initial => .block line [initial, loop]

/-- A loop over clauses whose keyword has been read. -/
def forLoop (line : Nat) (expr : Parser Expr) (body : Parser Statement) : Parser Statement := do
  let _ ← expectSymbol .leftParen .parenAfterFor
  let initial ← initialClause expr
  let condition ← unlessNext .semicolon expr
  let _ ← expectSymbol .semicolon .semicolonAfterLoopCondition
  let increment ← unlessNext .rightParen expr
  let _ ← expectSymbol .rightParen .parenAfterForClauses
  return clauseLoop line initial condition increment (← body)

/-- A branch whose keyword has been read. -/
def branch (line : Nat) (expr : Parser Expr) (body : Parser Statement) : Parser Statement := do
  let _ ← expectSymbol .leftParen .parenAfterIf
  let condition ← expr
  let _ ← expectSymbol .rightParen .parenAfterIfCondition
  let positive ← body
  match ← acceptKeyword .elseWord with
  | some _ => return .branch line condition positive (some (← body))
  | none => return .branch line condition positive none

/-- A return whose keyword has been read. -/
def giveBack (keyword : Token) (inFunction : Bool) (expr : Parser Expr) : Parser Statement := do
  if !inFunction then report .returnOutsideFunction keyword
  let value ← unlessNext .semicolon expr
  let _ ← expectSymbol .semicolon .semicolonAfterReturn
  return .giveBack keyword.line value

/-- A loop whose keyword has been read. -/
def whileLoop (line : Nat) (expr : Parser Expr) (body : Parser Statement) : Parser Statement := do
  let _ ← expectSymbol .leftParen .parenAfterWhile
  let condition ← expr
  let _ ← expectSymbol .rightParen .parenAfterWhileCondition
  return .whileLoop line condition (← body)

/-- A loop that checks its condition last, whose keyword has been read. -/
def doWhileLoop (line : Nat) (expr : Parser Expr) (body : Parser Statement) :
    Parser Statement := do
  let body ← body
  let _ ← expectKeyword .whileWord .whileAfterDo
  let _ ← expectSymbol .leftParen .parenAfterDoWhile
  let condition ← expr
  let _ ← expectSymbol .rightParen .parenAfterDoCondition
  let _ ← expectSymbol .semicolon .semicolonAfterDoCondition
  return .doWhileLoop line body condition

/-- The first word of a statement that does not begin with an expression. -/
inductive Opening where
  | brace | forWord | ifWord | printWord | returnWord | whileWord | doWord

/-- The opening that a token is. -/
def Opening.ofToken? (token : Token) : Option (Opening × Token) :=
  match token.kind with
  | .symbol .leftBrace => some (brace, token)
  | .keyword .forWord => some (forWord, token)
  | .keyword .ifWord => some (ifWord, token)
  | .keyword .printWord => some (printWord, token)
  | .keyword .returnWord => some (returnWord, token)
  | .keyword .whileWord => some (whileWord, token)
  | .keyword .doWord => some (doWord, token)
  | _ => none

/-- A statement, made of expressions, blocks and smaller statements. -/
def statementOf (inFunction : Bool) (expr : Parser Expr) (body : Parser Statement)
    (block : Parser (List Statement)) : Parser Statement := do
  match ← accept Opening.ofToken? with
  | none => expressionStatement expr
  | some (.brace, token) => return .block token.line (← block)
  | some (.forWord, token) => forLoop token.line expr body
  | some (.ifWord, token) => branch token.line expr body
  | some (.printWord, token) => print token.line false expr
  | some (.returnWord, token) => giveBack token inFunction expr
  | some (.whileWord, token) => whileLoop token.line expr body
  | some (.doWord, token) => doWhileLoop token.line expr body

/-- A declaration, made of expressions, statements and the bodies of functions. -/
def declarationOf (bound : Nat) (expr : Parser Expr) (statement : Parser Statement)
    (body : Parser (List Statement)) : Parser (Option Statement) :=
  recovering do
    match ← acceptKeyword .funWord with
    | some _ => function bound body
    | none =>
      match ← acceptKeyword .varWord with
      | some _ => variableDeclaration expr
      | none => statement

mutual

/-- A statement. -/
def statement (levels : List Level) (bound : Nat) (inFunction : Bool) : Parser Statement :=
  match bound with
  | 0 => exhausted
  | bound + 1 =>
    statementOf inFunction (expression levels bound) (statement levels bound inFunction)
      (block bound (declaration levels bound inFunction))

/-- A declaration, or nothing where it fails. -/
def declaration (levels : List Level) (bound : Nat) (inFunction : Bool) :
    Parser (Option Statement) :=
  match bound with
  | 0 => exhausted
  | bound + 1 =>
    declarationOf bound (expression levels bound) (statement levels bound inFunction)
      (block bound (declaration levels bound true))

end

/-- Declarations up to the end of the input. -/
def program (levels : List Level) (bound : Nat) : Parser (List Statement) :=
  declarations bound (fun _ => false) (declaration levels bound false)

end Scriptlet.Grammar
