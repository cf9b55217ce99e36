import Scriptlet.Token.Basic

/-!
# Syntax errors

What can be wrong with a source text, where it was noticed, and how that is worded.
-/

namespace Scriptlet

/-- What the parser needed and did not find. -/
inductive Expectation where
  | expression
  | functionName | parenAfterFunctionName | parameterName | parenAfterParameters
  | braceBeforeFunctionBody
  | variableName | semicolonAfterDeclaration
  | braceAfterBlock
  | parenAfterFor | semicolonAfterLoopCondition | parenAfterForClauses
  | parenAfterIf | parenAfterIfCondition
  | parenAfterWhile | parenAfterWhileCondition
  | whileAfterDo | parenAfterDoWhile | parenAfterDoCondition | semicolonAfterDoCondition
  | semicolonAfterPrint | semicolonAfterReturn | semicolonAfterExpression | colonAfterStatement
  | parenAfterArguments | parenAfterGrouping
  deriving Repr, DecidableEq

/-- The wording of a missed expectation. -/
def Expectation.message : Expectation → String
  | expression => "Expect expression."
  | functionName => "Expect function name."
  | parenAfterFunctionName => "Expect '(' after function name."
  | parameterName => "Expect parameter name."
  | parenAfterParameters => "Expect ')' after parameters."
  | braceBeforeFunctionBody => "Expect '\x7b' before function body."
  | variableName => "Expect variable name."
  | semicolonAfterDeclaration => "Expect ';' after variable declaration."
  | braceAfterBlock => "Expect '\x7d' after block."
  | parenAfterFor => "Expect '(' after 'for'."
  | semicolonAfterLoopCondition => "Expect ';' after loop condition."
  | parenAfterForClauses => "Expect ')' after for clauses."
  | parenAfterIf => "Expect '(' after 'if'."
  | parenAfterIfCondition => "Expect ')' after if condition."
  | parenAfterWhile => "Expect '(' after 'while'."
  | parenAfterWhileCondition => "Expect ')' after condition."
  | whileAfterDo => "Expected 'while' after do."
  | parenAfterDoWhile => "Expected '(' after while."
  | parenAfterDoCondition => "Expected ')' after condition."
  | semicolonAfterDoCondition => "Expected ';' after condition."
  | semicolonAfterPrint => "Expect ';' after value."
  | semicolonAfterReturn => "Expect ';' after return value."
  | semicolonAfterExpression => "Expect ';' after expression."
  | colonAfterStatement => "Expected ':' after statement."
  | parenAfterArguments => "Expect ')' after arguments."
  | parenAfterGrouping => "Expect ')' after expression."

/-- A list between parentheses. -/
inductive ListKind where
  | parameters | arguments
  deriving Repr, DecidableEq

/-- The most items that a list between parentheses may have. -/
def maxListLength : Nat := 255

/-- What is wrong with a source text. -/
inductive SyntaxFault where
  | unexpectedCharacter
  | unterminatedText
  | expected (what : Expectation)
  | tooMany (items : ListKind)
  | invalidAssignmentTarget
  | returnOutsideFunction
  deriving Repr, DecidableEq

/-- The wording of a fault. -/
def SyntaxFault.message : SyntaxFault → String
  | unexpectedCharacter => "Unexpected character."
  | unterminatedText => "Unterminated string."
  | expected what => what.message
  | tooMany .parameters => "Cannot have more than 255 parameters."
  | tooMany .arguments => "Cannot have more than 255 arguments."
  | invalidAssignmentTarget => "Invalid assignment target."
  | returnOutsideFunction => "Cannot return from top-level code."

/-- Where a fault was noticed: between tokens, at a token, or behind the last one. -/
inductive Place where
  | unplaced
  | token (lexeme : String)
  | endOfInput
  deriving Repr, DecidableEq

/-- The wording of a place. -/
def Place.text : Place → String
  | unplaced => ""
  | token lexeme => " at '" ++ lexeme ++ "'"
  | endOfInput => " at end"

/-- A fault, the line that it belongs to and its place there. -/
structure SyntaxError where
  line : Nat
  place : Place
  fault : SyntaxFault
  deriving Repr, DecidableEq

/-- The wording of a syntax error. -/
def SyntaxError.message (error : SyntaxError) : String :=
  "Error on line " ++ toString error.line ++ error.place.text ++ ": " ++ error.fault.message

end Scriptlet
