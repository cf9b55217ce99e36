import Scriptlet.Proofs.Grammar.ExpressionSoundness
import Scriptlet.Proofs.Grammar.Statement
import Scriptlet.Proofs.Syntax.Declarations

/-!
# Statements that are read are spelled

What the parsers of statements and declarations read cleanly is what their tokens spell. A clean
answer rules out each report on the way, and with them the declarations that a fault would drop.
-/

namespace Scriptlet.Grammar

open Scriptlet.Parser

variable {bound line : Nat} {inFunction : Bool} {tokens rest : List Token}
  {statement : Statement} {expr : Parser Expr} {body : Parser Statement}

/-! ## Statements that begin with an expression -/

/-- A branch of a choice is spelled by what it was read from, with the symbols of its place at its
end. -/
theorem spelledBranch_of_reads {colonMayEnd : Bool} {symbol : Symbol} {what : Expectation}
    {printEnds : List Symbol} (spelled : ReadsSpelled expr 0)
    (semicolonEnds : .semicolon ∈ printEnds) (colonEnds : colonMayEnd = true → .colon ∈ printEnds)
    (reads : (choiceBranch colonMayEnd symbol what expr).Reads tokens statement rest) :
    Statement.SpelledBranch printEnds [symbol] tokens statement rest := by
  rcases reads_choiceBranch_iff.mp reads with ⟨keyword, behind, rfl, isPrint, printed⟩ | ⟨-, valued⟩
  · obtain ⟨value, closing, read, closes | ⟨mayEnd, closes⟩, rfl⟩ := reads_print_iff.mp printed
    · exact .print isPrint (spelled read) semicolonEnds closes
    · exact .print isPrint (spelled read) (colonEnds mayEnd) closes
  · obtain ⟨value, closing, read, closes, rfl⟩ := reads_endedBy_iff.mp valued
    exact .value (spelled read) (List.mem_singleton_self symbol) closes

/-- A statement that begins with an expression is spelled by what it was read from. -/
theorem spelledValue_of_reads (spelled : ReadsSpelled expr 0)
    (reads : (expressionStatement expr).Reads tokens statement rest) :
    Statement.SpelledValue tokens statement rest := by
  obtain ⟨value, next, behind, read, ⟨isQuestion, chosen⟩ | ⟨closes, rfl, rfl⟩⟩ :=
    reads_expressionStatement_iff.mp reads
  · obtain ⟨positive, middle, negative, first, second, rfl⟩ := reads_choice_iff.mp chosen
    exact .choice (spelled read) isQuestion
      (spelledBranch_of_reads spelled (by simp) (by simp) first)
      (spelledBranch_of_reads spelled (by simp) (by simp) second)
  · exact .expression (spelled read) closes

/-! ## Variables and the clauses of loops -/

/-- The declaration of a variable is spelled by its keyword and what was read behind it. -/
theorem spelledVariable_of_reads {keyword : Token} (spelled : ReadsSpelled expr 0)
    (isVar : keyword.kind = .keyword .varWord)
    (reads : (variableDeclaration expr).Reads tokens statement rest) :
    Statement.SpelledVariable (keyword :: tokens) statement rest := by
  obtain ⟨target, name, behind, closing, initial, rfl, isTarget, closes, rfl, given⟩ :=
    reads_variableDeclaration_iff.mp reads
  rcases given with ⟨rfl, rfl⟩ | ⟨equal, inside, value, rfl, isEqual, read, rfl⟩
  · exact .bare isVar isTarget closes
  · exact .initialized isVar isTarget isEqual (spelled read) closes

/-- The first clause of a loop is spelled by what it was read from. -/
theorem spelledInitial_of_reads {initial : Option Statement} (spelled : ReadsSpelled expr 0)
    (reads : (initialClause expr).Reads tokens initial rest) :
    Statement.SpelledInitial tokens initial rest := by
  rcases reads_initialClause_iff.mp reads with ⟨closing, rfl, closes, rfl⟩ |
    ⟨keyword, behind, declared, rfl, isVar, read, rfl⟩ | ⟨-, -, value, read, rfl⟩
  · exact .none closes
  · exact .variable (spelledVariable_of_reads spelled isVar read)
  · exact .value (spelledValue_of_reads spelled read)

/-- An expression that may be left out is spelled by what it was read from, or by nothing. -/
theorem spelledOption_of_reads {symbol : Symbol} {value : Option Expr}
    (spelled : ReadsSpelled expr 0)
    (reads : (unlessNext symbol expr).Reads tokens value rest) :
    Expr.SpelledOption tokens value rest := by
  rcases reads_unlessNext_iff.mp reads with ⟨_, _, rfl, -, rfl, rfl⟩ | ⟨-, value, read, rfl⟩
  · exact .none
  · exact .some (spelled read)

/-! ## Functions -/

/-- Names that were read with commas between them are spelled so. -/
theorem spelledNames_of_separated {what : Expectation} {names : List String}
    (separated :
      Separated (do return (← expectIdentifier what).1 : Parser String).Reads tokens names rest) :
    Statement.SpelledNames tokens names rest := by
  have first {name : String} {tokens rest : List Token}
      (reads : (do return (← expectIdentifier what).1 : Parser String).Reads tokens name rest) :
      ∃ token, tokens = token :: rest ∧ token.kind = .identifier name := by
    simp only [reads_bind_iff, reads_pure_iff] at reads
    obtain ⟨⟨name, line⟩, _, isName, rfl, rfl⟩ := reads
    obtain ⟨token, rfl, isToken, -⟩ := reads_expectIdentifier_iff.mp isName
    exact ⟨token, rfl, isToken⟩
  induction separated with
  | last read =>
      obtain ⟨token, rfl, isToken⟩ := first read
      exact .last isToken
  | more read isComma _ ih =>
      obtain ⟨token, rfl, isToken⟩ := first read
      exact .more isToken isComma ih

/-- Parameters that were read are spelled, and are few enough. -/
theorem spelledParameters_of_reads {names : List String} {what : Expectation}
    (reads : (commaSeparated bound .parameters do
      return (← expectIdentifier what).1).Reads tokens names rest) :
    Statement.SpelledParameters tokens names rest := by
  rcases separated_of_reads reads with ⟨rfl, rfl⟩ | ⟨separated, few⟩
  · exact .none
  · exact .some (spelledNames_of_separated separated) few

/-! ## All of them together -/

/-- A parser of statements reads only what its tokens spell. -/
def StatementsSpelled (parser : Parser Statement) (inFunction : Bool) : Prop :=
  ∀ ⦃tokens statement rest⦄, parser.Reads tokens statement rest →
    Statement.Spelled inFunction tokens statement rest

/-- A parser of declarations reads only what its tokens spell. -/
def DeclarationsSpelled (parser : Parser Statement) (inFunction : Bool) : Prop :=
  ∀ ⦃tokens statement rest⦄, parser.Reads tokens statement rest →
    Statement.SpelledDeclaration inFunction tokens statement rest

/-- Declarations that were read one behind the other are spelled so. -/
theorem spelledList_of_sequence {stop : Token → Bool} {parser : Parser Statement}
    {statements : List Statement} (spelled : DeclarationsSpelled parser inFunction)
    (sequence : Sequence stop parser tokens statements rest) :
    Statement.SpelledList inFunction tokens statements rest := by
  induction sequence with
  | nil => exact .nil
  | cons _ read _ ih => exact .cons (spelled read) ih

/-- A statement that some token opens is spelled by this token and what was read behind it. -/
theorem spelled_of_behindOpening {token : Token} {opening : Opening} {parser : Parser Statement}
    (exprs : ReadsSpelled expr 0) (statements : StatementsSpelled body inFunction)
    (declarations : DeclarationsSpelled parser inFunction) (isOpening : token.kind = opening.kind)
    (reads : (behindOpening inFunction expr body (block bound (recovering parser)) token
      opening).Reads tokens statement rest) :
    Statement.Spelled inFunction (token :: tokens) statement rest := by
  cases opening with
  | brace =>
      simp only [behindOpening, reads_bind_iff, reads_pure_iff] at reads
      obtain ⟨inside, _, read, rfl, rfl⟩ := reads
      obtain ⟨closing, -, closes, sequence⟩ := reads_block_iff.mp read
      exact .block isOpening (spelledList_of_sequence declarations sequence) closes
  | forWord =>
      obtain ⟨opening, clauses, initial, middle, condition, separator, last, increment, closing,
        behind, inner, rfl, opens, first, second, separates, third, closes, read, rfl⟩ :=
        reads_forLoop_iff.mp reads
      exact .forLoop isOpening opens (spelledInitial_of_reads exprs first)
        (spelledOption_of_reads exprs second) separates (spelledOption_of_reads exprs third) closes
        (statements read)
  | ifWord =>
      obtain ⟨opening, inside, condition, closing, behind, positive, middle, rfl, opens, first,
        closes, second, negative⟩ := reads_branch_iff.mp reads
      rcases negative with ⟨otherwise, last, negative, rfl, isElse, third, rfl⟩ | ⟨rfl, noElse, rfl⟩
      · exact .branchElse isOpening opens (exprs first) closes (statements second) isElse
          (statements third)
      · exact .branch isOpening opens (exprs first) closes (statements second) noElse
  | printWord =>
      obtain ⟨value, closing, read, closes | ⟨never, -⟩, rfl⟩ := reads_print_iff.mp reads
      · exact .print isOpening (exprs read) closes
      · cases never
  | returnWord =>
      obtain ⟨rfl, value, closing, given, closes, rfl⟩ := reads_giveBack_iff.mp reads
      exact .giveBack isOpening (spelledOption_of_reads exprs given) closes
  | whileWord =>
      obtain ⟨opening, inside, condition, closing, behind, inner, rfl, opens, first, closes, read,
        rfl⟩ := reads_whileLoop_iff.mp reads
      exact .whileLoop isOpening opens (exprs first) closes (statements read)
  | doWord =>
      obtain ⟨inner, again, opening, inside, condition, closing, ending, read, isWhile, opens,
        first, closes, ends, rfl⟩ := reads_doWhileLoop_iff.mp reads
      exact .doWhileLoop isOpening (statements read) isWhile opens (exprs first) closes ends

/-- Statements are spelled if the expressions, statements and declarations inside of them are. -/
theorem statementsSpelled_statementOf {parser : Parser Statement} (exprs : ReadsSpelled expr 0)
    (statements : StatementsSpelled body inFunction)
    (declarations : DeclarationsSpelled parser inFunction) :
    StatementsSpelled (statementOf inFunction expr body (block bound (recovering parser)))
      inFunction := by
  intro tokens statement rest reads
  rcases reads_statementOf_iff.mp reads with ⟨-, read⟩ |
      ⟨token, behind, opening, rfl, isOpening, read⟩
  · exact .value (spelledValue_of_reads exprs read)
  · exact spelled_of_behindOpening exprs statements declarations isOpening read

/-- Declarations are spelled if what they are made of is. The body of a function is inside of a
function, whatever is around it. -/
theorem declarationsSpelled_declared {parser inside : Parser Statement}
    (exprs : ReadsSpelled expr 0) (statements : StatementsSpelled parser inFunction)
    (bodies : DeclarationsSpelled inside true) :
    DeclarationsSpelled (declared bound expr parser (block bound (recovering inside)))
      inFunction := by
  intro tokens statement rest reads
  rcases reads_declared_iff.mp reads with ⟨keyword, behind, rfl, isFun, read⟩ |
    ⟨keyword, behind, rfl, isVar, read⟩ | ⟨-, -, read⟩
  · obtain ⟨target, name, opening, inside, parameters, closing, brace, behind, statements, rfl,
      isTarget, opens, list, closes, isBrace, body, rfl⟩ := reads_function_iff.mp read
    obtain ⟨ending, -, ends, sequence⟩ := reads_block_iff.mp body
    exact .function isFun isTarget opens (spelledParameters_of_reads list) closes isBrace
      (spelledList_of_sequence bodies sequence) ends
  · exact .variable (spelledVariable_of_reads exprs isVar read)
  · exact .statement (statements read)

/-- **Statements and declarations that are read are spelled**, whatever the bound. -/
theorem spelled_of_reads (bound : Nat) :
    (∀ inFunction, StatementsSpelled (Grammar.statement Level.all bound inFunction) inFunction) ∧
      ∀ inFunction, DeclarationsSpelled (oneDeclaration Level.all inFunction bound) inFunction := by
  induction bound with
  | zero =>
      constructor
      · intro inFunction tokens statement rest reads
        rw [Grammar.statement] at reads
        exact absurd reads not_reads_exhausted
      · exact fun _ _ _ _ reads => absurd reads not_reads_exhausted
  | succ bound ih =>
      obtain ⟨statements, declarations⟩ := ih
      constructor
      · intro inFunction
        rw [statement_succ, declaration_eq]
        exact statementsSpelled_statementOf readsSpelled_expression (statements inFunction)
          (declarations inFunction)
      · intro inFunction
        rw [oneDeclaration, declaration_eq]
        exact declarationsSpelled_declared readsSpelled_expression (statements inFunction)
          (declarations true)

/-- **A program that is read is spelled**, and by all of its tokens. -/
theorem spelledList_of_program {statements : List Statement}
    (reads : (program Level.all bound).Reads tokens statements rest) :
    rest = [] ∧ Statement.SpelledList false tokens statements [] := by
  rw [program, declaration_eq] at reads
  obtain ⟨-, ended, sequence⟩ := reads_declarations_iff.mp reads
  obtain rfl : rest = [] := by simpa [Ended] using ended
  exact ⟨rfl, spelledList_of_sequence ((spelled_of_reads bound).2 false) sequence⟩

end Scriptlet.Grammar

/-! ## What statements declare -/

namespace Scriptlet.Statement

variable {inFunction : Bool} {tokens rest : List Token} {statement : Statement}

/-- A branch of a choice declares nothing. -/
theorem SpelledBranch.declares {printEnds valueEnds : List Symbol}
    (spelled : SpelledBranch printEnds valueEnds tokens statement rest) :
    statement.declares = false := by
  cases spelled <;> rfl

/-- A statement that begins with an expression declares nothing. -/
theorem SpelledValue.declares (spelled : SpelledValue tokens statement rest) :
    statement.declares = false := by
  cases spelled with
  | expression => rfl
  | choice _ _ first second =>
      rw [Statement.declares, first.declares, second.declares, Bool.or_false]

/-- What a loop over clauses abbreviates declares nothing if its body does not: its first clause is
in a block. -/
theorem declares_unrolled (line : Nat) (initial : Option Statement)
    (condition increment : Option Expr) {body : Statement} (quiet : body.declares = false) :
    (unrolled line initial condition increment body).declares = false := by
  cases initial with
  | some => rfl
  | none =>
      cases increment with
      | some => rfl
      | none => exact quiet

/-- What is spelled as a statement declares nothing where it stands. -/
theorem Spelled.declares (spelled : Spelled inFunction tokens statement rest) :
    statement.declares = false := by
  -- What stands in a block or in the body of a function does not matter.
  induction spelled using @Spelled.rec _ (fun _ _ _ _ _ => True) (fun _ _ _ _ _ => True) with
  | value spelled => exact spelled.declares
  | print | giveBack | block => rfl
  | branch _ _ _ _ _ _ positive => exact positive
  | branchElse _ _ _ _ _ _ _ positive negative =>
      rw [Statement.declares, positive, negative, Bool.or_false]
  | whileLoop _ _ _ _ _ body | doWhileLoop _ _ _ _ _ _ _ body => exact body
  | forLoop _ _ _ _ _ _ _ _ body => exact declares_unrolled _ _ _ _ body
  | «variable» | function | statement | nil | cons => trivial

/-- A statement that is read declares nothing where it stands. -/
theorem declares_of_reads {bound : Nat}
    (reads : (Grammar.statement Level.all bound inFunction).Reads tokens statement rest) :
    statement.declares = false :=
  ((Grammar.spelled_of_reads bound).1 inFunction reads).declares

end Scriptlet.Statement
