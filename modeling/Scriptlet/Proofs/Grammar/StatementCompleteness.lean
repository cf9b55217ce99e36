import Scriptlet.Proofs.Grammar.ExpressionCompleteness
import Scriptlet.Proofs.Grammar.Statement

/-!
# Statements that are spelled are read

What some tokens spell as a statement or a declaration is what the parsers read from them. Unlike an
expression, it needs nothing of the tokens behind it beyond what its derivation says: that no `else`
follows a branch without one.
-/

namespace Scriptlet.Grammar

open Scriptlet.Parser

variable {bound line : Nat} {inFunction : Bool} {tokens rest : List Token}
  {statement : Statement}

/-! ## First tokens -/

/-- Whether a statement may begin with a token of a kind. -/
def StartsStatement (kind : TokenKind) : Prop :=
  StartsExpr kind ∨ ∃ opening, kind = Opening.kind opening

/-- Whether a declaration may begin with a token of a kind. -/
def StartsDeclaration (kind : TokenKind) : Prop :=
  StartsStatement kind ∨ kind = .keyword .funWord ∨ kind = .keyword .varWord

/-- The keywords that an expression may begin with are those of values. -/
theorem keyword_of_startsExpr {keyword : Keyword} (starts : StartsExpr (.keyword keyword)) :
    keyword ∈ [.trueWord, .falseWord, .nilWord] := by
  rcases starts with ⟨value, same⟩ | ⟨name, same⟩ | ⟨op, same⟩ | same
  · rcases value with _ | _ | (_ | _) | _ <;> cases same <;> decide
  · cases same
  · cases same
  · cases same

/-- No expression begins with the token that opens a statement of another form. -/
theorem opening_ne_of_startsExpr {kind : TokenKind} (starts : StartsExpr kind) (opening : Opening) :
    kind ≠ opening.kind := by
  rintro rfl
  cases opening with
  | brace => exact not_startsExpr_symbol (by decide) starts
  | forWord | ifWord | printWord | returnWord | whileWord | doWord =>
      exact absurd (keyword_of_startsExpr starts) (by decide)

/-- The declaration of a variable begins with its keyword, and takes at least that. -/
theorem spelledVariable_starts (spelled : Statement.SpelledVariable tokens statement rest) :
    ∃ token behind, tokens = token :: behind ∧ token.kind = .keyword .varWord ∧
      rest.length ≤ behind.length := by
  cases spelled with
  | bare isVar _ _ => exact ⟨_, _, rfl, isVar, by simp only [List.length_cons]; omega⟩
  | initialized isVar _ _ initial _ =>
      have shorter := initial.shorter
      simp only [List.length_cons] at shorter
      exact ⟨_, _, rfl, isVar, by simp only [List.length_cons]; omega⟩

/-- What spells a branch of a choice is not empty. -/
theorem spelledBranch_shorter {printEnds valueEnds : List Symbol}
    (spelled : Statement.SpelledBranch printEnds valueEnds tokens statement rest) :
    rest.length < tokens.length := by
  cases spelled with
  | print _ expr _ _ | value expr _ _ =>
      have shorter := expr.shorter
      simp only [List.length_cons] at shorter ⊢
      omega

/-- A statement that begins with an expression begins with what an expression may begin with. -/
theorem spelledValue_starts (spelled : Statement.SpelledValue tokens statement rest) :
    ∃ token behind, tokens = token :: behind ∧ StartsExpr token.kind ∧
      rest.length ≤ behind.length := by
  cases spelled with
  | expression expr _ =>
      obtain ⟨token, behind, rfl, starts, shorter⟩ := expr.starts
      simp only [List.length_cons] at shorter
      exact ⟨token, behind, rfl, starts, by omega⟩
  | choice condition _ first second =>
      obtain ⟨token, behind, rfl, starts, shorter⟩ := condition.starts
      have fewer := spelledBranch_shorter first
      have fewest := spelledBranch_shorter second
      simp only [List.length_cons] at shorter
      exact ⟨token, behind, rfl, starts, by omega⟩

/-- An expression that may be left out leaves over no more tokens than there were. -/
theorem spelledOption_shorter {value : Option Expr}
    (spelled : Expr.SpelledOption tokens value rest) :
    rest.length ≤ tokens.length := by
  cases spelled with
  | none => exact Nat.le_refl _
  | some expr => exact Nat.le_of_lt expr.shorter

/-- The first clause of a loop takes at least its semicolon. -/
theorem spelledInitial_shorter {initial : Option Statement}
    (spelled : Statement.SpelledInitial tokens initial rest) : rest.length < tokens.length := by
  cases spelled with
  | none _ => exact Nat.lt_succ_self _
  | «variable» spelled =>
      obtain ⟨_, _, rfl, -, shorter⟩ := spelledVariable_starts spelled
      exact Nat.lt_succ_of_le shorter
  | value spelled =>
      obtain ⟨_, _, rfl, -, shorter⟩ := spelledValue_starts spelled
      exact Nat.lt_succ_of_le shorter

/-- There are no more names than tokens that spell them. -/
theorem spelledNames_shorter {names : List String}
    (spelled : Statement.SpelledNames tokens names rest) :
    names.length + rest.length ≤ tokens.length := by
  induction spelled with
  | last _ => simp only [List.length_cons, List.length_nil]; omega
  | more _ _ _ ih => simp only [List.length_cons]; omega

/-- There are no more parameters than tokens that spell them. -/
theorem spelledParameters_shorter {names : List String}
    (spelled : Statement.SpelledParameters tokens names rest) :
    names.length + rest.length ≤ tokens.length := by
  cases spelled with
  | none => simp
  | some names _ => exact spelledNames_shorter names

mutual

/-- What spells a statement begins with a token that a statement may begin with, and takes at least
that one. -/
theorem spelled_starts {inFunction : Bool} {tokens rest : List Token} {statement : Statement} :
    Statement.Spelled inFunction tokens statement rest → ∃ token behind, tokens = token :: behind ∧
      StartsStatement token.kind ∧ rest.length ≤ behind.length
  | .value spelled => by
      obtain ⟨token, behind, rfl, starts, shorter⟩ := spelledValue_starts spelled
      exact ⟨token, behind, rfl, .inl starts, shorter⟩
  | .print isPrint expr _ => by
      have shorter := expr.shorter
      simp only [List.length_cons] at shorter
      exact ⟨_, _, rfl, .inr ⟨.printWord, isPrint⟩, by omega⟩
  | .giveBack isReturn value _ => by
      have shorter := spelledOption_shorter value
      simp only [List.length_cons] at shorter
      exact ⟨_, _, rfl, .inr ⟨.returnWord, isReturn⟩, by omega⟩
  | .block opens body _ => by
      have shorter := spelledList_shorter body
      simp only [List.length_cons] at shorter
      exact ⟨_, _, rfl, .inr ⟨.brace, opens⟩, by omega⟩
  | .branch isIf _ condition _ positive _ => by
      obtain ⟨_, _, rfl, -, fewer⟩ := spelled_starts positive
      have shorter := condition.shorter
      simp only [List.length_cons] at shorter
      exact ⟨_, _, rfl, .inr ⟨.ifWord, isIf⟩, by simp only [List.length_cons]; omega⟩
  | .branchElse isIf _ condition _ positive _ negative => by
      obtain ⟨_, _, rfl, -, fewer⟩ := spelled_starts positive
      obtain ⟨_, _, rfl, -, fewest⟩ := spelled_starts negative
      have shorter := condition.shorter
      simp only [List.length_cons] at shorter fewer
      exact ⟨_, _, rfl, .inr ⟨.ifWord, isIf⟩, by simp only [List.length_cons]; omega⟩
  | .whileLoop isWhile _ condition _ body => by
      obtain ⟨_, _, rfl, -, fewer⟩ := spelled_starts body
      have shorter := condition.shorter
      simp only [List.length_cons] at shorter
      exact ⟨_, _, rfl, .inr ⟨.whileWord, isWhile⟩, by simp only [List.length_cons]; omega⟩
  | .doWhileLoop isDo body _ _ condition _ _ => by
      obtain ⟨_, _, rfl, -, fewer⟩ := spelled_starts body
      have shorter := condition.shorter
      simp only [List.length_cons] at shorter fewer
      exact ⟨_, _, rfl, .inr ⟨.doWord, isDo⟩, by simp only [List.length_cons]; omega⟩
  | .forLoop isFor _ initial condition _ increment _ body => by
      obtain ⟨_, _, rfl, -, fewer⟩ := spelled_starts body
      have first := spelledInitial_shorter initial
      have second := spelledOption_shorter condition
      have third := spelledOption_shorter increment
      simp only [List.length_cons] at second third
      exact ⟨_, _, rfl, .inr ⟨.forWord, isFor⟩, by simp only [List.length_cons]; omega⟩

/-- What spells a declaration begins with a token that a declaration may begin with, and takes at
least that one. -/
theorem spelledDeclaration_starts {inFunction : Bool} {tokens rest : List Token}
    {statement : Statement} :
    Statement.SpelledDeclaration inFunction tokens statement rest →
      ∃ token behind, tokens = token :: behind ∧ StartsDeclaration token.kind ∧
        rest.length ≤ behind.length
  | .«variable» spelled => by
      obtain ⟨token, behind, rfl, isVar, shorter⟩ := spelledVariable_starts spelled
      exact ⟨token, behind, rfl, .inr (.inr isVar), shorter⟩
  | .function isFun _ _ parameters _ _ body _ => by
      have shorter := spelledParameters_shorter parameters
      have fewer := spelledList_shorter body
      simp only [List.length_cons] at shorter fewer
      exact ⟨_, _, rfl, .inr (.inl isFun), by simp only [List.length_cons]; omega⟩
  | .statement spelled => by
      obtain ⟨token, behind, rfl, starts, shorter⟩ := spelled_starts spelled
      exact ⟨token, behind, rfl, .inl starts, shorter⟩

/-- There are no more declarations than tokens that spell them, so that the rounds of a block
suffice. -/
theorem spelledList_shorter {inFunction : Bool} {tokens rest : List Token}
    {statements : List Statement} :
    Statement.SpelledList inFunction tokens statements rest →
      statements.length + rest.length ≤ tokens.length
  | .nil => by simp
  | .cons first later => by
      obtain ⟨_, _, rfl, -, shorter⟩ := spelledDeclaration_starts first
      have fewer := spelledList_shorter later
      simp only [List.length_cons]
      omega

end

/-- Behind declarations stands no `else`, if none stands behind all of them. -/
theorem noElse_of_spelledList {inFunction : Bool} {statements : List Statement}
    (spelled : Statement.SpelledList inFunction tokens statements rest)
    (noElse : Ahead (· ≠ .keyword .elseWord) rest) : Ahead (· ≠ .keyword .elseWord) tokens := by
  cases spelled with
  | nil => exact noElse
  | cons first _ =>
      obtain ⟨token, behind, rfl, starts, -⟩ := spelledDeclaration_starts first
      rw [ahead_cons]
      intro isElse
      rw [isElse] at starts
      rcases starts with (starts | ⟨opening, same⟩) | same | same
      · exact absurd (keyword_of_startsExpr starts) (by decide)
      · cases opening <;> cases same
      · cases same
      · cases same

/-! ## Statements that begin with an expression -/

/-- A branch of a choice is read up to the symbol that ends it, if the parser is asked for the
symbols of its place. -/
theorem reads_choiceBranch {colonMayEnd : Bool} {symbol : Symbol} {what : Expectation}
    {printEnds : List Symbol}
    (spelled : Statement.SpelledBranch printEnds [symbol] tokens statement rest)
    (enough : tokens.length + 1 < bound) (closes : symbol ∈ closers)
    (ends : ∀ symbol ∈ printEnds, symbol = .semicolon ∨ colonMayEnd = true ∧ symbol = .colon) :
    (choiceBranch colonMayEnd symbol what (expression Level.all bound)).Reads tokens statement
      rest := by
  cases spelled with
  | print isPrint expr mayEnd isSymbol =>
      rw [List.length_cons] at enough
      refine reads_choiceBranch_iff.mpr (.inl ⟨_, _, rfl, isPrint, reads_print_iff.mpr ?_⟩)
      rcases ends _ mayEnd with rfl | ⟨withColon, rfl⟩
      · exact ⟨_, _, reads_expression expr (by omega) isSymbol (by decide), .inl isSymbol, rfl⟩
      · exact ⟨_, _, reads_expression expr (by omega) isSymbol (by decide),
          .inr ⟨withColon, isSymbol⟩, rfl⟩
  | value expr mayEnd isSymbol =>
      obtain rfl := List.mem_singleton.mp mayEnd
      have noPrint : Ahead (· ≠ .keyword .printWord) tokens := by
        obtain ⟨token, behind, rfl, starts, -⟩ := expr.starts
        rw [ahead_cons]
        exact opening_ne_of_startsExpr starts .printWord
      exact reads_choiceBranch_iff.mpr (.inr ⟨noPrint, reads_endedBy_iff.mpr
        ⟨_, _, reads_expression expr enough isSymbol closes, isSymbol, rfl⟩⟩)

/-- A statement that begins with an expression is read as it is spelled, a choice between two
statements included. -/
theorem reads_expressionStatement (spelled : Statement.SpelledValue tokens statement rest)
    (enough : tokens.length + 1 < bound) :
    (expressionStatement (expression Level.all bound)).Reads tokens statement rest := by
  cases spelled with
  | expression expr isSemicolon =>
      exact reads_expressionStatement_iff.mpr ⟨_, _, _,
        reads_expression expr enough isSemicolon (by decide), .inr ⟨isSemicolon, rfl, rfl⟩⟩
  | choice condition isQuestion first second =>
      have shorter := condition.shorter
      have fewer := spelledBranch_shorter first
      rw [List.length_cons] at shorter
      have positive : (choiceBranch true .colon .colonAfterStatement
          (expression Level.all bound)).Reads _ _ _ :=
        reads_choiceBranch first (by omega) (by decide) (by simp)
      have negative : (choiceBranch false .semicolon .semicolonAfterExpression
          (expression Level.all bound)).Reads _ _ _ :=
        reads_choiceBranch second (by omega) (by decide) (by simp)
      exact reads_expressionStatement_iff.mpr ⟨_, _, _,
        reads_expression condition enough isQuestion (by decide),
        .inl ⟨isQuestion, reads_choice_iff.mpr ⟨_, _, _, positive, negative, rfl⟩⟩⟩

/-! ## Variables and the clauses of loops -/

/-- The declaration of a variable is read behind its keyword. -/
theorem reads_variableDeclaration (spelled : Statement.SpelledVariable tokens statement rest)
    (enough : tokens.length + 1 < bound) :
    ∃ keyword behind, tokens = keyword :: behind ∧ keyword.kind = .keyword .varWord ∧
      (variableDeclaration (expression Level.all bound)).Reads behind statement rest := by
  cases spelled with
  | bare isVar isTarget closes =>
      exact ⟨_, _, rfl, isVar, reads_variableDeclaration_iff.mpr
        ⟨_, _, _, _, _, rfl, isTarget, closes, rfl, .inl ⟨rfl, rfl⟩⟩⟩
  | initialized isVar isTarget isEqual initial closes =>
      simp only [List.length_cons] at enough
      have read := reads_expression initial (show _ < bound by omega) closes (by decide)
      exact ⟨_, _, rfl, isVar, reads_variableDeclaration_iff.mpr
        ⟨_, _, _, _, _, rfl, isTarget, closes, rfl, .inr ⟨_, _, _, rfl, isEqual, read, rfl⟩⟩⟩

/-- The first clause of a loop is read as it is spelled: a variable, an expression, or the semicolon
alone. -/
theorem reads_initialClause {initial : Option Statement}
    (spelled : Statement.SpelledInitial tokens initial rest) (enough : tokens.length + 1 < bound) :
    (initialClause (expression Level.all bound)).Reads tokens initial rest := by
  cases spelled with
  | none closes => exact reads_initialClause_iff.mpr (.inl ⟨_, rfl, closes, rfl⟩)
  | «variable» spelled =>
      obtain ⟨keyword, behind, rfl, isVar, read⟩ := reads_variableDeclaration spelled enough
      exact reads_initialClause_iff.mpr (.inr (.inl ⟨keyword, behind, _, rfl, isVar, read, rfl⟩))
  | value spelled =>
      have read := reads_expressionStatement spelled enough
      obtain ⟨token, behind, rfl, starts, -⟩ := spelledValue_starts spelled
      have noEnd : token.kind ≠ .symbol .semicolon :=
        fun same => not_startsExpr_symbol (.inl (by decide)) (same ▸ starts)
      have noVar : token.kind ≠ .keyword .varWord :=
        fun same => absurd (keyword_of_startsExpr (same ▸ starts)) (by decide)
      exact reads_initialClause_iff.mpr
        (.inr (.inr ⟨by simpa using noEnd, by simpa using noVar, _, read, rfl⟩))

/-- An expression that may be left out is read up to the symbol behind it, and is missing where this
symbol comes at once. -/
theorem reads_unlessNext {symbol : Symbol} {closing : Token} {value : Option Expr}
    (spelled : Expr.SpelledOption tokens value (closing :: rest))
    (enough : tokens.length + 1 < bound) (isSymbol : closing.kind = .symbol symbol)
    (closes : symbol ∈ closers) :
    (unlessNext symbol (expression Level.all bound)).Reads tokens value (closing :: rest) := by
  cases spelled with
  | none => exact reads_unlessNext_iff.mpr (.inl ⟨_, _, rfl, isSymbol, rfl, rfl⟩)
  | some expr =>
      have read := reads_expression expr enough isSymbol closes
      obtain ⟨token, behind, rfl, starts, -⟩ := expr.starts
      have present : token.kind ≠ .symbol symbol :=
        fun same => not_startsExpr_symbol (.inl closes) (same ▸ starts)
      exact reads_unlessNext_iff.mpr (.inr ⟨by simpa using present, _, read, rfl⟩)

/-! ## Functions -/

/-- Names with commas between them are read one by one. -/
theorem separated_of_spelledNames {what : Expectation} {names : List String}
    (spelled : Statement.SpelledNames tokens names rest) :
    Separated (do return (← expectIdentifier what).1 : Parser String).Reads tokens names rest := by
  have first {token : Token} {name : String} {rest : List Token}
      (isName : token.kind = .identifier name) :
      (do return (← expectIdentifier what).1 : Parser String).Reads (token :: rest) name rest :=
    reads_bind_iff.mpr ⟨(name, token.line), rest,
      reads_expectIdentifier_iff.mpr ⟨token, rfl, isName, rfl⟩, reads_pure_iff.mpr ⟨rfl, rfl⟩⟩
  induction spelled with
  | last isName => exact .last (first isName)
  | more isName isComma _ ih => exact .more (first isName) isComma ih

theorem reads_parameters {what : Expectation} {closing : Token} {names : List String}
    (spelled : Statement.SpelledParameters tokens names (closing :: rest))
    (enough : tokens.length ≤ bound) (closes : closing.kind = .symbol .rightParen) :
    (commaSeparated bound .parameters do return (← expectIdentifier what).1).Reads tokens names
      (closing :: rest) := by
  have shorter := spelledParameters_shorter spelled
  cases spelled with
  | none => exact reads_commaSeparated_nil closes
  | some spelled few =>
      have starts : Ahead (· ≠ .symbol .rightParen) tokens := by
        cases spelled with
        | last isName | more isName _ _ => simp [isName]
      exact reads_commaSeparated (separated_of_spelledNames spelled) few (by omega) starts
        (by simp [closes])

/-! ## All of them together -/

/-- A statement that some token opens is read behind this token, as its opening asks. -/
theorem reads_opening {parser : Parser Expr} {body : Parser Statement}
    {block : Parser (List Statement)} {token : Token} (opening : Opening)
    (isOpening : token.kind = opening.kind)
    (read :
      (behindOpening inFunction parser body block token opening).Reads tokens statement rest) :
    (statementOf inFunction parser body block).Reads (token :: tokens) statement rest :=
  reads_statementOf_iff.mpr (.inr ⟨token, tokens, opening, rfl, isOpening, read⟩)

/-- No statement begins with the keyword of a function or a variable. -/
theorem keyword_ne_of_startsStatement {kind : TokenKind} (starts : StartsStatement kind) :
    kind ≠ .keyword .funWord ∧ kind ≠ .keyword .varWord := by
  rcases starts with starts | ⟨opening, rfl⟩
  · constructor
    all_goals
      rintro rfl
      exact absurd (keyword_of_startsExpr starts) (by decide)
  · cases opening <;> decide

/-- Before a token that a declaration may begin with, a block is not at its end. -/
theorem ended_of_startsDeclaration {token : Token} {behind : List Token}
    (starts : StartsDeclaration token.kind) :
    Ended (·.isSymbol .rightBrace) (token :: behind) = false := by
  have other : token.kind ≠ .symbol .rightBrace := by
    intro same
    rw [same] at starts
    rcases starts with (starts | ⟨opening, same⟩) | same | same
    · exact not_startsExpr_symbol (by decide) starts
    · cases opening <;> cases same
    · cases same
    · cases same
  simpa [Ended, Token.isSymbol] using other

/-- A closing brace ends a block. -/
theorem reads_block {declaration : Parser Statement} {closing : Token}
    {statements : List Statement} (enough : statements.length < bound)
    (sequence : Sequence (·.isSymbol .rightBrace) declaration tokens statements (closing :: rest))
    (closes : closing.kind = .symbol .rightBrace) :
    (block bound (recovering declaration)).Reads tokens statements rest :=
  reads_block_iff.mpr ⟨closing, enough, closes, sequence⟩

mutual

/-- **Statements that are spelled are read**, where the bound allows for their tokens. -/
theorem reads_of_spelled {inFunction : Bool} {tokens rest : List Token} {statement : Statement} :
    Statement.Spelled inFunction tokens statement rest → ∀ {bound : Nat},
      2 * tokens.length + 3 ≤ bound →
      (Grammar.statement Level.all bound inFunction).Reads tokens statement rest
  | _, 0, enough => by omega
  | .value spelled, bound + 1, enough => by
      have read := reads_expressionStatement spelled (show _ < bound by omega)
      obtain ⟨token, behind, rfl, starts, -⟩ := spelledValue_starts spelled
      rw [statement_succ]
      exact reads_statementOf_iff.mpr (.inl ⟨by
        rw [ahead_cons]
        exact opening_ne_of_startsExpr starts, read⟩)
  | .print isPrint expr closes, bound + 1, enough => by
      rw [List.length_cons] at enough
      have read := reads_expression expr (show _ < bound by omega) closes (by decide)
      rw [statement_succ]
      exact reads_opening .printWord isPrint
        (reads_print_iff.mpr ⟨_, _, read, .inl closes, rfl⟩)
  | .giveBack isReturn value closes, bound + 1, enough => by
      rw [List.length_cons] at enough
      have read := reads_unlessNext value (show _ < bound by omega) closes (by decide)
      rw [statement_succ]
      exact reads_opening .returnWord isReturn
        (reads_giveBack_iff.mpr ⟨rfl, _, _, read, closes, rfl⟩)
  | .block opens body closes, bound + 1, enough => by
      rw [List.length_cons] at enough
      have fewer := spelledList_shorter body
      have sequence := sequence_of_spelledList body (show _ ≤ bound by omega)
      rw [statement_succ, declaration_eq]
      exact reads_opening .brace opens (reads_bind_iff.mpr
        ⟨_, _, reads_block (by omega) sequence closes, reads_pure_iff.mpr ⟨rfl, rfl⟩⟩)
  | .branch isIf opens condition closes positive noElse, bound + 1, enough => by
      have shorter := condition.shorter
      simp only [List.length_cons] at enough shorter
      have first := reads_expression condition (show _ < bound by omega) closes (by decide)
      have second := reads_of_spelled positive (show _ ≤ bound by omega)
      rw [statement_succ]
      exact reads_opening .ifWord isIf (reads_branch_iff.mpr
        ⟨_, _, _, _, _, _, _, rfl, opens, first, closes, second, .inr ⟨rfl, noElse, rfl⟩⟩)
  | .branchElse isIf opens condition closes positive isElse negative, bound + 1, enough => by
      have shorter := condition.shorter
      obtain ⟨_, _, rfl, -, fewer⟩ := spelled_starts positive
      simp only [List.length_cons] at enough shorter fewer
      have first := reads_expression condition (show _ < bound by omega) closes (by decide)
      have second := reads_of_spelled positive
        (show _ ≤ bound by simp only [List.length_cons]; omega)
      have third := reads_of_spelled negative (show _ ≤ bound by omega)
      rw [statement_succ]
      exact reads_opening .ifWord isIf (reads_branch_iff.mpr
        ⟨_, _, _, _, _, _, _, rfl, opens, first, closes, second,
          .inl ⟨_, _, _, rfl, isElse, third, rfl⟩⟩)
  | .whileLoop isWhile opens condition closes body, bound + 1, enough => by
      have shorter := condition.shorter
      simp only [List.length_cons] at enough shorter
      have first := reads_expression condition (show _ < bound by omega) closes (by decide)
      have second := reads_of_spelled body (show _ ≤ bound by omega)
      rw [statement_succ]
      exact reads_opening .whileWord isWhile (reads_whileLoop_iff.mpr
        ⟨_, _, _, _, _, _, rfl, opens, first, closes, second, rfl⟩)
  | .doWhileLoop isDo body isWhile opens condition closes ends, bound + 1, enough => by
      obtain ⟨_, _, rfl, -, fewer⟩ := spelled_starts body
      simp only [List.length_cons] at enough fewer
      have first := reads_of_spelled body (show _ ≤ bound by simp only [List.length_cons]; omega)
      have second := reads_expression condition (show _ < bound by omega) closes (by decide)
      rw [statement_succ]
      exact reads_opening .doWord isDo (reads_doWhileLoop_iff.mpr
        ⟨_, _, _, _, _, _, _, first, isWhile, opens, second, closes, ends, rfl⟩)
  | .forLoop isFor opens initial condition separates increment closes body, bound + 1, enough => by
      have shorter := spelledInitial_shorter initial
      have fewer := spelledOption_shorter condition
      have fewest := spelledOption_shorter increment
      simp only [List.length_cons] at enough fewer fewest
      have first := reads_initialClause initial (show _ < bound by omega)
      have second := reads_unlessNext condition (show _ < bound by omega) separates (by decide)
      have third := reads_unlessNext increment (show _ < bound by omega) closes (by decide)
      have last := reads_of_spelled body (show _ ≤ bound by omega)
      rw [statement_succ]
      exact reads_opening .forWord isFor (reads_forLoop_iff.mpr
        ⟨_, _, _, _, _, _, _, _, _, _, _, rfl, opens, first, second, separates, third, closes, last,
          rfl⟩)

/-- **Completeness of declarations**: what is spelled is read. The bound has to be about twice the
number of tokens, as each token may go through a declaration and a statement. -/
theorem reads_of_spelledDeclaration {inFunction : Bool} {tokens rest : List Token}
    {statement : Statement} :
    Statement.SpelledDeclaration inFunction tokens statement rest → ∀ {bound : Nat},
      2 * tokens.length + 4 ≤ bound →
      (oneDeclaration Level.all inFunction bound).Reads tokens statement rest
  | _, 0, enough => by omega
  | .«variable» spelled, bound + 1, enough => by
      obtain ⟨keyword, behind, rfl, isVar, read⟩ :=
        reads_variableDeclaration spelled (show _ < bound by omega)
      exact reads_declared_iff.mpr (.inr (.inl ⟨keyword, behind, rfl, isVar, read⟩))
  | .function isFun isTarget opens parameters closes isBrace body ends, bound + 1, enough => by
      have shorter := spelledParameters_shorter parameters
      have fewer := spelledList_shorter body
      simp only [List.length_cons] at enough shorter
      have list :=
        @reads_parameters _ _ _ .parameterName _ _ parameters (show _ ≤ bound by omega) closes
      have sequence := sequence_of_spelledList body (show _ ≤ bound by omega)
      rw [oneDeclaration, declaration_eq]
      exact reads_declared_iff.mpr (.inl ⟨_, _, rfl, isFun, reads_function_iff.mpr
        ⟨_, _, _, _, _, _, _, _, _, rfl, isTarget, opens, list, closes, isBrace,
          reads_block (by omega) sequence ends, rfl⟩⟩)
  | .statement spelled, bound + 1, enough => by
      have read := reads_of_spelled spelled (show _ ≤ bound by omega)
      obtain ⟨token, behind, rfl, starts, -⟩ := spelled_starts spelled
      exact reads_declared_iff.mpr (.inr (.inr
        ⟨by simpa using (keyword_ne_of_startsStatement starts).1,
          by simpa using (keyword_ne_of_startsStatement starts).2, read⟩))

/-- The declarations of a block are read one behind the other. -/
theorem sequence_of_spelledList {inFunction : Bool} {tokens rest : List Token}
    {statements : List Statement} :
    Statement.SpelledList inFunction tokens statements rest → ∀ {bound : Nat},
      2 * tokens.length + 4 ≤ bound →
      Sequence (·.isSymbol .rightBrace) (oneDeclaration Level.all inFunction bound) tokens
        statements
        rest
  | .nil, _, _ => .nil
  | .cons first later, bound, enough => by
      have read := reads_of_spelledDeclaration first enough
      obtain ⟨token, behind, rfl, starts, shorter⟩ := spelledDeclaration_starts first
      rw [List.length_cons] at enough
      exact .cons (ended_of_startsDeclaration starts) read
        (sequence_of_spelledList later (show _ ≤ bound by omega))

end

/-- Declarations in a row may be stopped by fewer tokens. -/
theorem Sequence.imp {stop weaker : Token → Bool} {parser : Parser Statement}
    {statements : List Statement} (sequence : Sequence stop parser tokens statements rest)
    (weakens : ∀ token, weaker token = true → stop token = true) :
    Sequence weaker parser tokens statements rest := by
  induction sequence with
  | nil => exact .nil
  | @cons tokens _ _ _ _ goesOn read _ ih =>
      refine .cons ?_ read ih
      cases tokens with
      | nil => exact goesOn
      | cons token behind =>
          have passes := mt (weakens token)
          simp only [Ended, List.isEmpty_cons, List.head?_cons, Option.any_some, Bool.false_or,
            Bool.not_eq_true] at goesOn passes ⊢
          exact passes goesOn

/-- **A program that is spelled is read**, where the bound allows for its tokens. -/
theorem reads_program {statements : List Statement}
    (spelled : Statement.SpelledList false tokens statements [])
    (enough : 2 * tokens.length + 4 ≤ bound) :
    (program Level.all bound).Reads tokens statements [] := by
  have fewer := spelledList_shorter spelled
  rw [program, declaration_eq]
  exact reads_declarations_iff.mpr ⟨by omega, rfl,
    (sequence_of_spelledList spelled enough).imp fun _ never => absurd never Bool.false_ne_true⟩

end Scriptlet.Grammar
