import Scriptlet.Proofs.Grammar.Expression

/-!
# What the productions of statements read cleanly

For each production, what it reads cleanly in terms of what its parts read cleanly.
-/

namespace Scriptlet.Grammar

open Scriptlet.Parser

variable {bound line : Nat} {tokens rest : List Token} {statement : Statement}
  {expr : Parser Expr} {body : Parser Statement}

/-! ## Declarations one behind the other -/

/-- A recovering declaration that reads something without a report reads a statement. -/
theorem reads_recovering_iff {declaration : Parser Statement} {read : Option Statement} :
    (recovering declaration).Reads tokens read rest ↔
      ∃ statement, read = some statement ∧ declaration.Reads tokens statement rest := by
  unfold Reads recovering
  cases declaration tokens with
  | parsed value middle reports =>
      constructor
      · intro same
        cases same
        exact ⟨value, rfl, rfl⟩
      · rintro ⟨_, rfl, same⟩
        cases same
        rfl
  | failed error middle reports => simp
  | unfinished => simp

/-- One round of declarations: the end, or one more of them. -/
def declarationRound (stop : Token → Bool) (declaration : Parser (Option Statement))
    (statements : List Statement) : Parser (Progress (List Statement) (List Statement)) := do
  if (← atEnd) || (← nextIs stop) then return .done statements.reverse
  match ← declaration with
  | some statement => return .more (statement :: statements)
  | none => return .more statements

/-- Declarations are read round by round until they end. -/
theorem declarations_eq (bound : Nat) (stop : Token → Bool)
    (declaration : Parser (Option Statement)) :
    declarations bound stop declaration = iterate (declarationRound stop declaration) bound [] :=
  rfl

/-- Whether no declaration is read from some tokens: there is none left, or the next one stops. -/
def Ended (stop : Token → Bool) (tokens : List Token) : Bool :=
  tokens.isEmpty || tokens.head?.any stop

/-- Declarations go on with one more where they do not end. -/
theorem reads_declarationRound_more_iff {stop : Token → Bool} {declaration : Parser Statement}
    {statements more : List Statement} :
    (declarationRound stop (recovering declaration) statements).Reads tokens (.more more) rest ↔
      Ended stop tokens = false ∧ ∃ statement, declaration.Reads tokens statement rest ∧
        more = statement :: statements := by
  simp only [declarationRound, reads_bind_iff, reads_atEnd_iff, reads_nextIs_iff]
  constructor
  · rintro ⟨_, _, ⟨rfl, rfl⟩, _, _, ⟨rfl, rfl⟩, answer⟩
    split at answer
    · simp [reads_pure_iff] at answer
    · next goesOn =>
      obtain ⟨read, _, recovers, answer⟩ := reads_bind_iff.mp answer
      obtain ⟨statement, rfl, reads⟩ := reads_recovering_iff.mp recovers
      obtain ⟨same, rfl⟩ := reads_pure_iff.mp answer
      cases same
      exact ⟨by simpa [Ended] using goesOn, statement, reads, rfl⟩
  · rintro ⟨goesOn, statement, reads, rfl⟩
    refine ⟨_, _, ⟨rfl, rfl⟩, _, _, ⟨rfl, rfl⟩, ?_⟩
    unfold Ended at goesOn
    rw [goesOn]
    exact reads_bind_iff.mpr ⟨some statement, rest, reads_recovering_iff.mpr
      ⟨statement, rfl, reads⟩, reads_pure_iff.mpr ⟨rfl, rfl⟩⟩

/-- Declarations end where the stop says so, in the order in which they were read. -/
theorem reads_declarationRound_done_iff {stop : Token → Bool} {declaration : Parser Statement}
    {statements read : List Statement} :
    (declarationRound stop (recovering declaration) statements).Reads tokens (.done read) rest ↔
      Ended stop tokens = true ∧ read = statements.reverse ∧ tokens = rest := by
  simp only [declarationRound, reads_bind_iff, reads_atEnd_iff, reads_nextIs_iff]
  constructor
  · rintro ⟨_, _, ⟨rfl, rfl⟩, _, _, ⟨rfl, rfl⟩, answer⟩
    split at answer
    · next ended =>
      obtain ⟨same, rfl⟩ := reads_pure_iff.mp answer
      cases same
      exact ⟨ended, rfl, rfl⟩
    · obtain ⟨read, _, recovers, answer⟩ := reads_bind_iff.mp answer
      obtain ⟨statement, rfl, -⟩ := reads_recovering_iff.mp recovers
      simp [reads_pure_iff] at answer
  · rintro ⟨ended, rfl, rfl⟩
    refine ⟨_, _, ⟨rfl, rfl⟩, _, _, ⟨rfl, rfl⟩, ?_⟩
    unfold Ended at ended
    rw [ended]
    exact reads_pure_iff.mpr ⟨rfl, rfl⟩

/-- Statements that a parser reads one behind the other, none of them where it should end. -/
inductive Sequence (stop : Token → Bool) (declaration : Parser Statement) :
    List Token → List Statement → List Token → Prop
  | nil {tokens : List Token} : Sequence stop declaration tokens [] tokens
  | cons {tokens middle rest : List Token} {statement : Statement} {statements : List Statement} :
      Ended stop tokens = false → declaration.Reads tokens statement middle →
      Sequence stop declaration middle statements rest →
      Sequence stop declaration tokens (statement :: statements) rest

/-- Rounds of declarations read a sequence of statements. -/
theorem rounds_declarations_iff {stop : Token → Bool} {declaration : Parser Statement}
    {count : Nat} {statements read : List Statement} :
    Rounds (declarationRound stop (recovering declaration)) count statements tokens read rest ↔
      ∃ more, read = more.reverse ++ statements ∧ count = more.length ∧
        Sequence stop declaration tokens more rest := by
  constructor
  · intro rounds
    induction rounds with
    | none => exact ⟨[], rfl, rfl, .nil⟩
    | first round _ ih =>
        obtain ⟨goesOn, statement, reads, rfl⟩ := reads_declarationRound_more_iff.mp round
        obtain ⟨more, rfl, rfl, sequence⟩ := ih
        exact ⟨statement :: more, by simp, rfl, .cons goesOn reads sequence⟩
  · rintro ⟨more, rfl, rfl, sequence⟩
    induction sequence generalizing statements with
    | nil => exact .none
    | @cons _ _ _ statement more goesOn reads _ ih =>
        have later := @ih (statement :: statements)
        rw [List.reverse_cons, List.append_assoc]
        exact .first (reads_declarationRound_more_iff.mpr ⟨goesOn, statement, reads, rfl⟩) later

/-- Declarations are read cleanly when each is, and there are fewer than the bound. -/
theorem reads_declarations_iff {stop : Token → Bool} {declaration : Parser Statement}
    {statements : List Statement} :
    (declarations bound stop (recovering declaration)).Reads tokens statements rest ↔
      statements.length < bound ∧ Ended stop rest = true ∧
        Sequence stop declaration tokens statements rest := by
  rw [declarations_eq, reads_iterate_iff]
  constructor
  · rintro ⟨count, last, middle, within, rounds, done⟩
    obtain ⟨ended, rfl, rfl⟩ := reads_declarationRound_done_iff.mp done
    obtain ⟨more, rfl, rfl, sequence⟩ := rounds_declarations_iff.mp rounds
    rw [List.append_nil, List.reverse_reverse]
    exact ⟨within, ended, sequence⟩
  · rintro ⟨within, ended, sequence⟩
    refine ⟨statements.length, statements.reverse, rest, within,
      rounds_declarations_iff.mpr ⟨statements, by simp, rfl, sequence⟩,
      reads_declarationRound_done_iff.mpr ⟨ended, by simp, rfl⟩⟩

/-- A block is a sequence of declarations up to its brace. -/
theorem reads_block_iff {declaration : Parser Statement} {statements : List Statement} :
    (block bound (recovering declaration)).Reads tokens statements rest ↔
      ∃ closing, statements.length < bound ∧ closing.kind = .symbol .rightBrace ∧
        Sequence (·.isSymbol .rightBrace) declaration tokens statements (closing :: rest) := by
  simp only [block, reads_bind_iff, reads_declarations_iff, reads_expectSymbol_iff, reads_pure_iff]
  constructor
  · rintro ⟨_, _, ⟨within, -, sequence⟩, closing, _, ⟨rfl, closes⟩, rfl, rfl⟩
    exact ⟨closing, within, closes, sequence⟩
  · rintro ⟨closing, within, closes, sequence⟩
    exact ⟨statements, closing :: rest, ⟨within, by simp [Ended, Token.isSymbol, closes], sequence⟩,
      closing, rest, ⟨rfl, closes⟩, rfl, rfl⟩

/-! ## Functions and variables -/

/-- A function is a name, parameters between parentheses, and a body between braces. -/
theorem reads_function_iff {body : Parser (List Statement)} :
    (function bound body).Reads tokens statement rest ↔
      ∃ target name opening inside parameters closing brace behind statements,
        tokens = target :: opening :: inside ∧ target.kind = .identifier name ∧
        opening.kind = .symbol .leftParen ∧
        (commaSeparated bound .parameters do
          return (← expectIdentifier .parameterName).1).Reads inside parameters
            (closing :: brace :: behind) ∧
        closing.kind = .symbol .rightParen ∧ brace.kind = .symbol .leftBrace ∧
        body.Reads behind statements rest ∧
        statement = .function target.line name parameters statements := by
  simp only [function, reads_bind_iff, reads_expectSymbol_iff, reads_pure_iff]
  constructor
  · rintro ⟨⟨name, line⟩, _, isName, opening, inside, ⟨rfl, opens⟩, parameters, _, list, closing, _,
      ⟨rfl, closes⟩, brace, behind, ⟨rfl, isBrace⟩, statements, _, read, rfl, rfl⟩
    obtain ⟨target, rfl, isTarget, rfl⟩ := reads_expectIdentifier_iff.mp isName
    exact ⟨target, name, opening, inside, parameters, closing, brace, behind, statements, rfl,
      isTarget, opens, list, closes, isBrace, read, rfl⟩
  · rintro ⟨target, name, opening, inside, parameters, closing, brace, behind, statements, rfl,
      isTarget, opens, list, closes, isBrace, read, rfl⟩
    exact ⟨(name, target.line), _, reads_expectIdentifier_iff.mpr ⟨target, rfl, isTarget, rfl⟩,
      opening, inside, ⟨rfl, opens⟩, parameters, _, list, closing, _, ⟨rfl, closes⟩, brace, behind,
      ⟨rfl, isBrace⟩, statements, rest, read, rfl, rfl⟩

/-- A variable is a name, perhaps with a value behind an equals sign, and a semicolon. -/
theorem reads_variableDeclaration_iff :
    (variableDeclaration expr).Reads tokens statement rest ↔
      ∃ target name behind closing initial, tokens = target :: behind ∧
        target.kind = .identifier name ∧ closing.kind = .symbol .semicolon ∧
        statement = .declare target.line name initial ∧
        ((initial = none ∧ behind = closing :: rest) ∨
          ∃ equal inside value, behind = equal :: inside ∧ equal.kind = .symbol .equal ∧
            expr.Reads inside value (closing :: rest) ∧ initial = some value) := by
  simp only [variableDeclaration, reads_bind_iff]
  constructor
  · rintro ⟨⟨name, line⟩, behind, isName, accepted, middle, accepts, answer⟩
    obtain ⟨target, rfl, isTarget, rfl⟩ := reads_expectIdentifier_iff.mp isName
    cases accepted with
    | some equal =>
        obtain ⟨rfl, isEqual⟩ := reads_acceptSymbol_some_iff.mp accepts
        obtain ⟨initial, _, given, answer⟩ := reads_bind_iff.mp answer
        obtain ⟨value, read, rfl⟩ := reads_map_iff.mp given
        simp only [reads_bind_iff, reads_expectSymbol_iff, reads_pure_iff] at answer
        obtain ⟨closing, _, ⟨rfl, closes⟩, rfl, rfl⟩ := answer
        exact ⟨target, name, _, closing, some value, rfl, isTarget, closes, rfl,
          .inr ⟨equal, middle, value, rfl, isEqual, read, rfl⟩⟩
    | none =>
        obtain ⟨rfl, -⟩ := reads_acceptSymbol_none_iff.mp accepts
        simp only [reads_bind_iff, reads_expectSymbol_iff, reads_pure_iff] at answer
        obtain ⟨_, _, ⟨rfl, rfl⟩, closing, _, ⟨rfl, closes⟩, rfl, rfl⟩ := answer
        exact ⟨target, name, _, closing, none, rfl, isTarget, closes, rfl, .inl ⟨rfl, rfl⟩⟩
  · rintro ⟨target, name, behind, closing, initial, rfl, isTarget, closes, rfl, given⟩
    refine ⟨(name, target.line), behind,
      reads_expectIdentifier_iff.mpr ⟨target, rfl, isTarget, rfl⟩, ?_⟩
    rcases given with ⟨rfl, rfl⟩ | ⟨equal, inside, value, rfl, isEqual, read, rfl⟩
    · refine ⟨none, closing :: rest, reads_acceptSymbol_none_iff.mpr ⟨rfl, by simp [closes]⟩, ?_⟩
      simp only [reads_bind_iff, reads_expectSymbol_iff, reads_pure_iff]
      exact ⟨none, _, ⟨rfl, rfl⟩, closing, rest, ⟨rfl, closes⟩, rfl, rfl⟩
    · refine ⟨some equal, inside, reads_acceptSymbol_some_iff.mpr ⟨rfl, isEqual⟩, ?_⟩
      simp only [reads_bind_iff, reads_map_iff, reads_expectSymbol_iff, reads_pure_iff]
      exact ⟨some value, _, ⟨value, read, rfl⟩, closing, rest, ⟨rfl, closes⟩, rfl, rfl⟩

/-! ## Statements that begin with an expression -/

/-- A print statement ends at a semicolon, and in a branch of a choice at a colon as well. -/
theorem reads_print_iff {colonMayEnd : Bool} :
    (print line colonMayEnd expr).Reads tokens statement rest ↔
      ∃ value closing, expr.Reads tokens value (closing :: rest) ∧
        (closing.kind = .symbol .semicolon ∨ colonMayEnd = true ∧ closing.kind = .symbol .colon) ∧
        statement = .print line value := by
  have semicolon {value : Expr} {middle : List Token} :
      (do let _ ← expectSymbol .semicolon .semicolonAfterPrint
          return .print line value : Parser Statement).Reads middle statement rest ↔
        ∃ closing, middle = closing :: rest ∧ closing.kind = .symbol .semicolon ∧
          statement = .print line value := by
    simp only [reads_bind_iff, reads_expectSymbol_iff, reads_pure_iff]
    constructor
    · rintro ⟨closing, _, ⟨rfl, closes⟩, rfl, rfl⟩
      exact ⟨closing, rfl, closes, rfl⟩
    · rintro ⟨closing, rfl, closes, rfl⟩
      exact ⟨closing, rest, ⟨rfl, closes⟩, rfl, rfl⟩
  simp only [print, reads_bind_iff]
  constructor
  · rintro ⟨value, middle, read, answer⟩
    cases colonMayEnd with
    | false =>
        obtain ⟨closing, rfl, closes, rfl⟩ := semicolon.mp answer
        exact ⟨value, closing, read, .inl closes, rfl⟩
    | true =>
        obtain ⟨accepted, behind, accepts, outcome⟩ := reads_bind_iff.mp answer
        cases accepted with
        | none =>
            obtain ⟨rfl, -⟩ := reads_acceptSymbol_none_iff.mp accepts
            obtain ⟨closing, rfl, closes, rfl⟩ := semicolon.mp outcome
            exact ⟨value, closing, read, .inl closes, rfl⟩
        | some colon =>
            obtain ⟨rfl, isColon⟩ := reads_acceptSymbol_some_iff.mp accepts
            obtain ⟨rfl, rfl⟩ := reads_pure_iff.mp outcome
            exact ⟨value, colon, read, .inr ⟨rfl, isColon⟩, rfl⟩
  · rintro ⟨value, closing, read, closes, rfl⟩
    refine ⟨value, closing :: rest, read, ?_⟩
    cases colonMayEnd with
    | false =>
        have closes : closing.kind = .symbol .semicolon := by simpa using closes
        exact semicolon.mpr ⟨closing, rfl, closes, rfl⟩
    | true =>
        rcases closes with closes | ⟨-, isColon⟩
        · exact reads_bind_iff.mpr ⟨none, closing :: rest,
            reads_acceptSymbol_none_iff.mpr ⟨rfl, by simp [closes]⟩,
            semicolon.mpr ⟨closing, rfl, closes, rfl⟩⟩
        · exact reads_bind_iff.mpr ⟨some closing, rest,
            reads_acceptSymbol_some_iff.mpr ⟨rfl, isColon⟩, reads_pure_iff.mpr ⟨rfl, rfl⟩⟩

/-- An expression that ends in a symbol stands as a statement by itself. -/
theorem reads_endedBy_iff {symbol : Symbol} {what : Expectation} :
    (endedBy symbol what expr).Reads tokens statement rest ↔
      ∃ value closing, expr.Reads tokens value (closing :: rest) ∧
        closing.kind = .symbol symbol ∧ statement = .expression value.line value := by
  simp only [endedBy, reads_bind_iff, reads_expectSymbol_iff, reads_pure_iff]
  constructor
  · rintro ⟨value, _, read, closing, _, ⟨rfl, closes⟩, rfl, rfl⟩
    exact ⟨value, closing, read, closes, rfl⟩
  · rintro ⟨value, closing, read, closes, rfl⟩
    exact ⟨value, _, read, closing, rest, ⟨rfl, closes⟩, rfl, rfl⟩

/-- One branch of a choice: a print statement if that word comes next, and else an expression. -/
def choiceBranch (colonMayEnd : Bool) (symbol : Symbol) (what : Expectation)
    (expr : Parser Expr) : Parser Statement := do
  match ← acceptKeyword .printWord with
  | some keyword => print keyword.line colonMayEnd expr
  | none => endedBy symbol what expr

/-- A choice is its two branches, one behind the other, on the line of the condition. -/
theorem choice_eq (condition : Expr) (expr : Parser Expr) :
    choice condition expr = (do
      let positive ← choiceBranch true .colon .colonAfterStatement expr
      let negative ← choiceBranch false .semicolon .semicolonAfterExpression expr
      return .choice condition.line condition positive negative) := by
  simp only [choice, choiceBranch, bind_assoc]
  refine bind_congr fun accepted => ?_
  cases accepted with
  | some keyword =>
      refine bind_congr fun positive => bind_congr fun accepted => ?_
      cases accepted <;> rfl
  | none =>
      refine bind_congr fun positive => bind_congr fun accepted => ?_
      cases accepted <;> rfl

/-- A branch of a choice prints if it begins with the keyword, and is an expression otherwise. -/
theorem reads_choiceBranch_iff {colonMayEnd : Bool} {symbol : Symbol} {what : Expectation} :
    (choiceBranch colonMayEnd symbol what expr).Reads tokens statement rest ↔
      (∃ keyword behind, tokens = keyword :: behind ∧ keyword.kind = .keyword .printWord ∧
        (print keyword.line colonMayEnd expr).Reads behind statement rest) ∨
      (Ahead (· ≠ .keyword .printWord) tokens ∧
        (endedBy symbol what expr).Reads tokens statement rest) := by
  simp only [choiceBranch, reads_bind_iff]
  constructor
  · rintro ⟨accepted, middle, accepts, read⟩
    cases accepted with
    | some keyword =>
        obtain ⟨rfl, isPrint⟩ := reads_acceptKeyword_some_iff.mp accepts
        exact .inl ⟨keyword, middle, rfl, isPrint, read⟩
    | none =>
        obtain ⟨rfl, other⟩ := reads_acceptKeyword_none_iff.mp accepts
        exact .inr ⟨other, read⟩
  · rintro (⟨keyword, behind, rfl, isPrint, read⟩ | ⟨other, read⟩)
    · exact ⟨some keyword, behind, reads_acceptKeyword_some_iff.mpr ⟨rfl, isPrint⟩, read⟩
    · exact ⟨none, tokens, reads_acceptKeyword_none_iff.mpr ⟨rfl, other⟩, read⟩

/-- A choice is read branch by branch. -/
theorem reads_choice_iff {condition : Expr} :
    (choice condition expr).Reads tokens statement rest ↔
      ∃ positive middle negative,
        (choiceBranch true .colon .colonAfterStatement expr).Reads tokens positive middle ∧
        (choiceBranch false .semicolon .semicolonAfterExpression expr).Reads middle negative rest ∧
        statement = .choice condition.line condition positive negative := by
  rw [choice_eq]
  simp only [reads_bind_iff, reads_pure_iff]
  constructor
  · rintro ⟨positive, middle, first, negative, _, second, rfl, rfl⟩
    exact ⟨positive, middle, negative, first, second, rfl⟩
  · rintro ⟨positive, middle, negative, first, second, rfl⟩
    exact ⟨positive, middle, first, negative, rest, second, rfl, rfl⟩

/-- An expression is the condition of a choice if a question mark follows, and a statement by itself
if a semicolon does. -/
theorem reads_expressionStatement_iff :
    (expressionStatement expr).Reads tokens statement rest ↔
      ∃ value next behind, expr.Reads tokens value (next :: behind) ∧
        ((next.kind = .symbol .question ∧ (choice value expr).Reads behind statement rest) ∨
          (next.kind = .symbol .semicolon ∧ behind = rest ∧
            statement = .expression value.line value)) := by
  simp only [expressionStatement, reads_bind_iff]
  constructor
  · rintro ⟨value, middle, read, accepted, behind, accepts, answer⟩
    cases accepted with
    | some question =>
        obtain ⟨rfl, isQuestion⟩ := reads_acceptSymbol_some_iff.mp accepts
        exact ⟨value, question, behind, read, .inl ⟨isQuestion, answer⟩⟩
    | none =>
        obtain ⟨rfl, -⟩ := reads_acceptSymbol_none_iff.mp accepts
        simp only [reads_bind_iff, reads_expectSymbol_iff, reads_pure_iff] at answer
        obtain ⟨closing, _, ⟨rfl, closes⟩, rfl, rfl⟩ := answer
        exact ⟨value, closing, _, read, .inr ⟨closes, rfl, rfl⟩⟩
  · rintro ⟨value, next, behind, read, ⟨isQuestion, chosen⟩ | ⟨closes, rfl, rfl⟩⟩
    · exact ⟨value, next :: behind, read, some next, behind,
        reads_acceptSymbol_some_iff.mpr ⟨rfl, isQuestion⟩, chosen⟩
    · refine ⟨value, next :: behind, read, none, next :: behind,
        reads_acceptSymbol_none_iff.mpr ⟨rfl, by simp [closes]⟩, ?_⟩
      exact reads_bind_iff.mpr ⟨next, behind, reads_expectSymbol_iff.mpr ⟨rfl, closes⟩,
        reads_pure_iff.mpr ⟨rfl, rfl⟩⟩

/-! ## Statements that begin with a keyword -/

/-- The first clause of a loop is empty, a variable, or an expression. -/
theorem reads_initialClause_iff {initial : Option Statement} :
    (initialClause expr).Reads tokens initial rest ↔
      (∃ closing, tokens = closing :: rest ∧ closing.kind = .symbol .semicolon ∧ initial = none) ∨
      (∃ keyword behind declared, tokens = keyword :: behind ∧ keyword.kind = .keyword .varWord ∧
        (variableDeclaration expr).Reads behind declared rest ∧ initial = some declared) ∨
      (Ahead (· ≠ .symbol .semicolon) tokens ∧ Ahead (· ≠ .keyword .varWord) tokens ∧
        ∃ value, (expressionStatement expr).Reads tokens value rest ∧ initial = some value) := by
  simp only [initialClause, reads_bind_iff]
  constructor
  · rintro ⟨accepted, middle, accepts, answer⟩
    cases accepted with
    | some closing =>
        obtain ⟨rfl, closes⟩ := reads_acceptSymbol_some_iff.mp accepts
        obtain ⟨rfl, rfl⟩ := reads_pure_iff.mp answer
        exact .inl ⟨closing, rfl, closes, rfl⟩
    | none =>
        obtain ⟨rfl, present⟩ := reads_acceptSymbol_none_iff.mp accepts
        obtain ⟨keyword, behind, given, outcome⟩ := reads_bind_iff.mp answer
        cases keyword with
        | some keyword =>
            obtain ⟨rfl, isVar⟩ := reads_acceptKeyword_some_iff.mp given
            obtain ⟨declared, read, rfl⟩ := reads_map_iff.mp outcome
            exact .inr (.inl ⟨keyword, behind, declared, rfl, isVar, read, rfl⟩)
        | none =>
            obtain ⟨rfl, noVar⟩ := reads_acceptKeyword_none_iff.mp given
            obtain ⟨value, read, rfl⟩ := reads_map_iff.mp outcome
            exact .inr (.inr ⟨present, noVar, value, read, rfl⟩)
  · rintro (⟨closing, rfl, closes, rfl⟩ | ⟨keyword, behind, declared, rfl, isVar, read, rfl⟩ |
      ⟨present, noVar, value, read, rfl⟩)
    · exact ⟨some closing, rest, reads_acceptSymbol_some_iff.mpr ⟨rfl, closes⟩,
        reads_pure_iff.mpr ⟨rfl, rfl⟩⟩
    · refine ⟨none, keyword :: behind, reads_acceptSymbol_none_iff.mpr ⟨rfl, by simp [isVar]⟩, ?_⟩
      exact reads_bind_iff.mpr ⟨some keyword, behind,
        reads_acceptKeyword_some_iff.mpr ⟨rfl, isVar⟩, reads_map_iff.mpr ⟨declared, read, rfl⟩⟩
    · refine ⟨none, tokens, reads_acceptSymbol_none_iff.mpr ⟨rfl, present⟩, ?_⟩
      exact reads_bind_iff.mpr ⟨none, tokens, reads_acceptKeyword_none_iff.mpr ⟨rfl, noVar⟩,
        reads_map_iff.mpr ⟨value, read, rfl⟩⟩

/-- An expression that may be missing is missing where its end comes next. -/
theorem reads_unlessNext_iff {symbol : Symbol} {read : Option Expr} :
    (unlessNext symbol expr).Reads tokens read rest ↔
      (∃ next behind, tokens = next :: behind ∧ next.kind = .symbol symbol ∧ read = none ∧
        tokens = rest) ∨
      (Ahead (· ≠ .symbol symbol) tokens ∧ ∃ value, expr.Reads tokens value rest ∧
        read = some value) := by
  simp only [unlessNext, reads_bind_iff]
  constructor
  · rintro ⟨missing, middle, ahead, answer⟩
    obtain ⟨rfl, ⟨rfl, next, behind, rfl, ends⟩ | ⟨rfl, present⟩⟩ :=
      reads_nextIs_symbol_iff.mp ahead
    · obtain ⟨rfl, rfl⟩ := reads_pure_iff.mp answer
      exact .inl ⟨next, behind, rfl, ends, rfl, rfl⟩
    · obtain ⟨value, given, rfl⟩ := reads_map_iff.mp answer
      exact .inr ⟨present, value, given, rfl⟩
  · rintro (⟨next, behind, rfl, ends, rfl, rfl⟩ | ⟨present, value, given, rfl⟩)
    · exact ⟨true, next :: behind,
        reads_nextIs_symbol_iff.mpr ⟨rfl, .inl ⟨rfl, next, behind, rfl, ends⟩⟩,
        reads_pure_iff.mpr ⟨rfl, rfl⟩⟩
    · exact ⟨false, tokens, reads_nextIs_symbol_iff.mpr ⟨rfl, .inr ⟨rfl, present⟩⟩,
        reads_map_iff.mpr ⟨value, given, rfl⟩⟩

/-- What the parser builds for a loop with clauses is the loop unrolled. -/
theorem clauseLoop_eq_unrolled (line : Nat) (initial : Option Statement)
    (condition increment : Option Expr) (body : Statement) :
    clauseLoop line initial condition increment body =
      Statement.unrolled line initial condition increment body := by
  cases initial <;> cases increment <;> rfl

/-- A loop with clauses has them between parentheses, and a body behind them. -/
theorem reads_forLoop_iff :
    (forLoop line expr body).Reads tokens statement rest ↔
      ∃ opening clauses initial middle condition separator last increment closing behind inner,
        tokens = opening :: clauses ∧ opening.kind = .symbol .leftParen ∧
        (initialClause expr).Reads clauses initial middle ∧
        (unlessNext .semicolon expr).Reads middle condition (separator :: last) ∧
        separator.kind = .symbol .semicolon ∧
        (unlessNext .rightParen expr).Reads last increment (closing :: behind) ∧
        closing.kind = .symbol .rightParen ∧ body.Reads behind inner rest ∧
        statement = Statement.unrolled line initial condition increment inner := by
  simp only [forLoop, reads_bind_iff, reads_expectSymbol_iff, reads_pure_iff,
    clauseLoop_eq_unrolled]
  constructor
  · rintro ⟨opening, clauses, ⟨rfl, opens⟩, initial, middle, first, condition, _, second, separator,
      last, ⟨rfl, separates⟩, increment, _, third, closing, behind, ⟨rfl, closes⟩, inner, _, read,
      rfl, rfl⟩
    exact ⟨opening, clauses, initial, middle, condition, separator, last, increment, closing,
      behind, inner, rfl, opens, first, second, separates, third, closes, read, rfl⟩
  · rintro ⟨opening, clauses, initial, middle, condition, separator, last, increment, closing,
      behind, inner, rfl, opens, first, second, separates, third, closes, read, rfl⟩
    exact ⟨opening, clauses, ⟨rfl, opens⟩, initial, middle, first, condition, _, second, separator,
      last, ⟨rfl, separates⟩, increment, _, third, closing, behind, ⟨rfl, closes⟩, inner, rest,
      read, rfl, rfl⟩

/-- A branch has a condition, a statement and, where `else` is next, one more behind it. -/
theorem reads_branch_iff :
    (branch line expr body).Reads tokens statement rest ↔
      ∃ opening inside condition closing behind positive middle,
        tokens = opening :: inside ∧ opening.kind = .symbol .leftParen ∧
        expr.Reads inside condition (closing :: behind) ∧ closing.kind = .symbol .rightParen ∧
        body.Reads behind positive middle ∧
        ((∃ otherwise last negative, middle = otherwise :: last ∧
            otherwise.kind = .keyword .elseWord ∧ body.Reads last negative rest ∧
            statement = .branch line condition positive (some negative)) ∨
          (middle = rest ∧ Ahead (· ≠ .keyword .elseWord) middle ∧
            statement = .branch line condition positive none)) := by
  simp only [branch, reads_bind_iff, reads_expectSymbol_iff]
  constructor
  · rintro ⟨opening, inside, ⟨rfl, opens⟩, condition, _, first, closing, behind, ⟨rfl, closes⟩,
      positive, middle, second, accepted, last, accepts, answer⟩
    refine ⟨opening, inside, condition, closing, behind, positive, middle, rfl, opens, first,
      closes, second, ?_⟩
    cases accepted with
    | some otherwise =>
        obtain ⟨rfl, isElse⟩ := reads_acceptKeyword_some_iff.mp accepts
        obtain ⟨negative, _, read, outcome⟩ := reads_bind_iff.mp answer
        obtain ⟨rfl, rfl⟩ := reads_pure_iff.mp outcome
        exact .inl ⟨otherwise, last, negative, rfl, isElse, read, rfl⟩
    | none =>
        obtain ⟨rfl, noElse⟩ := reads_acceptKeyword_none_iff.mp accepts
        obtain ⟨rfl, rfl⟩ := reads_pure_iff.mp answer
        exact .inr ⟨rfl, noElse, rfl⟩
  · rintro ⟨opening, inside, condition, closing, behind, positive, middle, rfl, opens, first,
      closes, second, ⟨otherwise, last, negative, rfl, isElse, read, rfl⟩ | ⟨rfl, noElse, rfl⟩⟩
    · exact ⟨opening, inside, ⟨rfl, opens⟩, condition, _, first, closing, behind, ⟨rfl, closes⟩,
        positive, _, second, some otherwise, last,
        reads_acceptKeyword_some_iff.mpr ⟨rfl, isElse⟩,
        reads_bind_iff.mpr ⟨negative, rest, read, reads_pure_iff.mpr ⟨rfl, rfl⟩⟩⟩
    · exact ⟨opening, inside, ⟨rfl, opens⟩, condition, _, first, closing, behind, ⟨rfl, closes⟩,
        positive, middle, second, none, middle,
        reads_acceptKeyword_none_iff.mpr ⟨rfl, noElse⟩, reads_pure_iff.mpr ⟨rfl, rfl⟩⟩

/-- A return is read cleanly only inside of a function. -/
theorem reads_giveBack_iff {keyword : Token} {inFunction : Bool} :
    (giveBack keyword inFunction expr).Reads tokens statement rest ↔
      inFunction = true ∧ ∃ value closing,
        (unlessNext .semicolon expr).Reads tokens value (closing :: rest) ∧
        closing.kind = .symbol .semicolon ∧ statement = .giveBack keyword.line value := by
  cases inFunction with
  | false =>
      simp only [giveBack, Bool.not_false, ↓reduceIte, reads_bind_iff, not_reads_report, false_and,
        exists_false, Bool.false_eq_true]
  | true =>
      simp only [giveBack, Bool.not_true, Bool.false_eq_true, ↓reduceIte, reads_bind_iff,
        reads_expectSymbol_iff, reads_pure_iff, true_and]
      constructor
      · rintro ⟨value, _, given, closing, _, ⟨rfl, closes⟩, rfl, rfl⟩
        exact ⟨value, closing, given, closes, rfl⟩
      · rintro ⟨value, closing, given, closes, rfl⟩
        exact ⟨value, _, given, closing, rest, ⟨rfl, closes⟩, rfl, rfl⟩

/-- A while loop has a condition and a body. -/
theorem reads_whileLoop_iff :
    (whileLoop line expr body).Reads tokens statement rest ↔
      ∃ opening inside condition closing behind inner,
        tokens = opening :: inside ∧ opening.kind = .symbol .leftParen ∧
        expr.Reads inside condition (closing :: behind) ∧ closing.kind = .symbol .rightParen ∧
        body.Reads behind inner rest ∧ statement = .whileLoop line condition inner := by
  simp only [whileLoop, reads_bind_iff, reads_expectSymbol_iff, reads_pure_iff]
  constructor
  · rintro ⟨opening, inside, ⟨rfl, opens⟩, condition, _, first, closing, behind, ⟨rfl, closes⟩,
      inner, _, read, rfl, rfl⟩
    exact ⟨opening, inside, condition, closing, behind, inner, rfl, opens, first, closes, read, rfl⟩
  · rintro ⟨opening, inside, condition, closing, behind, inner, rfl, opens, first, closes, read,
      rfl⟩
    exact ⟨opening, inside, ⟨rfl, opens⟩, condition, _, first, closing, behind, ⟨rfl, closes⟩,
      inner, rest, read, rfl, rfl⟩

/-- A do-while loop has a body, and a condition behind it. -/
theorem reads_doWhileLoop_iff :
    (doWhileLoop line expr body).Reads tokens statement rest ↔
      ∃ inner again opening inside condition closing ending,
        body.Reads tokens inner (again :: opening :: inside) ∧ again.kind = .keyword .whileWord ∧
        opening.kind = .symbol .leftParen ∧
        expr.Reads inside condition (closing :: ending :: rest) ∧
        closing.kind = .symbol .rightParen ∧ ending.kind = .symbol .semicolon ∧
        statement = .doWhileLoop line inner condition := by
  simp only [doWhileLoop, reads_bind_iff, reads_expectSymbol_iff, reads_expectKeyword_iff,
    reads_pure_iff]
  constructor
  · rintro ⟨inner, _, read, again, _, ⟨rfl, isWhile⟩, opening, inside, ⟨rfl, opens⟩, condition, _,
      first, closing, _, ⟨rfl, closes⟩, ending, _, ⟨rfl, ends⟩, rfl, rfl⟩
    exact ⟨inner, again, opening, inside, condition, closing, ending, read, isWhile, opens, first,
      closes, ends, rfl⟩
  · rintro ⟨inner, again, opening, inside, condition, closing, ending, read, isWhile, opens, first,
      closes, ends, rfl⟩
    exact ⟨inner, _, read, again, _, ⟨rfl, isWhile⟩, opening, inside, ⟨rfl, opens⟩, condition, _,
      first, closing, _, ⟨rfl, closes⟩, ending, rest, ⟨rfl, ends⟩, rfl, rfl⟩

/-! ## Statements and declarations -/

/-- The kind of token that an opening is. -/
def Opening.kind : Opening → TokenKind
  | brace => .symbol .leftBrace
  | forWord => .keyword .forWord
  | ifWord => .keyword .ifWord
  | printWord => .keyword .printWord
  | returnWord => .keyword .returnWord
  | whileWord => .keyword .whileWord
  | doWord => .keyword .doWord

/-- A token opens a statement exactly if it is of the kind of the opening. -/
theorem ofToken?_opening_eq_some_iff {token first : Token} {opening : Opening} :
    Opening.ofToken? token = some (opening, first) ↔ token.kind = opening.kind ∧ token = first := by
  unfold Opening.ofToken?
  constructor
  · intro opens
    split at opens
    all_goals cases opens
    all_goals exact ⟨by assumption, rfl⟩
  · rintro ⟨isOpening, rfl⟩
    rw [isOpening]
    cases opening <;> rfl

/-- What a statement reads behind its opening. -/
def behindOpening (inFunction : Bool) (expr : Parser Expr) (body : Parser Statement)
    (block : Parser (List Statement)) (token : Token) : Opening → Parser Statement
  | .brace => return .block token.line (← block)
  | .forWord => forLoop token.line expr body
  | .ifWord => branch token.line expr body
  | .printWord => print token.line false expr
  | .returnWord => giveBack token inFunction expr
  | .whileWord => whileLoop token.line expr body
  | .doWord => doWhileLoop token.line expr body

/-- A statement is an expression unless its first token opens another kind of statement. -/
theorem reads_statementOf_iff {inFunction : Bool} {block : Parser (List Statement)} :
    (statementOf inFunction expr body block).Reads tokens statement rest ↔
      (Ahead (fun kind => ∀ opening, kind ≠ Opening.kind opening) tokens ∧
        (expressionStatement expr).Reads tokens statement rest) ∨
      ∃ token behind opening, tokens = token :: behind ∧ token.kind = Opening.kind opening ∧
        (behindOpening inFunction expr body block token opening).Reads behind statement rest := by
  simp only [statementOf, reads_bind_iff]
  constructor
  · rintro ⟨accepted, behind, accepts, answer⟩
    cases accepted with
    | none =>
        obtain ⟨rfl, none⟩ := reads_accept_none_iff.mp accepts
        refine .inl ⟨fun token ahead opening isOpening => ?_, answer⟩
        have opens := ofToken?_opening_eq_some_iff.mpr ⟨isOpening, rfl⟩
        rw [none token ahead] at opens
        cases opens
    | some accepted =>
        obtain ⟨opening, first⟩ := accepted
        obtain ⟨token, rfl, opens⟩ := reads_accept_some_iff.mp accepts
        obtain ⟨isOpening, rfl⟩ := ofToken?_opening_eq_some_iff.mp opens
        refine .inr ⟨token, behind, opening, rfl, isOpening, ?_⟩
        cases opening <;> exact answer
  · rintro (⟨none, read⟩ | ⟨token, behind, opening, rfl, isOpening, read⟩)
    · refine ⟨.none, tokens, reads_accept_none_iff.mpr ⟨rfl, fun token ahead => ?_⟩, read⟩
      cases opens : Opening.ofToken? token with
      | none => rfl
      | some accepted =>
          exact absurd (ofToken?_opening_eq_some_iff.mp opens).1 (none token ahead _)
    · refine ⟨some (opening, token), behind, reads_accept_some_iff.mpr ⟨token, rfl,
        ofToken?_opening_eq_some_iff.mpr ⟨isOpening, rfl⟩⟩, ?_⟩
      cases opening <;> exact read

/-- A declaration before its faults are recovered from. -/
def declared (bound : Nat) (expr : Parser Expr) (statement : Parser Statement)
    (body : Parser (List Statement)) : Parser Statement := do
  match ← acceptKeyword .funWord with
  | some _ => function bound body
  | none =>
    match ← acceptKeyword .varWord with
    | some _ => variableDeclaration expr
    | none => statement

/-- Every declaration is one that recovers. -/
theorem declarationOf_eq (bound : Nat) (expr : Parser Expr) (statement : Parser Statement)
    (body : Parser (List Statement)) :
    declarationOf bound expr statement body = recovering (declared bound expr statement body) := rfl

/-- A declaration is a function, a variable, or any other statement. -/
theorem reads_declared_iff {parser : Parser Statement} {body : Parser (List Statement)} :
    (declared bound expr parser body).Reads tokens statement rest ↔
      (∃ keyword behind, tokens = keyword :: behind ∧ keyword.kind = .keyword .funWord ∧
        (function bound body).Reads behind statement rest) ∨
      (∃ keyword behind, tokens = keyword :: behind ∧ keyword.kind = .keyword .varWord ∧
        (variableDeclaration expr).Reads behind statement rest) ∨
      (Ahead (· ≠ .keyword .funWord) tokens ∧ Ahead (· ≠ .keyword .varWord) tokens ∧
        parser.Reads tokens statement rest) := by
  simp only [declared, reads_bind_iff]
  constructor
  · rintro ⟨accepted, middle, accepts, answer⟩
    cases accepted with
    | some keyword =>
        obtain ⟨rfl, isFun⟩ := reads_acceptKeyword_some_iff.mp accepts
        exact .inl ⟨keyword, middle, rfl, isFun, answer⟩
    | none =>
        obtain ⟨rfl, noFun⟩ := reads_acceptKeyword_none_iff.mp accepts
        obtain ⟨keyword, behind, given, outcome⟩ := reads_bind_iff.mp answer
        cases keyword with
        | some keyword =>
            obtain ⟨rfl, isVar⟩ := reads_acceptKeyword_some_iff.mp given
            exact .inr (.inl ⟨keyword, behind, rfl, isVar, outcome⟩)
        | none =>
            obtain ⟨rfl, noVar⟩ := reads_acceptKeyword_none_iff.mp given
            exact .inr (.inr ⟨noFun, noVar, outcome⟩)
  · rintro (⟨keyword, behind, rfl, isFun, read⟩ | ⟨keyword, behind, rfl, isVar, read⟩ |
      ⟨noFun, noVar, read⟩)
    · exact ⟨some keyword, behind, reads_acceptKeyword_some_iff.mpr ⟨rfl, isFun⟩, read⟩
    · refine ⟨none, keyword :: behind,
        reads_acceptKeyword_none_iff.mpr ⟨rfl, by simp [isVar]⟩, ?_⟩
      exact reads_bind_iff.mpr ⟨some keyword, behind,
        reads_acceptKeyword_some_iff.mpr ⟨rfl, isVar⟩, read⟩
    · refine ⟨none, tokens, reads_acceptKeyword_none_iff.mpr ⟨rfl, noFun⟩, ?_⟩
      exact reads_bind_iff.mpr ⟨none, tokens,
        reads_acceptKeyword_none_iff.mpr ⟨rfl, noVar⟩, read⟩

/-- Under a greater bound, a statement is read in terms of statements under the bound before. -/
theorem statement_succ (levels : List Level) (bound : Nat) (inFunction : Bool) :
    Grammar.statement levels (bound + 1) inFunction =
      statementOf inFunction (expression levels bound) (Grammar.statement levels bound inFunction)
        (block bound (declaration levels bound inFunction)) := by
  rw [Grammar.statement]

/-- A declaration, without recovery from its own faults. -/
def oneDeclaration (levels : List Level) (inFunction : Bool) : (bound : Nat) → Parser Statement
  | 0 => exhausted
  | bound + 1 =>
    declared bound (expression levels bound) (Grammar.statement levels bound inFunction)
      (block bound (declaration levels bound true))

/-- A declaration of the grammar is one that recovers, under the same bound. -/
theorem declaration_eq (levels : List Level) (bound : Nat) (inFunction : Bool) :
    declaration levels bound inFunction = recovering (oneDeclaration levels inFunction bound) := by
  cases bound with
  | zero => rw [declaration]; rfl
  | succ bound => rw [declaration, declarationOf_eq]; rfl

end Scriptlet.Grammar
