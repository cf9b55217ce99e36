import Scriptlet.Proofs.Grammar.Context
import Scriptlet.Proofs.Grammar.Program

/-!
# Loops over clauses

A loop over clauses is read as the statement that its tokens spell when they are arranged as a
block with a loop over a condition: the first clause in front of the loop, and the increment behind
the body.
-/

namespace Scriptlet

open Statement

/-- The parts of a loop over clauses, each by the kinds of its tokens. The first clause is without
its semicolon, and a clause that is left out has no tokens. -/
structure Clauses where
  initial : List TokenKind
  condition : List TokenKind
  increment : List TokenKind
  body : List TokenKind

namespace Clauses

/-- The tokens of the loop over clauses. -/
def asFor (clauses : Clauses) : List TokenKind :=
  .keyword .forWord :: .symbol .leftParen :: clauses.initial ++
    .symbol .semicolon :: clauses.condition ++ .symbol .semicolon :: clauses.increment ++
    .symbol .rightParen :: clauses.body

/-- The tokens of the condition, which is true where it is left out. -/
def test (clauses : Clauses) : List TokenKind :=
  if clauses.condition.isEmpty then [.keyword .trueWord] else clauses.condition

/-- The tokens of the body with the increment behind it, in braces if there is one. -/
def repeated (clauses : Clauses) : List TokenKind :=
  if clauses.increment.isEmpty then clauses.body
  else
    .symbol .leftBrace :: clauses.body ++ clauses.increment ++
      [.symbol .semicolon, .symbol .rightBrace]

/-- The tokens of the loop over the condition. -/
def loop (clauses : Clauses) : List TokenKind :=
  .keyword .whileWord :: .symbol .leftParen :: clauses.test ++
    .symbol .rightParen :: clauses.repeated

/-- The tokens of the loop over the condition with the first clause in front of it, in braces if
there is one. -/
def asWhile (clauses : Clauses) : List TokenKind :=
  if clauses.initial.isEmpty then clauses.loop
  else
    .symbol .leftBrace :: clauses.initial ++ .symbol .semicolon :: clauses.loop ++
      [.symbol .rightBrace]

example : asWhile
      ⟨[.identifier "a"], [], [.identifier "b"], [.identifier "c", .symbol .semicolon]⟩ =
    [.symbol .leftBrace, .identifier "a", .symbol .semicolon,
      .keyword .whileWord, .symbol .leftParen, .keyword .trueWord, .symbol .rightParen,
      .symbol .leftBrace, .identifier "c", .symbol .semicolon, .identifier "b", .symbol .semicolon,
      .symbol .rightBrace, .symbol .rightBrace] := rfl

/-- What the parts of a loop spell, each by itself. -/
structure Spell (clauses : Clauses) (inFunction : Bool) (isOpen : Prop)
    (initial : Option Statement) (condition increment : Option Expr) (body : Statement) : Prop where
  initial : InitialPhrase (clauses.initial ++ [.symbol .semicolon]) initial
  condition : Expr.OptionPhrase clauses.condition condition
  increment : Expr.OptionPhrase clauses.increment increment
  body : Phrase inFunction isOpen clauses.body body

end Clauses

/-! ## Clauses that are left out -/

/-- Every list of kinds is spelled by some tokens. -/
theorem exists_ofKinds (kinds : List TokenKind) : ∃ tokens, OfKinds kinds tokens [] :=
  ⟨kinds.map (⟨·, "", 0⟩), _, (List.append_nil _).symm, by simp [Function.comp_def]⟩

/-- Tokens of given kinds are as many as the kinds, and those left over. -/
theorem OfKinds.length_eq {kinds : List TokenKind} {tokens rest : List Token}
    (written : OfKinds kinds tokens rest) : tokens.length = kinds.length + rest.length := by
  obtain ⟨front, rfl, rfl⟩ := written
  rw [List.length_append, List.length_map]

namespace Expr.OptionPhrase

variable {kinds : List TokenKind} {value : Option Expr} {expr : Expr}

/-- A phrase for an expression that may be left out is one for the expression where it is there. -/
theorem phrase (optional : OptionPhrase kinds (Option.some expr)) : Phrase 0 kinds expr := by
  intro tokens rest written
  obtain ⟨read, spelled, same⟩ := optional written
  cases spelled with
  | none => cases same
  | some spelled => exact ⟨_, spelled, Option.some.inj same⟩

/-- An expression is left out where it has no tokens. -/
theorem isEmpty_eq (optional : OptionPhrase kinds value) : kinds.isEmpty = value.isNone := by
  obtain ⟨tokens, written⟩ := exists_ofKinds kinds
  have length := written.length_eq
  obtain ⟨read, spelled, same⟩ := optional written
  cases spelled with
  | none =>
      obtain rfl : value = Option.none := by simpa using same.symm
      simpa using length.symm
  | some spelled =>
      have shorter := spelled.shorter
      rw [length] at shorter
      cases value with
      | none => cases same
      | some => cases kinds with
        | nil => exact absurd shorter (Nat.lt_irrefl _)
        | cons => rfl

end Expr.OptionPhrase

namespace Statement.InitialPhrase

variable {kinds : List TokenKind} {initial : Option Statement} {first : Statement}
  {inFunction : Bool} {isOpen : Prop}

/-- A first clause may stand among declarations. -/
theorem declaration (phrase : InitialPhrase kinds (some first)) :
    DeclarationPhrase inFunction isOpen kinds first := by
  intro tokens rest written _
  obtain ⟨read, spelled, same⟩ := phrase written
  cases spelled with
  | none => cases same
  | «variable» spelled => exact ⟨_, .variable spelled, Option.some.inj same⟩
  | value spelled => exact ⟨_, .statement (.value spelled), Option.some.inj same⟩

/-- What begins with a semicolon is no declaration and no expression. -/
theorem ne_nil_of_starts {tokens behind : List Token} {token : Token}
    (written : OfKinds (kinds ++ [.symbol .semicolon]) tokens [])
    (begins : tokens = token :: behind)
    (other : token.kind ≠ .symbol .semicolon) : kinds.isEmpty = false := by
  cases kinds with
  | nil =>
      obtain ⟨first, rest, rfl, closes, -⟩ := ofKinds_cons_iff.mp written
      cases begins
      exact absurd closes other
  | cons => rfl

/-- A first clause is left out where it has no tokens but its semicolon. -/
theorem isEmpty_eq (phrase : InitialPhrase (kinds ++ [.symbol .semicolon]) initial) :
    kinds.isEmpty = initial.isNone := by
  obtain ⟨tokens, written⟩ := exists_ofKinds (kinds ++ [.symbol .semicolon])
  obtain ⟨read, spelled, same⟩ := phrase written
  cases spelled with
  | none closes =>
      obtain rfl : initial = Option.none := by simpa using same.symm
      have length := written.length_eq
      simpa using length
  | «variable» spelled =>
      obtain ⟨token, behind, begins, isVar, -⟩ := Grammar.spelledVariable_starts spelled
      rw [ne_nil_of_starts written begins (by simp [isVar])]
      cases initial with
      | none => cases same
      | some => rfl
  | value spelled =>
      obtain ⟨token, behind, begins, starts, -⟩ := Grammar.spelledValue_starts spelled
      have other : token.kind ≠ .symbol .semicolon := fun isSemicolon =>
        Grammar.not_startsExpr_symbol (by decide) (isSemicolon ▸ starts)
      rw [ne_nil_of_starts written begins other]
      cases initial with
      | none => cases same
      | some => rfl

end Statement.InitialPhrase

/-! ## The two arrangements -/

namespace Clauses.Spell

variable {clauses : Clauses} {inFunction : Bool} {isOpen : Prop} {line : Nat}
  {initial : Option Statement} {condition increment : Option Expr} {body : Statement}

/-- The tokens of the loop over clauses spell the loop unrolled. -/
theorem asFor (spell : clauses.Spell inFunction isOpen initial condition increment body) :
    Phrase inFunction isOpen clauses.asFor (unrolled line initial condition increment body) := by
  have phrase := @Phrase.forLoop _ _ line _ _ _ _ _ _ _ _ spell.initial spell.condition
    spell.increment spell.body
  simpa [Clauses.asFor] using phrase

/-- The tokens of the condition spell the condition, or the literal that stands for it. -/
theorem test (spell : clauses.Spell inFunction isOpen initial condition increment body) :
    Expr.Phrase 0 clauses.test (condition.getD (.literal line (.bool true))) := by
  have phrase := spell.condition
  unfold Clauses.test
  rw [phrase.isEmpty_eq]
  cases condition with
  | none => exact (Expr.Phrase.literal (.bool true)).of_le (Nat.zero_le _)
  | some condition => exact phrase.phrase

/-- The tokens of the body spell the body, together with the increment where there is one. -/
theorem repeated (spell : clauses.Spell inFunction isOpen initial condition increment body) :
    Phrase inFunction isOpen clauses.repeated
      (grouped line (body :: (increment.map fun expr => .expression expr.line expr).toList)) := by
  have phrase := spell.increment
  unfold Clauses.repeated
  rw [phrase.isEmpty_eq]
  cases increment with
  | none => exact spell.body
  | some increment =>
      have step := @ValuePhrase.expression increment.line _ _ phrase.phrase
      have last : ListPhrase inFunction _ _ := .cons (@step.phrase _ isOpen).declaration .nil
      have inside := ListPhrase.cons spell.body.declaration last
      have block := @Phrase.block _ isOpen line _ _ inside
      simpa [grouped] using block

/-- The tokens of the loop over the condition spell the loop over what is repeated. -/
theorem loop (spell : clauses.Spell inFunction isOpen initial condition increment body) :
    Phrase inFunction isOpen clauses.loop
      (.whileLoop line (condition.getD (.literal line (.bool true)))
        (grouped line (body :: (increment.map fun expr => .expression expr.line expr).toList))) :=
  .whileLoop spell.test spell.repeated

/-- **Both arrangements of the parts spell the same statement.** -/
theorem asWhile (spell : clauses.Spell inFunction isOpen initial condition increment body) :
    Phrase inFunction isOpen clauses.asWhile (unrolled line initial condition increment body) := by
  have phrase := spell.initial
  have loop := @loop _ _ _ line _ _ _ _ spell
  unfold Clauses.asWhile
  rw [phrase.isEmpty_eq]
  cases initial with
  | none => exact loop
  | some initial =>
      have first := @phrase.declaration _ _ inFunction isOpen
      have inside := ListPhrase.cons first (.cons loop.declaration .nil)
      have block := @Phrase.block _ isOpen line _ _ inside
      simpa [unrolled, grouped] using block

end Clauses.Spell

/-- What begins with the keyword of a loop over clauses is made of the parts of one. -/
theorem Statement.Spelled.exists_clauses {inFunction : Bool} {keyword : Token}
    {behind rest : List Token} {statement : Statement}
    (spelled : Statement.Spelled inFunction (keyword :: behind) statement rest)
    (isFor : keyword.kind = .keyword .forWord) :
    ∃ clauses : Clauses, ∃ initial condition increment body,
      clauses.Spell inFunction (Ahead (· ≠ .keyword .elseWord) rest) initial condition increment
        body ∧
      OfKinds clauses.asFor (keyword :: behind) rest ∧
      statement = unrolled keyword.line initial condition increment body := by
  cases spelled with
  | value spelled =>
      obtain ⟨_, _, begins, starts, -⟩ := Grammar.spelledValue_starts spelled
      cases begins
      rw [isFor] at starts
      exact absurd (Grammar.keyword_of_startsExpr starts) (by decide)
  | forLoop _ opens initial condition separates increment closes body =>
      obtain ⟨first, clause, isFirst⟩ := initial.phrase
      obtain ⟨second, given, isSecond⟩ := condition.phrase
      obtain ⟨third, after, isThird⟩ := increment.phrase
      obtain ⟨kinds, last, isBody⟩ := body.phrase
      refine ⟨⟨first, second, third, kinds⟩, _, _, _, _, ⟨isFirst, isSecond, isThird, isBody⟩, ?_,
        rfl⟩
      have clauses := ((OfKinds.cons isFor (.cons opens clause)).append given).append
        (.cons separates after)
      simpa [Clauses.asFor] using clauses.append (.cons closes last)
  | print isOther | giveBack isOther | block isOther | branch isOther | branchElse isOther
  | whileLoop isOther | doWhileLoop isOther =>
      rw [isFor] at isOther
      cases isOther

/-- **A loop over clauses is exactly its while form.** Where the parser reads one without a report,
its tokens are those of its parts, and tokens of the same parts that are arranged as a loop over a
condition, on whatever lines, are read as the same statement up to lines. -/
theorem Grammar.reads_asWhile {inFunction : Bool} {bound : Nat} {keyword : Token}
    {behind rest : List Token} {statement : Statement} (isFor : keyword.kind = .keyword .forWord)
    (reads : (Grammar.statement Level.all bound inFunction).Reads (keyword :: behind) statement
      rest) :
    ∃ clauses : Clauses, ∃ initial condition increment body,
      clauses.Spell inFunction (Ahead (· ≠ .keyword .elseWord) rest) initial condition increment
        body ∧
      OfKinds clauses.asFor (keyword :: behind) rest ∧
      ∀ written after, OfKinds clauses.asWhile written after →
        (Ahead (· ≠ .keyword .elseWord) rest → Ahead (· ≠ .keyword .elseWord) after) →
        ∃ read, read.eraseLines = statement.eraseLines ∧
          ∀ enough, 2 * written.length + 3 ≤ enough →
            (Grammar.statement Level.all enough inFunction).Reads written read after := by
  have spelled := (Grammar.spelled_of_reads bound).1 inFunction reads
  obtain ⟨clauses, initial, condition, increment, body, spell, given, rfl⟩ :=
    spelled.exists_clauses isFor
  refine ⟨clauses, initial, condition, increment, body, spell, given, ?_⟩
  intro written after arranged noElse
  obtain ⟨read, spelled, same⟩ := @Clauses.Spell.asWhile _ _ _ keyword.line _ _ _ _ spell _ _
    arranged noElse
  exact ⟨read, same, fun _ => Grammar.reads_of_spelled spelled⟩

/-- A loop with a choice as its first clause and without a condition, whose body is a branch without
an `else` around another loop: `for (x ? print a : print b;; x = y) if (a) for (;;) b;`. -/
def nestedLoop : List Token :=
  Program.tokensOn 1 [.keyword .forWord, .symbol .leftParen, .identifier "x", .symbol .question,
    .keyword .printWord, .identifier "a", .symbol .colon, .keyword .printWord, .identifier "b",
    .symbol .semicolon, .symbol .semicolon, .identifier "x", .symbol .equal, .identifier "y",
    .symbol .rightParen, .keyword .ifWord, .symbol .leftParen, .identifier "a",
    .symbol .rightParen, .keyword .forWord, .symbol .leftParen, .symbol .semicolon,
    .symbol .semicolon, .symbol .rightParen, .identifier "b", .symbol .semicolon]

/-- A loop over clauses inside of another one, read from either form. -/
theorem Grammar.reads_asWhile_nestedLoop :
    ∃ statement, (Grammar.statement Level.all 60 false).Reads nestedLoop statement [] ∧
      ∃ clauses : Clauses, OfKinds clauses.asFor nestedLoop [] ∧
        ∃ written read, OfKinds clauses.asWhile written [] ∧
          read.eraseLines = statement.eraseLines ∧
          (Grammar.statement Level.all (2 * written.length + 3) false).Reads written read [] := by
  have isFor : (⟨.keyword .forWord, "", 1⟩ : Token).kind = .keyword .forWord := rfl
  have reads : (Grammar.statement Level.all 60 false).Reads nestedLoop
      (.block 1 [.choice 1 (.reference 1 "x") (.print 1 (.reference 1 "a"))
          (.print 1 (.reference 1 "b")),
        .whileLoop 1 (.literal 1 (.bool true)) (.block 1 [
          .branch 1 (.reference 1 "a") (.whileLoop 1 (.literal 1 (.bool true))
            (.expression 1 (.reference 1 "b"))) none,
          .expression 1 (.assign 1 "x" (.reference 1 "y"))])]) [] := by
    rfl
  obtain ⟨clauses, initial, condition, increment, body, -, given, whileForm⟩ :=
    Grammar.reads_asWhile isFor reads
  obtain ⟨written, arranged⟩ := exists_ofKinds clauses.asWhile
  obtain ⟨read, same, again⟩ := whileForm written [] arranged fun _ => ahead_nil _
  exact ⟨_, reads, clauses, given, written, read, arranged, same, again _ (Nat.le_refl _)⟩

end Scriptlet
