import Scriptlet.Proofs.Grammar.Phrases
import Scriptlet.Proofs.Grammar.Unparse

/-!
# Reading what was written out

A well-formed tree that is written out is read back, up to the lines that its tokens are on: the
kinds of tokens that it is written out with are a phrase for it. The tokens may be on any lines, as
only their kinds are given. That the parser reads what is spelled is the completeness of the parser.
-/

namespace Scriptlet

variable {tokens rest : List Token}

mutual

/-- A well-formed expression is spelled by what it is written out with. -/
theorem Expr.phrase_unparse :
    ∀ expr : Expr, expr.WellFormed → Expr.Phrase expr.rank expr.unparse expr
  | .literal _ value, _ => .literal value
  | .reference _ _, _ => .reference
  | .grouping _ inner, formed =>
      .grouping ((Expr.phrase_unparse inner formed).of_le (Nat.zero_le _))
  | .unary _ _ operand, ⟨tight, formed⟩ => .unary ((Expr.phrase_unparse operand formed).of_le tight)
  | .binary _ op left right, ⟨loose, tight, formedLeft, formedRight⟩ => by
      have first := (Expr.phrase_unparse left formedLeft).of_le loose
      have second := (Expr.phrase_unparse right formedRight).of_le tight
      exact @Expr.Phrase.connective _ _ _ (.binary op) _ _ first second
  | .logical _ op left right, ⟨loose, tight, formedLeft, formedRight⟩ => by
      have first := (Expr.phrase_unparse left formedLeft).of_le loose
      have second := (Expr.phrase_unparse right formedRight).of_le tight
      exact @Expr.Phrase.connective _ _ _ (.logical op) _ _ first second
  | .assign _ _ value, formed => .assign ((Expr.phrase_unparse value formed).of_le (Nat.zero_le _))
  | .update _ op _ operand, formed => by
      cases takes : op.amount? with
      | none =>
          simp only [Expr.WellFormed, takes] at formed
          simp only [Expr.unparse, takes]
          exact .update takes ((Expr.phrase_unparse operand formed).of_le (Nat.zero_le _))
      | some amount =>
          simp only [Expr.WellFormed, takes] at formed
          obtain ⟨other, rfl⟩ := formed
          simp only [Expr.unparse, takes]
          exact .step takes
  | .call _ callee [], ⟨tight, formed, _, _⟩ => by
      have phrase := (Expr.phrase_unparse callee formed).of_le tight
      simpa [Expr.unparse, Expr.unparseAll, Expr.rank] using phrase.bareCall
  | .call _ callee (argument :: arguments), ⟨tight, formedCallee, few, formed⟩ => by
      have phrase := (Expr.phrase_unparse callee formedCallee).of_le tight
      exact phrase.call
        (Expr.phrase_unparseAll (argument :: arguments) (List.cons_ne_nil _ _) formed) few

/-- Well-formed expressions are spelled by what they are written out with, commas between them. -/
theorem Expr.phrase_unparseAll :
    ∀ exprs : List Expr, exprs ≠ [] → Expr.AllWellFormed exprs →
      Expr.ArgumentsPhrase (Expr.unparseAll exprs) exprs
  | [], nonempty, _ => absurd rfl nonempty
  | [expr], _, ⟨formed, _⟩ => .last ((Expr.phrase_unparse expr formed).of_le (Nat.zero_le _))
  | expr :: next :: exprs, _, ⟨formed, others⟩ =>
      .more ((Expr.phrase_unparse expr formed).of_le (Nat.zero_le _))
        (Expr.phrase_unparseAll (next :: exprs) (List.cons_ne_nil _ _) others)

end

namespace Statement

theorem isDeclaration_mapLines (change : Nat → Nat) (statement : Statement) :
    (statement.mapLines change).isDeclaration = statement.isDeclaration := by
  cases statement <;> rfl

/-- What is no declaration is spelled as a statement. -/
theorem DeclarationPhrase.statement {inFunction : Bool} {isOpen : Prop} {kinds : List TokenKind}
    {statement : Statement} (phrase : DeclarationPhrase inFunction isOpen kinds statement)
    (plain : statement.isDeclaration = false) : Phrase inFunction isOpen kinds statement := by
  intro tokens rest written noElse
  obtain ⟨read, spelled, same⟩ := phrase written noElse
  have plainRead : read.isDeclaration = false := by
    have kept := congrArg isDeclaration same
    rwa [isDeclaration_mapLines, isDeclaration_mapLines, plain] at kept
  cases spelled with
  | statement spelled => exact ⟨read, spelled, same⟩
  | «variable» spelled => cases spelled <;> cases plainRead
  | function => cases plainRead

/-- **A well-formed expression is spelled by what it is written out with**. -/
theorem phrase_unparse_expr {expr : Expr} (formed : expr.WellFormed) :
    Expr.Phrase 0 expr.unparse expr :=
  (Expr.phrase_unparse expr formed).of_le (Nat.zero_le _)

/-- An expression that may be left out is spelled by what it is written out with. -/
theorem phrase_unparseOption {value : Option Expr} (formed : OptionWellFormed value) :
    Expr.OptionPhrase (Expr.unparseOption value) value := by
  cases value with
  | none => exact .none
  | some expr => exact .some (phrase_unparse_expr (formed expr rfl))

/-- Names with commas between them are spelled by what they are written out with. -/
theorem spelledNames_of_unparseNames {tokens rest : List Token} :
    ∀ names : List String, names ≠ [] → OfKinds (unparseNames names) tokens rest →
      SpelledNames tokens names rest
  | [], nonempty, _ => absurd rfl nonempty
  | [name], _, written => by
      simp only [unparseNames, ofKinds_cons_iff, ofKinds_nil_iff] at written
      obtain ⟨token, _, rfl, isName, rfl⟩ := written
      exact .last isName
  | name :: next :: names, _, written => by
      simp only [unparseNames, ofKinds_cons_iff] at written
      obtain ⟨token, _, rfl, isName, comma, behind, rfl, isComma, later⟩ := written
      exact .more isName isComma
        (spelledNames_of_unparseNames (next :: names) (List.cons_ne_nil _ _) later)

/-- Parameters are spelled by the names that they are written out with, if there are not too
many. -/
theorem spelledParameters_of_unparseNames {names : List String}
    (few : names.length ≤ maxListLength) (written : OfKinds (unparseNames names) tokens rest) :
    SpelledParameters tokens names rest := by
  cases names with
  | nil =>
      obtain rfl := ofKinds_nil_iff.mp written
      exact .none
  | cons name names =>
      exact .some (spelledNames_of_unparseNames _ (List.cons_ne_nil _ _) written) few

/-- Names that are written out are a phrase for the parameters of these names. -/
theorem phrase_unparseNames {names : List String} (few : names.length ≤ maxListLength) :
    ParametersPhrase (unparseNames names) names :=
  fun _ _ written => spelledParameters_of_unparseNames few written

/-- A simple statement is a branch of a choice, whatever symbol ends it. -/
theorem phrase_unparseBranch {inFunction : Bool} {closing : Symbol} {printEnds : List Symbol}
    {statement : Statement} (simple : statement.isSimple = true)
    (formed : statement.WellFormed inFunction) (ends : closing ∈ printEnds) :
    BranchPhrase printEnds [closing] (unparseBranch closing statement) statement := by
  cases statement with
  | expression _ expr => exact .value (phrase_unparse_expr formed) (List.mem_singleton_self closing)
  | print _ expr => exact .print (phrase_unparse_expr formed) ends
  | _ => cases simple

mutual

/-- A well-formed statement is spelled by what it is written out with, if no `else` behind it
belongs to it. -/
theorem phrase_unparse {inFunction : Bool} :
    ∀ statement : Statement, statement.WellFormed inFunction →
      DeclarationPhrase inFunction (statement.endsOpen = true) statement.unparse statement
  | .expression _ _, formed =>
      (ValuePhrase.expression (phrase_unparse_expr formed)).phrase.declaration
  | .print _ _, formed => (Phrase.print (phrase_unparse_expr formed)).declaration
  | .declare _ _ none, _ => VariablePhrase.bare.declaration
  | .declare _ _ (some initial), formed =>
      (VariablePhrase.initialized (phrase_unparse_expr (formed initial rfl))).declaration
  | .block _ body, formed => (Phrase.block (phrase_unparseAll body formed)).declaration
  | .branch line condition positive none, ⟨formed, plain, formedPositive, _, _⟩ => by
      have first := ((phrase_unparse positive formedPositive).statement plain).imp fun _ => trivial
      have phrase := @Phrase.branch _ line _ _ _ _ (phrase_unparse_expr formed) first
      simpa [unparse, unparseElse, endsOpen] using phrase.declaration
  | .branch _ condition positive (some negative),
      ⟨formed, plain, formedPositive, closed, plainNegative, formedNegative⟩ => by
      have first : Phrase inFunction False positive.unparse positive :=
        ((phrase_unparse positive formedPositive).statement plain).imp fun isOpen => by
          rw [closed rfl] at isOpen
          cases isOpen
      have second := (phrase_unparse negative formedNegative).statement plainNegative
      exact (Phrase.branchElse (phrase_unparse_expr formed) first second).declaration
  | .choice _ condition positive negative,
      ⟨formed, simple, formedPositive, simpleNegative, formedNegative⟩ => by
      have first : BranchPhrase [.colon, .semicolon] [.colon] (unparseBranch .colon positive)
          positive := phrase_unparseBranch simple formedPositive List.mem_cons_self
      have second : BranchPhrase [.semicolon] [.semicolon] (unparseBranch .semicolon negative)
          negative := phrase_unparseBranch simpleNegative formedNegative List.mem_cons_self
      exact (ValuePhrase.choice (phrase_unparse_expr formed) first second).phrase.declaration
  | .whileLoop _ condition body, ⟨formed, plain, formedBody⟩ => by
      have rounds := (phrase_unparse body formedBody).statement plain
      exact (Phrase.whileLoop (phrase_unparse_expr formed) rounds).declaration
  | .doWhileLoop _ body condition, ⟨formed, plain, formedBody⟩ => by
      have rounds := (phrase_unparse body formedBody).statement plain
      exact ((Phrase.doWhileLoop (phrase_unparse_expr formed) rounds).imp False.elim).declaration
  | .function _ _ parameters body, ⟨few, formed⟩ =>
      .function (phrase_unparseNames few) (phrase_unparseAll body formed)
  | .giveBack _ value, ⟨inside, formed⟩ => by
      subst inside
      exact (Phrase.giveBack (phrase_unparseOption formed)).declaration

/-- Well-formed statements are spelled by what they are written out with. -/
theorem phrase_unparseAll {inFunction : Bool} :
    ∀ statements : List Statement, AllWellFormed inFunction statements →
      ListPhrase inFunction (unparseAll statements) statements
  | [], _ => .nil
  | statement :: statements, ⟨formed, others⟩ =>
      .cons (phrase_unparse statement formed) (phrase_unparseAll statements others)

end

end Statement

/-- **Completeness of the parser**: tokens of the kinds that a well-formed program is written out
with, on whatever lines, are read as that program, up to lines and without errors. -/
theorem Program.ofTokens_unparse (program : List Statement) (tokens : List Token)
    (formed : Statement.AllWellFormed false program)
    (written : tokens.map (·.kind) = Statement.unparseAll program) :
    (ofTokens tokens).errors = [] ∧
      (ofTokens tokens).statements.map Statement.eraseLines =
        program.map Statement.eraseLines := by
  have content : OfKinds (Statement.unparseAll program) tokens [] :=
    ⟨tokens, (List.append_nil tokens).symm, written⟩
  obtain ⟨read, spelled, same⟩ :=
    Statement.phrase_unparseAll program formed content (ahead_nil _)
  simp only [Statement.mapLinesAll_eq_map] at same
  rw [ofTokens_eq_iff.mpr spelled]
  exact ⟨rfl, same⟩

/-- The theorem at a program with nested branches. -/
theorem Program.ofTokens_unparse_nested :
    let program : List Statement :=
      [.function 1 "f" ["a", "b"]
        [.whileLoop 2 (.binary 2 .less (.reference 2 "a") (.reference 2 "b"))
          (.branch 3 (.unary 3 .not (.grouping 3 (.logical 3 .or (.reference 3 "a")
              (.logical 3 .and (.reference 3 "b") (.literal 3 .nil)))))
            (.expression 4 (.update 4 .increment "a" (.literal 4 (.number 1))))
            (some (.giveBack 5 (some (.binary 5 .subtract
              (.binary 5 .subtract (.reference 5 "a") (.reference 5 "b"))
              (.call 5 (.call 5 (.reference 5 "f") []) [.reference 5 "a", .reference 5 "b"]))))))],
        .choice 6 (.reference 6 "f") (.print 6 (.literal 6 (.text "yes")))
          (.expression 6 (.assign 6 "x" (.assign 6 "y" (.literal 6 (.bool false)))))]
    let tokens := tokensOn 1 (Statement.unparseAll program)
    (ofTokens tokens).errors = [] ∧
      (ofTokens tokens).statements.map Statement.eraseLines =
        program.map Statement.eraseLines := by
  intro program tokens
  refine ofTokens_unparse program tokens ?_ (map_kind_tokensOn 1 _)
  simp [program, Statement.AllWellFormed, Statement.WellFormed, Statement.ElseWellFormed,
    Statement.OptionWellFormed, Statement.isDeclaration, Statement.isSimple, Statement.endsOpen,
    Expr.WellFormed, Expr.AllWellFormed, Expr.rank, Connective.rank, UpdateOp.amount?,
    maxListLength]

end Scriptlet
