import Scriptlet.Proofs.Grammar.Phrases

/-!
# What is spelled is spelled anywhere

The tokens that a derivation accounts for make up a phrase: tokens of the same kinds spell the same
tree, up to lines, in any other place. An `else` behind a statement is the only thing that what
follows can change about it.
-/

namespace Scriptlet

variable {tokens rest : List Token}

mutual

/-- The tokens that spell an expression are a phrase. -/
theorem Expr.Spelled.phrase {rank : Nat} {tokens rest : List Token} {expr : Expr} :
    Expr.Spelled rank tokens expr rest →
      ∃ kinds, OfKinds kinds tokens rest ∧ Expr.Phrase rank kinds expr
  | .tighter inside => by
      obtain ⟨kinds, given, phrase⟩ := inside.phrase
      exact ⟨kinds, given, phrase.of_le (Nat.le_succ _)⟩
  | .literal isValue => ⟨_, .single isValue, .literal _⟩
  | .reference isName => ⟨_, .single isName, .reference⟩
  | .grouping opens inside closes => by
      obtain ⟨kinds, given, phrase⟩ := inside.phrase
      exact ⟨_, .cons opens (given.append (.single closes)), phrase.grouping⟩
  | .bareCall callee opens closes => by
      obtain ⟨kinds, given, phrase⟩ := callee.phrase
      exact ⟨_, given.append (.cons opens (.single closes)), phrase.bareCall⟩
  | .call callee opens arguments few closes => by
      obtain ⟨kinds, given, phrase⟩ := callee.phrase
      obtain ⟨others, list, phrases⟩ := arguments.phrase
      exact ⟨_, (given.append (.cons opens list)).append (.single closes), phrase.call phrases few⟩
  | .unary isSign operand => by
      obtain ⟨kinds, given, phrase⟩ := operand.phrase
      exact ⟨_, .cons isSign given, phrase.unary⟩
  | .binary left isOperator right => by
      obtain ⟨kinds, given, phrase⟩ := left.phrase
      obtain ⟨others, behind, phrase'⟩ := right.phrase
      exact ⟨_, given.append (.cons isOperator behind), phrase.connective phrase'⟩
  | .assign isName isSet value => by
      obtain ⟨kinds, given, phrase⟩ := value.phrase
      exact ⟨_, .cons isName (.cons isSet given), phrase.assign⟩
  | .update isName takes isUpdate operand => by
      obtain ⟨kinds, given, phrase⟩ := operand.phrase
      exact ⟨_, .cons isName (.cons isUpdate given), phrase.update takes⟩
  | .step isName steps isStep => ⟨_, .cons isName (.single isStep), .step steps⟩

/-- The tokens that spell arguments are a phrase. -/
theorem Expr.SpelledArguments.phrase {tokens rest : List Token} {exprs : List Expr} :
    Expr.SpelledArguments tokens exprs rest →
      ∃ kinds, OfKinds kinds tokens rest ∧ Expr.ArgumentsPhrase kinds exprs
  | .last expr => by
      obtain ⟨kinds, given, phrase⟩ := expr.phrase
      exact ⟨kinds, given, .last phrase⟩
  | .more expr isComma exprs => by
      obtain ⟨kinds, given, phrase⟩ := expr.phrase
      obtain ⟨others, behind, phrases⟩ := exprs.phrase
      exact ⟨_, given.append (.cons isComma behind), .more phrase phrases⟩

end

/-- What spells an optional expression is a phrase for it, wherever it stands. -/
theorem Expr.SpelledOption.phrase {value : Option Expr}
    (spelled : Expr.SpelledOption tokens value rest) :
    ∃ kinds, OfKinds kinds tokens rest ∧ Expr.OptionPhrase kinds value := by
  cases spelled with
  | none => exact ⟨[], .nil, .none⟩
  | some expr =>
      obtain ⟨kinds, given, phrase⟩ := expr.phrase
      exact ⟨kinds, given, .some phrase⟩

namespace Statement

variable {statement : Statement}

/-- Names are spelled by the kinds of their tokens, wherever they stand. -/
theorem SpelledNames.ofKinds {names : List String} (spelled : SpelledNames tokens names rest) :
    ∃ kinds, OfKinds kinds tokens rest ∧
      ∀ ⦃tokens rest⦄, OfKinds kinds tokens rest → SpelledNames tokens names rest := by
  induction spelled with
  | last isName =>
      refine ⟨_, .single isName, ?_⟩
      intro tokens rest written
      simp only [ofKinds_cons_iff, ofKinds_nil_iff] at written
      obtain ⟨token, _, rfl, isName, rfl⟩ := written
      exact .last isName
  | more isName isComma _ ih =>
      obtain ⟨kinds, given, again⟩ := ih
      refine ⟨_, .cons isName (.cons isComma given), ?_⟩
      intro tokens rest written
      simp only [ofKinds_cons_iff] at written
      obtain ⟨token, _, rfl, isName, comma, _, rfl, isComma, behind⟩ := written
      exact .more isName isComma (again behind)

theorem SpelledParameters.phrase {names : List String}
    (spelled : SpelledParameters tokens names rest) :
    ∃ kinds, OfKinds kinds tokens rest ∧ ParametersPhrase kinds names := by
  cases spelled with
  | none =>
      refine ⟨[], .nil, ?_⟩
      intro tokens rest written
      obtain rfl := ofKinds_nil_iff.mp written
      exact .none
  | some names few =>
      obtain ⟨kinds, given, again⟩ := names.ofKinds
      exact ⟨kinds, given, fun _ _ written => .some (again written) few⟩

/-- The tokens of a branch of a choice are a phrase, which a symbol that ends branches ends. -/
theorem SpelledBranch.phrase {printEnds valueEnds : List Symbol}
    (spelled : SpelledBranch printEnds valueEnds tokens statement rest) :
    ∃ kinds, ∃ symbol ∈ printEnds ++ valueEnds,
      OfKinds (kinds ++ [.symbol symbol]) tokens rest ∧
        BranchPhrase printEnds valueEnds (kinds ++ [.symbol symbol]) statement := by
  cases spelled with
  | print isPrint expr ends closes =>
      obtain ⟨kinds, given, phrase⟩ := expr.phrase
      exact ⟨_, _, List.mem_append_left _ ends, .cons isPrint (given.append (.single closes)),
        .print phrase ends⟩
  | value expr ends closes =>
      obtain ⟨kinds, given, phrase⟩ := expr.phrase
      exact ⟨_, _, List.mem_append_right _ ends, given.append (.single closes),
        .value phrase ends⟩

/-- The tokens of a statement that begins with an expression are a phrase, which a semicolon
ends. -/
theorem SpelledValue.phrase (spelled : SpelledValue tokens statement rest) :
    ∃ kinds, OfKinds (kinds ++ [.symbol .semicolon]) tokens rest ∧
      ValuePhrase (kinds ++ [.symbol .semicolon]) statement := by
  cases spelled with
  | expression expr closes =>
      obtain ⟨kinds, given, phrase⟩ := expr.phrase
      exact ⟨kinds, given.append (.single closes), .expression phrase⟩
  | choice condition isQuestion positive negative =>
      obtain ⟨inside, given, phrase⟩ := condition.phrase
      obtain ⟨first, symbol, -, before, isPositive⟩ := positive.phrase
      obtain ⟨last, ending, ends, after, isNegative⟩ := negative.phrase
      obtain rfl : ending = .semicolon := by simpa using ends
      refine ⟨inside ++ .symbol .question :: (first ++ [.symbol symbol]) ++ last, ?_, ?_⟩
      · rw [List.append_assoc]
        exact (given.append (.cons isQuestion before)).append after
      · rw [List.append_assoc]
        exact .choice phrase isPositive isNegative

/-- The tokens of the declaration of a variable are a phrase, which a semicolon ends. -/
theorem SpelledVariable.phrase (spelled : SpelledVariable tokens statement rest) :
    ∃ kinds, OfKinds (kinds ++ [.symbol .semicolon]) tokens rest ∧
      VariablePhrase (kinds ++ [.symbol .semicolon]) statement := by
  cases spelled with
  | @bare _ _ _ _ name isVar isTarget closes =>
      exact ⟨[.keyword .varWord, .identifier name], .cons isVar (.cons isTarget (.single closes)),
        .bare⟩
  | initialized isVar isTarget isEqual expr closes =>
      obtain ⟨kinds, given, phrase⟩ := expr.phrase
      exact ⟨_, .cons isVar (.cons isTarget (.cons isEqual (given.append (.single closes)))),
        .initialized phrase⟩

/-- The tokens of a first clause are a phrase, which a semicolon ends. -/
theorem SpelledInitial.phrase {initial : Option Statement}
    (spelled : SpelledInitial tokens initial rest) :
    ∃ kinds, OfKinds (kinds ++ [.symbol .semicolon]) tokens rest ∧
      InitialPhrase (kinds ++ [.symbol .semicolon]) initial := by
  cases spelled with
  | none closes => exact ⟨[], .single closes, .none⟩
  | «variable» spelled =>
      obtain ⟨kinds, given, phrase⟩ := spelled.phrase
      exact ⟨kinds, given, phrase.initial⟩
  | value spelled =>
      obtain ⟨kinds, given, phrase⟩ := spelled.phrase
      exact ⟨kinds, given, phrase.initial⟩

end Statement

mutual

/-- The tokens that spell a statement are a phrase. Where an `else` follows them, it is not open to
one. -/
theorem Statement.Spelled.phrase {inFunction : Bool} {tokens rest : List Token}
    {statement : Statement} :
    Statement.Spelled inFunction tokens statement rest →
      ∃ kinds, OfKinds kinds tokens rest ∧
        Statement.Phrase inFunction (Ahead (· ≠ .keyword .elseWord) rest) kinds statement
  | .value spelled => by
      obtain ⟨kinds, given, phrase⟩ := spelled.phrase
      exact ⟨_, given, phrase.phrase⟩
  | .print isPrint expr closes => by
      obtain ⟨kinds, given, phrase⟩ := expr.phrase
      exact ⟨_, .cons isPrint (given.append (.single closes)), .print phrase⟩
  | .giveBack isReturn value closes => by
      obtain ⟨kinds, given, phrase⟩ := value.phrase
      exact ⟨_, .cons isReturn (given.append (.single closes)), .giveBack phrase⟩
  | .block opens body closes => by
      obtain ⟨kinds, given, phrase⟩ := body.phrase
      exact ⟨_, .cons opens (given.append (.single closes)), .block phrase⟩
  | .branch isIf opens condition closes positive noElse => by
      obtain ⟨inside, given, phrase⟩ := condition.phrase
      obtain ⟨kinds, behind, isPositive⟩ := positive.phrase
      exact ⟨_, .cons isIf (.cons opens (given.append (.cons closes behind))),
        Statement.Phrase.imp (.branch phrase (isPositive.imp fun _ => trivial)) fun _ => noElse⟩
  | .branchElse isIf opens condition closes positive isElse negative => by
      obtain ⟨inside, given, phrase⟩ := condition.phrase
      obtain ⟨kinds, behind, isPositive⟩ := positive.phrase
      obtain ⟨others, last, isNegative⟩ := negative.phrase
      have closed := isPositive.imp fun noElse => (ahead_cons _ _ _).mp noElse isElse
      have branch := (OfKinds.cons isIf (.cons opens given)).append (.cons closes behind)
      exact ⟨_, branch.append (.cons isElse last), .branchElse phrase closed isNegative⟩
  | .whileLoop isWhile opens condition closes body => by
      obtain ⟨inside, given, phrase⟩ := condition.phrase
      obtain ⟨kinds, behind, isBody⟩ := body.phrase
      exact ⟨_, .cons isWhile (.cons opens (given.append (.cons closes behind))),
        .whileLoop phrase isBody⟩
  | .doWhileLoop isDo body isWhile opens condition closes ends => by
      obtain ⟨kinds, given, isBody⟩ := body.phrase
      obtain ⟨inside, behind, phrase⟩ := condition.phrase
      have front := (OfKinds.cons isDo given).append (.cons isWhile (.cons opens behind))
      exact ⟨_, front.append (.cons closes (.single ends)),
        Statement.Phrase.imp (.doWhileLoop phrase isBody) False.elim⟩
  | .forLoop isFor opens initial condition separates increment closes body => by
      obtain ⟨first, clause, isFirst⟩ := initial.phrase
      obtain ⟨second, given, isSecond⟩ := condition.phrase
      obtain ⟨third, behind, isThird⟩ := increment.phrase
      obtain ⟨kinds, last, isBody⟩ := body.phrase
      have clauses := ((OfKinds.cons isFor (.cons opens clause)).append given).append
        (.cons separates behind)
      exact ⟨_, clauses.append (.cons closes last), .forLoop isFirst isSecond isThird isBody⟩

/-- The tokens that spell a declaration are a phrase. -/
theorem Statement.SpelledDeclaration.phrase {inFunction : Bool} {tokens rest : List Token}
    {statement : Statement} :
    Statement.SpelledDeclaration inFunction tokens statement rest →
      ∃ kinds, OfKinds kinds tokens rest ∧
        Statement.DeclarationPhrase inFunction (Ahead (· ≠ .keyword .elseWord) rest) kinds
          statement
  | .«variable» spelled => by
      obtain ⟨kinds, given, phrase⟩ := spelled.phrase
      exact ⟨_, given, phrase.declaration⟩
  | .function isFun isTarget opens parameters closes isBrace body ends => by
      obtain ⟨inside, list, phrase⟩ := parameters.phrase
      obtain ⟨kinds, given, phrases⟩ := body.phrase
      have front := (OfKinds.cons isFun (.cons isTarget (.cons opens list))).append
        (.cons closes (.cons isBrace given))
      exact ⟨_, front.append (.single ends), .function phrase phrases⟩
  | .statement spelled => by
      obtain ⟨kinds, given, phrase⟩ := spelled.phrase
      exact ⟨kinds, given, phrase.declaration⟩

/-- The tokens that spell declarations are a phrase. -/
theorem Statement.SpelledList.phrase {inFunction : Bool} {tokens rest : List Token}
    {statements : List Statement} :
    Statement.SpelledList inFunction tokens statements rest →
      ∃ kinds, OfKinds kinds tokens rest ∧ Statement.ListPhrase inFunction kinds statements
  | .nil => ⟨[], .nil, .nil⟩
  | .cons first later => by
      obtain ⟨kinds, given, phrase⟩ := first.phrase
      obtain ⟨others, behind, phrases⟩ := later.phrase
      exact ⟨_, given.append behind, .cons phrase phrases⟩

end

end Scriptlet
