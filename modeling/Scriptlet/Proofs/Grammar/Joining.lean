import Scriptlet.Proofs.Grammar.Program
import Scriptlet.Proofs.Syntax.Lines
import Scriptlet.Proofs.Token.Joining

/-!
# Programs one behind the other

A derivation knows of the tokens that it leaves over only whether an `else` comes next, and of lines
only that those of a tree are those of its tokens. So a program goes on with what is spelled behind
it, on later lines.
-/

namespace Scriptlet

open Statement

/-- Some tokens with their lines changed, and more behind them. -/
def Token.carry (change : Nat → Nat) (more tokens : List Token) : List Token :=
  tokens.map (·.mapLines change) ++ more

variable {change : Nat → Nat} {more tokens rest : List Token}

@[simp] theorem Connective.mapLines_node (connective : Connective) (line : Nat)
    (left right : Expr) :
    (connective.node line left right).mapLines change =
      connective.node (change line) (left.mapLines change) (right.mapLines change) := by
  cases connective <;> rfl

mutual

/-- What spells an expression does so on other lines, whatever stands behind the rest. -/
theorem Expr.Spelled.carried {rank : Nat} {tokens rest : List Token} {expr : Expr} :
    Expr.Spelled rank tokens expr rest →
      Expr.Spelled rank (Token.carry change more tokens) (expr.mapLines change)
        (Token.carry change more rest)
  | .tighter inside => .tighter inside.carried
  | .literal isValue => .literal isValue
  | .reference isName => .reference isName
  | .grouping opens inside closes => .grouping opens inside.carried closes
  | .bareCall callee opens closes => .bareCall callee.carried opens closes
  | .call callee opens arguments few closes => by
      rw [Expr.mapLines, Expr.mapLinesAll_eq_map]
      have all := arguments.carried
      rw [Expr.mapLinesAll_eq_map] at all
      exact .call callee.carried opens all (by rwa [List.length_map]) closes
  | .unary isSign operand => .unary isSign operand.carried
  | .binary left operator right => by
      rw [Connective.mapLines_node]
      exact .binary left.carried operator right.carried
  | .assign isName isEqual value => .assign isName isEqual value.carried
  | .update isName bare operator operand => .update isName bare operator operand.carried
  | .step isName amount operator => .step isName amount operator

theorem Expr.SpelledArguments.carried {tokens rest : List Token} {exprs : List Expr} :
    Expr.SpelledArguments tokens exprs rest →
      Expr.SpelledArguments (Token.carry change more tokens) (Expr.mapLinesAll change exprs)
        (Token.carry change more rest)
  | .last expr => .last expr.carried
  | .more expr comma exprs => .more expr.carried comma exprs.carried

end

theorem Expr.SpelledOption.carried {expr : Option Expr} :
    Expr.SpelledOption tokens expr rest →
      Expr.SpelledOption (Token.carry change more tokens) (expr.map (·.mapLines change))
        (Token.carry change more rest)
  | .none => .none
  | .some expr => .some expr.carried

namespace Statement

theorem SpelledNames.carried {tokens : List Token} {names : List String} :
    SpelledNames tokens names rest →
      SpelledNames (Token.carry change more tokens) names (Token.carry change more rest)
  | .last isName => .last isName
  | .more isName comma names => .more isName comma names.carried

theorem SpelledParameters.carried {names : List String} :
    SpelledParameters tokens names rest →
      SpelledParameters (Token.carry change more tokens) names (Token.carry change more rest)
  | .none => .none
  | .some names few => .some names.carried few

theorem SpelledBranch.carried {printEnds valueEnds : List Symbol} {statement : Statement} :
    SpelledBranch printEnds valueEnds tokens statement rest →
      SpelledBranch printEnds valueEnds (Token.carry change more tokens)
        (statement.mapLines change) (Token.carry change more rest)
  | .print isPrint expr allowed closes => .print isPrint expr.carried allowed closes
  | .value expr allowed closes => by
      rw [mapLines, ← Expr.line_mapLines change]
      exact .value expr.carried allowed closes

/-- A statement that begins with an expression is on the line of this expression, which changes with
it. -/
theorem SpelledValue.carried {statement : Statement} :
    SpelledValue tokens statement rest →
      SpelledValue (Token.carry change more tokens) (statement.mapLines change)
        (Token.carry change more rest)
  | .expression expr closes => by
      rw [mapLines, ← Expr.line_mapLines change]
      exact .expression expr.carried closes
  | .choice condition question positive negative => by
      rw [mapLines, ← Expr.line_mapLines change]
      exact .choice condition.carried question positive.carried negative.carried

theorem SpelledVariable.carried {statement : Statement} :
    SpelledVariable tokens statement rest →
      SpelledVariable (Token.carry change more tokens) (statement.mapLines change)
        (Token.carry change more rest)
  | .bare isVar isName closes => .bare isVar isName closes
  | .initialized isVar isName isEqual initial closes =>
      .initialized isVar isName isEqual initial.carried closes

theorem SpelledInitial.carried {initial : Option Statement} :
    SpelledInitial tokens initial rest →
      SpelledInitial (Token.carry change more tokens) (mapLinesOption change initial)
        (Token.carry change more rest)
  | .none closes => .none closes
  | .variable initial => .variable initial.carried
  | .value initial => .value initial.carried

/-- What a loop over clauses is read as has its lines changed as its clauses have. -/
theorem mapLines_unrolled (line : Nat) (initial : Option Statement)
    (condition increment : Option Expr)
    (body : Statement) :
    (unrolled line initial condition increment body).mapLines change =
      unrolled (change line) (mapLinesOption change initial) (condition.map (·.mapLines change))
        (increment.map (·.mapLines change)) (body.mapLines change) := by
  cases initial <;> cases condition <;> cases increment <;>
    simp [unrolled, grouped, mapLines, mapLinesAll, mapLinesOption, Expr.mapLines]

/-- Where no `else` came next, none does when tokens that do not begin with one follow. -/
theorem ahead_carried (noElse : Ahead (· ≠ .keyword .elseWord) more)
    (ahead : Ahead (· ≠ .keyword .elseWord) rest) :
    Ahead (· ≠ .keyword .elseWord) (Token.carry change more rest) := by
  cases rest with
  | nil => exact noElse
  | cons token rest =>
      rw [ahead_cons] at ahead
      exact (ahead_cons _ (token.mapLines change) _).mpr ahead

mutual

/-- **Statements stay spelled** when their lines change and tokens that do not begin with an `else`
follow. A branch without an `else` is the one place that asks what follows. -/
theorem Spelled.carried {inFunction : Bool} {tokens rest : List Token} {statement : Statement}
    (noElse : Ahead (· ≠ .keyword .elseWord) more) : Spelled inFunction tokens statement rest →
      Spelled inFunction (Token.carry change more tokens) (statement.mapLines change)
        (Token.carry change more rest)
  | .value statement => .value statement.carried
  | .print isPrint expr closes => .print isPrint expr.carried closes
  | .giveBack isReturn value closes => .giveBack isReturn value.carried closes
  | .block opens body closes => .block opens (body.carried noElse) closes
  | .branch isIf opens condition closes positive ahead =>
      .branch isIf opens condition.carried closes (positive.carried noElse)
        (ahead_carried noElse ahead)
  | .branchElse isIf opens condition closes positive otherwise negative =>
      .branchElse isIf opens condition.carried closes (positive.carried noElse) otherwise
        (negative.carried noElse)
  | .whileLoop isWhile opens condition closes body =>
      .whileLoop isWhile opens condition.carried closes (body.carried noElse)
  | .doWhileLoop isDo body isWhile opens condition closes ends =>
      .doWhileLoop isDo (body.carried noElse) isWhile opens condition.carried closes ends
  | .forLoop isFor opens initial condition separates increment closes body => by
      rw [mapLines_unrolled]
      exact .forLoop isFor opens initial.carried condition.carried separates increment.carried
        closes (body.carried noElse)

theorem SpelledDeclaration.carried {inFunction : Bool} {tokens rest : List Token}
    {statement : Statement} (noElse : Ahead (· ≠ .keyword .elseWord) more) :
    SpelledDeclaration inFunction tokens statement rest →
      SpelledDeclaration inFunction (Token.carry change more tokens) (statement.mapLines change)
        (Token.carry change more rest)
  | .variable statement => .variable statement.carried
  | .function isFun isName opens parameters closes begins body ends =>
      .function isFun isName opens parameters.carried closes begins (body.carried noElse) ends
  | .statement statement => .statement (statement.carried noElse)

/-- What spells declarations does so on other lines, whatever stands behind the rest but an
`else`. -/
theorem SpelledList.carried {inFunction : Bool} {tokens rest : List Token}
    {statements : List Statement} (noElse : Ahead (· ≠ .keyword .elseWord) more) :
    SpelledList inFunction tokens statements rest →
      SpelledList inFunction (Token.carry change more tokens) (mapLinesAll change statements)
        (Token.carry change more rest)
  | .nil => .nil
  | .cons statement statements => .cons (statement.carried noElse) (statements.carried noElse)

end

/-- Declarations behind declarations. -/
theorem SpelledList.append {inFunction : Bool} {tokens middle rest : List Token}
    {statements others : List Statement} (first : SpelledList inFunction tokens statements middle)
    (second : SpelledList inFunction middle others rest) :
    SpelledList inFunction tokens (statements ++ others) rest := by
  induction statements generalizing tokens with
  | nil =>
      cases first with
      | nil => exact second
  | cons statement statements ih =>
      cases first with
      | cons declaration following => exact .cons declaration (ih following)

/-- What all of some tokens spell, they spell in front of all other tokens but an `else`. -/
theorem SpelledList.followed {inFunction : Bool} {tokens : List Token} {statements : List Statement}
    (spelled : SpelledList inFunction tokens statements [])
    (noElse : Ahead (· ≠ .keyword .elseWord) more) :
    SpelledList inFunction (tokens ++ more) statements more := by
  have carried := @SpelledList.carried id more _ _ _ _ noElse spelled
  have same : tokens.map (·.mapLines id) = tokens := List.map_id tokens
  have unchanged : mapLinesAll id statements = statements :=
    mapLinesAll_eq_self statements fun _ _ => rfl
  rwa [Token.carry, Token.carry, same, List.map_nil, List.nil_append, unchanged] at carried

/-- A program, and behind it what spells another one on later lines. -/
theorem SpelledList.join {first second : List Token} {statements others : List Statement}
    (spelled : SpelledList false first statements [])
    (follows : SpelledList false second others []) (shift : Nat → Nat) :
    SpelledList false (first ++ second.map (·.mapLines shift))
      (statements ++ mapLinesAll shift others) [] := by
  have later : SpelledList false (second.map (·.mapLines shift)) (mapLinesAll shift others) [] := by
    have carried := @SpelledList.carried shift [] _ _ _ _ (ahead_nil _) follows
    simpa only [Token.carry, List.append_nil, List.map_nil] using carried
  exact (spelled.followed (Grammar.noElse_of_spelledList later (ahead_nil _))).append later

end Statement

end Scriptlet
