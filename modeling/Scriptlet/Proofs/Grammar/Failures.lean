import Scriptlet.Proofs.Grammar.Statement

/-!
# Where parsers fail

A parser that fails leaves over the token that it could not use, with all that stands behind it, and
the fault is reported at this token. Blocks recover from the failures of their declarations, and
fail by themselves only where their closing brace is missing.
-/

namespace Scriptlet

variable {α β σ : Type}

namespace Parser

/-- A failure is reported at the first token that is left over. -/
def FailsInPlace (parser : Parser α) : Prop :=
  ∀ ⦃tokens rest error reports⦄, parser tokens = .failed error rest reports →
    error.token = rest.head?

theorem inPlace_exhausted : (exhausted : Parser α).FailsInPlace := by
  intro tokens rest error reports failed
  cases failed

theorem inPlace_pure {value : α} : (pure value : Parser α).FailsInPlace := by
  intro tokens rest error reports failed
  cases failed

/-- A fault that breaks off is reported at the next token. -/
theorem inPlace_fail {fault : SyntaxFault} : (fail fault : Parser α).FailsInPlace := by
  intro tokens rest error reports failed
  cases failed
  rfl

theorem inPlace_report {fault : SyntaxFault} {token : Token} :
    (report fault token).FailsInPlace := by
  intro tokens rest error reports failed
  cases failed

theorem inPlace_reportNext {fault : SyntaxFault} : (reportNext fault).FailsInPlace := by
  intro tokens rest error reports failed
  cases failed

theorem inPlace_nextIs {test : Token → Bool} : (nextIs test).FailsInPlace := by
  intro tokens rest error reports failed
  cases failed

theorem inPlace_atEnd : atEnd.FailsInPlace := by
  intro tokens rest error reports failed
  cases failed

theorem inPlace_accept {test : Token → Option α} : (accept test).FailsInPlace := by
  intro tokens rest error reports failed
  cases tokens with
  | nil => cases failed
  | cons token behind => cases tested : test token <;> simp [accept, tested] at failed

/-- A token that is expected and is not there is reported at the token in its place. -/
theorem inPlace_expect {test : Token → Option α} {what : Expectation} :
    (expect test what).FailsInPlace := by
  intro tokens rest error reports failed
  cases tokens with
  | nil =>
      cases failed
      rfl
  | cons token behind =>
      cases tested : test token with
      | some value => simp [expect, tested] at failed
      | none =>
          simp only [expect, tested, Reply.failed.injEq] at failed
          obtain ⟨rfl, rfl, -⟩ := failed
          rfl

/-- One parser after another one fails in place if each of them does, as the second one is given
what the first one leaves over. -/
theorem inPlace_bind {first : Parser α} {next : α → Parser β} (before : first.FailsInPlace)
    (behind : ∀ value, (next value).FailsInPlace) : (first >>= next).FailsInPlace := by
  intro tokens rest error reports failed
  rw [bind_apply] at failed
  cases given : first tokens with
  | unfinished =>
      rw [given] at failed
      cases failed
  | failed fault left earlier =>
      rw [given] at failed
      cases failed
      exact before given
  | parsed value middle earlier =>
      rw [given] at failed
      dsimp only at failed
      cases answer : next value middle with
      | unfinished => simp [answer] at failed
      | parsed read left later => simp [answer] at failed
      | failed fault left later =>
          rw [answer, Reply.after_failed] at failed
          cases failed
          exact behind value answer

theorem inPlace_map {parser : Parser α} {view : α → β} (inPlace : parser.FailsInPlace) :
    (view <$> parser).FailsInPlace := by
  rw [← bind_pure_comp]
  exact inPlace_bind inPlace fun _ => inPlace_pure

theorem inPlace_iterate {step : σ → Parser (Progress σ α)}
    (each : ∀ state, (step state).FailsInPlace) (bound : Nat) (state : σ) :
    (iterate step bound state).FailsInPlace := by
  induction bound generalizing state with
  | zero => exact inPlace_exhausted
  | succ bound ih =>
      refine inPlace_bind (each state) fun progress => ?_
      cases progress with
      | more state => exact ih state
      | done value => exact inPlace_pure

end Parser

namespace Grammar

open Scriptlet.Parser

variable {bound line : Nat} {expr operand inner : Parser Expr}

/-! ## Expressions -/

/-- One more item of a list, or the end of the list, fails in place if items do. -/
theorem inPlace_listRound {kind : ListKind} {item : Parser α} (items : item.FailsInPlace)
    (state : Nat × List α) : (listRound kind item state).FailsInPlace := by
  obtain ⟨count, before⟩ := state
  by_cases full : maxListLength ≤ count
  · simp only [listRound, full, ↓reduceIte]
    refine inPlace_bind inPlace_reportNext fun _ => inPlace_bind items fun value => ?_
    refine inPlace_bind inPlace_accept fun comma => ?_
    cases comma <;> exact inPlace_pure
  · simp only [listRound, full, ↓reduceIte]
    refine inPlace_bind items fun value => inPlace_bind inPlace_accept fun comma => ?_
    cases comma <;> exact inPlace_pure

theorem inPlace_commaSeparated {kind : ListKind} {item : Parser α} (items : item.FailsInPlace) :
    (commaSeparated bound kind item).FailsInPlace := by
  rw [commaSeparated_eq]
  refine inPlace_bind inPlace_nextIs fun ended => ?_
  cases ended with
  | true => exact inPlace_pure
  | false => exact inPlace_iterate (inPlace_listRound items) bound _

theorem inPlace_chain {level : Level} (operands : operand.FailsInPlace) :
    (chain bound level operand).FailsInPlace := by
  refine inPlace_bind operands fun first => inPlace_iterate (fun left => ?_) bound first
  refine inPlace_bind inPlace_accept fun operator => ?_
  cases operator with
  | none => exact inPlace_pure
  | some operator => exact inPlace_bind operands fun right => inPlace_pure

theorem inPlace_chains (levels : List Level) (operands : operand.FailsInPlace) :
    (chains bound operand levels).FailsInPlace := by
  induction levels with
  | nil => exact operands
  | cons level tighter ih => exact inPlace_chain ih

theorem inPlace_signed (operands : operand.FailsInPlace) :
    (signed bound operand).FailsInPlace := by
  refine inPlace_bind (inPlace_iterate (fun signs => ?_) bound _) fun signs => ?_
  · refine inPlace_bind inPlace_accept fun sign => ?_
    cases sign <;> exact inPlace_pure
  · exact inPlace_bind operands fun operand => inPlace_pure

theorem inPlace_calls (callees : operand.FailsInPlace) (arguments : inner.FailsInPlace) :
    (calls bound operand inner).FailsInPlace := by
  refine inPlace_bind callees fun callee => inPlace_iterate (fun callee => ?_) bound callee
  refine inPlace_bind inPlace_accept fun opening => ?_
  cases opening with
  | none => exact inPlace_pure
  | some opening =>
      refine inPlace_bind (inPlace_commaSeparated arguments) fun exprs => ?_
      exact inPlace_bind inPlace_expect fun closing => inPlace_pure

theorem inPlace_primary (inside : inner.FailsInPlace) : (primary inner).FailsInPlace := by
  refine inPlace_bind inPlace_accept fun simple => ?_
  cases simple with
  | some expr => exact inPlace_pure
  | none =>
      refine inPlace_bind inPlace_accept fun opening => ?_
      cases opening with
      | none => exact inPlace_fail
      | some opening =>
          refine inPlace_bind inside fun expr => ?_
          exact inPlace_bind inPlace_expect fun closing => inPlace_pure

/-- What stands in front of the operator of an assignment and cannot be assigned to is reported
without a failure. -/
theorem inPlace_assignTo {target otherwise : Expr} {operator : Token}
    {build : Nat → String → Expr} :
    (assignTo target operator build otherwise).FailsInPlace := by
  cases target with
  | reference line name => exact inPlace_pure
  | _ => exact inPlace_bind inPlace_report fun _ => inPlace_pure

theorem inPlace_assignment (operands : operand.FailsInPlace) (values : inner.FailsInPlace) :
    (assignment operand inner).FailsInPlace := by
  refine inPlace_bind operands fun target => inPlace_bind inPlace_accept fun operation => ?_
  rcases operation with _ | ⟨_ | op | ⟨op, amount⟩, operator⟩
  · exact inPlace_pure
  · exact inPlace_bind values fun value => inPlace_assignTo
  · exact inPlace_bind values fun value => inPlace_assignTo
  · exact inPlace_assignTo

/-- **Expressions fail in place**, on whatever levels their operators are. -/
theorem inPlace_expression (levels : List Level) (bound : Nat) :
    (expression levels bound).FailsInPlace := by
  induction bound with
  | zero => exact inPlace_exhausted
  | succ bound ih =>
      have called := @inPlace_calls bound _ _ (inPlace_primary ih) ih
      exact inPlace_assignment (inPlace_chains levels (inPlace_signed called)) ih

/-! ## Statements -/

section Statements

variable {statement : Parser Statement} {body : Parser (List Statement)}

theorem inPlace_variableDeclaration (exprs : expr.FailsInPlace) :
    (variableDeclaration expr).FailsInPlace := by
  refine inPlace_bind inPlace_expect fun target => inPlace_bind inPlace_accept fun equal => ?_
  cases equal with
  | none =>
      refine inPlace_bind inPlace_pure fun initial => ?_
      exact inPlace_bind inPlace_expect fun closing => inPlace_pure
  | some equal =>
      refine inPlace_bind (inPlace_map exprs) fun initial => ?_
      exact inPlace_bind inPlace_expect fun closing => inPlace_pure

theorem inPlace_print {colonMayEnd : Bool} (exprs : expr.FailsInPlace) :
    (print line colonMayEnd expr).FailsInPlace := by
  have closed {value : Expr} : (do
      let _ ← expectSymbol .semicolon .semicolonAfterPrint
      return .print line value : Parser Statement).FailsInPlace :=
    inPlace_bind inPlace_expect fun closing => inPlace_pure
  refine inPlace_bind exprs fun value => ?_
  cases colonMayEnd with
  | false => exact closed
  | true =>
      refine inPlace_bind inPlace_accept fun colon => ?_
      cases colon with
      | none => exact closed
      | some colon => exact inPlace_pure

theorem inPlace_choiceBranch {colonMayEnd : Bool} {symbol : Symbol} {what : Expectation}
    (exprs : expr.FailsInPlace) :
    (choiceBranch colonMayEnd symbol what expr).FailsInPlace := by
  refine inPlace_bind inPlace_accept fun keyword => ?_
  cases keyword with
  | some keyword => exact inPlace_print exprs
  | none =>
      refine inPlace_bind exprs fun value => ?_
      exact inPlace_bind inPlace_expect fun closing => inPlace_pure

theorem inPlace_expressionStatement (exprs : expr.FailsInPlace) :
    (expressionStatement expr).FailsInPlace := by
  refine inPlace_bind exprs fun value => inPlace_bind inPlace_accept fun question => ?_
  cases question with
  | none => exact inPlace_bind inPlace_expect fun closing => inPlace_pure
  | some question =>
      rw [choice_eq]
      refine inPlace_bind (inPlace_choiceBranch exprs) fun positive => ?_
      exact inPlace_bind (inPlace_choiceBranch exprs) fun negative => inPlace_pure

theorem inPlace_initialClause (exprs : expr.FailsInPlace) :
    (initialClause expr).FailsInPlace := by
  refine inPlace_bind inPlace_accept fun closing => ?_
  cases closing with
  | some closing => exact inPlace_pure
  | none =>
      refine inPlace_bind inPlace_accept fun keyword => ?_
      cases keyword with
      | some keyword => exact inPlace_map (inPlace_variableDeclaration exprs)
      | none => exact inPlace_map (inPlace_expressionStatement exprs)

theorem inPlace_unlessNext {symbol : Symbol} (exprs : expr.FailsInPlace) :
    (unlessNext symbol expr).FailsInPlace := by
  refine inPlace_bind inPlace_nextIs fun missing => ?_
  cases missing with
  | true => exact inPlace_pure
  | false => exact inPlace_map exprs

theorem inPlace_forLoop (exprs : expr.FailsInPlace) (inside : statement.FailsInPlace) :
    (forLoop line expr statement).FailsInPlace := by
  refine inPlace_bind inPlace_expect fun opening => ?_
  refine inPlace_bind (inPlace_initialClause exprs) fun initial => ?_
  refine inPlace_bind (inPlace_unlessNext exprs) fun condition => ?_
  refine inPlace_bind inPlace_expect fun separator => ?_
  refine inPlace_bind (inPlace_unlessNext exprs) fun increment => ?_
  refine inPlace_bind inPlace_expect fun closing => ?_
  exact inPlace_bind inside fun body => inPlace_pure

theorem inPlace_branch (exprs : expr.FailsInPlace) (inside : statement.FailsInPlace) :
    (branch line expr statement).FailsInPlace := by
  refine inPlace_bind inPlace_expect fun opening => inPlace_bind exprs fun condition => ?_
  refine inPlace_bind inPlace_expect fun closing => inPlace_bind inside fun positive => ?_
  refine inPlace_bind inPlace_accept fun keyword => ?_
  cases keyword with
  | none => exact inPlace_pure
  | some keyword => exact inPlace_bind inside fun negative => inPlace_pure

theorem inPlace_giveBack {keyword : Token} {inFunction : Bool} (exprs : expr.FailsInPlace) :
    (giveBack keyword inFunction expr).FailsInPlace := by
  have value : (do
      let value ← unlessNext .semicolon expr
      let _ ← expectSymbol .semicolon .semicolonAfterReturn
      return .giveBack keyword.line value : Parser Statement).FailsInPlace := by
    refine inPlace_bind (inPlace_unlessNext exprs) fun value => ?_
    exact inPlace_bind inPlace_expect fun closing => inPlace_pure
  cases inFunction with
  | true => exact value
  | false => exact inPlace_bind inPlace_report fun _ => value

theorem inPlace_whileLoop (exprs : expr.FailsInPlace) (inside : statement.FailsInPlace) :
    (whileLoop line expr statement).FailsInPlace := by
  refine inPlace_bind inPlace_expect fun opening => inPlace_bind exprs fun condition => ?_
  refine inPlace_bind inPlace_expect fun closing => ?_
  exact inPlace_bind inside fun body => inPlace_pure

theorem inPlace_doWhileLoop (exprs : expr.FailsInPlace) (inside : statement.FailsInPlace) :
    (doWhileLoop line expr statement).FailsInPlace := by
  refine inPlace_bind inside fun body => inPlace_bind inPlace_expect fun again => ?_
  refine inPlace_bind inPlace_expect fun opening => inPlace_bind exprs fun condition => ?_
  refine inPlace_bind inPlace_expect fun closing => ?_
  exact inPlace_bind inPlace_expect fun ending => inPlace_pure

/-- A statement fails in place if the expressions and the statements inside of it do. -/
theorem inPlace_statementOf {inFunction : Bool} (exprs : expr.FailsInPlace)
    (inside : statement.FailsInPlace) (blocks : body.FailsInPlace) :
    (statementOf inFunction expr statement body).FailsInPlace := by
  refine inPlace_bind inPlace_accept fun opening => ?_
  rcases opening with _ | ⟨opening, token⟩
  · exact inPlace_expressionStatement exprs
  · cases opening with
    | brace => exact inPlace_bind blocks fun body => inPlace_pure
    | forWord => exact inPlace_forLoop exprs inside
    | ifWord => exact inPlace_branch exprs inside
    | printWord => exact inPlace_print exprs
    | returnWord => exact inPlace_giveBack exprs
    | whileWord => exact inPlace_whileLoop exprs inside
    | doWord => exact inPlace_doWhileLoop exprs inside

theorem inPlace_function (blocks : body.FailsInPlace) : (function bound body).FailsInPlace := by
  refine inPlace_bind inPlace_expect fun target => inPlace_bind inPlace_expect fun opening => ?_
  refine inPlace_bind (inPlace_commaSeparated ?_) fun parameters => ?_
  · exact inPlace_bind inPlace_expect fun parameter => inPlace_pure
  · refine inPlace_bind inPlace_expect fun closing => inPlace_bind inPlace_expect fun brace => ?_
    exact inPlace_bind blocks fun statements => inPlace_pure

/-- A declaration fails in place if what it is made of does. -/
theorem inPlace_declared (exprs : expr.FailsInPlace) (inside : statement.FailsInPlace)
    (blocks : body.FailsInPlace) : (declared bound expr statement body).FailsInPlace := by
  refine inPlace_bind inPlace_accept fun keyword => ?_
  cases keyword with
  | some keyword => exact inPlace_function blocks
  | none =>
      refine inPlace_bind inPlace_accept fun keyword => ?_
      cases keyword with
      | some keyword => exact inPlace_variableDeclaration exprs
      | none => exact inside

/-- Declarations with recovery do not fail at all. -/
theorem inPlace_recovering : (recovering statement).FailsInPlace := by
  intro tokens rest error reports failed
  unfold recovering at failed
  split at failed <;> cases failed

/-- A block fails in place, also where the declarations inside of it do not, as it recovers from
their failures. -/
theorem inPlace_block : (block bound (recovering statement)).FailsInPlace := by
  refine inPlace_bind ?_ fun body => inPlace_bind inPlace_expect fun closing => inPlace_pure
  refine inPlace_iterate (fun statements => ?_) bound []
  refine inPlace_bind inPlace_atEnd fun ended => inPlace_bind inPlace_nextIs fun stopped => ?_
  cases ended || stopped with
  | true => exact inPlace_pure
  | false =>
      refine inPlace_bind inPlace_recovering fun read => ?_
      cases read <;> exact inPlace_pure

end Statements

/-- **Statements and declarations fail in place**, whatever their bound is. -/
theorem inPlace_statement (levels : List Level) (bound : Nat) (inFunction : Bool) :
    (statement levels bound inFunction).FailsInPlace := by
  induction bound with
  | zero =>
      rw [statement]
      exact inPlace_exhausted
  | succ bound ih =>
      rw [statement_succ, declaration_eq]
      exact inPlace_statementOf (inPlace_expression levels bound) ih inPlace_block

/-- A declaration that fails does so at the token at which the fault is reported. -/
theorem inPlace_oneDeclaration (levels : List Level) (inFunction : Bool) (bound : Nat) :
    (oneDeclaration levels inFunction bound).FailsInPlace := by
  cases bound with
  | zero => exact inPlace_exhausted
  | succ bound =>
      rw [oneDeclaration, declaration_eq]
      exact inPlace_declared (inPlace_expression levels bound)
        (inPlace_statement levels bound inFunction) inPlace_block

end Grammar

end Scriptlet
