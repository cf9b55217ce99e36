import Scriptlet.Proofs.Grammar.Statement

/-!
# Bounds do not matter to parsers

What a parser answers under some bound it answers under every greater one, unless the bound is used
up. So it is enough to follow one parser that answers wherever another one does, through everything
that parsers are made of.
-/

namespace Scriptlet

namespace Parser

variable {α β σ : Type} {more : Nat}

/-- A parser whose bound is smaller by `more` than that of another one answers as the other one
does, or has used up its bound. -/
def EndsAs (parser : Parser α) (more : Nat) (other : Parser α) : Prop :=
  ∀ tokens, parser tokens = other tokens ∨ 0 < more ∧ parser tokens = .unfinished

variable {parser other : Parser α}

/-- A parser answers as it does itself. -/
theorem endsAs_self : parser.EndsAs more parser :=
  fun _ => .inl rfl

/-- A parser that has no rounds left is the other one, if this one has none either, and is
unfinished otherwise. -/
theorem endsAs_exhausted (other : Nat → Parser α) (none : other 0 = exhausted) :
    exhausted.EndsAs more (other more) := by
  intro tokens
  cases more with
  | zero =>
      rw [none]
      exact .inl rfl
  | succ more => exact .inr ⟨Nat.succ_pos more, rfl⟩

/-- One parser after another one answers as its parts do. -/
theorem endsAs_bind {next follow : α → Parser β} (first : parser.EndsAs more other)
    (second : ∀ value, (next value).EndsAs more (follow value)) :
    (parser >>= next).EndsAs more (other >>= follow) := by
  intro tokens
  rw [bind_apply, bind_apply]
  rcases first tokens with same | ⟨some, unfinished⟩
  · rw [same]
    cases other tokens with
    | unfinished => exact .inl rfl
    | failed error rest reports => exact .inl rfl
    | parsed value rest reports =>
        dsimp only
        rcases second value rest with same | ⟨some, unfinished⟩
        · exact .inl (by rw [same])
        · exact .inr ⟨some, by rw [unfinished, Reply.after_unfinished]⟩
  · exact .inr ⟨some, by rw [unfinished]⟩

/-- What is made of the value of a parser follows the parser. -/
theorem endsAs_map {view : α → β} (first : parser.EndsAs more other) :
    (view <$> parser).EndsAs more (view <$> other) := by
  rw [← bind_pure_comp, ← bind_pure_comp]
  exact endsAs_bind first fun _ => endsAs_self

/-- A loop of fewer rounds answers as the longer one does, or has used them up. -/
theorem endsAs_iterate {step round : σ → Parser (Progress σ α)}
    (each : ∀ state, (step state).EndsAs more (round state)) (bound : Nat) (state : σ) :
    (iterate step bound state).EndsAs more (iterate round (bound + more) state) := by
  induction bound generalizing state with
  | zero =>
      rw [Nat.zero_add]
      exact endsAs_exhausted (iterate round · state) rfl
  | succ bound ih =>
      rw [Nat.succ_add]
      refine endsAs_bind (each state) fun progress => ?_
      cases progress with
      | more state => exact ih state
      | done value => exact endsAs_self

end Parser

namespace Grammar

open Scriptlet.Parser

variable {α : Type} {more bound line : Nat} {expr other operand part inner value : Parser Expr}

/-! ## Expressions -/

theorem endsAs_listRound {kind : ListKind} {item piece : Parser α} (items : item.EndsAs more piece)
    (state : Nat × List α) :
    (listRound kind item state).EndsAs more (listRound kind piece state) := by
  obtain ⟨count, values⟩ := state
  by_cases full : maxListLength ≤ count
  · simp only [listRound, full, ↓reduceIte]
    refine endsAs_bind endsAs_self fun _ => ?_
    exact endsAs_bind items fun _ => endsAs_self
  · simp only [listRound, full, ↓reduceIte]
    exact endsAs_bind items fun _ => endsAs_self

/-- A list answers as its items do, with fewer rounds. -/
theorem endsAs_commaSeparated {kind : ListKind} {item piece : Parser α}
    (items : item.EndsAs more piece) :
    (commaSeparated bound kind item).EndsAs more (commaSeparated (bound + more) kind piece) := by
  rw [commaSeparated_eq, commaSeparated_eq]
  refine endsAs_bind endsAs_self fun ended => ?_
  cases ended with
  | true => exact endsAs_self
  | false => exact endsAs_iterate (endsAs_listRound items) bound (0, [])

theorem endsAs_chain {level : Level} (operands : operand.EndsAs more part) :
    (chain bound level operand).EndsAs more (chain (bound + more) level part) := by
  rw [chain_eq, chain_eq]
  refine endsAs_bind operands fun first => endsAs_iterate (fun left => ?_) bound first
  refine endsAs_bind endsAs_self fun accepted => ?_
  cases accepted with
  | none => exact endsAs_self
  | some accepted => exact endsAs_bind operands fun _ => endsAs_self

theorem endsAs_chains {levels : List Level} (operands : operand.EndsAs more part) :
    (chains bound operand levels).EndsAs more (chains (bound + more) part levels) := by
  induction levels with
  | nil => exact operands
  | cons level tighter ih => exact endsAs_chain ih

theorem endsAs_signed (operands : operand.EndsAs more part) :
    (signed bound operand).EndsAs more (signed (bound + more) part) := by
  rw [signed_eq, signed_eq]
  refine endsAs_bind (endsAs_iterate (fun _ => endsAs_self) bound []) fun signs => ?_
  exact endsAs_bind operands fun _ => endsAs_self

theorem endsAs_calls (callees : operand.EndsAs more part) (arguments : inner.EndsAs more value) :
    (calls bound operand inner).EndsAs more (calls (bound + more) part value) := by
  rw [calls_eq, calls_eq]
  refine endsAs_bind callees fun callee => endsAs_iterate (fun left => ?_) bound callee
  refine endsAs_bind endsAs_self fun accepted => ?_
  cases accepted with
  | none => exact endsAs_self
  | some opening => exact endsAs_bind (endsAs_commaSeparated arguments) fun _ => endsAs_self

/-- What stands by itself answers as the expression inside of parentheses does. -/
theorem endsAs_primary (inside : inner.EndsAs more value) :
    (primary inner).EndsAs more (primary value) := by
  refine endsAs_bind endsAs_self fun accepted => ?_
  cases accepted with
  | some expr => exact endsAs_self
  | none =>
      refine endsAs_bind endsAs_self fun opening => ?_
      cases opening with
      | none => exact endsAs_self
      | some opening => exact endsAs_bind inside fun _ => endsAs_self

theorem endsAs_assignment (operands : operand.EndsAs more part)
    (values : inner.EndsAs more value) :
    (assignment operand inner).EndsAs more (assignment part value) := by
  refine endsAs_bind operands fun target => endsAs_bind endsAs_self fun accepted => ?_
  rcases accepted with _ | ⟨_ | op | ⟨op, amount⟩, operator⟩
  · exact endsAs_self
  · exact endsAs_bind values fun _ => endsAs_self
  · exact endsAs_bind values fun _ => endsAs_self
  · exact endsAs_self

/-- **The bound of expressions does not matter**: with more of it, a parser of expressions answers
the same wherever it has answered. -/
theorem endsAs_expression (levels : List Level) (bound more : Nat) :
    (expression levels bound).EndsAs more (expression levels (bound + more)) := by
  induction bound with
  | zero =>
      rw [Nat.zero_add]
      exact endsAs_exhausted (expression levels) rfl
  | succ bound ih =>
      rw [Nat.succ_add]
      have operands : (signed bound (calls bound (primary (expression levels bound))
            (expression levels bound))).EndsAs more
          (signed (bound + more) (calls (bound + more) (primary (expression levels (bound + more)))
            (expression levels (bound + more)))) :=
        endsAs_signed (endsAs_calls (endsAs_primary ih) ih)
      exact endsAs_assignment (endsAs_chains operands) ih

/-! ## Statements that contain no others -/

variable (exprs : expr.EndsAs more other)

include exprs

theorem endsAs_variableDeclaration :
    (variableDeclaration expr).EndsAs more (variableDeclaration other) := by
  refine endsAs_bind endsAs_self fun name => endsAs_bind endsAs_self fun accepted => ?_
  cases accepted with
  | none => exact endsAs_self
  | some equal => exact endsAs_bind (endsAs_map exprs) fun _ => endsAs_self

theorem endsAs_print {colonMayEnd : Bool} :
    (print line colonMayEnd expr).EndsAs more (print line colonMayEnd other) :=
  endsAs_bind exprs fun _ => endsAs_self

theorem endsAs_choiceBranch {colonMayEnd : Bool} {symbol : Symbol} {what : Expectation} :
    (choiceBranch colonMayEnd symbol what expr).EndsAs more
      (choiceBranch colonMayEnd symbol what other) := by
  refine endsAs_bind endsAs_self fun accepted => ?_
  cases accepted with
  | some keyword => exact endsAs_print exprs
  | none => exact endsAs_bind exprs fun _ => endsAs_self

theorem endsAs_expressionStatement :
    (expressionStatement expr).EndsAs more (expressionStatement other) := by
  refine endsAs_bind exprs fun condition => endsAs_bind endsAs_self fun accepted => ?_
  cases accepted with
  | none => exact endsAs_self
  | some question =>
      rw [choice_eq, choice_eq]
      refine endsAs_bind (endsAs_choiceBranch exprs) fun positive => ?_
      exact endsAs_bind (endsAs_choiceBranch exprs) fun _ => endsAs_self

theorem endsAs_initialClause : (initialClause expr).EndsAs more (initialClause other) := by
  refine endsAs_bind endsAs_self fun accepted => ?_
  cases accepted with
  | some closing => exact endsAs_self
  | none =>
      refine endsAs_bind endsAs_self fun accepted => ?_
      cases accepted with
      | some keyword => exact endsAs_map (endsAs_variableDeclaration exprs)
      | none => exact endsAs_map (endsAs_expressionStatement exprs)

theorem endsAs_unlessNext {symbol : Symbol} :
    (unlessNext symbol expr).EndsAs more (unlessNext symbol other) := by
  refine endsAs_bind endsAs_self fun missing => ?_
  cases missing with
  | true => exact endsAs_self
  | false => exact endsAs_map exprs

end Grammar

end Scriptlet
