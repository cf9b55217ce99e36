import Scriptlet.Proofs.Grammar.Levels
import Scriptlet.Proofs.Grammar.Progress
import Scriptlet.Proofs.Grammar.Unparse

/-!
# Where trees and reports come from

A parser makes nothing up: a fault is reported at one of the tokens that it was given or behind the
last of them, and a tree is made of these tokens, each of its nodes on the line of one of them and
each operand at the rank that its operator takes. This is so also where faults were recovered from
and where a loop over clauses is read as what it abbreviates.
-/

namespace Scriptlet

variable {α β σ : Type} {source : List Token} {holds : α → Prop}

/-- A report is made at a token of the source, or behind the last one. -/
def Report.Within (source : List Token) (report : Report) : Prop :=
  ∀ token ∈ report.token, token ∈ source

/-- What was read is as `holds` says. What is left over is of the source, and so are the tokens at
which reports were made. -/
def Reply.Drawn (source : List Token) (holds : α → Prop) : Reply α → Prop
  | .parsed value rest reports =>
    holds value ∧ rest ⊆ source ∧ ∀ report ∈ reports, report.Within source
  | .failed error rest reports =>
    error.Within source ∧ rest ⊆ source ∧ ∀ report ∈ reports, report.Within source
  | .unfinished => True

namespace Reply

/-- A value that is read without reports is drawn from the source if it is as asked and the tokens
left over are of the source. -/
theorem drawn_parsed {value : α} {rest : List Token} (given : holds value)
    (inside : rest ⊆ source) :
    (parsed value rest []).Drawn source holds :=
  ⟨given, inside, List.forall_mem_nil _⟩

theorem drawn_reported {value : α} {rest : List Token} {report : Report} (given : holds value)
    (inside : rest ⊆ source) (within : report.Within source) :
    (parsed value rest [report]).Drawn source holds :=
  ⟨given, inside, List.forall_mem_singleton.mpr within⟩

/-- A failure at the next token. -/
theorem drawn_failed {fault : SyntaxFault} {tokens : List Token} (inside : tokens ⊆ source) :
    (failed ⟨fault, tokens.head?⟩ tokens []).Drawn source holds :=
  ⟨fun _ ahead => inside (List.mem_of_mem_head? ahead), inside, List.forall_mem_nil _⟩

/-- Reports that were made within the source before may be added to a reply. -/
theorem Drawn.after {reply : Reply α} {earlier : List Report} (drawn : reply.Drawn source holds)
    (within : ∀ report ∈ earlier, report.Within source) :
    (reply.after earlier).Drawn source holds := by
  cases reply with
  | parsed value rest reports =>
      obtain ⟨given, inside, later⟩ := drawn
      rw [after_parsed]
      exact ⟨given, inside, List.forall_mem_append.mpr ⟨later, within⟩⟩
  | failed error rest reports =>
      obtain ⟨here, inside, later⟩ := drawn
      rw [after_failed]
      exact ⟨here, inside, List.forall_mem_append.mpr ⟨later, within⟩⟩
  | unfinished =>
      rw [after_unfinished]
      trivial

end Reply

namespace Parser

/-- What a parser reads from tokens of a source is as `holds` says. -/
def Draws (parser : Parser α) (source : List Token) (holds : α → Prop) : Prop :=
  ∀ ⦃tokens : List Token⦄, tokens ⊆ source → (parser tokens).Drawn source holds

theorem draws_exhausted : (exhausted : Parser α).Draws source holds :=
  fun _ _ => trivial

theorem draws_pure {value : α} (given : holds value) :
    (pure value : Parser α).Draws source holds :=
  fun _ inside => Reply.drawn_parsed given inside

theorem draws_fail {fault : SyntaxFault} : (fail fault : Parser α).Draws source holds :=
  fun _ inside => Reply.drawn_failed inside

theorem draws_report {fault : SyntaxFault} {token : Token} (member : token ∈ source) :
    (report fault token).Draws source fun _ => True := by
  intro tokens inside
  have within : Report.Within source ⟨fault, some token⟩ := by
    intro other same
    rwa [← Option.some.inj same]
  exact Reply.drawn_reported trivial inside within

theorem draws_reportNext {fault : SyntaxFault} :
    (reportNext fault).Draws source fun _ => True :=
  fun _ inside => Reply.drawn_reported trivial inside
    fun _ ahead => inside (List.mem_of_mem_head? ahead)

theorem draws_nextIs {test : Token → Bool} : (nextIs test).Draws source fun _ => True :=
  fun _ inside => Reply.drawn_parsed trivial inside

theorem draws_atEnd : atEnd.Draws source fun _ => True :=
  fun _ inside => Reply.drawn_parsed trivial inside

/-- What is made of a token that is accepted, if one is. -/
theorem draws_accept {test : Token → Option α}
    (passes : ∀ token ∈ source, ∀ value ∈ test token, holds value) :
    (accept test).Draws source fun accepted => ∀ value ∈ accepted, holds value := by
  intro tokens inside
  have missing : ∀ value ∈ (none : Option α), holds value := by
    intro value impossible
    cases impossible
  cases tokens with
  | nil => exact ⟨missing, inside, List.forall_mem_nil _⟩
  | cons token rest =>
      obtain ⟨member, behind⟩ := List.cons_subset.mp inside
      cases tested : test token with
      | none =>
          simp only [accept, tested]
          exact ⟨missing, inside, List.forall_mem_nil _⟩
      | some value =>
          simp only [accept, tested]
          rw [← tested]
          exact ⟨passes token member, behind, List.forall_mem_nil _⟩

/-- A token that is expected is taken from the source, and what is made of it may be supposed of one
of its tokens alone. -/
theorem draws_expect {test : Token → Option α} {what : Expectation}
    (passes : ∀ token ∈ source, ∀ value ∈ test token, holds value) :
    (expect test what).Draws source holds := by
  intro tokens inside
  cases tokens with
  | nil => exact draws_fail inside
  | cons token rest =>
      obtain ⟨member, behind⟩ := List.cons_subset.mp inside
      cases tested : test token with
      | none =>
          simp only [expect, tested]
          exact draws_fail inside
      | some value =>
          simp only [expect, tested]
          exact draws_pure (passes token member value tested) behind

/-- One parser after another one: the second one may count on what is known of the value of the
first. -/
theorem draws_bind {parser : Parser α} {next : α → Parser β} {answers : β → Prop}
    (first : parser.Draws source holds)
    (second : ∀ value, holds value → (next value).Draws source answers) :
    (parser >>= next).Draws source answers := by
  intro tokens inside
  have drawn := first inside
  rw [bind_apply]
  cases given : parser tokens with
  | unfinished => trivial
  | failed error rest reports =>
      rw [given] at drawn
      exact drawn
  | parsed value rest reports =>
      rw [given] at drawn
      obtain ⟨holds, behind, within⟩ := drawn
      exact (second value holds behind).after within

theorem draws_map {parser : Parser α} {view : α → β} {answers : β → Prop}
    (draws : parser.Draws source holds) (given : ∀ value, holds value → answers (view value)) :
    (view <$> parser).Draws source answers := by
  rw [← bind_pure_comp]
  exact draws_bind draws fun value holds => draws_pure (given value holds)

/-- What holds of the state of a loop in all rounds. -/
def OfProgress (states : σ → Prop) (values : α → Prop) : Progress σ α → Prop
  | .more state => states state
  | .done value => values value

/-- A loop draws from the source what its last round does, if every round keeps what is known of its
state. -/
theorem draws_iterate (states : σ → Prop) {step : σ → Parser (Progress σ α)}
    (each : ∀ state, states state → (step state).Draws source (OfProgress states holds))
    (bound : Nat) {state : σ} (first : states state) :
    (iterate step bound state).Draws source holds := by
  induction bound generalizing state with
  | zero => exact draws_exhausted
  | succ bound ih =>
      refine draws_bind (each state first) fun progress given => ?_
      cases progress with
      | more state => exact ih given
      | done value => exact draws_pure given

variable {symbol : Symbol} {keyword : Keyword} {what : Expectation}

theorem draws_acceptSymbol :
    (acceptSymbol symbol).Draws source fun accepted => ∀ token ∈ accepted, token ∈ source := by
  apply draws_accept
  intro token member value tested
  obtain ⟨-, same⟩ := Option.ite_none_right_eq_some.mp tested
  rwa [← Option.some.inj same]

theorem draws_acceptKeyword :
    (acceptKeyword keyword).Draws source fun accepted => ∀ token ∈ accepted, token ∈ source := by
  apply draws_accept
  intro token member value tested
  obtain ⟨-, same⟩ := Option.ite_none_right_eq_some.mp tested
  rwa [← Option.some.inj same]

theorem draws_expectSymbol : (expectSymbol symbol what).Draws source (· ∈ source) := by
  apply draws_expect
  intro token member value tested
  obtain ⟨-, same⟩ := Option.ite_none_right_eq_some.mp tested
  rwa [← Option.some.inj same]

theorem draws_expectKeyword : (expectKeyword keyword what).Draws source (· ∈ source) := by
  apply draws_expect
  intro token member value tested
  obtain ⟨-, same⟩ := Option.ite_none_right_eq_some.mp tested
  rwa [← Option.some.inj same]

end Parser

/-! ## Trees made of tokens -/

/-- The lines of some tokens. -/
def Token.lines (tokens : List Token) : List Nat :=
  tokens.map (·.line)

/-- A token of the source stands on a line of the source. -/
theorem Token.line_mem_lines {token : Token} (member : token ∈ source) :
    token.line ∈ Token.lines source :=
  List.mem_map_of_mem member

/-- An expression is made of tokens of the source: its nodes stand on their lines, and its operators
between operands bind at least as tightly as `rank`, as those of its operands have to. -/
inductive Expr.MadeOf (source : List Token) : (rank : Nat) → Expr → Prop
  | tighter {rank : Nat} {expr : Expr} :
      Expr.MadeOf source (rank + 1) expr → Expr.MadeOf source rank expr
  | literal {line : Nat} {value : Literal} :
      line ∈ Token.lines source → Expr.MadeOf source 10 (.literal line value)
  | reference {line : Nat} {name : String} :
      line ∈ Token.lines source → Expr.MadeOf source 10 (.reference line name)
  | grouping {line : Nat} {inner : Expr} :
      line ∈ Token.lines source → Expr.MadeOf source 0 inner →
      Expr.MadeOf source 10 (.grouping line inner)
  | call {line : Nat} {callee : Expr} {arguments : List Expr} :
      line ∈ Token.lines source → Expr.MadeOf source 9 callee →
      (∀ argument ∈ arguments, Expr.MadeOf source 0 argument) →
      Expr.MadeOf source 9 (.call line callee arguments)
  | unary {line : Nat} {op : UnaryOp} {operand : Expr} :
      line ∈ Token.lines source → Expr.MadeOf source 8 operand →
      Expr.MadeOf source 8 (.unary line op operand)
  | connective {line : Nat} {connective : Connective} {left right : Expr} :
      line ∈ Token.lines source → Expr.MadeOf source connective.rank left →
      Expr.MadeOf source (connective.rank + 1) right →
      Expr.MadeOf source connective.rank (connective.node line left right)
  | assign {line : Nat} {name : String} {value : Expr} :
      line ∈ Token.lines source → Expr.MadeOf source 0 value →
      Expr.MadeOf source 0 (.assign line name value)
  | update {line : Nat} {op : UpdateOp} {name : String} {operand : Expr} :
      line ∈ Token.lines source → Expr.MadeOf source 0 operand →
      Expr.MadeOf source 0 (.update line op name operand)

/-- An expression that may be left out is made of tokens of the source. -/
def Expr.OptionMadeOf (source : List Token) (value : Option Expr) : Prop :=
  ∀ expr ∈ value, expr.MadeOf source 0

/-- A statement is made of tokens of the source. -/
inductive Statement.MadeOf (source : List Token) : Statement → Prop
  | expression {line : Nat} {expr : Expr} :
      line ∈ Token.lines source → expr.MadeOf source 0 →
      Statement.MadeOf source (.expression line expr)
  | print {line : Nat} {expr : Expr} :
      line ∈ Token.lines source → expr.MadeOf source 0 → Statement.MadeOf source (.print line expr)
  | declare {line : Nat} {name : String} {initial : Option Expr} :
      line ∈ Token.lines source → Expr.OptionMadeOf source initial →
      Statement.MadeOf source (.declare line name initial)
  | block {line : Nat} {body : List Statement} :
      line ∈ Token.lines source → (∀ statement ∈ body, Statement.MadeOf source statement) →
      Statement.MadeOf source (.block line body)
  | branch {line : Nat} {condition : Expr} {positive : Statement} {negative : Option Statement} :
      line ∈ Token.lines source → condition.MadeOf source 0 →
      Statement.MadeOf source positive →
      (∀ statement ∈ negative, Statement.MadeOf source statement) →
      Statement.MadeOf source (.branch line condition positive negative)
  | choice {line : Nat} {condition : Expr} {positive negative : Statement} :
      line ∈ Token.lines source → condition.MadeOf source 0 →
      Statement.MadeOf source positive → Statement.MadeOf source negative →
      Statement.MadeOf source (.choice line condition positive negative)
  | whileLoop {line : Nat} {condition : Expr} {body : Statement} :
      line ∈ Token.lines source → condition.MadeOf source 0 → Statement.MadeOf source body →
      Statement.MadeOf source (.whileLoop line condition body)
  | doWhileLoop {line : Nat} {body : Statement} {condition : Expr} :
      line ∈ Token.lines source → Statement.MadeOf source body → condition.MadeOf source 0 →
      Statement.MadeOf source (.doWhileLoop line body condition)
  | function {line : Nat} {name : String} {parameters : List String} {body : List Statement} :
      line ∈ Token.lines source → (∀ statement ∈ body, Statement.MadeOf source statement) →
      Statement.MadeOf source (.function line name parameters body)
  | giveBack {line : Nat} {value : Option Expr} :
      line ∈ Token.lines source → Expr.OptionMadeOf source value →
      Statement.MadeOf source (.giveBack line value)

/-- An expression that is made at some rank is made at every looser one. -/
theorem Expr.MadeOf.of_le {rank tighter : Nat} {expr : Expr} (made : expr.MadeOf source tighter)
    (looser : rank ≤ tighter) : expr.MadeOf source rank := by
  induction looser with
  | refl => exact made
  | step _ ih => exact ih (.tighter made)

/-- An expression is itself on a line of the source. -/
theorem Expr.MadeOf.line_mem {rank : Nat} {expr : Expr} (made : expr.MadeOf source rank) :
    expr.line ∈ Token.lines source := by
  induction made with
  | tighter _ ih => exact ih
  | @connective _ connective _ _ onLine => cases connective <;> exact onLine
  | literal onLine | reference onLine | grouping onLine | call onLine | unary onLine
  | assign onLine | update onLine => exact onLine

theorem Expr.optionMadeOf_none : Expr.OptionMadeOf source none :=
  fun _ impossible => nomatch impossible

/-- An expression that is there, and made of tokens of the source, is one that may be left out. -/
theorem Expr.MadeOf.some {expr : Expr} (made : expr.MadeOf source 0) :
    Expr.OptionMadeOf source (some expr) := by
  rintro _ ⟨⟩
  exact made

theorem Statement.MadeOf.some {statement : Statement} (made : statement.MadeOf source) :
    ∀ other ∈ some statement, other.MadeOf source := by
  rintro _ ⟨⟩
  exact made

theorem Statement.optionMadeOf_none : ∀ other ∈ (none : Option Statement), other.MadeOf source :=
  fun _ impossible => nomatch impossible

/-! ## Expressions -/

namespace Grammar

open Scriptlet.Parser

/-- What a parser of expressions reads is made of tokens of the source. -/
abbrev DrawsExpr (expr : Parser Expr) (source : List Token) (rank : Nat) : Prop :=
  expr.Draws source (·.MadeOf source rank)

/-- What a parser of statements reads is made of tokens of the source. -/
abbrev DrawsStatement (statement : Parser Statement) (source : List Token) : Prop :=
  statement.Draws source (·.MadeOf source)

variable {bound line rank : Nat} {expr operand inner : Parser Expr}

theorem draws_listRound {kind : ListKind} {item : Parser α} (draws : item.Draws source holds)
    {state : Nat × List α} (before : ∀ value ∈ state.2, holds value) :
    (listRound kind item state).Draws source
      (OfProgress (∀ value ∈ ·.2, holds value) (∀ value ∈ ·, holds value)) := by
  obtain ⟨count, items⟩ := state
  have more (value : α) (given : holds value) : ∀ other ∈ value :: items, holds other :=
    List.forall_mem_cons.mpr ⟨given, before⟩
  have last (value : α) (given : holds value) : ∀ other ∈ (value :: items).reverse, holds other :=
    fun other inside => more value given other (List.mem_reverse.mp inside)
  by_cases full : maxListLength ≤ count
  · simp only [listRound, full, ↓reduceIte]
    refine draws_bind draws_reportNext fun _ _ => draws_bind draws fun value given => ?_
    refine draws_bind draws_acceptSymbol fun accepted _ => ?_
    cases accepted with
    | some comma => exact draws_pure (more value given)
    | none => exact draws_pure (last value given)
  · simp only [listRound, full, ↓reduceIte]
    refine draws_bind draws fun value given => draws_bind draws_acceptSymbol fun accepted _ => ?_
    cases accepted with
    | some comma => exact draws_pure (more value given)
    | none => exact draws_pure (last value given)

theorem draws_commaSeparated {kind : ListKind} {item : Parser α} (draws : item.Draws source holds) :
    (commaSeparated bound kind item).Draws source (∀ value ∈ ·, holds value) := by
  rw [commaSeparated_eq]
  refine draws_bind draws_nextIs fun ended _ => ?_
  cases ended with
  | true => exact draws_pure (List.forall_mem_nil _)
  | false =>
      exact draws_iterate (∀ value ∈ ·.2, holds value)
        (fun state before => draws_listRound draws before) bound (List.forall_mem_nil _)

/-- All operators of a level have a rank. -/
def OfRank (level : Level) (rank : Nat) : Prop :=
  ∀ ⦃kind connective⦄, level kind = some connective → connective.rank = rank

/-- The levels of a list have the ranks from `rank` on, up to those of signs. -/
def OfRanks (rank : Nat) : List Level → Prop
  | [] => rank = 8
  | level :: tighter => OfRank level rank ∧ OfRanks (rank + 1) tighter

/-- With each operator on one level alone, the levels have the ranks from 1 to 7. -/
theorem ofRanks_separate : OfRanks 1 Level.separate := by
  refine ⟨?_, ?_, ?_, ?_, ?_, ?_, ?_, rfl⟩
  all_goals
    intro kind connective stands
    simp only [Level.disjunction, Level.conjunction, Level.equality, Level.comparison, Level.sum,
      Level.productOnly, Level.power] at stands
    split at stands <;> cases stands
    all_goals rfl

/-- A level draws expressions of its rank from operands of the next one: operators group to the
left. -/
theorem draws_chain {level : Level} (ranked : OfRank level rank)
    (draws : DrawsExpr operand source (rank + 1)) :
    DrawsExpr (chain bound level operand) source rank := by
  rw [chain_eq]
  refine draws_bind draws fun first given => ?_
  refine draws_iterate (·.MadeOf source rank) (fun left before => ?_) bound given.tighter
  have accepts : (accept fun token => (level token.kind).map (·, token.line)).Draws source
      fun accepted => ∀ value ∈ accepted, value.1.rank = rank ∧ value.2 ∈ Token.lines source := by
    apply draws_accept
    intro token member value tested
    obtain ⟨connective, onLevel, rfl⟩ := Option.map_eq_some_iff.mp tested
    exact ⟨ranked onLevel, Token.line_mem_lines member⟩
  refine draws_bind accepts fun accepted stands => ?_
  cases accepted with
  | none => exact draws_pure before
  | some accepted =>
      refine draws_bind draws fun right given => draws_pure ?_
      obtain ⟨rfl, onLine⟩ := stands accepted rfl
      exact .connective onLine before given

/-- All levels draw expressions of the rank of the first one from operands that signs may stand
before. -/
theorem draws_chains {levels : List Level} (ranked : OfRanks rank levels)
    (draws : DrawsExpr operand source 8) :
    DrawsExpr (chains bound operand levels) source rank := by
  induction levels generalizing rank with
  | nil =>
      obtain rfl : rank = 8 := ranked
      exact draws
  | cons level tighter ih => exact draws_chain ranked.1 (ih ranked.2)

/-- Signs before an operand are nodes on the lines of their tokens. -/
theorem madeOf_withSigns {signs : List (UnaryOp × Nat)} {operand : Expr}
    (onLines : ∀ sign ∈ signs, sign.2 ∈ Token.lines source) (given : operand.MadeOf source 8) :
    (withSigns signs operand).MadeOf source 8 := by
  induction signs generalizing operand with
  | nil => exact given
  | cons sign signs ih =>
      obtain ⟨here, others⟩ := List.forall_mem_cons.mp onLines
      exact ih others (.unary here given)

/-- Signs are drawn at rank 8, from what they stand before at rank 9. -/
theorem draws_signed (draws : DrawsExpr operand source 9) :
    DrawsExpr (signed bound operand) source 8 := by
  have accepts : (accept UnaryOp.ofToken?).Draws source
      fun accepted => ∀ sign ∈ accepted, sign.2 ∈ Token.lines source := by
    apply draws_accept
    intro token member sign tested
    obtain ⟨-, same⟩ := ofToken?_unary_eq_some_iff.mp tested
    rw [← same]
    exact Token.line_mem_lines member
  have signs : (iterate signRound bound []).Draws source
      (∀ sign ∈ ·, sign.2 ∈ Token.lines source) := by
    refine draws_iterate (∀ sign ∈ ·, sign.2 ∈ Token.lines source) (fun signs before => ?_) bound
      (List.forall_mem_nil _)
    refine draws_bind accepts fun accepted onLine => ?_
    cases accepted with
    | none => exact draws_pure before
    | some sign => exact draws_pure (List.forall_mem_cons.mpr ⟨onLine sign rfl, before⟩)
  rw [signed_eq]
  refine draws_bind signs fun signs onLines => ?_
  exact draws_bind draws fun operand given => draws_pure (madeOf_withSigns onLines given.tighter)

/-- Calls are drawn at rank 9, from what is called at rank 10 and arguments of any rank. -/
theorem draws_calls (callees : DrawsExpr operand source 10) (arguments : DrawsExpr inner source 0) :
    DrawsExpr (calls bound operand inner) source 9 := by
  rw [calls_eq]
  refine draws_bind callees fun callee given => ?_
  refine draws_iterate (·.MadeOf source 9) (fun left before => ?_) bound given.tighter
  refine draws_bind draws_acceptSymbol fun accepted _ => ?_
  cases accepted with
  | none => exact draws_pure before
  | some opening =>
      refine draws_bind (draws_commaSeparated arguments) fun exprs all => ?_
      refine draws_bind draws_expectSymbol fun closing member => draws_pure ?_
      exact .call (Token.line_mem_lines member) before all

/-- A token that is an expression by itself makes one at rank 10, on its line. -/
theorem madeOf_ofToken? {token : Token} {expr : Expr} (member : token ∈ source)
    (stands : Expr.ofToken? token = some expr) : expr.MadeOf source 10 := by
  rcases ofToken?_expr_eq_some_iff.mp stands with ⟨value, -, rfl⟩ | ⟨name, -, rfl⟩
  · exact .literal (Token.line_mem_lines member)
  · exact .reference (Token.line_mem_lines member)

/-- What stands by itself is drawn at rank 10, with anything inside of parentheses. -/
theorem draws_primary (draws : DrawsExpr inner source 0) :
    DrawsExpr (primary inner) source 10 := by
  have accepts : (accept Expr.ofToken?).Draws source
      fun accepted => ∀ expr ∈ accepted, expr.MadeOf source 10 :=
    draws_accept fun token member expr stands => madeOf_ofToken? member stands
  refine draws_bind accepts fun accepted given => ?_
  cases accepted with
  | some expr => exact draws_pure (given expr rfl)
  | none =>
      refine draws_bind draws_acceptSymbol fun accepted member => ?_
      cases accepted with
      | none => exact draws_fail
      | some opening =>
          refine draws_bind draws fun grouped inside => ?_
          exact draws_bind draws_expectSymbol fun closing _ =>
            draws_pure (.grouping (Token.line_mem_lines (member opening rfl)) inside)

/-- Where a target is no name, what takes the place of the assignment is made of tokens itself. -/
theorem draws_assignTo {target otherwise : Expr} {operator : Token} {build : Nat → String → Expr}
    (member : operator ∈ source) (targets : target.MadeOf source 0)
    (others : otherwise.MadeOf source 0)
    (builds : ∀ line ∈ Token.lines source, ∀ name, (build line name).MadeOf source 0) :
    DrawsExpr (assignTo target operator build otherwise) source 0 := by
  cases target with
  | reference line name => exact draws_pure (builds line targets.line_mem name)
  | _ => exact draws_bind (draws_report member) fun _ _ => draws_pure others

/-- Assignments are drawn at rank 0, with operands and values as they are given. -/
theorem draws_assignment (operands : DrawsExpr operand source 1)
    (values : DrawsExpr inner source 0) : DrawsExpr (assignment operand inner) source 0 := by
  have accepts : (accept AssignmentOp.ofToken?).Draws source
      fun accepted => ∀ operation ∈ accepted, operation.2 ∈ source := by
    apply draws_accept
    intro token member operation stands
    obtain ⟨-, same⟩ := ofToken?_assignment_eq_some_iff.mp stands
    rwa [← same]
  refine draws_bind operands fun target given => draws_bind accepts fun accepted member => ?_
  have targets : target.MadeOf source 0 := given.tighter
  rcases accepted with _ | ⟨_ | op | ⟨op, amount⟩, operator⟩
  · exact draws_pure targets
  · refine draws_bind values fun value given => ?_
    exact draws_assignTo (member _ rfl) targets given fun line here name => .assign here given
  · refine draws_bind values fun value given => ?_
    exact draws_assignTo (member _ rfl) targets given fun line here name => .update here given
  · have amounts : (Expr.literal operator.line (.number amount)).MadeOf source 10 :=
      .literal (Token.line_mem_lines (member _ rfl))
    exact draws_assignTo (member _ rfl) targets targets fun line here name =>
      .update here (amounts.of_le (Nat.zero_le _))

/-- **Expressions are made of tokens** of the source, each operand at the rank that its operator
takes. -/
theorem draws_expression (bound : Nat) :
    DrawsExpr (expression Level.separate bound) source 0 := by
  induction bound with
  | zero => exact draws_exhausted
  | succ bound ih =>
      have called : DrawsExpr (calls bound (primary (expression Level.separate bound))
          (expression Level.separate bound)) source 9 :=
        draws_calls (draws_primary ih) ih
      exact draws_assignment (draws_chains ofRanks_separate (draws_signed called)) ih

/-! ## Statements -/

section Statements

variable {statement : Parser Statement} {body : Parser (List Statement)}

theorem draws_expectIdentifier {what : Expectation} :
    (expectIdentifier what).Draws source (·.2 ∈ Token.lines source) := by
  apply draws_expect
  rintro token member ⟨name, line⟩ tested
  split at tested
  · cases tested
    exact Token.line_mem_lines member
  · cases tested

theorem draws_variableDeclaration (draws : DrawsExpr expr source 0) :
    DrawsStatement (variableDeclaration expr) source := by
  have declares {line : Nat} {name : String} {initial : Option Expr}
      (here : line ∈ Token.lines source) (given : Expr.OptionMadeOf source initial) :
      DrawsStatement (do
        let _ ← expectSymbol .semicolon .semicolonAfterDeclaration
        return .declare line name initial) source :=
    draws_bind draws_expectSymbol fun closing _ => draws_pure (.declare here given)
  refine draws_bind draws_expectIdentifier fun target here => ?_
  refine draws_bind draws_acceptSymbol fun accepted _ => ?_
  cases accepted with
  | none => exact declares here Expr.optionMadeOf_none
  | some equal =>
      have initial : (some <$> expr).Draws source (Expr.OptionMadeOf source) :=
        draws_map draws fun _ given => given.some
      exact draws_bind initial fun initial given => declares here given

theorem draws_print {colonMayEnd : Bool} (here : line ∈ Token.lines source)
    (draws : DrawsExpr expr source 0) :
    DrawsStatement (print line colonMayEnd expr) source := by
  refine draws_bind draws fun value given => ?_
  have semicolon : DrawsStatement (do
      let _ ← expectSymbol .semicolon .semicolonAfterPrint
      return .print line value) source :=
    draws_bind draws_expectSymbol fun closing _ => draws_pure (.print here given)
  cases colonMayEnd with
  | false => exact semicolon
  | true =>
      refine draws_bind draws_acceptSymbol fun accepted _ => ?_
      cases accepted with
      | none => exact semicolon
      | some colon => exact draws_pure (.print here given)

theorem draws_choiceBranch {colonMayEnd : Bool} {symbol : Symbol} {what : Expectation}
    (draws : DrawsExpr expr source 0) :
    DrawsStatement (choiceBranch colonMayEnd symbol what expr) source := by
  refine draws_bind draws_acceptKeyword fun accepted member => ?_
  cases accepted with
  | some keyword => exact draws_print (Token.line_mem_lines (member keyword rfl)) draws
  | none =>
      refine draws_bind draws fun value given => ?_
      exact draws_bind draws_expectSymbol fun closing _ =>
        draws_pure (.expression given.line_mem given)

/-- A statement that begins with an expression is on the line of this expression. -/
theorem draws_expressionStatement (draws : DrawsExpr expr source 0) :
    DrawsStatement (expressionStatement expr) source := by
  refine draws_bind draws fun value given => draws_bind draws_acceptSymbol fun accepted _ => ?_
  cases accepted with
  | none =>
      exact draws_bind draws_expectSymbol fun closing _ =>
        draws_pure (.expression given.line_mem given)
  | some question =>
      rw [choice_eq]
      refine draws_bind (draws_choiceBranch draws) fun positive first => ?_
      exact draws_bind (draws_choiceBranch draws) fun negative second =>
        draws_pure (.choice given.line_mem given first second)

/-- The first clause of a loop is left out, or made of tokens of the source. -/
theorem draws_initialClause (draws : DrawsExpr expr source 0) :
    (initialClause expr).Draws source fun initial => ∀ statement ∈ initial,
      statement.MadeOf source := by
  refine draws_bind draws_acceptSymbol fun accepted _ => ?_
  cases accepted with
  | some closing => exact draws_pure Statement.optionMadeOf_none
  | none =>
      refine draws_bind draws_acceptKeyword fun accepted _ => ?_
      cases accepted with
      | some keyword => exact draws_map (draws_variableDeclaration draws) fun _ given => given.some
      | none => exact draws_map (draws_expressionStatement draws) fun _ given => given.some

theorem draws_unlessNext {symbol : Symbol} (draws : DrawsExpr expr source 0) :
    (unlessNext symbol expr).Draws source (Expr.OptionMadeOf source) := by
  refine draws_bind draws_nextIs fun missing _ => ?_
  cases missing with
  | true => exact draws_pure Expr.optionMadeOf_none
  | false => exact draws_map draws fun _ given => given.some

/-- What a loop over clauses abbreviates has the line of the loop where the clauses have none. -/
theorem madeOf_clauseLoop {initial : Option Statement} {condition increment : Option Expr}
    {body : Statement} (here : line ∈ Token.lines source)
    (first : ∀ statement ∈ initial, statement.MadeOf source)
    (second : Expr.OptionMadeOf source condition) (third : Expr.OptionMadeOf source increment)
    (inside : body.MadeOf source) :
    (clauseLoop line initial condition increment body).MadeOf source := by
  have tests : (condition.getD (.literal line (.bool true))).MadeOf source 0 := by
    cases condition with
    | none => exact (Expr.MadeOf.literal here).of_le (Nat.zero_le _)
    | some condition => exact second condition rfl
  have pairs {one other : Statement} (left : one.MadeOf source) (right : other.MadeOf source) :
      (Statement.block line [one, other]).MadeOf source :=
    .block here (List.forall_mem_cons.mpr ⟨left, List.forall_mem_singleton.mpr right⟩)
  have loops {inner : Statement} (given : inner.MadeOf source) :
      (Statement.whileLoop line (condition.getD (.literal line (.bool true))) inner).MadeOf
        source :=
    .whileLoop here tests given
  cases increment with
  | none =>
      cases initial with
      | none => exact loops inside
      | some initial => exact pairs (first initial rfl) (loops inside)
  | some increment =>
      have last : increment.MadeOf source 0 := third increment rfl
      have repeats := loops (pairs inside (.expression last.line_mem last))
      cases initial with
      | none => exact repeats
      | some initial => exact pairs (first initial rfl) repeats

/-- A loop over clauses is read as what it abbreviates, all of it on the lines of its clauses and of
the keyword. -/
theorem draws_forLoop (here : line ∈ Token.lines source) (draws : DrawsExpr expr source 0)
    (inside : DrawsStatement statement source) :
    DrawsStatement (forLoop line expr statement) source := by
  refine draws_bind draws_expectSymbol fun opening _ => ?_
  refine draws_bind (draws_initialClause draws) fun initial first => ?_
  refine draws_bind (draws_unlessNext draws) fun condition second => ?_
  refine draws_bind draws_expectSymbol fun separator _ => ?_
  refine draws_bind (draws_unlessNext draws) fun increment third => ?_
  refine draws_bind draws_expectSymbol fun closing _ => ?_
  exact draws_bind inside fun body given =>
    draws_pure (madeOf_clauseLoop here first second third given)

/-- A branch is on the line of its keyword, with what is inside of it drawn from the source. -/
theorem draws_branch (here : line ∈ Token.lines source) (draws : DrawsExpr expr source 0)
    (inside : DrawsStatement statement source) :
    DrawsStatement (branch line expr statement) source := by
  refine draws_bind draws_expectSymbol fun opening _ => ?_
  refine draws_bind draws fun condition tests => ?_
  refine draws_bind draws_expectSymbol fun closing _ => ?_
  refine draws_bind inside fun positive first => ?_
  refine draws_bind draws_acceptKeyword fun accepted _ => ?_
  cases accepted with
  | none => exact draws_pure (.branch here tests first Statement.optionMadeOf_none)
  | some keyword =>
      exact draws_bind inside fun negative second =>
        draws_pure (.branch here tests first second.some)

/-- A `return` is on the line of its keyword, and reported there where no function is around it. -/
theorem draws_giveBack {keyword : Token} {inFunction : Bool} (member : keyword ∈ source)
    (draws : DrawsExpr expr source 0) :
    DrawsStatement (giveBack keyword inFunction expr) source := by
  have value : DrawsStatement (do
      let value ← unlessNext .semicolon expr
      let _ ← expectSymbol .semicolon .semicolonAfterReturn
      return .giveBack keyword.line value) source := by
    refine draws_bind (draws_unlessNext draws) fun value given => ?_
    exact draws_bind draws_expectSymbol fun closing _ =>
      draws_pure (.giveBack (Token.line_mem_lines member) given)
  cases inFunction with
  | true => exact value
  | false => exact draws_bind (draws_report member) fun _ _ => value

theorem draws_whileLoop (here : line ∈ Token.lines source) (draws : DrawsExpr expr source 0)
    (inside : DrawsStatement statement source) :
    DrawsStatement (whileLoop line expr statement) source := by
  refine draws_bind draws_expectSymbol fun opening _ => ?_
  refine draws_bind draws fun condition tests => ?_
  refine draws_bind draws_expectSymbol fun closing _ => ?_
  exact draws_bind inside fun body given => draws_pure (.whileLoop here tests given)

theorem draws_doWhileLoop (here : line ∈ Token.lines source) (draws : DrawsExpr expr source 0)
    (inside : DrawsStatement statement source) :
    DrawsStatement (doWhileLoop line expr statement) source := by
  refine draws_bind inside fun body given => ?_
  refine draws_bind draws_expectKeyword fun again _ => ?_
  refine draws_bind draws_expectSymbol fun opening _ => ?_
  refine draws_bind draws fun condition tests => ?_
  refine draws_bind draws_expectSymbol fun closing _ => ?_
  exact draws_bind draws_expectSymbol fun ending _ => draws_pure (.doWhileLoop here given tests)

/-- Every one of some statements is made of tokens of the source. -/
def AllMadeOf (source : List Token) (statements : List Statement) : Prop :=
  ∀ statement ∈ statements, statement.MadeOf source

/-- What a parser of blocks reads is made of tokens of the source. -/
abbrev DrawsStatements (body : Parser (List Statement)) (source : List Token) : Prop :=
  body.Draws source (AllMadeOf source)

/-- A statement is made of tokens of the source if the expressions and the statements inside of it
are. -/
theorem draws_statementOf {inFunction : Bool} (draws : DrawsExpr expr source 0)
    (inside : DrawsStatement statement source) (blocks : DrawsStatements body source) :
    DrawsStatement (statementOf inFunction expr statement body) source := by
  have accepts : (accept Opening.ofToken?).Draws source
      fun accepted => ∀ opening ∈ accepted, opening.2 ∈ source := by
    apply draws_accept
    rintro token member ⟨opening, first⟩ stands
    obtain ⟨-, same⟩ := ofToken?_opening_eq_some_iff.mp stands
    rwa [← same]
  refine draws_bind accepts fun accepted member => ?_
  rcases accepted with _ | ⟨opening, token⟩
  · exact draws_expressionStatement draws
  · have first : token ∈ source := member _ rfl
    have here := Token.line_mem_lines first
    cases opening with
    | brace => exact draws_bind blocks fun body given => draws_pure (.block here given)
    | forWord => exact draws_forLoop here draws inside
    | ifWord => exact draws_branch here draws inside
    | printWord => exact draws_print here draws
    | returnWord => exact draws_giveBack first draws
    | whileWord => exact draws_whileLoop here draws inside
    | doWord => exact draws_doWhileLoop here draws inside

/-- A function is on the line of its name, with the names of its parameters and its body. -/
theorem draws_function (blocks : DrawsStatements body source) :
    DrawsStatement (function bound body) source := by
  have parameter : (do return (← expectIdentifier .parameterName).1 : Parser String).Draws source
      fun _ => True :=
    draws_bind draws_expectIdentifier fun _ _ => draws_pure trivial
  refine draws_bind draws_expectIdentifier fun target here => ?_
  refine draws_bind draws_expectSymbol fun opening _ => ?_
  refine draws_bind (draws_commaSeparated parameter) fun parameters _ => ?_
  refine draws_bind draws_expectSymbol fun closing _ => ?_
  refine draws_bind draws_expectSymbol fun brace _ => ?_
  exact draws_bind blocks fun statements given => draws_pure (.function here given)

/-- A declaration is made of tokens of the source if what it consists of is. -/
theorem draws_declared (draws : DrawsExpr expr source 0) (inside : DrawsStatement statement source)
    (blocks : DrawsStatements body source) :
    DrawsStatement (declared bound expr statement body) source := by
  refine draws_bind draws_acceptKeyword fun accepted _ => ?_
  cases accepted with
  | some keyword => exact draws_function blocks
  | none =>
      refine draws_bind draws_acceptKeyword fun accepted _ => ?_
      cases accepted with
      | some keyword => exact draws_variableDeclaration draws
      | none => exact inside

/-- A declaration that fails leaves a report and nothing else. -/
theorem draws_recovering (inside : DrawsStatement statement source) :
    (recovering statement).Draws source fun read => ∀ statement ∈ read,
      statement.MadeOf source := by
  intro tokens within
  have drawn := inside within
  unfold recovering
  cases given : statement tokens with
  | unfinished => trivial
  | parsed value rest reports =>
      rw [given] at drawn
      exact ⟨drawn.1.some, drawn.2⟩
  | failed error rest reports =>
      rw [given] at drawn
      obtain ⟨here, behind, before⟩ := drawn
      have resumes : resume rest ⊆ rest :=
        ((resume_suffix_tail rest).trans (List.tail_suffix rest)).subset
      exact ⟨Statement.optionMadeOf_none, List.Subset.trans resumes behind,
        List.forall_mem_cons.mpr ⟨here, before⟩⟩

/-- A round of a block adds one declaration, or none where it recovered from a failure. -/
theorem draws_declarationRound {stop : Token → Bool} {statements : List Statement}
    (inside : DrawsStatement statement source) (before : AllMadeOf source statements) :
    (declarationRound stop (recovering statement) statements).Draws source
      (OfProgress (AllMadeOf source) (AllMadeOf source)) := by
  refine draws_bind draws_atEnd fun ended _ => draws_bind draws_nextIs fun stopped _ => ?_
  cases ended || stopped with
  | true => exact draws_pure fun statement member => before statement (List.mem_reverse.mp member)
  | false =>
      refine draws_bind (draws_recovering inside) fun read given => ?_
      cases read with
      | none => exact draws_pure before
      | some statement => exact draws_pure (List.forall_mem_cons.mpr ⟨given statement rfl, before⟩)

theorem draws_declarations {stop : Token → Bool} (inside : DrawsStatement statement source) :
    DrawsStatements (declarations bound stop (recovering statement)) source := by
  rw [declarations_eq]
  exact draws_iterate (AllMadeOf source) (fun _ => draws_declarationRound inside) bound
    (List.forall_mem_nil _)

theorem draws_block (inside : DrawsStatement statement source) :
    DrawsStatements (block bound (recovering statement)) source := by
  refine draws_bind (draws_declarations inside) fun body given => ?_
  exact draws_bind draws_expectSymbol fun closing _ => draws_pure given

end Statements

/-- **Statements and declarations are made of tokens** of the source, whatever the bound and also
where faults were recovered from. -/
theorem draws_statement (bound : Nat) :
    (∀ inFunction, DrawsStatement (statement Level.separate bound inFunction) source) ∧
      ∀ inFunction, DrawsStatement (oneDeclaration Level.separate inFunction bound) source := by
  induction bound with
  | zero =>
      constructor
      · intro inFunction
        rw [statement]
        exact draws_exhausted
      · exact fun inFunction => draws_exhausted
  | succ bound ih =>
      obtain ⟨statements, declarations⟩ := ih
      have blocks (inFunction : Bool) :
          DrawsStatements (block bound (declaration Level.separate bound inFunction)) source := by
        rw [declaration_eq]
        exact draws_block (declarations inFunction)
      have exprs : DrawsExpr (expression Level.separate bound) source 0 := draws_expression bound
      constructor
      · intro inFunction
        rw [statement_succ]
        exact draws_statementOf exprs (statements inFunction) (blocks inFunction)
      · intro inFunction
        exact draws_declared exprs (statements inFunction) (blocks true)

/-- A program is made of the tokens that it was read from, and reports are made at these. -/
theorem draws_program (bound : Nat) : DrawsStatements (program Level.all bound) source := by
  rw [← program_separate, program, declaration_eq]
  exact draws_declarations ((draws_statement bound).2 false)

end Grammar

/-! ## Lines of trees -/

/-- Expressions are on some lines where each of them is. -/
theorem Expr.linesAll_subset_iff {exprs : List Expr} {lines : List Nat} :
    Expr.linesAll exprs ⊆ lines ↔ ∀ expr ∈ exprs, expr.lines ⊆ lines := by
  induction exprs with
  | nil => simp [Expr.linesAll]
  | cons expr exprs ih => rw [Expr.linesAll, List.append_subset, ih, List.forall_mem_cons]

/-- Statements are on some lines where each of them is. -/
theorem Statement.linesAll_subset_iff {statements : List Statement} {lines : List Nat} :
    Statement.linesAll statements ⊆ lines ↔ ∀ statement ∈ statements, statement.lines ⊆ lines := by
  induction statements with
  | nil => simp [Statement.linesAll]
  | cons statement statements ih =>
      rw [Statement.linesAll, List.append_subset, ih, List.forall_mem_cons]

/-- The lines of two operands with an operator between them are its own and those of the two. -/
theorem Connective.lines_node (connective : Connective) (line : Nat) (left right : Expr) :
    (connective.node line left right).lines = line :: (left.lines ++ right.lines) := by
  cases connective <;> rfl

/-- An expression made of tokens is on lines of these tokens, with everything inside of it. -/
theorem Expr.MadeOf.lines_subset {rank : Nat} {expr : Expr} (made : expr.MadeOf source rank) :
    expr.lines ⊆ Token.lines source := by
  induction made with
  | tighter _ ih => exact ih
  | literal onLine | reference onLine =>
      exact List.cons_subset.mpr ⟨onLine, List.nil_subset _⟩
  | grouping onLine _ ih | unary onLine _ ih | assign onLine _ ih | update onLine _ ih =>
      exact List.cons_subset.mpr ⟨onLine, ih⟩
  | call onLine _ _ callee all =>
      exact List.cons_subset.mpr
        ⟨onLine, List.append_subset.mpr ⟨callee, Expr.linesAll_subset_iff.mpr all⟩⟩
  | connective onLine _ _ left right =>
      rw [Connective.lines_node]
      exact List.cons_subset.mpr ⟨onLine, List.append_subset.mpr ⟨left, right⟩⟩

/-- An expression that may be left out, made of tokens, is on lines of these tokens. -/
theorem Expr.OptionMadeOf.lines_subset {value : Option Expr}
    (made : Expr.OptionMadeOf source value) : Expr.linesOption value ⊆ Token.lines source := by
  cases value with
  | none => exact List.nil_subset _
  | some expr => exact (made expr rfl).lines_subset

/-- **Every line of a statement made of tokens is a line of one of them**. -/
theorem Statement.MadeOf.lines_subset {statement : Statement} (made : statement.MadeOf source) :
    statement.lines ⊆ Token.lines source := by
  induction made with
  | expression onLine expr | print onLine expr =>
      exact List.cons_subset.mpr ⟨onLine, expr.lines_subset⟩
  | declare onLine value | giveBack onLine value =>
      exact List.cons_subset.mpr ⟨onLine, value.lines_subset⟩
  | block onLine _ all | function onLine _ all =>
      exact List.cons_subset.mpr ⟨onLine, Statement.linesAll_subset_iff.mpr all⟩
  | @branch _ _ _ negative onLine condition _ _ positive others =>
      have last : Statement.linesOption negative ⊆ Token.lines source := by
        cases negative with
        | none => exact List.nil_subset _
        | some negative => exact others negative rfl
      exact List.cons_subset.mpr ⟨onLine, List.append_subset.mpr
        ⟨List.append_subset.mpr ⟨condition.lines_subset, positive⟩, last⟩⟩
  | choice onLine condition _ _ positive negative =>
      exact List.cons_subset.mpr ⟨onLine, List.append_subset.mpr
        ⟨List.append_subset.mpr ⟨condition.lines_subset, positive⟩, negative⟩⟩
  | whileLoop onLine condition _ body =>
      exact List.cons_subset.mpr
        ⟨onLine, List.append_subset.mpr ⟨condition.lines_subset, body⟩⟩
  | doWhileLoop onLine _ condition body =>
      exact List.cons_subset.mpr
        ⟨onLine, List.append_subset.mpr ⟨body, condition.lines_subset⟩⟩

end Scriptlet
