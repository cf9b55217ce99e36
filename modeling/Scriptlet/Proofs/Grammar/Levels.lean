import Scriptlet.Program
import Scriptlet.Proofs.Grammar.Statement

/-!
# Every operator on one level

Products list `**` among their operators, and so do powers, which bind more tightly. The tighter
level reads on for as long as `**` follows, so that none is left over for the looser one. The
language is the same with each operator on one level alone, also where a program has faults.
-/

namespace Scriptlet

/-- The level of products without `**`. -/
def Level.productOnly : Level
  | .symbol .slash => some (.binary .divide)
  | .symbol .star => some (.binary .multiply)
  | .symbol .percent => some (.binary .remainder)
  | _ => none

/-- The levels of the language with every operator on one of them alone. -/
def Level.separate : List Level :=
  [disjunction, conjunction, equality, comparison, sum, productOnly, power]

namespace Parser

variable {α β σ : Type} {holds : TokenKind → Prop}

/-- Behind a value that a parser reads, with or without faults, stands no token or one of a kind
with the given property. -/
def EndsBefore (parser : Parser α) (holds : TokenKind → Prop) : Prop :=
  ∀ ⦃tokens value rest reports⦄, parser tokens = .parsed value rest reports → Ahead holds rest

/-- A parser reads a value exactly when its parts do, and reports what they report. -/
theorem bind_eq_parsed_iff {first : Parser α} {next : α → Parser β} {tokens rest : List Token}
    {value : β} {reports : List Report} :
    (first >>= next) tokens = .parsed value rest reports ↔
      ∃ read middle earlier later, first tokens = .parsed read middle earlier ∧
        next read middle = .parsed value rest later ∧ reports = later ++ earlier := by
  rw [bind_apply]
  cases first tokens with
  | unfinished => simp
  | failed error rest reports => simp
  | parsed read middle earlier =>
      cases given : next read middle with
      | unfinished => simp [given]
      | failed error rest reports => simp [given]
      | parsed value rest later => simp [given]; grind

/-- What comes behind two parsers, one after the other, comes behind the second one. -/
theorem endsBefore_bind {first : Parser α} {next : α → Parser β}
    (ends : ∀ value, (next value).EndsBefore holds) : (first >>= next).EndsBefore holds := by
  intro tokens value rest reports read
  obtain ⟨middle, behind, -, later, -, last, -⟩ := bind_eq_parsed_iff.mp read
  exact ends middle last

/-- A loop ends where its last round does. -/
theorem endsBefore_iterate {step : σ → Parser (Progress σ α)}
    (last : ∀ ⦃state tokens value rest reports⦄,
      step state tokens = .parsed (.done value) rest reports → Ahead holds rest)
    (bound : Nat) (state : σ) : (iterate step bound state).EndsBefore holds := by
  induction bound generalizing state with
  | zero => exact fun _ _ _ _ read => nomatch read
  | succ bound ih =>
      intro tokens value rest reports read
      obtain ⟨progress, middle, earlier, later, round, goesOn, -⟩ := bind_eq_parsed_iff.mp read
      cases progress with
      | more next => exact ih next goesOn
      | done result =>
          cases goesOn
          exact last round

/-- Two loops do the same on tokens on which their rounds do, if a round that goes on leaves such
tokens. -/
theorem iterate_congr {step round : σ → Parser (Progress σ α)} {admitted : List Token → Prop}
    (same : ∀ state tokens, admitted tokens → step state tokens = round state tokens)
    (kept : ∀ ⦃state tokens next rest reports⦄,
      step state tokens = .parsed (.more next) rest reports → admitted rest)
    (bound : Nat) {state : σ} {tokens : List Token} (first : admitted tokens) :
    iterate step bound state tokens = iterate round bound state tokens := by
  induction bound generalizing state tokens with
  | zero => rfl
  | succ bound ih =>
      rw [iterate, iterate, bind_apply, bind_apply, ← same state tokens first]
      cases given : step state tokens with
      | unfinished => rfl
      | failed error rest reports => rfl
      | parsed progress rest reports =>
          cases progress with
          | done value => rfl
          | more next =>
              dsimp only
              rw [ih (kept given)]

end Parser

namespace Grammar

open Scriptlet.Parser

variable {bound : Nat} {level narrower : Level} {operand : Parser Expr} {left next : Expr}
  {tokens rest : List Token} {reports : List Report}

/-! ## Chains -/

/-- The last round of a chain finds no operator of the level. -/
theorem ahead_of_chainRound_done {expr : Expr}
    (round : chainRound level operand left tokens = .parsed (.done expr) rest reports) :
    Ahead (level · = none) rest := by
  obtain ⟨accepted, middle, earlier, later, accepts, goesOn, -⟩ := bind_eq_parsed_iff.mp round
  cases accepted with
  | none =>
      cases goesOn
      cases tokens with
      | nil =>
          cases accepts
          exact ahead_nil _
      | cons token behind =>
          cases stands : level token.kind with
          | some connective => simp [accept, stands] at accepts
          | none =>
              simp only [accept, stands, Option.map_none, Reply.parsed.injEq, true_and] at accepts
              rw [← accepts.1, ahead_cons]
              exact stands
  | some accepted =>
      obtain ⟨right, _, _, _, -, impossible, -⟩ := bind_eq_parsed_iff.mp goesOn
      cases impossible

/-- Behind a chain stands no operator of its level. -/
theorem endsBefore_chain (bound : Nat) (level : Level) (operand : Parser Expr) :
    (chain bound level operand).EndsBefore (level · = none) := by
  rw [chain_eq]
  exact endsBefore_bind (endsBefore_iterate (fun _ _ _ _ _ => ahead_of_chainRound_done) bound)

/-- A round of a chain that goes on ends where an operand does. -/
theorem ahead_of_chainRound_more {holds : TokenKind → Prop} (ends : operand.EndsBefore holds)
    (round : chainRound level operand left tokens = .parsed (.more next) rest reports) :
    Ahead holds rest := by
  obtain ⟨accepted, middle, earlier, later, -, goesOn, -⟩ := bind_eq_parsed_iff.mp round
  cases accepted with
  | none => cases goesOn
  | some accepted =>
      obtain ⟨right, behind, _, _, read, done, -⟩ := bind_eq_parsed_iff.mp goesOn
      cases done
      exact ends read

/-- A level may list more operators than another one, as long as none of these can follow on an
operand. -/
theorem chain_congr (ends : operand.EndsBefore fun kind => level kind = narrower kind) :
    chain bound level operand = chain bound narrower operand := by
  have same (left : Expr) (tokens : List Token)
      (agree : Ahead (fun kind => level kind = narrower kind) tokens) :
      chainRound level operand left tokens = chainRound narrower operand left tokens := by
    cases tokens with
    | nil => rfl
    | cons token behind =>
        rw [ahead_cons] at agree
        simp only [chainRound, bind_apply, accept, agree]
  rw [chain_eq, chain_eq]
  funext tokens
  rw [bind_apply, bind_apply]
  cases read : operand tokens with
  | unfinished => rfl
  | failed error rest reports => rfl
  | parsed first rest reports =>
      dsimp only
      rw [iterate_congr same (fun _ _ _ _ _ => ahead_of_chainRound_more ends) bound (ends read)]

/-- Powers leave no `**` over, so that products need not list it. -/
theorem chain_product (bound : Nat) (operand : Parser Expr) :
    chain bound .product (chain bound .power operand) =
      chain bound .productOnly (chain bound .power operand) := by
  refine chain_congr fun tokens value rest reports read => ?_
  refine (endsBefore_chain bound .power operand read).imp fun kind noPower => ?_
  unfold Level.product Level.productOnly
  split
  · rfl
  · rfl
  · cases noPower
  · rfl
  · next others => grind

/-- Products read no `**`, since the powers that are their operands leave none over. So the levels
are read alike with `**` among products and without it. -/
theorem chains_separate (bound : Nat) (operand : Parser Expr) :
    chains bound operand Level.separate = chains bound operand Level.all := by
  simp only [Level.separate, Level.all, chains, chain_product]

/-! ## Programs -/

/-- Expressions are the same with each operator on one level alone. -/
theorem expression_separate (bound : Nat) :
    expression Level.separate bound = expression Level.all bound := by
  induction bound with
  | zero => rfl
  | succ bound ih => simp only [expression, ih, chains_separate]

/-- Statements and declarations are the same with each operator on one level alone. -/
theorem statement_separate (bound : Nat) (inFunction : Bool) :
    statement Level.separate bound inFunction = statement Level.all bound inFunction ∧
      declaration Level.separate bound inFunction = declaration Level.all bound inFunction := by
  induction bound generalizing inFunction with
  | zero => exact ⟨by rw [statement, statement], by rw [declaration, declaration]⟩
  | succ bound ih =>
      constructor
      · rw [statement, statement, expression_separate, (ih inFunction).1, (ih inFunction).2]
      · rw [declaration, declaration, expression_separate, (ih inFunction).1, (ih true).2]

/-- **Programs are the same** with each operator on one level alone: the same statements are read
and the same faults reported. -/
theorem program_separate (bound : Nat) :
    program Level.separate bound = program Level.all bound := by
  rw [program, program, (statement_separate bound false).2]

end Grammar

end Scriptlet
