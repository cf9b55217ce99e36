import Scriptlet.Proofs.Grammar.Expression

/-!
# Expressions that are spelled are read

What some tokens spell as an expression is what the parser reads from them, if no token behind them
would be taken for a part of it. Operators group to the left while they are read from left to right:
so a derivation is unrolled into the rounds of the loop that reads it, and it is such rounds, not
whole answers, that go over to a longer chain.
-/

namespace Scriptlet.Grammar

open Scriptlet.Parser

variable {bound rank : Nat} {tokens middle rest : List Token} {expr left : Expr}

/-! ## The parsers of the ranks -/

/-- An operand of the operators between operands. -/
def operandWithin (bound : Nat) : Parser Expr :=
  signed bound (calls bound (primary (expression Level.all bound)) (expression Level.all bound))

/-- The parser of the expressions of a rank, inside of which expressions have the given bound. -/
def ofRank (bound : Nat) : (rank : Nat) → Parser Expr
  | 0 => assignment (chains bound (operandWithin bound) Level.all) (expression Level.all bound)
  | 9 => calls bound (primary (expression Level.all bound)) (expression Level.all bound)
  | 10 => primary (expression Level.all bound)
  | rank + 1 => chains bound (operandWithin bound) (Level.all.drop rank)

/-- An expression is what the loosest rank reads. -/
theorem expression_succ (bound : Nat) : expression Level.all (bound + 1) = ofRank bound 0 := rfl

/-- The ranks whose parsers are loops over what has the next rank. -/
def Loops (rank : Nat) : Prop :=
  rank ∈ [1, 2, 3, 4, 5, 6, 7, 9]

/-- One round of the loop of a rank. -/
def roundOf (bound rank : Nat) : Expr → Parser (Progress Expr Expr) :=
  match Level.all[rank - 1]? with
  | some level => chainRound level (ofRank bound (rank + 1))
  | none => callRound bound (expression Level.all bound)

/-- The parser of a rank whose operators repeat reads an expression of the next rank, and then goes
in rounds of its loop. -/
theorem ofRank_eq_loop (loops : Loops rank) :
    ofRank bound rank = ofRank bound (rank + 1) >>= iterate (roundOf bound rank) bound := by
  simp only [Loops, List.mem_cons, List.not_mem_nil, or_false] at loops
  rcases loops with rfl | rfl | rfl | rfl | rfl | rfl | rfl | rfl
  all_goals rfl

/-- The operators between operands are read in loops, at whatever rank they are. -/
theorem loops_rank (connective : Connective) : Loops connective.rank := by
  rcases connective with op | op
  all_goals
    cases op
    all_goals simp [Loops, Connective.rank]

/-- Among levels that cover the ranks from `rank` on, each one covers the rank of its place. -/
theorem covers_of_getElem? {levels : List Level} {level : Level} {index : Nat}
    (covers : CoversFrom rank levels) (found : levels[index]? = some level) :
    Covers level (rank + index) := by
  induction levels generalizing rank index with
  | nil => simp at found
  | cons first tighter ih =>
      cases index with
      | zero =>
          obtain rfl : first = level := by simpa using found
          exact covers.1
      | succ index =>
          have later := ih covers.2 (by simpa using found)
          rwa [Nat.add_right_comm, Nat.add_assoc] at later

/-- The rounds of a loop read operators of its rank, or arguments. -/
theorem roundOf_cases (loops : Loops rank) :
    (∃ level, Covers level rank ∧ roundOf bound rank = chainRound level (ofRank bound (rank + 1))) ∨
      (rank = 9 ∧ roundOf bound rank = callRound bound (expression Level.all bound)) := by
  unfold roundOf
  split
  · next level found =>
    have covers := covers_of_getElem? coversFrom_all found
    simp only [Loops, List.mem_cons, List.not_mem_nil, or_false] at loops
    rw [show 1 + (rank - 1) = rank by omega] at covers
    exact .inl ⟨level, covers, rfl⟩
  · next missing =>
    have far : 7 ≤ rank - 1 := List.getElem?_eq_none_iff.mp missing
    simp only [Loops, List.mem_cons, List.not_mem_nil, or_false] at loops
    exact .inr ⟨by omega, rfl⟩

/-! ## What ends an expression -/

/-- A token of a kind is not taken for a part of an expression of a rank before it. -/
structure Ends (rank : Nat) (kind : TokenKind) : Prop where
  stops : Stops rank kind
  noCall : rank ≤ 9 → kind ≠ .symbol .leftParen
  noAssignment : rank = 0 → ∀ op, ¬ AssignmentSpelled kind op

/-- What ends an expression of some rank ends those of the next rank as well, as fewer operators
could take it up. -/
theorem Ends.tighter {kind : TokenKind} (ends : Ends rank kind) : Ends (rank + 1) kind where
  stops connective same := Nat.lt_succ_of_lt (ends.stops connective same)
  noCall within := ends.noCall (Nat.le_of_succ_le within)
  noAssignment zero := absurd zero (Nat.succ_ne_zero rank)

/-- The symbols behind expressions. -/
def closers : List Symbol :=
  [.rightParen, .comma, .semicolon, .colon, .question]

/-- The symbols behind expressions end expressions of every rank. -/
theorem ends_of_mem_closers {symbol : Symbol} (closes : symbol ∈ closers) :
    Ends rank (.symbol symbol) where
  stops connective same := by
    have noOperator (op : BinaryOp) : op.symbol ∉ closers := by cases op <;> decide
    rcases connective with op | op
    · cases same
    · exact absurd (TokenKind.symbol.inj same ▸ closes) (noOperator op)
  noCall _ same := by
    rw [TokenKind.symbol.inj same] at closes
    exact absurd closes (by decide)
  noAssignment _ op spelled := by
    have noUpdate (op : UpdateOp) : op.symbol ∉ closers := by cases op <;> decide
    rcases op with _ | op | ⟨op, amount⟩
    · rw [TokenKind.symbol.inj spelled] at closes
      exact absurd closes (by decide)
    · exact noUpdate op (TokenKind.symbol.inj spelled.2 ▸ closes)
    · exact noUpdate op (TokenKind.symbol.inj spelled.2 ▸ closes)

/-- The kinds of different operators between operands are different. -/
theorem kind_injective {first second : Connective} (same : first.kind = second.kind) :
    first = second := by
  rcases first with first | first <;> rcases second with second | second
  · cases first <;> cases second <;> first | rfl | cases same
  · cases same
  · cases same
  · have injective : ∀ first second : BinaryOp, first.symbol = second.symbol → first = second := by
      intro first second
      cases first <;> cases second <;> decide
    rw [injective first second (TokenKind.symbol.inj same)]

/-- An operator between operands ends its right operand: operators of one rank group to the left. -/
theorem ends_connective (connective : Connective) :
    Ends (connective.rank + 1) connective.kind where
  stops other same := by
    rw [kind_injective same]
    exact Nat.lt_succ_self _
  noCall _ same := by
    rcases connective with op | op
    · cases same
    · cases op <;> cases same
  noAssignment zero := absurd zero (Nat.succ_ne_zero _)

/-- The operator of an assignment ends what has a tighter rank. So it is left to the parser of
assignments. -/
theorem ends_assignment {kind : TokenKind} {op : AssignmentOp}
    (spelled : AssignmentSpelled kind op) : Ends 1 kind := by
  obtain ⟨symbol, rfl, isAssignment⟩ : ∃ symbol, kind = .symbol symbol ∧
      symbol ∈
        [.equal, .plusEqual, .minusEqual, .starEqual, .slashEqual, .plusPlus, .minusMinus] := by
    rcases op with _ | op | ⟨op, amount⟩
    · exact ⟨_, spelled, by decide⟩
    · exact ⟨_, spelled.2, by cases op <;> decide⟩
    · exact ⟨_, spelled.2, by cases op <;> decide⟩
  refine ⟨fun connective same => ?_, fun _ same => ?_, fun zero => absurd zero Nat.one_ne_zero⟩
  · rcases connective with op | op
    · cases same
    · rw [← TokenKind.symbol.inj same] at isAssignment
      exact absurd isAssignment (by cases op <;> decide)
  · rw [TokenKind.symbol.inj same] at isAssignment
    exact absurd isAssignment (by decide)

/-! ## Loops, unrolled -/

/-- A round of the loop of a rank is the last one where the next token goes on with no expression of
this rank. -/
theorem reads_roundOf_done (loops : Loops rank) (ends : Ahead (Ends rank) rest) :
    (roundOf bound rank expr).Reads rest (.done expr) rest := by
  rcases @roundOf_cases bound rank loops with ⟨level, covers, same⟩ | ⟨rfl, same⟩
  · rw [same]
    refine reads_chainRound_done_iff.mpr ⟨rfl, rfl, ends.imp fun kind ends => ?_⟩
    cases onLevel : level kind with
    | none => rfl
    | some connective =>
        obtain ⟨sameKind, atLeast⟩ := covers.sound onLevel
        exact absurd (ends.stops connective sameKind) (Nat.not_lt_of_le atLeast)
  · rw [same]
    exact reads_callRound_done_iff.mpr ⟨rfl, rfl, ends.imp fun kind ends =>
      ends.noCall (Nat.le_refl 9)⟩

/-- What is read in rounds of the loop of a rank, each of which takes a token or more. -/
def Unrolls (bound rank : Nat) (tokens : List Token) (expr : Expr) (rest : List Token) : Prop :=
  ∃ first middle count, (ofRank bound (rank + 1)).Reads tokens first middle ∧
    Rounds (roundOf bound rank) count first middle expr rest ∧ count + rest.length < tokens.length

/-- How what spells an expression of a rank is read: as a whole and, where the parser of the rank is
a loop, in rounds that more rounds may follow. -/
structure ReadAt (bound rank : Nat) (tokens : List Token) (expr : Expr) (rest : List Token) :
    Prop where
  unrolls : Loops rank → Ahead (Ends (rank + 1)) rest → Unrolls bound rank tokens expr rest
  whole : Ahead (Ends rank) rest → (ofRank bound rank).Reads tokens expr rest

/-- What rounds of the loop read, the whole loop reads, as its bound is above the number of
rounds. -/
theorem ReadAt.of_unrolls (enough : tokens.length < bound) (loops : Loops rank)
    (unrolls : Ahead (Ends (rank + 1)) rest → Unrolls bound rank tokens expr rest) :
    ReadAt bound rank tokens expr rest := by
  refine ⟨fun _ => unrolls, fun ends => ?_⟩
  obtain ⟨first, middle, count, read, rounds, fewer⟩ := unrolls (ends.imp fun _ => Ends.tighter)
  rw [ofRank_eq_loop loops]
  exact reads_bind_iff.mpr ⟨first, middle, read, reads_iterate_iff.mpr
    ⟨count, expr, rest, by omega, rounds, reads_roundOf_done loops ends⟩⟩

/-- At a rank that has no loop there is nothing to unroll. -/
theorem ReadAt.of_whole (single : ¬ Loops rank)
    (whole : Ahead (Ends rank) rest → (ofRank bound rank).Reads tokens expr rest) :
    ReadAt bound rank tokens expr rest :=
  ⟨fun loops => absurd loops single, whole⟩

/-- What is read as a call begins with no sign. -/
theorem no_sign_of_reads_calls (reads : (ofRank bound 9).Reads tokens expr rest) (op : UnaryOp) :
    Ahead (· ≠ .symbol op.symbol) tokens := by
  obtain ⟨callee, middle, read, -⟩ := reads_bind_iff.mp reads
  exact no_sign_of_reads_primary read op

/-- What is read at a rank is read at a looser one, if what stands behind it ends that. -/
theorem ReadAt.looser (tighter : ReadAt bound (rank + 1) tokens expr rest)
    (enough : tokens.length < bound) (shorter : rest.length < tokens.length) (small : rank ≤ 9) :
    ReadAt bound rank tokens expr rest := by
  by_cases loops : Loops rank
  · exact .of_unrolls enough loops fun ends =>
      ⟨expr, rest, 0, tighter.whole ends, .none, by omega⟩
  · refine .of_whole loops fun ends => ?_
    have read := tighter.whole (ends.imp fun _ => Ends.tighter)
    have zeroOrEight : rank = 0 ∨ rank = 8 := by
      simp only [Loops, List.mem_cons, List.not_mem_nil, or_false] at loops
      omega
    rcases zeroOrEight with rfl | rfl
    · exact reads_assignment_iff.mpr (.inl ⟨read, ends.imp fun _ ends => ends.noAssignment rfl⟩)
    · exact reads_signed_nil read (by omega) (no_sign_of_reads_calls read)

/-- An expression of a tighter rank is read at each looser one too: no round of the loops between
the two ranks finds an operator to go on with. -/
theorem ReadAt.looser_by (steps : Nat) (tighter : ReadAt bound (rank + steps) tokens expr rest)
    (enough : tokens.length < bound) (shorter : rest.length < tokens.length)
    (small : rank + steps ≤ 10) : ReadAt bound rank tokens expr rest := by
  induction steps with
  | zero => exact tighter
  | succ steps ih =>
      rw [← Nat.add_assoc] at tighter small
      exact ih (tighter.looser enough shorter (by omega)) (by omega)

/-- A name before an assignment is read as its target. -/
theorem reads_target {target operator : Token} {behind : List Token} {name : String}
    {op : AssignmentOp} (enough : behind.length + 2 < bound)
    (isName : target.kind = .identifier name)
    (spelled : AssignmentSpelled operator.kind op) :
    (ofRank bound 1).Reads (target :: operator :: behind) (.reference target.line name)
      (operator :: behind) := by
  have alone : ReadAt bound (1 + 9) (target :: operator :: behind) (.reference target.line name)
      (operator :: behind) :=
    .of_whole (by simp [Loops]) fun _ => reads_primary_iff.mpr
      (.inl ⟨target, rfl, ofToken?_expr_eq_some_iff.mpr (.inr ⟨name, isName, rfl⟩)⟩)
  have first := alone.looser_by 9 enough (Nat.lt_succ_self _) (Nat.le_refl 10)
  exact first.whole (by simpa using ends_assignment spelled)

/-! ## Every derivation -/

/-- No expression has a rank above that of what stands by itself. -/
theorem rank_le_of_spelled {rank : Nat} {tokens rest : List Token} {expr : Expr} :
    Expr.Spelled rank tokens expr rest → rank ≤ 10
  | .tighter inside => Nat.le_of_succ_le (rank_le_of_spelled inside)
  | @Expr.Spelled.binary _ _ _ _ connective _ _ _ _ _ => by
      rcases connective with op | op
      all_goals
        cases op
        all_goals simp [Connective.rank]
  | .literal _ | .reference _ | .grouping _ _ _ | .bareCall _ _ _ | .call _ _ _ _ _ | .unary _ _
  | .assign _ _ _ | .update _ _ _ _ | .step _ _ _ => by decide

/-- One round more may follow the rounds that there are. -/
theorem Unrolls.extend (unrolls : Unrolls bound rank tokens left middle)
    (round : (roundOf bound rank left).Reads middle (.more expr) rest)
    (shorter : rest.length < middle.length) : Unrolls bound rank tokens expr rest := by
  obtain ⟨first, behind, count, read, rounds, fewer⟩ := unrolls
  exact ⟨first, behind, count + 1, read, rounds.append round, by omega⟩

/-- Before a closing symbol, an expression of any kind is read as a whole. -/
theorem ReadAt.closed {closing : Token} {symbol : Symbol}
    (whole : ReadAt bound 0 tokens expr (closing :: rest))
    (isSymbol : closing.kind = .symbol symbol)
    (closes : symbol ∈ closers) :
    (expression Level.all (bound + 1)).Reads tokens expr (closing :: rest) := by
  rw [expression_succ]
  apply whole.whole
  simpa [isSymbol] using ends_of_mem_closers closes

/-- A round of the loop takes up an operator of its rank and the operand to the right of it. -/
theorem reads_roundOf_operator {operator : Token} {behind : List Token} {connective : Connective}
    {right : Expr} (isOperator : operator.kind = connective.kind)
    (read : (ofRank bound (connective.rank + 1)).Reads behind right rest) :
    (roundOf bound connective.rank left).Reads (operator :: behind)
      (.more (connective.node operator.line left right)) rest := by
  rcases @roundOf_cases bound _ (loops_rank connective) with ⟨level, covers, same⟩ | ⟨never, -⟩
  · rw [same]
    exact reads_chainRound_more_iff.mpr ⟨operator, behind, connective, right, rfl,
      isOperator ▸ covers.complete rfl, read, rfl⟩
  · rcases connective with op | op
    all_goals
      cases op
      all_goals cases never

/-- A round of the loop of calls takes up the arguments of one call, with their parentheses. -/
theorem reads_roundOf_call {opening closing : Token} {arguments : List Expr} {inside : List Token}
    (opens : opening.kind = .symbol .leftParen)
    (read : (commaSeparated bound .arguments (expression Level.all bound)).Reads inside arguments
      (closing :: rest)) (closes : closing.kind = .symbol .rightParen) :
    (roundOf bound 9 left).Reads (opening :: inside) (.more (.call closing.line left arguments))
      rest :=
  reads_callRound_more_iff.mpr ⟨opening, inside, arguments, closing, rfl, opens, read, closes, rfl⟩

/-- There are no more arguments than tokens that spell them. -/
theorem length_le_of_spelledArguments {tokens rest : List Token} {exprs : List Expr}
    (spelled : Expr.SpelledArguments tokens exprs rest) :
    exprs.length + rest.length ≤ tokens.length := by
  induction exprs generalizing tokens with
  | nil => cases spelled
  | cons expr exprs ih =>
      cases spelled with
      | last spelled =>
          have shorter := spelled.shorter
          rw [List.length_singleton]
          omega
      | more spelled _ spelledMore =>
          have shorter := spelled.shorter
          have later := ih spelledMore
          simp only [List.length_cons] at shorter ⊢
          omega

/-- No expression begins with a closing symbol or a brace. -/
theorem not_startsExpr_symbol {symbol : Symbol} (closes : symbol ∈ closers ∨ symbol = .rightBrace ∨
    symbol = .leftBrace) : ¬ StartsExpr (.symbol symbol) := by
  have other : symbol ≠ .bang ∧ symbol ≠ .minus ∧ symbol ≠ .leftParen := by
    refine ⟨?_, ?_, ?_⟩
    all_goals
      rintro rfl
      revert closes
      decide
  rintro (⟨value, same⟩ | ⟨name, same⟩ | ⟨op, same⟩ | same)
  · rcases value with _ | _ | (_ | _) | _ <;> cases same
  · cases same
  · cases op with
    | negate => exact other.2.1 (TokenKind.symbol.inj same)
    | not => exact other.1 (TokenKind.symbol.inj same)
  · exact other.2.2 (TokenKind.symbol.inj same)

/-- No closing parenthesis comes first among arguments, which is how the parser sees that there are
some. -/
theorem arguments_start {tokens rest : List Token} {exprs : List Expr}
    (spelled : Expr.SpelledArguments tokens exprs rest) :
    Ahead (· ≠ .symbol .rightParen) tokens := by
  cases spelled with
  | last expr | more expr _ _ =>
      obtain ⟨token, behind, rfl, starts, -⟩ := expr.starts
      rw [ahead_cons]
      intro same
      rw [same] at starts
      exact not_startsExpr_symbol (.inl (by decide)) starts

/-- Arguments with commas between them are read up to their closing parenthesis, if they are few
enough for a call and each of them is read. -/
theorem reads_arguments {argument : Parser Expr} {closing : Token} {arguments : List Expr}
    (spelled : Expr.SpelledArguments tokens arguments (closing :: rest))
    (separated : Separated argument.Reads tokens arguments (closing :: rest))
    (few : arguments.length ≤ maxListLength) (enough : arguments.length ≤ bound)
    (closes : closing.kind = .symbol .rightParen) :
    (commaSeparated bound .arguments argument).Reads tokens arguments (closing :: rest) :=
  reads_commaSeparated separated few enough (arguments_start spelled) (by simp [closes])

/-- Another call may follow what is called. -/
theorem ends_call {opening : Token} {behind : List Token}
    (opens : opening.kind = .symbol .leftParen) :
    Ahead (Ends 10) (opening :: behind) := by
  rw [ahead_cons, opens]
  refine ⟨fun connective same => ?_, fun within => absurd within (by decide),
    fun zero => by cases zero⟩
  rcases connective with op | op
  · cases same
  · cases op <;> cases same

mutual

/-- **Expressions that are spelled are read**, where the bound exceeds the number of tokens. -/
theorem readAt_of_spelled {rank : Nat} {tokens rest : List Token} {expr : Expr} :
    Expr.Spelled rank tokens expr rest → ∀ {bound : Nat}, tokens.length < bound →
      ReadAt bound rank tokens expr rest
  | .tighter inside, _, enough => by
      have small := rank_le_of_spelled inside
      exact (readAt_of_spelled inside enough).looser enough inside.shorter (by omega)
  | .literal isValue, _, _ => .of_whole (by simp [Loops]) fun _ =>
      reads_primary_iff.mpr (.inl ⟨_, rfl, ofToken?_expr_eq_some_iff.mpr (.inl ⟨_, isValue, rfl⟩)⟩)
  | .reference isName, _, _ => .of_whole (by simp [Loops]) fun _ =>
      reads_primary_iff.mpr (.inl ⟨_, rfl, ofToken?_expr_eq_some_iff.mpr (.inr ⟨_, isName, rfl⟩)⟩)
  | .grouping opens inside closes, 0, enough => by omega
  | .grouping opens inside closes, bound + 1, enough => .of_whole (by simp [Loops]) fun _ => by
      have whole := readAt_of_spelled inside (Nat.lt_of_succ_lt_succ enough)
      have read := whole.closed closes (by decide)
      exact reads_primary_iff.mpr (.inr ⟨_, _, _, _, rfl, opens, read, closes, rfl⟩)
  | .bareCall callee opens closes, _, enough => .of_unrolls enough (by simp [Loops]) fun _ => by
      have before := (readAt_of_spelled callee enough).unrolls (by simp [Loops]) (ends_call opens)
      exact before.extend (reads_roundOf_call opens (reads_commaSeparated_nil closes) closes)
        (by simp only [List.length_cons]; omega)
  | .call _ _ _ _ _, 0, enough => by omega
  | .call callee opens arguments few closes, bound + 1, enough =>
      .of_unrolls enough (by simp [Loops]) fun _ => by
        have before := (readAt_of_spelled callee enough).unrolls (by simp [Loops]) (ends_call opens)
        have shorter := callee.shorter
        have fewer := length_le_of_spelledArguments arguments
        simp only [List.length_cons] at shorter fewer
        have separated := separated_of_spelledArguments arguments
          (show _ < bound by omega) (by simpa [closes] using ends_of_mem_closers (by decide))
        have list := reads_arguments arguments separated few (show _ ≤ bound + 1 by omega) closes
        exact before.extend (reads_roundOf_call opens list closes)
          (by simp only [List.length_cons]; omega)
  | .unary isSign operand, bound, enough => .of_whole (by simp [Loops]) fun ends => by
      rw [List.length_cons] at enough
      have read := (readAt_of_spelled operand (show _ < bound by omega)).whole ends
      exact reads_signed_cons isSign enough read
  | @Expr.Spelled.binary _ _ _ _ connective _ _ left isOperator right, bound, enough =>
      .of_unrolls enough (loops_rank connective) fun ends => by
        have shorter := left.shorter
        have fewer := right.shorter
        rw [List.length_cons] at shorter
        have before := (readAt_of_spelled left enough).unrolls (loops_rank connective)
          (by simpa [isOperator] using ends_connective connective)
        have read := (readAt_of_spelled right (show _ < bound by omega)).whole ends
        exact before.extend (reads_roundOf_operator isOperator read)
          (by rw [List.length_cons]; omega)
  | .assign _ _ _, 0, enough | .update _ _ _ _, 0, enough => by omega
  | .assign isName isSet value, bound + 1, enough => .of_whole (by simp [Loops]) fun ends => by
      simp only [List.length_cons] at enough
      have target := @reads_target _ _ _ _ _ .set enough isName isSet
      have read := (readAt_of_spelled value (show _ < bound by omega)).whole ends
      exact reads_assignment_iff.mpr (.inr ⟨_, _, _, _, target, .inl ⟨_, isSet, read, rfl⟩⟩)
  | .update isName takes isUpdate operand, bound + 1, enough =>
      .of_whole (by simp [Loops]) fun ends => by
        simp only [List.length_cons] at enough
        have target := @reads_target _ _ _ _ _ (.update _) enough isName ⟨takes, isUpdate⟩
        have read := (readAt_of_spelled operand (show _ < bound by omega)).whole ends
        exact reads_assignment_iff.mpr
          (.inr ⟨_, _, _, _, target, .inr (.inl ⟨_, _, takes, isUpdate, read, rfl⟩)⟩)
  | .step isName steps isStep, bound, enough => .of_whole (by simp [Loops]) fun _ => by
      simp only [List.length_cons] at enough
      have target := @reads_target _ _ _ _ _ (.step _ _) enough isName ⟨steps, isStep⟩
      exact reads_assignment_iff.mpr
        (.inr ⟨_, _, _, _, target, .inr (.inr ⟨_, _, steps, isStep, rfl, rfl⟩)⟩)

/-- Arguments that are spelled are read one by one. -/
theorem separated_of_spelledArguments {tokens rest : List Token} {exprs : List Expr} :
    Expr.SpelledArguments tokens exprs rest → ∀ {bound : Nat}, tokens.length < bound →
      Ahead (Ends 0) rest → Separated (expression Level.all (bound + 1)).Reads tokens exprs rest
  | .last expr, _, enough, ends => .last ((readAt_of_spelled expr enough).whole ends)
  | .more expr isComma exprs, _, enough, ends => by
      have shorter := expr.shorter
      have read := (readAt_of_spelled expr enough).closed isComma (by decide)
      simp only [List.length_cons] at shorter
      exact .more read isComma (separated_of_spelledArguments exprs (by omega) ends)

end

/-- An expression before a closing symbol is read. -/
theorem reads_expression {closing : Token} {symbol : Symbol}
    (spelled : Expr.Spelled 0 tokens expr (closing :: rest)) (enough : tokens.length + 1 < bound)
    (isSymbol : closing.kind = .symbol symbol) (closes : symbol ∈ closers) :
    (expression Level.all bound).Reads tokens expr (closing :: rest) := by
  cases bound with
  | zero => omega
  | succ bound =>
      exact (readAt_of_spelled spelled (Nat.lt_of_succ_lt_succ enough)).closed isSymbol closes

end Scriptlet.Grammar
