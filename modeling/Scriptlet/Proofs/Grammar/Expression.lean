import Scriptlet.Proofs.Grammar.Spelling

/-!
# What the productions of expressions read cleanly

For each production, what it reads cleanly in terms of what its parts read cleanly. The rounds of
its loop get a name, so that they can be spoken about.
-/

namespace Scriptlet.Grammar

open Scriptlet.Parser

variable {α : Type} {bound : Nat} {tokens rest : List Token}

/-! ## Lists -/

/-- Some tokens hold items with a comma between each and the next, at least one, and leave
`rest`. -/
inductive Separated (item : List Token → α → List Token → Prop) :
    List Token → List α → List Token → Prop
  | last {tokens rest : List Token} {value : α} :
      item tokens value rest → Separated item tokens [value] rest
  | more {tokens behind rest : List Token} {comma : Token} {value : α} {values : List α} :
      item tokens value (comma :: behind) → comma.kind = .symbol .comma →
      Separated item behind values rest → Separated item tokens (value :: values) rest

/-- One round of a list: an item and, if a comma follows, the comma. -/
def listRound (kind : ListKind) (item : Parser α) :
    Nat × List α → Parser (Progress (Nat × List α) (List α)) := fun (count, items) => do
  if maxListLength ≤ count then reportNext (.tooMany kind)
  let value ← item
  match ← acceptSymbol .comma with
  | some _ => return .more (count + 1, value :: items)
  | none => return .done (value :: items).reverse

variable {kind : ListKind} {item : Parser α} {count : Nat} {items values : List α}

/-- A list is empty in front of its end, and read round by round elsewhere. -/
theorem commaSeparated_eq (bound : Nat) (kind : ListKind) (item : Parser α) :
    commaSeparated bound kind item = (do
      if ← nextIs (·.isSymbol .rightParen) then return []
      iterate (listRound kind item) bound (0, [])) := rfl

/-- A list goes on behind an item and a comma, as long as it is not too long. -/
theorem reads_listRound_more_iff {state : Nat × List α} :
    (listRound kind item (count, items)).Reads tokens (.more state) rest ↔
      count < maxListLength ∧ ∃ value comma, item.Reads tokens value (comma :: rest) ∧
        comma.kind = .symbol .comma ∧ state = (count + 1, value :: items) := by
  by_cases full : maxListLength ≤ count
  · simp only [listRound, full, ↓reduceIte, reads_bind_iff, not_reads_reportNext, false_and,
      exists_false, false_iff, not_and]
    omega
  · simp only [listRound, full, ↓reduceIte, reads_bind_iff]
    constructor
    · rintro ⟨value, middle, read, comma, behind, accepted, round⟩
      cases comma with
      | none => simp [reads_pure_iff] at round
      | some comma =>
          obtain ⟨rfl, isComma⟩ := reads_acceptSymbol_some_iff.mp accepted
          obtain ⟨same, rfl⟩ := reads_pure_iff.mp round
          cases same
          exact ⟨by omega, value, comma, read, isComma, rfl⟩
    · rintro ⟨-, value, comma, read, isComma, rfl⟩
      exact ⟨value, comma :: rest, read, some comma, rest,
        reads_acceptSymbol_some_iff.mpr ⟨rfl, isComma⟩, reads_pure_iff.mpr ⟨rfl, rfl⟩⟩

/-- A list ends behind an item without a comma. -/
theorem reads_listRound_done_iff :
    (listRound kind item (count, items)).Reads tokens (.done values) rest ↔
      count < maxListLength ∧ Ahead (· ≠ .symbol .comma) rest ∧
        ∃ value, item.Reads tokens value rest ∧ values = (value :: items).reverse := by
  by_cases full : maxListLength ≤ count
  · simp only [listRound, full, ↓reduceIte, reads_bind_iff, not_reads_reportNext, false_and,
      exists_false, false_iff, not_and]
    omega
  · simp only [listRound, full, ↓reduceIte, reads_bind_iff]
    constructor
    · rintro ⟨value, middle, read, comma, behind, accepted, round⟩
      cases comma with
      | some comma => simp [reads_pure_iff] at round
      | none =>
          obtain ⟨rfl, stops⟩ := reads_acceptSymbol_none_iff.mp accepted
          obtain ⟨same, rfl⟩ := reads_pure_iff.mp round
          cases same
          exact ⟨by omega, stops, value, read, rfl⟩
    · rintro ⟨-, stops, value, read, rfl⟩
      exact ⟨value, rest, read, none, rest, reads_acceptSymbol_none_iff.mpr ⟨rfl, stops⟩,
        reads_pure_iff.mpr ⟨rfl, rfl⟩⟩

/-- What the rounds of a list read, with the items read before. -/
theorem separated_of_rounds {last : Nat × List α} {middle : List Token}
    (rounds : Rounds (listRound kind item) bound (count, items) tokens last middle)
    (done : (listRound kind item last).Reads middle (.done values) rest) :
    ∃ more, values = items.reverse ++ more ∧ Separated item.Reads tokens more rest ∧
      count + more.length ≤ maxListLength := by
  generalize start : (count, items) = state at rounds
  induction rounds generalizing count items with
  | none =>
      subst start
      obtain ⟨few, -, value, read, rfl⟩ := reads_listRound_done_iff.mp done
      exact ⟨[value], by simp, .last read, few⟩
  | first round _ ih =>
      subst start
      obtain ⟨few, value, comma, read, isComma, rfl⟩ := reads_listRound_more_iff.mp round
      obtain ⟨more, same, separated, bounded⟩ := ih done rfl
      refine ⟨value :: more, by simp [same], .more read isComma separated, ?_⟩
      rw [List.length_cons]
      omega

/-- A list that is read cleanly is empty and ends at once, or its items are separated by commas and
not too many. -/
theorem separated_of_reads (reads : (commaSeparated bound kind item).Reads tokens values rest) :
    (values = [] ∧ tokens = rest) ∨
      (Separated item.Reads tokens values rest ∧ values.length ≤ maxListLength) := by
  rw [commaSeparated_eq] at reads
  simp only [reads_bind_iff, reads_nextIs_iff] at reads
  obtain ⟨ended, middle, ⟨-, rfl⟩, reads⟩ := reads
  cases ended with
  | true =>
      obtain ⟨rfl, rfl⟩ := reads_pure_iff.mp reads
      exact .inl ⟨rfl, rfl⟩
  | false =>
      obtain ⟨count, last, middle, -, rounds, done⟩ := reads_iterate_iff.mp reads
      obtain ⟨more, same, separated, few⟩ := separated_of_rounds rounds done
      rw [List.reverse_nil, List.nil_append] at same
      subst same
      exact .inr ⟨separated, by omega⟩

/-- Items with commas between them are read round by round, and the last one ends the list. -/
theorem rounds_of_separated (separated : Separated item.Reads tokens values rest)
    (few : count + values.length ≤ maxListLength) (stops : Ahead (· ≠ .symbol .comma) rest) :
    ∃ rounds last middle, rounds < values.length ∧
      Rounds (listRound kind item) rounds (count, items) tokens last middle ∧
      (listRound kind item last).Reads middle (.done (items.reverse ++ values)) rest := by
  induction separated generalizing count items with
  | @last tokens rest value read =>
      have done : (listRound kind item (count, items)).Reads tokens
          (.done (value :: items).reverse) rest :=
        reads_listRound_done_iff.mpr ⟨few, stops, value, read, rfl⟩
      exact ⟨0, (count, items), tokens, Nat.one_pos, .none, by simpa using done⟩
  | @more tokens behind rest comma value values read isComma _ ih =>
      rw [List.length_cons] at few
      have round : (listRound kind item (count, items)).Reads tokens
          (.more (count + 1, value :: items)) behind :=
        reads_listRound_more_iff.mpr ⟨by omega, value, comma, read, isComma, rfl⟩
      obtain ⟨rounds, last, middle, fewer, later, done⟩ :=
        @ih (count + 1) (value :: items) (by omega) stops
      exact ⟨rounds + 1, last, middle, Nat.succ_lt_succ fewer, .first round later,
        by simpa using done⟩

/-- In front of its end a list is empty. -/
theorem reads_commaSeparated_nil {closing : Token}
    (isClosing : closing.kind = .symbol .rightParen) :
    (commaSeparated bound kind item).Reads (closing :: rest) [] (closing :: rest) := by
  rw [commaSeparated_eq]
  refine reads_bind_iff.mpr ⟨true, closing :: rest, reads_nextIs_iff.mpr ⟨?_, rfl⟩,
    reads_pure_iff.mpr ⟨rfl, rfl⟩⟩
  simp [Token.isSymbol, isClosing]

/-- Items separated by commas are read cleanly as a list, if they are not too many and what stands
before and behind them is no part of the list. -/
theorem reads_commaSeparated (separated : Separated item.Reads tokens values rest)
    (few : values.length ≤ maxListLength) (enough : values.length ≤ bound)
    (starts : Ahead (· ≠ .symbol .rightParen) tokens) (stops : Ahead (· ≠ .symbol .comma) rest) :
    (commaSeparated bound kind item).Reads tokens values rest := by
  obtain ⟨rounds, last, middle, fewer, later, done⟩ : ∃ rounds last middle,
      rounds < values.length ∧ Rounds (listRound kind item) rounds (0, []) tokens last middle ∧
      (listRound kind item last).Reads middle (.done ([].reverse ++ values)) rest :=
    rounds_of_separated separated (by omega) stops
  rw [commaSeparated_eq]
  refine reads_bind_iff.mpr ⟨false, tokens, reads_nextIs_iff.mpr ⟨?_, rfl⟩,
    reads_iterate_iff.mpr ⟨rounds, last, middle, by omega, later, done⟩⟩
  cases tokens with
  | nil => rfl
  | cons token behind => simpa [Token.isSymbol] using starts

/-! ## Operators between operands -/

/-- No operator that binds at least as tightly as a rank is of a kind. -/
def Stops (rank : Nat) (kind : TokenKind) : Prop :=
  ∀ connective : Connective, connective.kind = kind → connective.rank < rank

/-- A level has all operators of a rank, and besides them at most some that bind more tightly. -/
structure Covers (level : Level) (rank : Nat) : Prop where
  sound : ∀ {kind connective}, level kind = some connective →
    connective.kind = kind ∧ rank ≤ connective.rank
  complete : ∀ {connective : Connective}, connective.rank = rank →
    level connective.kind = some connective

/-- The levels of a list cover the ranks from `rank` on. -/
def CoversFrom (rank : Nat) : List Level → Prop
  | [] => True
  | level :: tighter => Covers level rank ∧ CoversFrom (rank + 1) tighter

/-- The levels of the grammar cover the ranks from the lowest of a connective on. -/
theorem coversFrom_all : CoversFrom 1 Level.all := by
  refine ⟨?_, ?_, ?_, ?_, ?_, ?_, ?_, trivial⟩
  all_goals
    constructor
    · intro kind connective stands
      simp only [Level.disjunction, Level.conjunction, Level.equality, Level.comparison, Level.sum,
        Level.product, Level.power] at stands
      split at stands <;> cases stands
      all_goals exact ⟨rfl, by decide⟩
    · rintro (op | op) ranked
      all_goals cases op
      all_goals first | rfl | cases ranked

/-- One round of a chain: an operator of the level and the operand behind it. -/
def chainRound (level : Level) (operand : Parser Expr) (left : Expr) :
    Parser (Progress Expr Expr) := do
  match ← accept fun token => (level token.kind).map (·, token.line) with
  | none => return .done left
  | some (connective, line) =>
    let right ← operand
    return .more (connective.node line left right)

variable {level : Level} {operand : Parser Expr} {left next expr : Expr}

/-- A chain is an operand, and rounds of operators behind it. -/
theorem chain_eq (bound : Nat) (level : Level) (operand : Parser Expr) :
    chain bound level operand = operand >>= iterate (chainRound level operand) bound := rfl

/-- A chain goes on with an operator of its level and another operand. -/
theorem reads_chainRound_more_iff :
    (chainRound level operand left).Reads tokens (.more next) rest ↔
      ∃ operator behind connective right, tokens = operator :: behind ∧
        level operator.kind = some connective ∧ operand.Reads behind right rest ∧
        next = connective.node operator.line left right := by
  simp only [chainRound, reads_bind_iff]
  constructor
  · rintro ⟨accepted, behind, accepts, round⟩
    cases accepted with
    | none => simp [reads_pure_iff] at round
    | some accepted =>
        obtain ⟨operator, rfl, stands⟩ := reads_accept_some_iff.mp accepts
        obtain ⟨connective, onLevel, rfl⟩ := Option.map_eq_some_iff.mp stands
        obtain ⟨right, _, read, round⟩ := reads_bind_iff.mp round
        obtain ⟨same, rfl⟩ := reads_pure_iff.mp round
        cases same
        exact ⟨operator, behind, connective, right, rfl, onLevel, read, rfl⟩
  · rintro ⟨operator, behind, connective, right, rfl, onLevel, read, rfl⟩
    refine ⟨some (connective, operator.line), behind,
      reads_accept_some_iff.mpr ⟨operator, rfl, by rw [onLevel]; rfl⟩, ?_⟩
    exact reads_bind_iff.mpr ⟨right, rest, read, reads_pure_iff.mpr ⟨rfl, rfl⟩⟩

/-- A chain ends where no operator of its level is next, and then it is what was read so far. -/
theorem reads_chainRound_done_iff :
    (chainRound level operand left).Reads tokens (.done expr) rest ↔
      expr = left ∧ tokens = rest ∧ Ahead (level · = none) tokens := by
  simp only [chainRound, reads_bind_iff]
  constructor
  · rintro ⟨accepted, behind, accepts, round⟩
    cases accepted with
    | none =>
        obtain ⟨rfl, stops⟩ := reads_accept_none_iff.mp accepts
        obtain ⟨same, rfl⟩ := reads_pure_iff.mp round
        cases same
        exact ⟨rfl, rfl, fun token ahead => by simpa using stops token ahead⟩
    | some accepted =>
        obtain ⟨right, _, -, round⟩ := reads_bind_iff.mp round
        simp [reads_pure_iff] at round
  · rintro ⟨rfl, rfl, stops⟩
    refine ⟨none, tokens, reads_accept_none_iff.mpr ⟨rfl, fun token ahead => ?_⟩,
      reads_pure_iff.mpr ⟨rfl, rfl⟩⟩
    simpa using stops token ahead

/-! ## Calls -/

/-- One round of calls: a list of arguments between parentheses. -/
def callRound (bound : Nat) (argument : Parser Expr) (callee : Expr) :
    Parser (Progress Expr Expr) := do
  match ← acceptSymbol .leftParen with
  | none => return .done callee
  | some _ =>
    let arguments ← commaSeparated bound .arguments argument
    let closing ← expectSymbol .rightParen .parenAfterArguments
    return .more (.call closing.line callee arguments)

variable {callee argument inner : Parser Expr}

/-- Calls are a callee, and rounds of arguments behind it. -/
theorem calls_eq (bound : Nat) (callee argument : Parser Expr) :
    calls bound callee argument = callee >>= iterate (callRound bound argument) bound := rfl

/-- A call goes on with a list of arguments between parentheses, and stands on the line of the
last. -/
theorem reads_callRound_more_iff :
    (callRound bound argument left).Reads tokens (.more next) rest ↔
      ∃ opening inside arguments closing, tokens = opening :: inside ∧
        opening.kind = .symbol .leftParen ∧
        (commaSeparated bound .arguments argument).Reads inside arguments (closing :: rest) ∧
        closing.kind = .symbol .rightParen ∧ next = .call closing.line left arguments := by
  simp only [callRound, reads_bind_iff]
  constructor
  · rintro ⟨accepted, inside, accepts, round⟩
    cases accepted with
    | none => simp [reads_pure_iff] at round
    | some opening =>
        obtain ⟨rfl, opens⟩ := reads_acceptSymbol_some_iff.mp accepts
        simp only [reads_bind_iff, reads_expectSymbol_iff, reads_pure_iff] at round
        obtain ⟨arguments, _, read, closing, _, ⟨rfl, closes⟩, same, rfl⟩ := round
        cases same
        exact ⟨opening, inside, arguments, closing, rfl, opens, read, closes, rfl⟩
  · rintro ⟨opening, inside, arguments, closing, rfl, opens, read, closes, rfl⟩
    refine ⟨some opening, inside, reads_acceptSymbol_some_iff.mpr ⟨rfl, opens⟩, ?_⟩
    simp only [reads_bind_iff, reads_expectSymbol_iff, reads_pure_iff]
    exact ⟨arguments, _, read, closing, rest, ⟨rfl, closes⟩, rfl, rfl⟩

/-- Calls end where no parenthesis opens. -/
theorem reads_callRound_done_iff :
    (callRound bound argument left).Reads tokens (.done expr) rest ↔
      expr = left ∧ tokens = rest ∧ Ahead (· ≠ .symbol .leftParen) tokens := by
  simp only [callRound, reads_bind_iff]
  constructor
  · rintro ⟨accepted, inside, accepts, round⟩
    cases accepted with
    | none =>
        obtain ⟨rfl, stops⟩ := reads_acceptSymbol_none_iff.mp accepts
        obtain ⟨same, rfl⟩ := reads_pure_iff.mp round
        cases same
        exact ⟨rfl, rfl, stops⟩
    | some opening => simp [reads_bind_iff, reads_map_iff] at round
  · rintro ⟨rfl, rfl, stops⟩
    exact ⟨none, tokens, reads_acceptSymbol_none_iff.mpr ⟨rfl, stops⟩,
      reads_pure_iff.mpr ⟨rfl, rfl⟩⟩

/-! ## Signs -/

/-- One round of signs: one more sign. -/
def signRound (signs : List (UnaryOp × Nat)) :
    Parser (Progress (List (UnaryOp × Nat)) (List (UnaryOp × Nat))) := do
  match ← accept UnaryOp.ofToken? with
  | none => return .done signs
  | some sign => return .more (sign :: signs)

/-- An operand behind some signs, the innermost sign first. -/
def withSigns (signs : List (UnaryOp × Nat)) (operand : Expr) : Expr :=
  signs.foldl (fun operand sign => .unary sign.2 sign.1 operand) operand

/-- An operand is read behind all its signs, and gets them then. -/
theorem signed_eq (bound : Nat) (operand : Parser Expr) :
    signed bound operand = (do
      let signs ← iterate signRound bound []
      let operand ← operand
      return withSigns signs operand) := rfl

/-- A token is a sign exactly if its symbol is one. -/
theorem ofToken?_unary_eq_some_iff {token : Token} {sign : UnaryOp × Nat} :
    UnaryOp.ofToken? token = some sign ↔
      token.kind = .symbol sign.1.symbol ∧ token.line = sign.2 := by
  obtain ⟨op, line⟩ := sign
  unfold UnaryOp.ofToken?
  split
  · next isBang => cases op <;> simp [isBang, UnaryOp.symbol]
  · next isMinus => cases op <;> simp [isMinus, UnaryOp.symbol]
  · next notBang notMinus => cases op <;> simp_all [UnaryOp.symbol]

/-- Signs go on as long as the next token is one. -/
theorem reads_signRound_more_iff {signs more : List (UnaryOp × Nat)} :
    (signRound signs).Reads tokens (.more more) rest ↔
      ∃ token op, tokens = token :: rest ∧ token.kind = .symbol (UnaryOp.symbol op) ∧
        more = (op, token.line) :: signs := by
  simp only [signRound, reads_bind_iff]
  constructor
  · rintro ⟨accepted, behind, accepts, round⟩
    cases accepted with
    | none => simp [reads_pure_iff] at round
    | some sign =>
        obtain ⟨token, rfl, isSign⟩ := reads_accept_some_iff.mp accepts
        obtain ⟨spelled, sameLine⟩ := ofToken?_unary_eq_some_iff.mp isSign
        obtain ⟨same, rfl⟩ := reads_pure_iff.mp round
        cases same
        exact ⟨token, sign.1, rfl, spelled, by rw [sameLine]⟩
  · rintro ⟨token, op, rfl, spelled, rfl⟩
    exact ⟨some (op, token.line), rest,
      reads_accept_some_iff.mpr ⟨token, rfl, ofToken?_unary_eq_some_iff.mpr ⟨spelled, rfl⟩⟩,
      reads_pure_iff.mpr ⟨rfl, rfl⟩⟩

/-- Signs end where the next token is none. -/
theorem reads_signRound_done_iff {signs read : List (UnaryOp × Nat)} :
    (signRound signs).Reads tokens (.done read) rest ↔
      read = signs ∧ tokens = rest ∧ ∀ op, Ahead (· ≠ .symbol (UnaryOp.symbol op)) tokens := by
  simp only [signRound, reads_bind_iff]
  constructor
  · rintro ⟨accepted, behind, accepts, round⟩
    cases accepted with
    | some sign => simp [reads_pure_iff] at round
    | none =>
        obtain ⟨rfl, stops⟩ := reads_accept_none_iff.mp accepts
        obtain ⟨same, rfl⟩ := reads_pure_iff.mp round
        cases same
        refine ⟨rfl, rfl, fun op token ahead spelled => ?_⟩
        have isSign : UnaryOp.ofToken? token = some (op, token.line) :=
          ofToken?_unary_eq_some_iff.mpr ⟨spelled, rfl⟩
        rw [stops token ahead] at isSign
        cases isSign
  · rintro ⟨rfl, rfl, stops⟩
    refine ⟨none, tokens, reads_accept_none_iff.mpr ⟨rfl, fun token ahead => ?_⟩,
      reads_pure_iff.mpr ⟨rfl, rfl⟩⟩
    cases isSign : UnaryOp.ofToken? token with
    | none => rfl
    | some sign => exact absurd (ofToken?_unary_eq_some_iff.mp isSign).1 (stops sign.1 token ahead)

/-- The rounds of signs each read one token, and read the same whatever signs were read before. -/
theorem rounds_signs {signs read : List (UnaryOp × Nat)} {middle : List Token}
    (rounds : Rounds signRound count signs tokens read middle) :
    ∃ more, read = more ++ signs ∧ count + middle.length = tokens.length ∧
      (∀ other, Rounds signRound count other tokens (more ++ other) middle) ∧
      ∀ operand rest, Expr.Spelled 8 middle operand rest →
        Expr.Spelled 8 tokens (withSigns more operand) rest := by
  induction rounds with
  | none => exact ⟨[], rfl, Nat.zero_add _, fun _ => .none, fun _ _ spelled => spelled⟩
  | first round _ ih =>
      obtain ⟨token, op, rfl, spelled, rfl⟩ := reads_signRound_more_iff.mp round
      obtain ⟨more, rfl, used, again, spells⟩ := ih
      refine ⟨more ++ [(op, token.line)], by simp, by rw [List.length_cons]; omega, ?_, ?_⟩
      · intro other
        have later := again ((op, token.line) :: other)
        rw [List.append_assoc]
        exact .first (reads_signRound_more_iff.mpr ⟨token, op, rfl, spelled, rfl⟩) later
      · intro operand rest inner
        have outer :
            Expr.Spelled 8 (token :: _) (.unary token.line op (withSigns more operand)) rest :=
          .unary spelled (spells operand rest inner)
        simpa [withSigns] using outer

/-- One more sign before a signed operand. -/
theorem reads_signed_cons {sign : Token} {op : UnaryOp}
    (isSign : sign.kind = .symbol op.symbol) (enough : tokens.length + 1 < bound)
    (reads : (signed bound inner).Reads tokens expr rest) :
    (signed bound inner).Reads (sign :: tokens) (.unary sign.line op expr) rest := by
  rw [signed_eq] at reads ⊢
  simp only [reads_bind_iff, reads_iterate_iff, reads_pure_iff] at reads ⊢
  obtain ⟨signs, middle, ⟨count, last, behind, within, rounds, done⟩, operand, _, read, rfl, rfl⟩ :=
    reads
  obtain ⟨more, rfl, used, again, -⟩ := rounds_signs rounds
  obtain ⟨rfl, rfl, stops⟩ := reads_signRound_done_iff.mp done
  refine ⟨more ++ [(op, sign.line)], _, ⟨count + 1, _, _, by omega, .first
    (reads_signRound_more_iff.mpr ⟨sign, op, rfl, isSign, rfl⟩) (again [(op, sign.line)]),
    reads_signRound_done_iff.mpr ⟨rfl, rfl, stops⟩⟩, operand, _, read, ?_, rfl⟩
  simp [withSigns]

/-- An operand without signs. -/
theorem reads_signed_nil (reads : inner.Reads tokens expr rest) (enough : 0 < bound)
    (stops : ∀ op, Ahead (· ≠ .symbol (UnaryOp.symbol op)) tokens) :
    (signed bound inner).Reads tokens expr rest := by
  rw [signed_eq]
  simp only [reads_bind_iff, reads_iterate_iff, reads_pure_iff]
  exact ⟨[], tokens, ⟨0, [], tokens, enough, .none,
    reads_signRound_done_iff.mpr ⟨rfl, rfl, stops⟩⟩, expr, rest, reads, rfl, rfl⟩

/-! ## What stands by itself -/

/-- A token by itself is an expression if it is a literal or a name. -/
theorem ofToken?_expr_eq_some_iff {token : Token} :
    Expr.ofToken? token = some expr ↔
      (∃ value : Literal, token.kind = value.kind ∧ expr = .literal token.line value) ∨
      ∃ name, token.kind = .identifier name ∧ expr = .reference token.line name := by
  unfold Expr.ofToken?
  constructor
  · intro stands
    split at stands
    · next spelled => exact .inl ⟨.bool false, spelled, (Option.some.inj stands).symm⟩
    · next spelled => exact .inl ⟨.bool true, spelled, (Option.some.inj stands).symm⟩
    · next spelled => exact .inl ⟨.nil, spelled, (Option.some.inj stands).symm⟩
    · next value spelled => exact .inl ⟨.number value, spelled, (Option.some.inj stands).symm⟩
    · next content spelled => exact .inl ⟨.text content, spelled, (Option.some.inj stands).symm⟩
    · next name spelled => exact .inr ⟨name, spelled, (Option.some.inj stands).symm⟩
    · cases stands
  · rintro (⟨value, spelled, rfl⟩ | ⟨name, spelled, rfl⟩)
    · cases value with
      | bool value => cases value <;> simp [spelled, Literal.kind]
      | number value => simp [spelled, Literal.kind]
      | text content => simp [spelled, Literal.kind]
      | nil => simp [spelled, Literal.kind]
    · simp [spelled]

/-- A primary expression is one token, or an expression between parentheses. -/
theorem reads_primary_iff :
    (primary inner).Reads tokens expr rest ↔
      (∃ token, tokens = token :: rest ∧ Expr.ofToken? token = some expr) ∨
      ∃ opening inside closing grouped, tokens = opening :: inside ∧
        opening.kind = .symbol .leftParen ∧ inner.Reads inside grouped (closing :: rest) ∧
        closing.kind = .symbol .rightParen ∧ expr = .grouping opening.line grouped := by
  simp only [primary, reads_bind_iff]
  constructor
  · rintro ⟨accepted, behind, accepts, reads⟩
    cases accepted with
    | some read =>
        obtain ⟨token, rfl, stands⟩ := reads_accept_some_iff.mp accepts
        obtain ⟨rfl, rfl⟩ := reads_pure_iff.mp reads
        exact .inl ⟨token, rfl, stands⟩
    | none =>
        obtain ⟨rfl, -⟩ := reads_accept_none_iff.mp accepts
        obtain ⟨accepted, inside, accepts, answer⟩ := reads_bind_iff.mp reads
        cases accepted with
        | none => exact absurd answer not_reads_fail
        | some opening =>
            obtain ⟨rfl, opens⟩ := reads_acceptSymbol_some_iff.mp accepts
            simp only [reads_bind_iff, reads_expectSymbol_iff, reads_pure_iff] at answer
            obtain ⟨grouped, _, read, closing, _, ⟨rfl, closes⟩, rfl, rfl⟩ := answer
            exact .inr ⟨opening, inside, closing, grouped, rfl, opens, read, closes, rfl⟩
  · rintro (⟨token, rfl, stands⟩ |
      ⟨opening, inside, closing, grouped, rfl, opens, read, closes, rfl⟩)
    · exact ⟨some expr, rest, reads_accept_some_iff.mpr ⟨token, rfl, stands⟩,
        reads_pure_iff.mpr ⟨rfl, rfl⟩⟩
    · have notAlone : Expr.ofToken? opening = none := by simp [Expr.ofToken?, opens]
      refine ⟨none, opening :: inside, reads_accept_none_iff.mpr ⟨rfl, by simpa using notAlone⟩, ?_⟩
      refine reads_bind_iff.mpr ⟨some opening, inside,
        reads_acceptSymbol_some_iff.mpr ⟨rfl, opens⟩, ?_⟩
      simp only [reads_bind_iff, reads_expectSymbol_iff, reads_pure_iff]
      exact ⟨grouped, _, read, closing, rest, ⟨rfl, closes⟩, rfl, rfl⟩

/-- What is read as an expression by itself begins with no sign. -/
theorem no_sign_of_reads_primary (reads : (primary inner).Reads tokens expr rest)
    (op : UnaryOp) : Ahead (· ≠ .symbol op.symbol) tokens := by
  rcases reads_primary_iff.mp reads with ⟨token, rfl, stands⟩ |
      ⟨opening, inside, _, _, rfl, opens, _⟩
  · rw [ahead_cons]
    rcases ofToken?_expr_eq_some_iff.mp stands with ⟨value, spelled, -⟩ | ⟨name, spelled, -⟩
    · rw [spelled]
      rcases value with _ | _ | (_ | _) | _ <;> simp [Literal.kind]
    · simp [spelled]
  · cases op <;> simp [opens, UnaryOp.symbol]

/-! ## Assignments -/

/-- The kinds of token that spell an assignment. -/
def AssignmentSpelled (kind : TokenKind) : AssignmentOp → Prop
  | .set => kind = .symbol .equal
  | .update op => op.amount? = none ∧ kind = .symbol op.symbol
  | .step op amount => op.amount? = some amount ∧ kind = .symbol op.symbol

/-- A token is an assignment operator exactly if it spells one. -/
theorem ofToken?_assignment_eq_some_iff {token operator : Token} {op : AssignmentOp} :
    AssignmentOp.ofToken? token = some (op, operator) ↔
      AssignmentSpelled token.kind op ∧ token = operator := by
  unfold AssignmentOp.ofToken?
  constructor
  · intro stands
    split at stands
    all_goals cases stands
    all_goals simp_all [AssignmentSpelled, UpdateOp.amount?, UpdateOp.symbol]
  · rintro ⟨spelled, rfl⟩
    rcases op with _ | op | ⟨op, amount⟩
    · simp [show token.kind = _ from spelled]
    · cases op <;> simp_all [AssignmentSpelled, UpdateOp.amount?, UpdateOp.symbol]
    · cases op <;> simp_all [AssignmentSpelled, UpdateOp.amount?, UpdateOp.symbol]

/-- Only a reference is assigned to, and building the assignment takes no token. -/
theorem reads_assignTo_iff {target otherwise : Expr} {operator : Token}
    {build : Nat → String → Expr} :
    (assignTo target operator build otherwise).Reads tokens expr rest ↔
      ∃ line name, target = .reference line name ∧ expr = build line name ∧ tokens = rest := by
  cases target with
  | reference line name =>
      simp only [assignTo, reads_pure_iff, Expr.reference.injEq]
      constructor
      · rintro ⟨rfl, rfl⟩
        exact ⟨line, name, ⟨rfl, rfl⟩, rfl, rfl⟩
      · rintro ⟨_, _, ⟨rfl, rfl⟩, rfl, rfl⟩
        exact ⟨rfl, rfl⟩
  | _ => simp only [assignTo, reads_bind_iff, not_reads_report, false_and, exists_false,
      reduceCtorEq]

variable {value : Parser Expr}

/-- What is read as an assignment is an operand alone, or a name with an assignment behind it. -/
theorem reads_assignment_iff :
    (assignment operand value).Reads tokens expr rest ↔
      (operand.Reads tokens expr rest ∧
        Ahead (fun kind => ∀ op, ¬ AssignmentSpelled kind op) rest) ∨
      ∃ line name operator behind,
        operand.Reads tokens (.reference line name) (operator :: behind) ∧
        ((∃ right, operator.kind = .symbol .equal ∧ value.Reads behind right rest ∧
            expr = .assign line name right) ∨
          (∃ op right, UpdateOp.amount? op = none ∧ operator.kind = .symbol op.symbol ∧
            value.Reads behind right rest ∧ expr = .update line op name right) ∨
          ∃ op amount, UpdateOp.amount? op = some amount ∧ operator.kind = .symbol op.symbol ∧
            behind = rest ∧
            expr = .update line op name (.literal operator.line (.number amount))) := by
  simp only [assignment, reads_bind_iff]
  constructor
  · rintro ⟨target, middle, first, accepted, behind, accepts, answer⟩
    cases accepted with
    | none =>
        obtain ⟨rfl, none⟩ := reads_accept_none_iff.mp accepts
        obtain ⟨rfl, rfl⟩ := reads_pure_iff.mp answer
        refine .inl ⟨first, fun token ahead op spelled => ?_⟩
        have stands := ofToken?_assignment_eq_some_iff.mpr ⟨spelled, rfl⟩
        rw [none token ahead] at stands
        cases stands
    | some accepted =>
        obtain ⟨op, operator⟩ := accepted
        obtain ⟨token, rfl, stands⟩ := reads_accept_some_iff.mp accepts
        obtain ⟨spelled, rfl⟩ := ofToken?_assignment_eq_some_iff.mp stands
        right
        rcases op with _ | op | ⟨op, amount⟩
        · obtain ⟨right, _, read, answer⟩ := reads_bind_iff.mp answer
          obtain ⟨line, name, rfl, rfl, rfl⟩ := reads_assignTo_iff.mp answer
          exact ⟨line, name, token, behind, first, .inl ⟨right, spelled, read, rfl⟩⟩
        · obtain ⟨right, _, read, answer⟩ := reads_bind_iff.mp answer
          obtain ⟨line, name, rfl, rfl, rfl⟩ := reads_assignTo_iff.mp answer
          exact ⟨line, name, token, behind, first,
            .inr (.inl ⟨op, right, spelled.1, spelled.2, read, rfl⟩)⟩
        · obtain ⟨line, name, rfl, rfl, rfl⟩ := reads_assignTo_iff.mp answer
          exact ⟨line, name, token, behind, first,
            .inr (.inr ⟨op, amount, spelled.1, spelled.2, rfl, rfl⟩)⟩
  · rintro (⟨first, stops⟩ | ⟨line, name, operator, behind, first, assigned⟩)
    · refine ⟨expr, rest, first, none, rest, reads_accept_none_iff.mpr ⟨rfl, fun token ahead => ?_⟩,
        reads_pure_iff.mpr ⟨rfl, rfl⟩⟩
      cases stands : AssignmentOp.ofToken? token with
      | none => rfl
      | some accepted =>
          exact absurd (ofToken?_assignment_eq_some_iff.mp stands).1 (stops token ahead _)
    · refine ⟨.reference line name, operator :: behind, first, ?_⟩
      rcases assigned with ⟨right, spelled, read, rfl⟩ | ⟨op, right, takes, spelled, read, rfl⟩ |
        ⟨op, amount, steps, spelled, rfl, rfl⟩
      · refine ⟨some (.set, operator), behind, reads_accept_some_iff.mpr ⟨operator, rfl,
          ofToken?_assignment_eq_some_iff.mpr ⟨spelled, rfl⟩⟩, ?_⟩
        exact reads_bind_iff.mpr ⟨right, rest, read, reads_pure_iff.mpr ⟨rfl, rfl⟩⟩
      · refine ⟨some (.update op, operator), behind, reads_accept_some_iff.mpr ⟨operator, rfl,
          ofToken?_assignment_eq_some_iff.mpr ⟨⟨takes, spelled⟩, rfl⟩⟩, ?_⟩
        exact reads_bind_iff.mpr ⟨right, rest, read, reads_pure_iff.mpr ⟨rfl, rfl⟩⟩
      · exact ⟨some (.step op amount, operator), behind, reads_accept_some_iff.mpr ⟨operator, rfl,
          ofToken?_assignment_eq_some_iff.mpr ⟨⟨steps, spelled⟩, rfl⟩⟩,
          reads_pure_iff.mpr ⟨rfl, rfl⟩⟩

end Scriptlet.Grammar
