import Scriptlet.Grammar.Statement

/-!
# What parsers read cleanly

A parser reads a value cleanly when it answers with that value and reports nothing. Each building
block comes with the exact condition under which it does so, so that a clean answer can be taken
apart into those of its parts, and put together from them.
-/

namespace Scriptlet

/-- The next token, if there is one, is of a kind with the given property. -/
def Ahead (holds : TokenKind → Prop) (tokens : List Token) : Prop :=
  ∀ token ∈ tokens.head?, holds token.kind

/-- At the end of the tokens there is no next one of which anything has to hold. -/
@[simp] theorem ahead_nil (holds : TokenKind → Prop) : Ahead holds [] := by
  simp [Ahead]

/-- Where there is a next token, it is its kind that counts. -/
@[simp] theorem ahead_cons (holds : TokenKind → Prop) (token : Token) (rest : List Token) :
    Ahead holds (token :: rest) ↔ holds token.kind := by
  simp [Ahead]

/-- What holds of the next token may be weakened. -/
theorem Ahead.imp {holds weaker : TokenKind → Prop} {tokens : List Token}
    (ahead : Ahead holds tokens) (weakens : ∀ kind, holds kind → weaker kind) :
    Ahead weaker tokens :=
  fun token next => weakens token.kind (ahead token next)

namespace Parser

variable {α β σ : Type} {tokens rest : List Token}

/-- A parser answers with a value and the tokens left over, and reports nothing. -/
def Reads (parser : Parser α) (tokens : List Token) (value : α) (rest : List Token) : Prop :=
  parser tokens = .parsed value rest []

/-- What reads nothing gives its value and leaves all tokens. -/
theorem reads_pure_iff {value read : α} :
    (pure value : Parser α).Reads tokens read rest ↔ value = read ∧ tokens = rest := by
  simp only [Reads, pure_apply, Reply.parsed.injEq, and_true]

/-- One parser after another reads cleanly when both do. -/
theorem reads_bind_iff {first : Parser α} {next : α → Parser β} {value : β} :
    (first >>= next).Reads tokens value rest ↔
      ∃ read middle, first.Reads tokens read middle ∧ (next read).Reads middle value rest := by
  simp only [Reads, bind_apply]
  cases first tokens with
  | parsed read middle reports =>
      have answers : (next read middle).after reports = .parsed value rest [] ↔
          next read middle = .parsed value rest [] ∧ reports = [] := by
        cases next read middle <;> simp [and_assoc]
      simpa [and_assoc, and_comm] using answers
  | failed => simp
  | unfinished => simp

/-- A value that is changed behind the reading was read before. -/
theorem reads_map_iff {parser : Parser α} {f : α → β} {value : β} :
    (f <$> parser).Reads tokens value rest ↔
      ∃ read, parser.Reads tokens read rest ∧ f read = value := by
  rw [← bind_pure_comp, reads_bind_iff]
  simp only [reads_pure_iff]
  constructor
  · rintro ⟨read, middle, first, rfl, rfl⟩
    exact ⟨read, first, rfl⟩
  · rintro ⟨read, first, rfl⟩
    exact ⟨read, rest, first, rfl, rfl⟩

/-- A parser whose bound is used up reads nothing. -/
theorem not_reads_exhausted {value : α} : ¬ (exhausted : Parser α).Reads tokens value rest := by
  simp [Reads, exhausted]

/-- A parser that fails reads nothing. -/
theorem not_reads_fail {fault : SyntaxFault} {value : α} :
    ¬ (fail fault : Parser α).Reads tokens value rest := by
  simp [Reads, fail]

/-- A report is no reading: what is read is read without one. -/
theorem not_reads_report {fault : SyntaxFault} {token : Token} {value : Unit} :
    ¬ (report fault token).Reads tokens value rest := by
  simp [Reads, report]

/-- A report at the next token is no clean answer. -/
theorem not_reads_reportNext {fault : SyntaxFault} {value : Unit} :
    ¬ (reportNext fault).Reads tokens value rest := by
  simp [Reads, reportNext]

/-- A look at the next token takes nothing. -/
theorem reads_nextIs_iff {test : Token → Bool} {passed : Bool} :
    (nextIs test).Reads tokens passed rest ↔ tokens.head?.any test = passed ∧ tokens = rest := by
  simp only [Reads, nextIs, Reply.parsed.injEq, and_true]

/-- Looking whether there is a token takes none. -/
theorem reads_atEnd_iff {ended : Bool} :
    atEnd.Reads tokens ended rest ↔ tokens.isEmpty = ended ∧ tokens = rest := by
  simp only [Reads, atEnd, Reply.parsed.injEq, and_true]

/-- A token that is accepted is the next one, and passes the test. -/
theorem reads_accept_some_iff {test : Token → Option α} {value : α} :
    (accept test).Reads tokens (some value) rest ↔
      ∃ token, tokens = token :: rest ∧ test token = some value := by
  cases tokens with
  | nil => simp [Reads, accept]
  | cons token behind =>
      cases tested : test token with
      | none => simp [Reads, accept, tested]
      | some read =>
          simp only [Reads, accept, tested]
          grind

/-- A token that is not accepted stays, and does not pass the test. -/
theorem reads_accept_none_iff {test : Token → Option α} :
    (accept test).Reads tokens none rest ↔
      tokens = rest ∧ ∀ token ∈ tokens.head?, test token = none := by
  cases tokens with
  | nil => simp [Reads, accept]
  | cons token behind => cases tested : test token <;> simp [Reads, accept, tested]

/-- A token that is expected is there, and passes the test. -/
theorem reads_expect_iff {test : Token → Option α} {what : Expectation} {value : α} :
    (expect test what).Reads tokens value rest ↔
      ∃ token, tokens = token :: rest ∧ test token = some value := by
  cases tokens with
  | nil => simp [Reads, expect]
  | cons token behind =>
      cases tested : test token with
      | none => simp [Reads, expect, tested]
      | some read =>
          simp only [Reads, expect, tested]
          grind

section Words

variable {symbol : Symbol} {keyword : Keyword} {what : Expectation} {token : Token}

/-- A symbol that is accepted is the next token. -/
theorem reads_acceptSymbol_some_iff :
    (acceptSymbol symbol).Reads tokens (some token) rest ↔
      tokens = token :: rest ∧ token.kind = .symbol symbol := by
  simp only [acceptSymbol, reads_accept_some_iff, Token.isSymbol, decide_eq_true_eq,
    Option.ite_none_right_eq_some, Option.some.injEq]
  grind

/-- Where a symbol is not accepted, the next token is none of its kind. -/
theorem reads_acceptSymbol_none_iff :
    (acceptSymbol symbol).Reads tokens none rest ↔
      tokens = rest ∧ Ahead (· ≠ .symbol symbol) tokens := by
  simp [acceptSymbol, reads_accept_none_iff, Token.isSymbol, Ahead]

/-- A keyword that is accepted is the next token. -/
theorem reads_acceptKeyword_some_iff :
    (acceptKeyword keyword).Reads tokens (some token) rest ↔
      tokens = token :: rest ∧ token.kind = .keyword keyword := by
  simp only [acceptKeyword, reads_accept_some_iff, Token.isKeyword, decide_eq_true_eq,
    Option.ite_none_right_eq_some, Option.some.injEq]
  grind

/-- Where a keyword is not accepted, the next token is none of its kind. -/
theorem reads_acceptKeyword_none_iff :
    (acceptKeyword keyword).Reads tokens none rest ↔
      tokens = rest ∧ Ahead (· ≠ .keyword keyword) tokens := by
  simp [acceptKeyword, reads_accept_none_iff, Token.isKeyword, Ahead]

/-- A symbol that is expected is the next token. -/
theorem reads_expectSymbol_iff :
    (expectSymbol symbol what).Reads tokens token rest ↔
      tokens = token :: rest ∧ token.kind = .symbol symbol := by
  simp only [expectSymbol, reads_expect_iff, Token.isSymbol, decide_eq_true_eq,
    Option.ite_none_right_eq_some, Option.some.injEq]
  grind

/-- A keyword that is expected is the next token. -/
theorem reads_expectKeyword_iff :
    (expectKeyword keyword what).Reads tokens token rest ↔
      tokens = token :: rest ∧ token.kind = .keyword keyword := by
  simp only [expectKeyword, reads_expect_iff, Token.isKeyword, decide_eq_true_eq,
    Option.ite_none_right_eq_some, Option.some.injEq]
  grind

/-- A name that is expected is that of the next token, and has its line. -/
theorem reads_expectIdentifier_iff {name : String} {line : Nat} :
    (expectIdentifier what).Reads tokens (name, line) rest ↔
      ∃ token, tokens = token :: rest ∧ token.kind = .identifier name ∧ token.line = line := by
  simp only [expectIdentifier, reads_expect_iff]
  refine exists_congr fun token => and_congr_right fun _ => ?_
  cases token.kind <;> simp

/-- Whether a symbol is next is told by the kind of the next token. -/
theorem reads_nextIs_symbol_iff {passed : Bool} :
    (nextIs (·.isSymbol symbol)).Reads tokens passed rest ↔
      tokens = rest ∧ (passed = true ∧ (∃ token behind, tokens = token :: behind ∧
        token.kind = .symbol symbol) ∨ passed = false ∧ Ahead (· ≠ .symbol symbol) tokens) := by
  rw [reads_nextIs_iff]
  cases tokens with
  | nil => cases passed <;> simp
  | cons token behind => cases passed <;> simp [Token.isSymbol, and_comm]

end Words

/-! ## Loops -/

/-- Some rounds of a loop that each read cleanly and go on: their number, and the states and the
tokens before and after them. -/
inductive Rounds (step : σ → Parser (Progress σ α)) :
    Nat → σ → List Token → σ → List Token → Prop
  | none {state : σ} {tokens : List Token} : Rounds step 0 state tokens state tokens
  | first {count : Nat} {state next last : σ} {tokens middle rest : List Token} :
      (step state).Reads tokens (.more next) middle →
      Rounds step count next middle last rest →
      Rounds step (count + 1) state tokens last rest

/-- One more round behind some others. -/
theorem Rounds.append {step : σ → Parser (Progress σ α)} {count : Nat} {state next last : σ}
    {middle : List Token} (rounds : Rounds step count state tokens next middle)
    (round : (step next).Reads middle (.more last) rest) :
    Rounds step (count + 1) state tokens last rest := by
  induction rounds with
  | none => exact .first round .none
  | first before _ ih => exact .first before (ih round)

/-- A loop reads cleanly when some rounds do, fewer than its bound, and then a last one that is
done. -/
theorem reads_iterate_iff {step : σ → Parser (Progress σ α)} {bound : Nat} {state : σ}
    {value : α} :
    (iterate step bound state).Reads tokens value rest ↔
      ∃ count last middle, count < bound ∧ Rounds step count state tokens last middle ∧
        (step last).Reads middle (.done value) rest := by
  induction bound generalizing state tokens with
  | zero => simp [iterate, not_reads_exhausted]
  | succ bound ih =>
      simp only [iterate, reads_bind_iff]
      constructor
      · rintro ⟨progress, middle, round, later⟩
        cases progress with
        | more next =>
            obtain ⟨count, last, behind, within, rounds, done⟩ := ih.mp later
            exact ⟨count + 1, last, behind, Nat.succ_lt_succ within, .first round rounds, done⟩
        | done read =>
            obtain ⟨rfl, rfl⟩ := reads_pure_iff.mp later
            exact ⟨0, state, tokens, Nat.succ_pos bound, .none, round⟩
      · rintro ⟨count, last, middle, within, rounds, done⟩
        cases rounds with
        | none => exact ⟨.done value, rest, done, reads_pure_iff.mpr ⟨rfl, rfl⟩⟩
        | @first count _ next _ _ behind _ round rounds =>
            have later : (iterate step bound next).Reads behind value rest :=
              ih.mpr ⟨count, last, middle, Nat.lt_of_succ_lt_succ within, rounds, done⟩
            exact ⟨.more next, behind, round, later⟩

end Parser

end Scriptlet
