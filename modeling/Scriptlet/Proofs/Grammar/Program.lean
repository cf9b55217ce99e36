import Scriptlet.Program
import Scriptlet.Proofs.Grammar.Bound
import Scriptlet.Proofs.Grammar.StatementCompleteness
import Scriptlet.Proofs.Grammar.StatementSoundness

/-!
# Programs without errors

The bound that programs are read with suffices for all tokens. So the programs without errors are
exactly those that all of their tokens spell.
-/

namespace Scriptlet.Program

variable {tokens : List Token}

/-- Reading a program always comes to an answer. -/
theorem program_ne_unfinished (levels : List Level) (tokens : List Token) :
    Grammar.program levels (nestingBound tokens) tokens ≠ .unfinished := by
  intro unfinished
  have consumes :
      (Grammar.program levels (nestingBound tokens)).Consumes tokens.length fun _ => 0 :=
    Grammar.consumes_program levels (by simp only [nestingBound]; omega)
  have answer := consumes (Nat.le_refl tokens.length)
  rw [unfinished] at answer
  exact answer

/-- A program has no errors exactly when all of the tokens spell it. -/
theorem ofTokens_eq_iff {statements : List Statement} :
    ofTokens tokens = ⟨statements, []⟩ ↔ Statement.SpelledList false tokens statements [] := by
  have reads_iff : ofTokens tokens = ⟨statements, []⟩ ↔
      ∃ rest, (Grammar.program Level.all (nestingBound tokens)).Reads tokens statements rest := by
    unfold ofTokens ofTokensWith Parser.Reads
    cases answer : Grammar.program Level.all (nestingBound tokens) tokens with
    | unfinished => exact absurd answer (program_ne_unfinished Level.all tokens)
    | failed error rest reports => simp
    | parsed read rest reports => simp
  rw [reads_iff]
  constructor
  · rintro ⟨rest, reads⟩
    exact (Grammar.spelledList_of_program reads).2
  · intro spelled
    exact ⟨[], Grammar.reads_program spelled (by simp only [nestingBound]; omega)⟩

/-- Tokens on one line, of the given kinds. -/
def tokensOn (line : Nat) (kinds : List TokenKind) : List Token :=
  kinds.map (⟨·, "", line⟩)

/-- Tokens on one line are of the kinds that they were made with. -/
theorem map_kind_tokensOn (line : Nat) (kinds : List TokenKind) :
    (tokensOn line kinds).map (·.kind) = kinds := by
  simp [tokensOn, Function.comp_def]

/-- **Soundness of the parser**: where it reports no error, all of the tokens spell the program. -/
theorem spelledList_of_no_errors (tokens : List Token) (clean : (ofTokens tokens).errors = []) :
    Statement.SpelledList false tokens (ofTokens tokens).statements [] :=
  ofTokens_eq_iff.mp (by rw [← clean])

/-- An `else` behind two branches belongs to the nearer one, while assignments group to the right
and differences to the left. -/
theorem spelledList_dangling_else :
    Statement.SpelledList false
      (tokensOn 1 [.keyword .ifWord, .symbol .leftParen, .identifier "a", .symbol .rightParen,
          .keyword .ifWord, .symbol .leftParen, .identifier "b", .symbol .rightParen] ++
        tokensOn 2 [.identifier "x", .symbol .equal, .identifier "y", .symbol .equal,
          .identifier "a", .symbol .minus, .identifier "b", .symbol .minus, .identifier "c",
          .symbol .star, .identifier "d", .symbol .semicolon] ++
        tokensOn 3 [.keyword .elseWord, .identifier "f", .symbol .leftParen, .identifier "a",
          .symbol .comma, .identifier "b", .symbol .rightParen, .symbol .semicolon])
      [.branch 1 (.reference 1 "a")
        (.branch 1 (.reference 1 "b")
          (.expression 2 (.assign 2 "x" (.assign 2 "y" (.binary 2 .subtract
            (.binary 2 .subtract (.reference 2 "a") (.reference 2 "b"))
            (.binary 2 .multiply (.reference 2 "c") (.reference 2 "d"))))))
          (some (.expression 3
            (.call 3 (.reference 3 "f") [.reference 3 "a", .reference 3 "b"])))) none] [] :=
  spelledList_of_no_errors _ (by rfl)

end Scriptlet.Program
