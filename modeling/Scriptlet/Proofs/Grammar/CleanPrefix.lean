import Scriptlet.Proofs.Grammar.Joining
import Scriptlet.Proofs.Grammar.Progress

/-!
# Programs behind programs without errors

Every declaration decides with one token of what stands behind it where it ends, and that token
matters only if it is an `else`. So the rounds in which a program without errors is read are made
on longer tokens too, and they end where the further tokens begin. From there on nothing looks
back: recovery skips tokens from the fault on, and errors at the end of the input are reported on
the line of the last token of all.
-/

namespace Scriptlet

namespace Parser

variable {α β σ : Type} {tokens rest : List Token}

/-- A loop goes on from where rounds without reports have led. -/
theorem iterate_of_rounds {step : σ → Parser (Progress σ α)} {count : Nat} {state last : σ}
    (rounds : Rounds step count state tokens last rest) (bound : Nat) :
    iterate step (count + bound) state tokens = iterate step bound last rest := by
  induction rounds with
  | none => rw [Nat.zero_add]
  | first round _ ih =>
      rw [Nat.succ_add, iterate, bind_apply, round]
      dsimp only
      rw [Reply.after_nil, ih]

/-- What is read without failing may be changed behind the reading. -/
theorem map_of_parsed {parser : Parser α} {value : α} {reports : List Report} (view : α → β)
    (parsed : parser tokens = .parsed value rest reports) :
    (view <$> parser) tokens = .parsed (view value) rest reports := by
  rw [← bind_pure_comp, bind_apply, parsed]
  exact Reply.after_parsed _ _ _ _

end Parser

namespace Grammar

open Scriptlet.Parser

/-- How declarations go on where others have been read before. -/
def behindEarlier (earlier : List Statement) :
    Progress (List Statement) (List Statement) → Progress (List Statement) (List Statement)
  | .more statements => .more (statements ++ earlier)
  | .done statements => .done (earlier.reverse ++ statements)

/-- A round of declarations does not depend on those that have been read before. -/
theorem declarationRound_behind (stop : Token → Bool) (declaration : Parser (Option Statement))
    (statements earlier : List Statement) :
    declarationRound stop declaration (statements ++ earlier) =
      behindEarlier earlier <$> declarationRound stop declaration statements := by
  unfold declarationRound
  simp only [map_bind]
  congr 1
  funext ended
  congr 1
  funext stopped
  split
  · rw [map_pure, behindEarlier, List.reverse_append]
  · rw [map_bind]
    congr 1
    funext read
    cases read <;> rw [map_pure] <;> rfl

/-- Declarations that have been read before stand in front of those that are read. -/
theorem iterate_declarationRound_behind (stop : Token → Bool)
    (declaration : Parser (Option Statement)) (bound : Nat) (statements earlier : List Statement) :
    iterate (declarationRound stop declaration) bound (statements ++ earlier) =
      (earlier.reverse ++ ·) <$> iterate (declarationRound stop declaration) bound statements := by
  induction bound generalizing statements with
  | zero => rfl
  | succ bound ih =>
      rw [iterate, iterate, declarationRound_behind, map_bind, bind_map_left]
      congr 1
      funext progress
      cases progress with
      | more next => exact ih next
      | done read => rw [map_pure]; rfl

/-- A round of the declarations of a program, which nest within `bound`. -/
def programRound (levels : List Level) (bound : Nat) :
    List Statement → Parser (Progress (List Statement) (List Statement)) :=
  declarationRound (fun _ => false) (declaration levels bound false)

/-- A program is read round by round. -/
theorem program_eq (levels : List Level) (bound : Nat) :
    program levels bound = iterate (programRound levels bound) bound [] := rfl

/-- Every bound that suffices for some tokens gives the same program. -/
theorem program_of_le (levels : List Level) {tokens : List Token} {bound : Nat}
    (enough : Program.nestingBound tokens ≤ bound) :
    program levels bound tokens = program levels (Program.nestingBound tokens) tokens := by
  obtain ⟨more, rfl⟩ := Nat.exists_eq_add_of_le enough
  rcases endsAs_program levels (Program.nestingBound tokens) more tokens with
    same | ⟨_, unfinished⟩
  · exact same.symm
  · exact absurd unfinished (Program.program_ne_unfinished levels tokens)

/-- Under a bound that is enough for the tokens, and with more rounds than there are tokens, reading
a program comes to an answer. -/
theorem iterate_programRound_ne_unfinished (levels : List Level) {tokens : List Token}
    {bound rounds : Nat} (enough : Program.nestingBound tokens ≤ bound)
    (within : tokens.length < rounds) :
    iterate (programRound levels bound) rounds [] tokens ≠ .unfinished := by
  intro unfinished
  have declarations : (oneDeclaration levels false bound).Consumes tokens.length fun _ => 1 :=
    (consumes_statement levels bound).2 (by simp only [Program.nestingBound] at enough; omega) false
  have answer := @consumes_declarations _ _ _ (fun _ => false) declarations within tokens
    (Nat.le_refl tokens.length)
  rw [declarations_eq, ← declaration_eq, ← programRound, unfinished] at answer
  exact answer

/-- The loop over the declarations of a program needs no more rounds than there are tokens, however
deep the declarations may nest. -/
theorem iterate_programRound_of_le (levels : List Level) {tokens : List Token} {bound rounds : Nat}
    (enough : Program.nestingBound tokens ≤ bound) (within : tokens.length < rounds)
    (fewer : rounds ≤ bound) :
    iterate (programRound levels bound) rounds [] tokens =
      program levels (Program.nestingBound tokens) tokens := by
  have answers := iterate_programRound_ne_unfinished levels enough within
  obtain ⟨spare, rfl⟩ := Nat.exists_eq_add_of_le fewer
  have further : (iterate (programRound levels (rounds + spare)) rounds []).EndsAs spare
      (iterate (programRound levels (rounds + spare)) (rounds + spare) []) :=
    endsAs_iterate (fun _ => endsAs_self) rounds []
  rw [← program_of_le levels enough, program_eq]
  rcases further tokens with same | ⟨_, unfinished⟩
  · exact same
  · exact absurd unfinished answers

/-- The rounds that read spelled declarations lead to what stands behind them. -/
theorem iterate_programRound_of_spelled {tokens rest : List Token} {statements : List Statement}
    {bound : Nat} (spelled : Statement.SpelledList false tokens statements rest)
    (enough : 2 * tokens.length + 4 ≤ bound) (rounds : Nat) :
    iterate (programRound Level.all bound) (statements.length + rounds) [] tokens =
      ((statements ++ ·) <$> iterate (programRound Level.all bound) rounds []) rest := by
  have sequence : Sequence (fun _ => false) (oneDeclaration Level.all false bound) tokens
      statements rest :=
    (sequence_of_spelledList spelled enough).imp fun _ never => absurd never Bool.false_ne_true
  have toRest : Rounds (programRound Level.all bound) statements.length [] tokens
      statements.reverse rest := by
    rw [programRound, declaration_eq]
    exact rounds_declarations_iff.mpr
      ⟨statements, (List.append_nil statements.reverse).symm, rfl, sequence⟩
  have goesOn := iterate_declarationRound_behind (fun _ => false)
    (declaration Level.all bound false) rounds [] statements.reverse
  rw [List.nil_append, List.reverse_reverse] at goesOn
  rw [iterate_of_rounds toRest]
  exact congrFun goesOn rest

/-- Behind declarations that are spelled, a program is what stands there by itself. -/
theorem program_of_spelled {tokens rest : List Token} {statements others : List Statement}
    {reports : List Report} (spelled : Statement.SpelledList false tokens statements rest)
    (read : program Level.all (Program.nestingBound rest) rest = .parsed others [] reports) :
    program Level.all (Program.nestingBound tokens) tokens =
      .parsed (statements ++ others) [] reports := by
  have fewer := spelledList_shorter spelled
  obtain ⟨rounds, total⟩ : ∃ rounds, Program.nestingBound tokens = statements.length + rounds :=
    Nat.exists_eq_add_of_le (by simp only [Program.nestingBound]; omega)
  have enough : Program.nestingBound rest ≤ Program.nestingBound tokens := by
    simp only [Program.nestingBound]
    omega
  have within : rest.length < rounds := by
    simp only [Program.nestingBound] at total
    omega
  have later := iterate_programRound_of_le Level.all enough within (by omega)
  rw [read] at later
  calc program Level.all (Program.nestingBound tokens) tokens
      = iterate (programRound Level.all (Program.nestingBound tokens))
          (statements.length + rounds) [] tokens := by rw [program_eq, ← total]
    _ = .parsed (statements ++ others) [] reports := by
        rw [iterate_programRound_of_spelled spelled (by simp only [Program.nestingBound]; omega)]
        exact map_of_parsed _ later

end Grammar

namespace Program

/-- What some tokens are read as, with the line of the last of them for faults at the end. -/
theorem ofTokens_of_parsed {tokens : List Token} {statements : List Statement}
    {reports : List Report} (read : Grammar.program Level.all (nestingBound tokens) tokens =
      .parsed statements [] reports) :
    ofTokens tokens =
      ⟨statements, reports.reverse.map (Report.toError (lastLine tokens))⟩ := by
  rw [ofTokens, ofTokensWith, read]

/-- The last line of two lists of tokens is that of the second one, unless it is empty. -/
theorem lastLine_append (first : List Token) {second : List Token} (more : second ≠ []) :
    lastLine (first ++ second) = lastLine second := by
  rw [lastLine, lastLine, List.getLast?_append, List.getLast?_eq_some_getLast more]
  rfl

/-- **A program without errors parses independently of what follows.** Behind it, unless that is an
`else`, all tokens give the statements and the errors that they give by themselves, however
malformed they are. -/
theorem ofTokens_append (first second : List Token) (clean : (ofTokens first).errors = [])
    (noElse : Ahead (· ≠ .keyword .elseWord) second) :
    ofTokens (first ++ second) =
      ⟨(ofTokens first).statements ++ (ofTokens second).statements, (ofTokens second).errors⟩ := by
  have spelled : Statement.SpelledList false first (ofTokens first).statements [] :=
    ofTokens_eq_iff.mp (by rw [← clean])
  obtain ⟨others, reports, read⟩ := Grammar.program_parsed Level.all second
  have both := Grammar.program_of_spelled (spelled.followed noElse) read
  rw [ofTokens_of_parsed both, ofTokens_of_parsed read]
  congr 1
  cases second with
  | nil =>
      have nothing : Grammar.program Level.all (nestingBound []) [] = .parsed [] [] [] := rfl
      cases nothing.symm.trans read
      rfl
  | cons token rest => rw [lastLine_append first (List.cons_ne_nil token rest)]

/-- A branch without an `else`, on line 1. -/
def openBranch : List Token :=
  tokensOn 1 [.keyword .ifWord, .symbol .leftParen, .identifier "a", .symbol .rightParen,
    .identifier "b", .symbol .semicolon]

/-- A closing brace that nothing opens, and a `print` that breaks off. -/
def scraps : List Token :=
  tokensOn 2 [.symbol .rightBrace, .identifier "c", .symbol .semicolon] ++
    tokensOn 3 [.keyword .printWord]

/-- A branch without `else`, in front of what is no program: the statement of the first part stays,
and the faults are those of the second. -/
theorem ofTokens_append_scraps :
    (ofTokens openBranch).errors = [] ∧ Ahead (· ≠ .keyword .elseWord) scraps ∧
      ofTokens (openBranch ++ scraps) =
        ⟨[.branch 1 (.reference 1 "a") (.expression 1 (.reference 1 "b")) none],
          [⟨2, .token "", .expected .expression⟩, ⟨3, .endOfInput, .expected .expression⟩]⟩ := by
  have clean : (ofTokens openBranch).errors = [] := rfl
  have noElse : Ahead (· ≠ .keyword .elseWord) scraps := by simp [scraps, tokensOn]
  exact ⟨clean, noElse, ofTokens_append openBranch scraps clean noElse⟩

end Program

end Scriptlet
