import Scriptlet.Proofs.Grammar.CleanPrefix
import Scriptlet.Proofs.Grammar.Failures

/-!
# Where reading resumes

The token at which a declaration fails is skipped, whatever it is. Behind it, reading resumes at the
first place that is behind a semicolon or in front of a keyword with which a declaration may begin,
and what is well-formed there is read as if nothing had been wrong before. So a keyword is kept,
unless the declaration fails at this very token.
-/

namespace Scriptlet.Grammar

open Scriptlet.Parser

variable {failed : Token} {behind skipped rest tokens : List Token} {inFunction : Bool}
  {bound : Nat}

/-- Behind a token at which a declaration failed, `skipped` is skipped and `rest` is read: no token
that is skipped begins a declaration, none but the last of all is a semicolon, and either that one
is, or `rest` begins with a keyword of a declaration or is empty. -/
structure ResumesAt (failed : Token) (behind skipped rest : List Token) : Prop where
  split : behind = skipped ++ rest
  noKeyword : ∀ token ∈ skipped, beginsDeclaration token = false
  noSemicolon : ∀ token ∈ (failed :: skipped).dropLast, token.isSymbol .semicolon = false
  boundary : (skipped.getLastD failed).isSymbol .semicolon = true ∨
    ∀ token ∈ rest.head?, beginsDeclaration token = true

/-- Nothing more is skipped. -/
theorem ResumesAt.here (boundary : failed.isSymbol .semicolon = true ∨
    ∀ token ∈ rest.head?, beginsDeclaration token = true) : ResumesAt failed rest [] rest :=
  ⟨rfl, List.forall_mem_nil _, List.forall_mem_nil _, boundary⟩

/-- One more token is skipped. -/
theorem ResumesAt.cons {token : Token} (resumes : ResumesAt token behind skipped rest)
    (noSemicolon : failed.isSymbol .semicolon = false)
    (noKeyword : beginsDeclaration token = false) :
    ResumesAt failed (token :: behind) (token :: skipped) rest where
  split := congrArg (token :: ·) resumes.split
  noKeyword := List.forall_mem_cons.mpr ⟨noKeyword, resumes.noKeyword⟩
  noSemicolon := by
    rw [List.dropLast_cons_of_ne_nil (List.cons_ne_nil token skipped)]
    exact List.forall_mem_cons.mpr ⟨noSemicolon, resumes.noSemicolon⟩
  boundary := by
    rw [List.getLastD_cons]
    exact resumes.boundary

/-- Skipping tokens after a failure ends where reading resumes. -/
theorem resumesAt_resumeAfter (failed : Token) (behind : List Token) :
    ∃ skipped, ResumesAt failed behind skipped (resumeAfter failed behind) := by
  induction behind generalizing failed with
  | nil => exact ⟨[], .here (.inr fun token impossible => nomatch impossible)⟩
  | cons token rest ih =>
      by_cases stops : failed.isSymbol .semicolon = true ∨ beginsDeclaration token = true
      · rw [resumeAfter, if_pos (by simpa using stops)]
        exact ⟨[], .here (stops.imp_right fun begins => by simpa using begins)⟩
      · rw [resumeAfter, if_neg (by simpa using stops)]
        obtain ⟨noSemicolon, noKeyword⟩ := not_or.mp stops
        obtain ⟨skipped, resumes⟩ := ih token
        exact ⟨token :: skipped, resumes.cons (Bool.not_eq_true _ |>.mp noSemicolon)
          (Bool.not_eq_true _ |>.mp noKeyword)⟩

/-- There is only one place at which reading may resume. -/
theorem ResumesAt.resumeAfter_eq (resumes : ResumesAt failed behind skipped rest) :
    resumeAfter failed behind = rest := by
  obtain ⟨rfl, noKeyword, noSemicolon, boundary⟩ := resumes
  induction skipped generalizing failed with
  | nil =>
      cases rest with
      | nil => rfl
      | cons token rest =>
          rw [List.nil_append, resumeAfter, if_pos]
          simpa using boundary
  | cons token skipped ih =>
      obtain ⟨keepsOn, others⟩ := List.forall_mem_cons.mp noKeyword
      rw [List.dropLast_cons_of_ne_nil (List.cons_ne_nil token skipped)] at noSemicolon
      obtain ⟨notClosed, unclosed⟩ := List.forall_mem_cons.mp noSemicolon
      rw [List.getLastD_cons] at boundary
      rw [List.cons_append, resumeAfter, if_neg (by simp [notClosed, keepsOn])]
      exact ih others unclosed boundary

/-- A declaration that fails is skipped up to where reading resumes, and the fault is reported. -/
theorem declaration_of_failed {error : Report} {reports : List Report}
    (fails : oneDeclaration Level.all inFunction bound tokens =
      .failed error (failed :: behind) reports) :
    declaration Level.all bound inFunction tokens =
      .parsed none (resumeAfter failed behind) (error :: reports) := by
  rw [declaration_eq, recovering, fails]
  rfl

/-- What a declaration that fails leaves over is no longer than what it was given. -/
theorem length_le_of_failed {error : Report} {reports : List Report}
    (enough : Program.nestingBound tokens ≤ bound)
    (fails : oneDeclaration Level.all inFunction bound tokens = .failed error rest reports) :
    rest.length ≤ tokens.length := by
  have consumes : (oneDeclaration Level.all inFunction bound).Consumes tokens.length fun _ => 1 :=
    (consumes_statement Level.all bound).2 (by simp only [Program.nestingBound] at enough; omega)
      inFunction
  have answer := consumes (Nat.le_refl tokens.length)
  rw [fails] at answer
  exact List.IsSuffix.length_le answer

/-- A loop over declarations goes on where one has been read or skipped. -/
theorem iterate_declarationRound_succ {stop : Token → Bool}
    {declaration : Parser (Option Statement)} {read : Option Statement} {reports : List Report}
    (goesOn : Ended stop tokens = false)
    (answer : declaration tokens = .parsed read rest reports) (rounds : Nat)
    (statements : List Statement) :
    iterate (declarationRound stop declaration) (rounds + 1) statements tokens =
      (iterate (declarationRound stop declaration) rounds (read.toList ++ statements) rest).after
        reports := by
  have round : declarationRound stop declaration statements tokens =
      .parsed (.more (read.toList ++ statements)) rest reports := by
    cases tokens with
    | nil => cases goesOn
    | cons token others =>
        have unstopped : stop token = false := by simpa [Ended] using goesOn
        cases read <;> simp [declarationRound, bind_apply, atEnd, nextIs, unstopped, answer]
  rw [iterate, bind_apply, round]

/-- What is spelled is read, in one round, where nothing but a closing brace stops. -/
theorem iterate_of_spelledDeclaration {stop : Token → Bool} {statement : Statement}
    (stops : ∀ token, stop token = true → token.isSymbol .rightBrace = true)
    (spelled : Statement.SpelledDeclaration inFunction tokens statement rest)
    (enough : Program.nestingBound tokens ≤ bound) (rounds : Nat) (statements : List Statement) :
    iterate (declarationRound stop (declaration Level.all bound inFunction)) (rounds + 1)
        statements tokens =
      ((statements.reverse ++ statement :: ·) <$> iterate (declarationRound stop
        (declaration Level.all bound inFunction)) rounds []) rest := by
  have sequence : Sequence stop (oneDeclaration Level.all inFunction bound) tokens [statement]
      rest :=
    (sequence_of_spelledList (.cons spelled .nil)
      (by simp only [Program.nestingBound] at enough; omega)).imp stops
  cases sequence with
  | cons goesOn reads nothing =>
      cases nothing
      have answer : declaration Level.all bound inFunction tokens =
          .parsed (some statement) rest [] := by
        rw [declaration_eq]
        exact reads_recovering_iff.mpr ⟨statement, rfl, reads⟩
      have behind := iterate_declarationRound_behind stop
        (declaration Level.all bound inFunction) rounds [] (statement :: statements)
      rw [List.nil_append] at behind
      rw [iterate_declarationRound_succ goesOn answer, Reply.after_nil, Option.toList_some,
        List.singleton_append, behind]
      simp only [List.reverse_cons, List.append_assoc, List.singleton_append]

/-- **Recovery skips one token, and then up to a boundary.** A declaration that fails does so at the
token at which the fault is reported. This token is skipped, whatever it is, and then those up to
the first place behind a semicolon or in front of a keyword of a declaration. There the next
declaration is read: if one is spelled there, it is among those that are read, wherever
declarations stand one behind the other, and the only error that comes before what is behind it is
that of the failure. -/
theorem recovery_resumes {error : Report} {reports : List Report}
    (enough : Program.nestingBound tokens ≤ bound)
    (fails : oneDeclaration Level.all inFunction bound tokens =
      .failed error (failed :: behind) reports) :
    error.token = some failed ∧ ∃ skipped rest, ResumesAt failed behind skipped rest ∧
      declaration Level.all bound inFunction tokens = .parsed none rest (error :: reports) ∧
      ∀ statement more, Statement.SpelledDeclaration inFunction rest statement more →
        declaration Level.all bound inFunction rest = .parsed (some statement) more [] ∧
        ∀ stop : Token → Bool, Ended stop tokens = false →
          (∀ token, stop token = true → token.isSymbol .rightBrace = true) →
          ∀ rounds before,
            iterate (declarationRound stop (declaration Level.all bound inFunction)) (rounds + 2)
                before tokens =
              (((before.reverse ++ statement :: ·) <$> iterate (declarationRound stop
                (declaration Level.all bound inFunction)) rounds []) more).after
                (error :: reports) := by
  obtain ⟨skipped, resumes⟩ := resumesAt_resumeAfter failed behind
  have skips := declaration_of_failed fails
  have shorter : (resumeAfter failed behind).length ≤ tokens.length := by
    have isEnd := (resumeAfter_suffix failed behind).length_le
    have within := length_le_of_failed enough fails
    rw [List.length_cons] at within
    omega
  have allows : Program.nestingBound (resumeAfter failed behind) ≤ bound := by
    simp only [Program.nestingBound] at enough ⊢
    omega
  refine ⟨inPlace_oneDeclaration Level.all inFunction bound fails, skipped, _, resumes, skips, ?_⟩
  intro statement more spelled
  constructor
  · rw [declaration_eq]
    exact reads_recovering_iff.mpr ⟨statement, rfl, reads_of_spelledDeclaration spelled
      (by simp only [Program.nestingBound] at allows; omega)⟩
  · intro stop goesOn stops rounds before
    rw [iterate_declarationRound_succ goesOn skips, Option.toList_none, List.nil_append,
      iterate_of_spelledDeclaration stops spelled allows]

/-- A variable without a name, and behind it a `print` that is well-formed. -/
def namelessVariable : List Token :=
  Program.tokensOn 1 [.keyword .varWord, .symbol .equal, .number 5, .keyword .printWord,
    .number 1, .symbol .semicolon]

/-- A variable without a name fails at its `=`, and reading resumes at the `print` behind it. -/
theorem recovery_resumes_namelessVariable :
    Program.nestingBound namelessVariable ≤ 16 ∧
      oneDeclaration Level.all false 16 namelessVariable =
        .failed ⟨.expected .variableName, some ⟨.symbol .equal, "", 1⟩⟩ namelessVariable.tail [] ∧
      ∃ skipped rest, ResumesAt ⟨.symbol .equal, "", 1⟩ (namelessVariable.drop 2) skipped rest ∧
        rest = namelessVariable.drop 3 := by
  have enough : Program.nestingBound namelessVariable ≤ 16 := by decide
  have fails : oneDeclaration Level.all false 16 namelessVariable =
      .failed ⟨.expected .variableName, some ⟨.symbol .equal, "", 1⟩⟩ namelessVariable.tail [] :=
    rfl
  obtain ⟨-, skipped, rest, resumes, -⟩ := recovery_resumes enough fails
  exact ⟨enough, fails, skipped, rest, resumes, resumes.resumeAfter_eq.symm⟩

/-- A variable that nothing ends. -/
def unendedVariable : List Token :=
  Program.tokensOn 1 [.keyword .varWord, .identifier "x", .symbol .equal, .number 1]

/-- A `print` by itself, on the next line. -/
def plainPrint : List Token :=
  Program.tokensOn 2 [.keyword .printWord, .number 2, .symbol .semicolon]

/-- Where a declaration fails at the very keyword of the next one, that one is lost: the keyword is
skipped, and then what stands behind it up to the semicolon. -/
theorem recovery_loses_keyword :
    Program.ofTokens plainPrint = ⟨[.print 2 (.literal 2 (.number 2))], []⟩ ∧
      plainPrint.head?.any beginsDeclaration = true ∧
      oneDeclaration Level.all false 18 (unendedVariable ++ plainPrint) =
        .failed ⟨.expected .semicolonAfterDeclaration, plainPrint.head?⟩ plainPrint [] ∧
      declaration Level.all 18 false (unendedVariable ++ plainPrint) =
        .parsed none [] [⟨.expected .semicolonAfterDeclaration, plainPrint.head?⟩] ∧
      Program.ofTokens (unendedVariable ++ plainPrint) =
        ⟨[], [⟨2, .token "", .expected .semicolonAfterDeclaration⟩]⟩ :=
  ⟨rfl, rfl, rfl, by with_unfolding_all rfl, by with_unfolding_all rfl⟩

end Scriptlet.Grammar
