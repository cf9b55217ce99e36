import Scriptlet.Proofs.Grammar.Counted
import Scriptlet.Proofs.Grammar.Program

/-!
# Reading always goes on

A program is read to the end of its tokens, whatever they are: each declaration on the way takes a
token at least, and a bound for which only the number of tokens matters is never used up.
-/

namespace Scriptlet

variable {α : Type}

namespace Counting.Tracks

variable {counting : Counting α} {depth more : Nat} {parser other : Parser α}

/-- A parser that counts from some depth and adds none ends at this depth, with the answer of the
parser that does not count. -/
theorem eq (tracks : counting.Tracks depth 0 parser) (tokens : List Token) :
    counting depth tokens = (parser tokens, depth) := by
  rcases tracks tokens with same | ⟨impossible, _⟩
  · exact same
  · exact absurd impossible (Nat.lt_irrefl 0)

/-- Two parsers with different bounds that one counting parser tracks answer alike. -/
theorem endsAs (same : counting.Tracks depth 0 parser) (tracks : counting.Tracks depth more other) :
    parser.EndsAs more other := by
  intro tokens
  have answer := tracks tokens
  rw [same.eq tokens] at answer
  rcases answer with there | ⟨some, unfinished⟩
  · exact .inl (congrArg Prod.fst there)
  · exact .inr ⟨some, unfinished⟩

end Counting.Tracks

namespace Grammar

open Scriptlet.Parser

/-- A declaration answers the same with a greater bound, unless its bound is used up. -/
theorem endsAs_declaration (levels : List Level) (bound more : Nat) (inFunction : Bool) :
    (declaration levels bound inFunction).EndsAs more
      (declaration levels (bound + more) inFunction) := by
  have same := (tracks_statement levels bound 0).2
  have tracks := (tracks_statement levels bound more).2
  cases inFunction with
  | false => exact (same 0).endsAs (tracks 0)
  | true => exact (same 1).endsAs (tracks 1)

/-- A program answers the same with a greater bound, unless its bound is used up. -/
theorem endsAs_program (levels : List Level) (bound more : Nat) :
    (program levels bound).EndsAs more (program levels (bound + more)) :=
  (tracks_program levels bound 0).endsAs (tracks_program levels bound more)

/-- Where there is a token, a declaration takes one, unless it uses up a bound that is too small. -/
theorem declaration_cons (levels : List Level) (bound : Nat) (inFunction : Bool) (token : Token)
    (rest : List Token) :
    (declaration levels bound inFunction (token :: rest) = .unfinished ∧
      bound < Program.nestingBound (token :: rest)) ∨
    ∃ read left reports,
      declaration levels bound inFunction (token :: rest) = .parsed read left reports ∧
        left <:+ rest := by
  have enough {greater : Nat} (within : Program.nestingBound (token :: rest) ≤ greater) :
      ∃ read left reports, declaration levels greater inFunction (token :: rest) =
        .parsed read left reports ∧ left <:+ rest := by
    rw [declaration_eq]
    exact recovering_cons ((consumes_statement levels greater).2 within inFunction)
      (Nat.le_refl _)
  by_cases within : Program.nestingBound (token :: rest) ≤ bound
  · exact .inr (enough within)
  · -- Under a bound that is enough it answers, and what it answers here is the same.
    have larger := enough (Nat.le_add_left (Program.nestingBound (token :: rest)) bound)
    rcases endsAs_declaration levels bound _ inFunction (token :: rest) with
      same | ⟨_, unfinished⟩
    · rw [same]
      exact .inr larger
    · exact .inl ⟨unfinished, Nat.not_le.mp within⟩

/-- What is read up to the end of the input, and not up to some token, is read to the end. -/
theorem iterate_declarationRound (statement : Parser Statement) (bound : Nat)
    (read : List Statement) (tokens : List Token) :
    iterate (declarationRound (fun _ => false) (recovering statement)) bound read tokens =
        .unfinished ∨
      ∃ statements reports,
        iterate (declarationRound (fun _ => false) (recovering statement)) bound read tokens =
          .parsed statements [] reports := by
  induction bound generalizing read tokens with
  | zero => exact .inl rfl
  | succ bound ih =>
      rw [iterate, bind_apply]
      cases tokens with
      | nil => exact .inr ⟨read.reverse, [], rfl⟩
      | cons token rest =>
          have goesOn (more : List Statement) (left : List Token) (reports : List Report) :
              (iterate (declarationRound (fun _ => false) (recovering statement)) bound more
                  left).after reports = .unfinished ∨
                ∃ statements others,
                  (iterate (declarationRound (fun _ => false) (recovering statement)) bound more
                    left).after reports = .parsed statements [] others := by
            rcases ih more left with unfinished | ⟨statements, others, parsed⟩
            · rw [unfinished]
              exact .inl (Reply.after_unfinished reports)
            · rw [parsed]
              exact .inr ⟨statements, others ++ reports, Reply.after_parsed _ _ _ _⟩
          cases given : statement (token :: rest) with
          | unfinished =>
              exact .inl (by simp [declarationRound, bind_apply, atEnd, nextIs, recovering, given])
          | parsed value left reports =>
              simpa [declarationRound, bind_apply, atEnd, nextIs, recovering, given] using
                goesOn (value :: read) left reports
          | failed error left reports =>
              simpa [declarationRound, bind_apply, atEnd, nextIs, recovering, given] using
                goesOn read (resume left) (error :: reports)

/-- A program is read to the end of its tokens. -/
theorem program_parsed (levels : List Level) (tokens : List Token) :
    ∃ statements reports,
      program levels (Program.nestingBound tokens) tokens = .parsed statements [] reports := by
  have answer := iterate_declarationRound
    (oneDeclaration levels false (Program.nestingBound tokens)) (Program.nestingBound tokens) []
    tokens
  rw [← declarations_eq, ← declaration_eq] at answer
  rcases answer with unfinished | parsed
  · exact absurd unfinished (Program.program_ne_unfinished levels tokens)
  · exact parsed

/-- **Reading always goes on.** All tokens of a program are read, and the bound is enough for that
whatever they are. Wherever a declaration is to be read and there is a token, it takes one, in a
block as at the top level, and whether there is a fault in it or not; and behind it as many bodies
of functions are being read as in front of it. -/
theorem reading_progresses (levels : List Level) :
    (∀ tokens, ∃ statements reports, ∀ bound, Program.nestingBound tokens ≤ bound →
      program levels bound tokens = .parsed statements [] reports ∧
        Counted.program levels bound 0 tokens = (.parsed statements [] reports, 0)) ∧
    ∀ bound depth token rest,
      Counted.declaration levels bound depth (token :: rest) =
          (declaration levels bound (0 < depth) (token :: rest), depth) ∧
        ((declaration levels bound (0 < depth) (token :: rest) = .unfinished ∧
            bound < Program.nestingBound (token :: rest)) ∨
          ∃ read left reports,
            declaration levels bound (0 < depth) (token :: rest) = .parsed read left reports ∧
              left <:+ rest) := by
  constructor
  · intro tokens
    obtain ⟨statements, reports, parsed⟩ := program_parsed levels tokens
    refine ⟨statements, reports, fun bound enough => ?_⟩
    obtain ⟨more, rfl⟩ := Nat.exists_eq_add_of_le enough
    have greater : program levels (Program.nestingBound tokens + more) tokens =
        .parsed statements [] reports := by
      rcases endsAs_program levels (Program.nestingBound tokens) more tokens with
        same | ⟨_, unfinished⟩
      · rw [← same]
        exact parsed
      · rw [parsed] at unfinished
        cases unfinished
    refine ⟨greater, ?_⟩
    rw [(tracks_program levels _ 0).eq tokens, Nat.add_zero, greater]
  · intro bound depth token rest
    refine ⟨((tracks_statement levels bound 0).2 depth).eq (token :: rest), ?_⟩
    exact declaration_cons levels bound (0 < depth) token rest

/-- A closing brace without an opening one, and a function that breaks off in its body. -/
def brokenOff : List Token :=
  [⟨.symbol .rightBrace, "\x7d", 1⟩, ⟨.keyword .funWord, "fun", 1⟩, ⟨.identifier "f", "f", 1⟩,
    ⟨.symbol .leftParen, "(", 1⟩, ⟨.symbol .rightParen, ")", 1⟩, ⟨.symbol .leftBrace, "\x7b", 1⟩,
    ⟨.keyword .returnWord, "return", 2⟩, ⟨.symbol .semicolon, ";", 2⟩]

/-- Reading goes on behind a brace that closes nothing, and through the end of a body that nothing
closes, which leaves the depth as it was. -/
theorem reading_progresses_brokenOff :
    Program.nestingBound brokenOff ≤ 20 ∧
      (∃ statements reports, program Level.all 20 brokenOff = .parsed statements [] reports ∧
        Counted.program Level.all 20 0 brokenOff = (.parsed statements [] reports, 0)) ∧
      Counted.declaration Level.all 20 3 brokenOff =
        (.parsed none brokenOff.tail [⟨.expected .expression, brokenOff.head?⟩], 3) := by
  have enough : Program.nestingBound brokenOff ≤ 20 := by decide
  obtain ⟨statements, reports, told⟩ := (reading_progresses Level.all).1 brokenOff
  refine ⟨enough, ⟨statements, reports, told 20 enough⟩, ?_⟩
  rw [brokenOff, ((reading_progresses Level.all).2 20 3 _ _).1]
  with_unfolding_all rfl

end Grammar

end Scriptlet
