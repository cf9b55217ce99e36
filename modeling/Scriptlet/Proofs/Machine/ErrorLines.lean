import Scriptlet.Proofs.Grammar.Origin
import Scriptlet.Proofs.Machine.Sessions

/-!
# Lines that are reported

Every line that is reported is one of the source text: faults of its characters stand on one of its
lines, faults of its grammar at a token or behind the last one, and what fails when a program runs
has the line of a token, also where a function is called that was declared long before, and where
the output cannot be handed on.
-/

namespace Scriptlet

/-! ## Faults of characters -/

namespace Scan

/-- A line is among those of some characters that begin on `first`. -/
def Spans (first : Nat) (chars : List Char) (line : Nat) : Prop :=
  first ≤ line ∧ line ≤ first + lineBreaks chars

/-- A line of the text behind some characters is one of the whole. -/
theorem Spans.behind {first line : Nat} {chars more : List Char}
    (spans : Spans (first + lineBreaks chars) more line) : Spans first (chars ++ more) line := by
  obtain ⟨below, above⟩ := spans
  have breaks : lineBreaks (chars ++ more) = lineBreaks chars + lineBreaks more :=
    lineBreaks_append chars more
  exact ⟨by omega, by omega⟩

/-- A piece ends on one of its lines. -/
theorem spans_end (first : Nat) (chars more : List Char) :
    Spans first (chars ++ more) (first + lineBreaks chars) :=
  Spans.behind ⟨Nat.le_refl _, Nat.le_add_right _ _⟩

/-- Tokens and errors stand on lines of the pieces that they come from. -/
theorem spans_ofPieces (first : Nat) (pieces : List Piece) :
    (∀ token ∈ (ofPieces first pieces).tokens,
      Spans first (pieces.flatMap (·.chars)) token.line) ∧
    ∀ error ∈ (ofPieces first pieces).errors,
      Spans first (pieces.flatMap (·.chars)) error.line := by
  induction pieces generalizing first with
  | nil => exact ⟨List.forall_mem_nil _, List.forall_mem_nil _⟩
  | cons piece pieces ih =>
      obtain ⟨tokens, errors⟩ := ih (first + lineBreaks piece.chars)
      have here := spans_end first piece.chars (pieces.flatMap (·.chars))
      have laterTokens := fun token member => (tokens token member).behind
      have laterErrors := fun error member => (errors error member).behind
      rw [ofPieces, List.flatMap_cons]
      cases piece with
      | token kind chars => exact ⟨List.forall_mem_cons.mpr ⟨here, laterTokens⟩, laterErrors⟩
      | layout chars => exact ⟨laterTokens, laterErrors⟩
      | unexpected char => exact ⟨laterTokens, List.forall_mem_cons.mpr ⟨here, laterErrors⟩⟩
      | unterminated chars => exact ⟨laterTokens, List.forall_mem_cons.mpr ⟨here, laterErrors⟩⟩

/-- **Tokens and faults of characters stand on lines of the source**. -/
theorem spans_ofSource (source : String) :
    (∀ token ∈ (ofSource source).tokens, Spans 1 source.toList token.line) ∧
      ∀ error ∈ (ofSource source).errors, Spans 1 source.toList error.line := by
  have spans := spans_ofPieces 1 (Piece.split source.toList)
  rwa [Piece.flatMap_chars_split] at spans

end Scan

/-! ## Faults of grammar -/

/-- An error stands at a token, or behind the last one on its line, which is 1 where there are no
tokens. -/
def SyntaxError.LocatedIn (tokens : List Token) (error : SyntaxError) : Prop :=
  (∃ token ∈ tokens, error.line = token.line ∧ error.place = .token token.lexeme) ∨
    error.line = Program.lastLine tokens ∧ error.place = .endOfInput

/-- A report made at one of the tokens, or behind the last one, is an error located there. -/
theorem Report.locatedIn {tokens : List Token} {report : Report} (within : report.Within tokens) :
    (report.toError (Program.lastLine tokens)).LocatedIn tokens := by
  unfold toError
  cases made : report.token with
  | none => exact .inr ⟨rfl, rfl⟩
  | some token => exact .inl ⟨token, within token made, rfl, rfl⟩

/-- **Faults of grammar are located at tokens**, and every line of what was read is the line of a
token. -/
theorem Program.locatedIn_ofTokens (tokens : List Token) :
    (∀ error ∈ (ofTokens tokens).errors, error.LocatedIn tokens) ∧
      Statement.linesAll (ofTokens tokens).statements ⊆ Token.lines tokens := by
  have drawn := Grammar.draws_program (nestingBound tokens) (List.Subset.refl tokens)
  obtain ⟨statements, reports, parsed⟩ := Grammar.program_parsed Level.all tokens
  unfold ofTokens ofTokensWith
  rw [parsed] at drawn ⊢
  obtain ⟨given, -, within⟩ := drawn
  refine ⟨fun error member => ?_, Statement.linesAll_subset_iff.mpr fun statement member => ?_⟩
  · obtain ⟨report, made, rfl⟩ := List.mem_map.mp member
    exact Report.locatedIn (within report (List.mem_reverse.mp made))
  · exact (given statement member).lines_subset

section

variable [Host]

/-! ## What fails when a program runs -/

namespace Machine

/-- A machine that has run nothing holds no lines to be changed. -/
theorem fresh_mapLines (change : Nat → Nat) (settings : Settings) (world : World)
    (output : Output) :
    (fresh settings world output).mapLines change = fresh settings world output := by
  have nothing : Scopes.empty.mapLines change = Scopes.empty := by
    rw [Scopes.mapLines, Scopes.empty, Array.map_empty]
  have natives : ((Scopes.empty.enclose none).register 0).mapLines change =
      (Scopes.empty.enclose none).register 0 := by
    rw [Scopes.register_mapLines, Scopes.enclose_mapLines, nothing]
  unfold fresh mapLines
  rw [natives]

/-- What fails has a line of a statement: a change of all other lines would not change it. -/
theorem line_mem_of_failed {bound : Nat} {statements : List Statement} {settings : Settings}
    {world : World} {output : Output} {error : RuntimeError} {after : Machine}
    (present : statements ≠ [])
    (failed : interpret bound statements (fresh settings world output) = .failed error after) :
    error.line ∈ Statement.linesAll statements := by
  let change (line : Nat) : Nat := if line ∈ Statement.linesAll statements then line else line + 1
  have kept : Statement.mapLinesAll change statements = statements :=
    Statement.mapLinesAll_eq_self statements fun line member => if_pos member
  have same := @interpret_mapLines _ bound statements (fresh settings world output) change
    fun none => absurd none present
  rw [kept, fresh_mapLines, failed] at same
  have unmoved : error.line = change error.line :=
    congrArg RuntimeError.line (Outcome.failed.inj same).1
  by_cases member : error.line ∈ Statement.linesAll statements
  · exact member
  · have moved : change error.line = error.line + 1 := if_neg member
    omega

/-- A source that is refused at run time is one whose statements fail so. -/
theorem interpret_of_refused {bound : Nat} {source : String} {machine after : Machine}
    {error : RuntimeError}
    (refused : runWithin bound source machine = .refused (.runtimeError error) after) :
    interpret bound (Program.ofSource source).statements machine = .failed error after := by
  unfold runWithin at refused
  dsimp only at refused
  split at refused
  · cases ended : interpret bound (Program.ofSource source).statements machine with
    | unfinished =>
        rw [ended] at refused
        cases refused
    | done _ last =>
        rw [ended] at refused
        cases refused
    | failed cause last =>
        rw [ended] at refused
        cases refused
        rfl
  · cases refused

/-- **Every line that is reported is one of the source.** Tokens and faults of characters stand on
lines of the text, faults of the grammar at tokens or behind the last one, and nodes of trees on
lines of tokens, also where the program has faults. What fails when the program runs on a machine
that nothing was run on, whatever its input and its output are, fails on the line of a token. -/
theorem lines_of_source (source : String) :
    (∀ token ∈ (Scan.ofSource source).tokens, Scan.Spans 1 source.toList token.line) ∧
    (∀ error ∈ (Scan.ofSource source).errors, Scan.Spans 1 source.toList error.line) ∧
    (∀ error ∈ (Program.ofTokens (Scan.ofSource source).tokens).errors,
      error.LocatedIn (Scan.ofSource source).tokens) ∧
    (∀ statement ∈ (Program.ofSource source).statements, ∀ line ∈ statement.lines,
      ∃ token ∈ (Scan.ofSource source).tokens, token.line = line) ∧
    ∀ bound settings world output error after, (Program.ofSource source).statements ≠ [] →
      runWithin bound source (fresh settings world output) =
        .refused (.runtimeError error) after →
      ∃ token ∈ (Scan.ofSource source).tokens, token.line = error.line := by
  obtain ⟨tokens, errors⟩ := Scan.spans_ofSource source
  obtain ⟨located, lines⟩ := Program.locatedIn_ofTokens (Scan.ofSource source).tokens
  refine ⟨tokens, errors, located, fun statement member line inside => ?_, ?_⟩
  · exact List.mem_map.mp (Statement.linesAll_subset_iff.mp lines statement member inside)
  · intro bound settings world output error after present refused
    exact List.mem_map.mp (lines (line_mem_of_failed present (interpret_of_refused refused)))

end Machine

end

namespace Machine

/-- The theorem at a call of a function whose body fails on its own line, and at faults of
characters and of grammar. -/
theorem lines_of_source_called :
    (Program.ofSource "fun f()\n{ return x; }\nf();").statements ≠ [] ∧
    (∃ after, runWithin 9 "fun f()\n{ return x; }\nf();" idle =
      .refused (.runtimeError ⟨2, .undefinedVariable "x"⟩) after) ∧
    (∃ token ∈ (Scan.ofSource "fun f()\n{ return x; }\nf();").tokens, token.line = 2) ∧
    (Scan.ofSource "@\nvar 1;\nprint").errors = [⟨1, .unplaced, .unexpectedCharacter⟩] ∧
    Scan.Spans 1 "@\nvar 1;\nprint".toList 1 ∧
    (Program.ofTokens (Scan.ofSource "@\nvar 1;\nprint").tokens).errors =
      [⟨2, .token "1", .expected .variableName⟩, ⟨3, .endOfInput, .expected .expression⟩] ∧
    SyntaxError.LocatedIn (Scan.ofSource "@\nvar 1;\nprint").tokens
      ⟨3, .endOfInput, .expected .expression⟩ := by
  have pieces : Piece.split "fun f()\n{ return x; }\nf();".toList =
      [.token (.keyword .funWord) ['f', 'u', 'n'], .layout [' '], .token (.identifier "f") ['f'],
        .token (.symbol .leftParen) ['('], .token (.symbol .rightParen) [')'], .layout ['\n'],
        .token (.symbol .leftBrace) ['{'], .layout [' '],
        .token (.keyword .returnWord) ['r', 'e', 't', 'u', 'r', 'n'], .layout [' '],
        .token (.identifier "x") ['x'], .token (.symbol .semicolon) [';'], .layout [' '],
        .token (.symbol .rightBrace) ['}'], .layout ['\n'], .token (.identifier "f") ['f'],
        .token (.symbol .leftParen) ['('], .token (.symbol .rightParen) [')'],
        .token (.symbol .semicolon) [';']] := by
    with_unfolding_all rfl
  have program : Program.ofSource "fun f()\n{ return x; }\nf();" =
      ⟨[.function 1 "f" [] [.giveBack 2 (some (.reference 2 "x"))],
        .expression 3 (.call 3 (.reference 3 "f") [])], []⟩ := by
    rw [Program.ofSource, Scan.ofSource, pieces]
    rfl
  have present : (Program.ofSource "fun f()\n{ return x; }\nf();").statements ≠ [] := by
    rw [program]
    exact List.cons_ne_nil _ _
  have refused : ∃ after, runWithin 9 "fun f()\n{ return x; }\nf();" idle =
      .refused (.runtimeError ⟨2, .undefinedVariable "x"⟩) after := by
    rw [runWithin_of_clean program]
    exact ⟨_, by with_unfolding_all rfl⟩
  have scraps : Piece.split "@\nvar 1;\nprint".toList =
      [.unexpected '@', .layout ['\n'], .token (.keyword .varWord) ['v', 'a', 'r'],
        .layout [' '], .token (.number 1) ['1'], .token (.symbol .semicolon) [';'],
        .layout ['\n'], .token (.keyword .printWord) ['p', 'r', 'i', 'n', 't']] := by
    with_unfolding_all rfl
  have scanned : (Scan.ofSource "@\nvar 1;\nprint").errors =
      [⟨1, .unplaced, .unexpectedCharacter⟩] := by
    rw [Scan.ofSource, scraps]
    rfl
  have faults : (Program.ofTokens (Scan.ofSource "@\nvar 1;\nprint").tokens).errors =
      [⟨2, .token "1", .expected .variableName⟩, ⟨3, .endOfInput, .expected .expression⟩] := by
    rw [Scan.ofSource, scraps]
    rfl
  obtain ⟨after, ran⟩ := refused
  obtain ⟨-, -, -, -, runs⟩ := lines_of_source "fun f()\n{ return x; }\nf();"
  obtain ⟨-, spans, located, -⟩ := lines_of_source "@\nvar 1;\nprint"
  refine ⟨present, ⟨after, ran⟩, ?_, scanned, ?_, faults, ?_⟩
  · exact runs _ _ _ _ _ _ present ran
  · exact spans ⟨1, .unplaced, .unexpectedCharacter⟩ (by rw [scanned]; exact List.mem_cons_self)
  · apply located
    rw [faults]
    exact .tail _ List.mem_cons_self

end Machine

end Scriptlet
