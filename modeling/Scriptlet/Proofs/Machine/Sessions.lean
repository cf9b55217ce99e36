import Scriptlet.Proofs.Grammar.Joining
import Scriptlet.Proofs.Machine.EvaluationUpToLines
import Scriptlet.Surroundings

/-!
# Sessions

Programs that are run one after the other, in a session, do what they do as one program with a line
break between them, but for lines.
-/

namespace Scriptlet

/-! ## Programs with a line break between them -/

namespace Program

/-- A source is a program without errors where its characters have no faults and all its tokens
spell the program. -/
theorem ofSource_eq_iff {source : String} {statements : List Statement} :
    ofSource source = ⟨statements, []⟩ ↔ (Scan.ofSource source).errors = [] ∧
      Statement.SpelledList false (Scan.ofSource source).tokens statements [] := by
  rw [← ofTokens_eq_iff, ofSource, Program.mk.injEq, List.append_eq_nil_iff]
  constructor
  · rintro ⟨read, scanned, parsed⟩
    exact ⟨scanned, by rw [← read, ← parsed]⟩
  · rintro ⟨scanned, read⟩
    rw [read]
    exact ⟨rfl, scanned, rfl⟩

/-- How many lines further down a text stands behind another one and a line break. -/
def linesBefore (source : String) : Nat :=
  1 + lineBreaks source.toList

/-- The program of two texts without errors, with a line break between them, is that of the first
and behind it that of the second, on later lines. -/
theorem ofSource_join {first second : String} {statements others : List Statement}
    (here : ofSource first = ⟨statements, []⟩) (behind : ofSource second = ⟨others, []⟩) :
    ofSource (first ++ "\n" ++ second) =
      ⟨statements ++ Statement.mapLinesAll (· + linesBefore first) others, []⟩ := by
  obtain ⟨clean, spelled⟩ := ofSource_eq_iff.mp here
  obtain ⟨cleanToo, follows⟩ := ofSource_eq_iff.mp behind
  have closed : ∀ error ∈ (Scan.ofSource first).errors, error.fault ≠ .unterminatedText := by
    rw [clean]
    exact fun _ inside => absurd inside List.not_mem_nil
  rw [ofSource_eq_iff, Scan.ofSource_of_closed (Scan.closed_of_errors closed)]
  constructor
  · change (Scan.ofSource first).errors ++ (Scan.ofSource second).errors.map _ = []
    rw [clean, cleanToo]
    rfl
  · exact spelled.join follows _

end Program

section

variable [Host]

/-! ## Runs up to lines -/

/-- A failure of a run with its lines changed. -/
def RunError.mapLines (change : Nat → Nat) : RunError → RunError
  | .syntaxErrors errors => .syntaxErrors (errors.map (·.mapLines change))
  | .runtimeError error => .runtimeError (error.mapLines change)

/-- The end of an action with its lines changed. -/
def Outcome.mapLines (change : Nat → Nat) : Outcome Unit → Outcome Unit
  | .done () after => .done () (after.mapLines change)
  | .failed error after => .failed (error.mapLines change) (after.mapLines change)
  | .unfinished => .unfinished

/-- The end of an action without its lines. -/
def Outcome.eraseLines : Outcome Unit → Outcome Unit
  | .done () after => .done () (after.mapLines fun _ => 0)
  | .failed error after => .failed (error.mapLines fun _ => 0) (after.mapLines fun _ => 0)
  | .unfinished => .unfinished

namespace Machine

/-- The end of a run without its lines. -/
def RunResult.eraseLines : RunResult → RunResult
  | .finished after => .finished (after.mapLines fun _ => 0)
  | .refused error after => .refused (error.mapLines fun _ => 0) (after.mapLines fun _ => 0)
  | .unfinished => .unfinished

/-- The end of a run of a program without errors. -/
def RunResult.ofOutcome : Outcome Unit → RunResult
  | .done () after => .finished after
  | .failed error after => .refused (.runtimeError error) after
  | .unfinished => .unfinished

variable {bound : Nat} {statements others : List Statement} {machine after : Machine}
  {source : String}

/-- The end of a run without lines is that of its outcome without lines. -/
theorem eraseLines_ofOutcome (outcome : Outcome Unit) :
    (RunResult.ofOutcome outcome).eraseLines = RunResult.ofOutcome outcome.eraseLines := by
  cases outcome <;> rfl

/-- A source without errors is run as its statements are. -/
theorem runWithin_of_clean (clean : Program.ofSource source = ⟨statements, []⟩) :
    runWithin bound source machine = .ofOutcome (interpret bound statements machine) := by
  unfold runWithin
  simp only [clean, List.isEmpty_nil, ↓reduceIte]
  cases interpret bound statements machine <;> rfl

/-- Statements in order are the first one and then the others. -/
theorem executeAll_cons (statement : Statement) :
    executeAll bound (statement :: statements) =
      execute bound statement >>= fun _ => executeAll bound statements := by
  funext machine
  rw [executeAll, Action.bind_apply, Action.bind_apply, Action.findFirst, Action.bind_apply]
  cases execute bound statement machine <;> rfl

/-- Statements behind others are executed where those have finished. -/
theorem executeAll_append :
    executeAll bound (statements ++ others) =
      executeAll bound statements >>= fun _ => executeAll bound others := by
  induction statements with
  | nil => rfl
  | cons statement statements ih =>
      rw [List.cons_append, executeAll_cons, executeAll_cons, ih, bind_assoc]

theorem alike_executeAll (change : Nat → Nat) :
    (executeAll bound statements).Alike (.upToLines change) (fun _ _ => True)
      (executeAll bound (Statement.mapLinesAll change statements)) := by
  induction statements with
  | nil => exact Action.alike_pure trivial
  | cons statement statements ih =>
      rw [Statement.mapLinesAll, executeAll_cons, executeAll_cons]
      exact Action.alike_bind ((alike_evaluate_execute change bound).2 statement) fun _ _ _ => ih

omit [Host] in
/-- The last line of a program with other lines is its last line, changed. -/
theorem lastLine_mapLines {change : Nat → Nat} (fixed : statements = [] → change 0 = 0) :
    lastLine (Statement.mapLinesAll change statements) = change (lastLine statements) := by
  rw [lastLine, lastLine, Statement.mapLinesAll_eq_map, List.getLast?_map, Option.map_map]
  cases ends : statements.getLast? with
  | none => exact (fixed (List.getLast?_eq_none_iff.mp ends)).symm
  | some last => exact last.line_mapLines change

/-- Handing on the output is the same up to lines, whether it succeeds or not. -/
theorem flushAfter_mapLines (change : Nat → Nat) (line : Nat) (failure : Option RuntimeError) :
    flushAfter (change line) (failure.map (·.mapLines change)) (machine.mapLines change) =
      (flushAfter line failure machine).mapLines change := by
  have same : (machine.mapLines change).output = machine.output := rfl
  unfold flushAfter
  rw [same]
  cases failure with
  | some error => rfl
  | none => cases machine.output.flush <;> rfl

/-- A program with other lines does what the program does, with these lines. Without a statement
the line on which a failure to hand on the output is reported has to be kept. -/
theorem interpret_mapLines {change : Nat → Nat} (fixed : statements = [] → change 0 = 0) :
    interpret bound (Statement.mapLinesAll change statements) (machine.mapLines change) =
      (interpret bound statements machine).mapLines change := by
  have alike := @alike_executeAll _ bound statements change machine _ rfl
  unfold interpret
  rw [lastLine_mapLines fixed]
  generalize executeAll bound statements machine = ended,
    executeAll bound (Statement.mapLinesAll change statements) _ = other at alike ⊢
  cases alike with
  | unfinished => rfl
  | done _ same =>
      subst same
      exact flushAfter_mapLines change _ none
  | @failed error _ last _ isError same =>
      subst isError same
      exact @flushAfter_mapLines _ last.rest change _ (some error)

/-- To erase lines is to change all of them to the same one. -/
theorem eraseLines_eq_mapLines (outcome : Outcome Unit) :
    outcome.eraseLines = outcome.mapLines fun _ => 0 := by
  cases outcome <;> rfl

/-- Where nothing else is to be reported, the line of a failure to hand on the output is all that
depends on the statements. -/
theorem eraseLines_flushAfter (line : Nat) (failure : Option RuntimeError) :
    (flushAfter line failure machine).eraseLines =
      flushAfter 0 (failure.map (·.mapLines fun _ => 0)) (machine.mapLines fun _ => 0) := by
  rw [eraseLines_eq_mapLines]
  exact (flushAfter_mapLines (fun _ => 0) line failure).symm

/-- A program without its lines does what the program does, without its lines. -/
theorem interpret_eraseLines :
    interpret bound (Statement.mapLinesAll (fun _ => 0) statements) (machine.mapLines fun _ => 0) =
      (interpret bound statements machine).eraseLines := by
  rw [eraseLines_eq_mapLines]
  exact interpret_mapLines fun _ => rfl

/-- Where some statements finish, statements behind them go on. -/
theorem interpret_append (ran : executeAll bound statements machine = .done () after) :
    (interpret bound (statements ++ others) machine).eraseLines =
      (interpret bound others after).eraseLines := by
  unfold interpret
  rw [executeAll_append, Action.bind_apply, ran]
  dsimp only
  cases executeAll bound others after with
  | unfinished => rfl
  | done _ last => rw [eraseLines_flushAfter, eraseLines_flushAfter]
  | failed error last => rw [eraseLines_flushAfter, eraseLines_flushAfter]

/-- A run that finished executed all of its statements. -/
theorem executeAll_of_interpret (ran : interpret bound statements machine = .done () after) :
    executeAll bound statements machine = .done () after := by
  unfold interpret at ran
  cases ended : executeAll bound statements machine with
  | unfinished =>
      rw [ended] at ran
      cases ran
  | failed error last =>
      rw [ended] at ran
      cases ran
  | done _ last =>
      rw [ended] at ran
      dsimp only [flushAfter] at ran
      cases flushed : last.output.flush with
      | error cause =>
          rw [flushed] at ran
          cases ran
      | ok _ =>
          rw [flushed] at ran
          cases ran
          rfl

/-- A run that finishes has executed all statements of a program without errors. -/
theorem executeAll_of_finished (ran : runWithin bound source machine = .finished after) :
    ∃ statements, Program.ofSource source = ⟨statements, []⟩ ∧
      executeAll bound statements machine = .done () after := by
  cases program : Program.ofSource source with
  | mk statements errors =>
      cases errors with
      | cons error errors =>
          unfold runWithin at ran
          rw [program] at ran
          cases ran
      | nil =>
          refine ⟨statements, rfl, executeAll_of_interpret ?_⟩
          rw [runWithin_of_clean program] at ran
          cases ended : interpret bound statements machine with
          | done _ last =>
              rw [ended] at ran
              cases ran
              rfl
          | failed error last =>
              rw [ended] at ran
              cases ran
          | unfinished =>
              rw [ended] at ran
              cases ran

/-- **Sessions**: where one program has finished and another one has no errors, the second does as
the first and the second do with a line break between them, but for lines. This is so on every host:
the program behind the line break asks it where the session would, in the state that the first
program has left, and gets the same answers. -/
theorem runWithin_join (bound : Nat) (first second : String) (machine after : Machine)
    (ran : runWithin bound first machine = .finished after)
    (clean : (Program.ofSource second).errors = []) :
    Program.ofSource (first ++ "\n" ++ second) =
        ⟨(Program.ofSource first).statements ++
          Statement.mapLinesAll (· + Program.linesBefore first)
            (Program.ofSource second).statements,
          []⟩ ∧
      (runWithin bound (first ++ "\n" ++ second) machine).eraseLines =
        (runWithin bound second after).eraseLines := by
  obtain ⟨statements, here, executed⟩ := executeAll_of_finished ran
  have behind : Program.ofSource second = ⟨(Program.ofSource second).statements, []⟩ := by
    rw [← clean]
  have joined := Program.ofSource_join here behind
  refine ⟨by rw [joined, here], ?_⟩
  rw [runWithin_of_clean joined, runWithin_of_clean behind, eraseLines_ofOutcome,
    eraseLines_ofOutcome, interpret_append executed, ← interpret_eraseLines,
    ← interpret_eraseLines, Statement.mapLinesAll_mapLinesAll]
  rfl

end Machine

end

namespace Machine

/-- A machine at rest that has run nothing, with nothing around it. -/
def idle : Machine :=
  fresh ⟨false, 9⟩ (.bare []) .unlimited

/-- The theorem at a first program that ends with a comment, which the line break between the two
ends. -/
theorem runWithin_join_comment :
    runWithin 9 "var x = \"p\"; // kept" idle =
        .finished { idle with scopes := idle.scopes.define 0 "x" (.text "p") } ∧
      (Program.ofSource "x = x +. \"q\";\nprint x;").errors = [] ∧
      (runWithin 9 "var x = \"p\"; // kept\nx = x +. \"q\";\nprint x;" idle).eraseLines =
        (runWithin 9 "x = x +. \"q\";\nprint x;"
          { idle with scopes := idle.scopes.define 0 "x" (.text "p") }).eraseLines := by
  have pieces : Piece.split "var x = \"p\"; // kept".toList =
      [.token (.keyword .varWord) ['v', 'a', 'r'], .layout [' '], .token (.identifier "x") ['x'],
        .layout [' '], .token (.symbol .equal) ['='], .layout [' '],
        .token (.text "p") ['"', 'p', '"'], .token (.symbol .semicolon) [';'], .layout [' '],
        .layout ['/', '/', ' ', 'k', 'e', 'p', 't']] := by
    with_unfolding_all rfl
  have program : Program.ofSource "var x = \"p\"; // kept" =
      ⟨[.declare 1 "x" (some (.literal 1 (.text "p")))], []⟩ := by
    rw [Program.ofSource, Scan.ofSource, pieces]
    rfl
  have ran : runWithin 9 "var x = \"p\"; // kept" idle =
      .finished { idle with scopes := idle.scopes.define 0 "x" (.text "p") } := by
    rw [runWithin_of_clean program]
    rfl
  have clean : (Program.ofSource "x = x +. \"q\";\nprint x;").errors = [] := by decide +kernel
  exact ⟨ran, clean, (runWithin_join 9 _ _ _ _ ran clean).2⟩

end Machine

end Scriptlet
