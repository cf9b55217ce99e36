import Scriptlet.Grammar.Statement
import Scriptlet.Token.Scan

/-!
# Programs

A program is what a source text holds: the statements that could be read, and the errors found on
the way, those of its tokens before those of its grammar.
-/

namespace Scriptlet

/-- The statements and the errors of a source text. -/
structure Program where
  statements : List Statement
  errors : List SyntaxError

namespace Program

/-- The line of the last token, on which errors behind it are reported. -/
def lastLine (tokens : List Token) : Nat :=
  (tokens.getLast?.map (·.line)).getD 1

/-- A bound on how deep the declarations of some tokens can nest and how long they can be: each
token takes the parser down two levels at most. -/
def nestingBound (tokens : List Token) : Nat :=
  2 * (tokens.length + 2)

/-- The program that some tokens spell, with operators on the given levels. -/
def ofTokensWith (levels : List Level) (tokens : List Token) : Program :=
  match Grammar.program levels (nestingBound tokens) tokens with
  | .parsed statements _ reports =>
    ⟨statements, reports.reverse.map (Report.toError (lastLine tokens))⟩
  | .failed error _ reports =>
    ⟨[], (error :: reports).reverse.map (Report.toError (lastLine tokens))⟩
  | .unfinished => ⟨[], []⟩

/-- The program that some tokens spell. -/
def ofTokens (tokens : List Token) : Program :=
  ofTokensWith Level.all tokens

/-- The program of a source text. -/
def ofSource (source : String) : Program :=
  let scan := Scan.ofSource source
  let program := ofTokens scan.tokens
  ⟨program.statements, scan.errors ++ program.errors⟩

end Program

end Scriptlet
