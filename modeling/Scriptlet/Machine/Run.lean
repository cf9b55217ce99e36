import Scriptlet.Machine.Evaluation
import Scriptlet.Program

/-!
# Runs

A machine runs programs one after the other and keeps its global scope between them. A run that
fails leaves the machine at rest, as one that succeeds does.
-/

namespace Scriptlet.Machine

variable [Host]

/-- The line on which a failure to hand on the output is reported: that of the last statement. -/
def lastLine (statements : List Statement) : Nat :=
  (statements.getLast?.map (·.line)).getD 0

/-- Executes statements in order until one fails. -/
def executeAll (bound : Nat) (statements : List Statement) : Action Unit := do
  let _ ← Action.findFirst (fun statement => do
    let _ ← execute bound statement
    return (none : Option Unit)) statements

/-- The machine at rest: in its global scope, with no call under way. -/
def rest (machine : Machine) : Machine :=
  { machine with scope := machine.globals, depth := 0 }

/-- Hands on the output, after an action that ended with `failure` or without one. -/
def flushAfter (line : Nat) (failure : Option RuntimeError) : Action Unit := fun machine =>
  match failure, machine.output.flush with
  | some error, _ => .failed error machine
  | none, .error cause => .failed ⟨line, .outputRefused cause⟩ machine
  | none, .ok () => .done () machine

/-- Executes the statements of a program. The first failure ends the run; in any case the output is
handed on at the end. -/
def interpret (bound : Nat) (statements : List Statement) : Action Unit := fun machine =>
  match executeAll bound statements machine with
  | .done () after => flushAfter (lastLine statements) none after
  | .failed error after => flushAfter (lastLine statements) (some error) after.rest
  | .unfinished => .unfinished

/-- How a run ends, and the machine that it leaves. -/
inductive RunResult where
  | finished (after : Machine)
  | refused (error : RunError) (after : Machine)
  | unfinished

/-- Runs a source text. If it has errors, nothing of it is executed. -/
def runWithin (bound : Nat) (source : String) (machine : Machine) : RunResult :=
  let program := Program.ofSource source
  if program.errors.isEmpty then
    match interpret bound program.statements machine with
    | .done () after => .finished after
    | .failed error after => .refused (.runtimeError error) after
    | .unfinished => .unfinished
  else .refused (.syntaxErrors program.errors) machine

/-- A bound above all that a computation can reach in practice. -/
def ampleBound : Nat := Nat.pow 2 60

/-- Runs a source text. -/
def run (source : String) (machine : Machine) : RunResult :=
  runWithin ampleBound source machine

/-- Calls the function that a global name is bound to. -/
def callGlobal (bound line : Nat) (name : String) (arguments : List Value) : Action Value := do
  let globals ← Action.inspect (·.globals)
  let callee ← fun machine => Action.ofExcept line (machine.scopes.get globals name) machine
  Evaluation.callValue (execute bound) line callee arguments

end Scriptlet.Machine
