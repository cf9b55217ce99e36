import Scriptlet.Proofs.Machine.ComparedEvaluation

/-!
# What becomes of the values of statements

Two kinds of statement give a value that may be written: a print statement, and an expression
standing by itself. Evaluation is given here with a reporter as a parameter, which says what becomes
of such values. With the reporter that writes what is printed, and echoes what stands by itself if
the settings say so, it is the evaluation that runs programs; other reporters tell apart what the
lines of one output do not.
-/

namespace Scriptlet

variable [Host]

/-- Which kind of statement gave a value: a print statement, or an expression by itself. -/
inductive Origin where
  | printed | echoed
  deriving Repr, DecidableEq

/-- What becomes of a value that a statement on some line gave. -/
abbrev Reporter : Type := Origin → Nat → Value → Action Unit

namespace Reporter

/-- What is printed is written, and what stands by itself is echoed, if that is wanted. -/
def standard : Reporter
  | .printed => Machine.writeLine
  | .echoed => Evaluation.echoLine

/-- Values from one kind of statement are written, and no others. -/
def only (origin : Origin) : Reporter := fun other line value =>
  if other = origin then Machine.writeLine line value else pure ()

end Reporter

namespace Evaluation

/-- The effect of a statement, where a reporter is told of the values that statements give. -/
def executeNodeReporting (report : Reporter) (bound : Nat) (evaluate : Expr → Action Value)
    (execute : Statement → Action Flow) : Statement → Action Flow
  | .expression line expr => do
    let value ← evaluate expr
    report .echoed line value
    return .normal
  | .print line expr => do
    let value ← evaluate expr
    report .printed line value
    return .normal
  | other => executeNode bound evaluate execute other

end Evaluation

open Evaluation

mutual

/-- Evaluates an expression, and tells a reporter of the values that statements give. -/
def evaluateReporting (report : Reporter) (bound : Nat) (expr : Expr) : Action Value :=
  match bound with
  | 0 => .exhausted
  | bound + 1 =>
    evaluateNode (evaluateReporting report bound) (executeReporting report bound) expr

/-- Executes a statement, and tells a reporter of the values that statements give. -/
def executeReporting (report : Reporter) (bound : Nat) (statement : Statement) : Action Flow :=
  match bound with
  | 0 => .exhausted
  | bound + 1 =>
    executeNodeReporting report bound (evaluateReporting report bound)
      (executeReporting report bound) statement

end

namespace Machine

/-- Executes statements in order until one fails, and tells a reporter of the values that they
give. -/
def executeAllReporting (report : Reporter) (bound : Nat) (statements : List Statement) :
    Action Unit := do
  let _ ← Action.findFirst (fun statement => do
    let _ ← executeReporting report bound statement
    return (none : Option Unit)) statements

/-- The end of a run: a failure brings the machine to rest, and the output is handed on. -/
def conclude (line : Nat) (action : Action Unit) : Action Unit := fun machine =>
  match action machine with
  | .done () after => flushAfter line none after
  | .failed error after => flushAfter line (some error) after.rest
  | .unfinished => .unfinished

/-- Executes the statements of a program, and tells a reporter of the values that they give. -/
def interpretReporting (report : Reporter) (bound : Nat) (statements : List Statement) :
    Action Unit :=
  conclude (lastLine statements) (executeAllReporting report bound statements)

end Machine

/-! ## The standard reporter -/

/-- With the standard reporter, a statement has the effect that it has when programs run. -/
theorem Evaluation.executeNodeReporting_standard {bound : Nat} {evaluate : Expr → Action Value}
    {execute : Statement → Action Flow} (statement : Statement) :
    executeNodeReporting .standard bound evaluate execute statement =
      executeNode bound evaluate execute statement := by
  cases statement with
  | expression line expr => exact executeNode_expression.symm
  | _ => rfl

/-- Told of everything, the standard reporter does what evaluation does by itself. -/
theorem reporting_standard (bound : Nat) :
    evaluateReporting .standard bound = evaluate bound ∧
      executeReporting .standard bound = execute bound := by
  induction bound with
  | zero =>
      constructor
      · funext expr
        rw [evaluateReporting, evaluate]
      · funext statement
        rw [executeReporting, execute]
  | succ bound ih =>
      obtain ⟨values, flows⟩ := ih
      constructor
      · funext expr
        rw [evaluateReporting, evaluate, values, flows]
      · funext statement
        rw [executeReporting, execute, values, flows, executeNodeReporting_standard]

/-- **With the standard reporter, a program runs as it always does**. -/
theorem Machine.interpretReporting_standard (bound : Nat) (statements : List Statement) :
    interpretReporting .standard bound statements = interpret bound statements := by
  have executed : executeAllReporting .standard bound statements = executeAll bound statements := by
    unfold executeAllReporting executeAll
    rw [(reporting_standard bound).2]
  funext machine
  unfold interpretReporting conclude interpret
  generalize executeAllReporting .standard bound statements = action at executed
  subst executed
  cases executeAll bound statements machine <;> rfl

end Scriptlet
