import Scriptlet.SyntaxError

/-!
# Runtime errors

What can go wrong while a program runs, the line on which it did, and how that is worded.
-/

namespace Scriptlet

/-- Why an output stream refused something. -/
inductive StreamError where
  | full
  | flushFailed
  deriving Repr, DecidableEq

/-- The wording of a refusal. -/
def StreamError.message : StreamError → String
  | full => "sink full"
  | flushFailed => "flush failed"

/-- What went wrong. -/
inductive Fault where
  | operandNotNumber
  | operandsNotNumbers
  | operandsNotAddable
  | undefinedVariable (name : String)
  | notCallable
  | arityMismatch (expected found : Nat)
  | callsTooDeep (limit : Nat)
  | outputRefused (cause : StreamError)
  deriving Repr, DecidableEq

/-- The wording of a fault. -/
def Fault.message : Fault → String
  | operandNotNumber => "Operand must be a number."
  | operandsNotNumbers => "Operands must be numbers."
  | operandsNotAddable => "Operands must be two numbers or two strings."
  | undefinedVariable name => "Undefined variable '" ++ name ++ "'."
  | notCallable => "Can only call functions."
  | arityMismatch expected found =>
    "Expected " ++ toString expected ++ " arguments but got " ++ toString found ++ "."
  | callsTooDeep limit => "Stack overflow, call depth exceeded " ++ toString limit ++ "."
  | outputRefused cause => "Could not write output: " ++ cause.message

/-- A fault and its line. -/
structure RuntimeError where
  line : Nat
  fault : Fault
  deriving Repr, DecidableEq

/-- The wording of a runtime error. -/
def RuntimeError.message (error : RuntimeError) : String :=
  "Error on line " ++ toString error.line ++ ": " ++ error.fault.message

/-- Why a source text did not run to its end. -/
inductive RunError where
  | syntaxErrors (errors : List SyntaxError)
  | runtimeError (error : RuntimeError)
  deriving Repr, DecidableEq

/-- The wording of a failed run. -/
def RunError.message : RunError → String
  | syntaxErrors errors => "\n".intercalate (errors.map SyntaxError.message)
  | runtimeError error => error.message

/-- The exit status of a failed run. -/
def RunError.exitCode : RunError → Nat
  | syntaxErrors _ => 65
  | runtimeError _ => 70

end Scriptlet
