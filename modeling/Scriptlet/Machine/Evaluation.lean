import Scriptlet.Machine.Basic
import Scriptlet.Value.Operators

/-!
# Evaluation

What expressions and statements do to the machine. The meaning of a node is given in terms of the
meanings of nodes one level below, so that the mutual recursion is only that of `evaluate` and
`execute`; its bound limits how deep a computation nests and how often a loop repeats, and a
computation that finishes under some bound finishes in the same way under every greater one.
-/

namespace Scriptlet

/-- How a statement ends: execution goes on behind it, or a value is on its way to the call that
is under way. -/
inductive Flow where
  | normal
  | returned (value : Value)

namespace Flow

/-- What is returned, if something is. -/
def asReturned? : Flow → Option Flow
  | normal => none
  | returned value => some (returned value)

/-- The value of a call whose body ends in this way. -/
def callValue : Flow → Value
  | normal => .nil
  | returned value => value

end Flow

namespace Evaluation

open Scriptlet.Action Scriptlet.Machine

variable [Host]

/-- Executes statements in order until one returns. -/
def sequence (execute : Statement → Action Flow) (statements : List Statement) : Action Flow := do
  let returned ← findFirst (fun statement => return (← execute statement).asReturned?) statements
  return returned.getD .normal

/-- Executes statements in another scope and comes back to the current one. -/
def inScope (scope : ScopeId) (action : Action Flow) : Action Flow := fun machine =>
  let previous := machine.scope
  action.ending (fun after => { after with scope := previous }) { machine with scope }

/-- Executes statements in a new scope inside the current one. -/
def block (execute : Statement → Action Flow) (statements : List Statement) : Action Flow :=
  fun machine =>
    let scope := machine.scopes.next
    inScope scope (sequence execute statements)
      { machine with scopes := machine.scopes.enclose machine.scope }

/-- Calls a declared function: its parameters are bound in a new scope inside the one in which it
was declared. -/
def callDeclared (execute : Statement → Action Flow) (line : Nat) (declaration : Declaration)
    (closure : ScopeId) (arguments : List Value) : Action Value := fun machine =>
  if machine.settings.callLimit ≤ machine.depth then
    fail line (.callsTooDeep machine.settings.callLimit) machine
  else
    let scope := machine.scopes.next
    let scopes := (machine.scopes.enclose closure).defineAll scope
      (declaration.parameters.zip arguments)
    let body := (inScope scope (sequence execute declaration.body)).ending
      fun after => { after with depth := after.depth - 1 }
    (Flow.callValue <$> body) { machine with scopes, depth := machine.depth + 1 }

/-- Calls a native function. -/
def callNative (builtin : Native) (arguments : List Value) : Action Value := fun machine =>
  let (value, world) := builtin.call arguments machine.world
  .done value { machine with world }

/-- Calls a function that takes as many arguments as there are. -/
def callFunction (execute : Statement → Action Flow) (line : Nat) (callee : Function)
    (arguments : List Value) : Action Value :=
  match callee with
  | .native _ builtin => callNative builtin arguments
  | .declared _ declaration closure => callDeclared execute line declaration closure arguments

/-- Calls a value, which has to be a function that takes as many arguments as there are. -/
def callValue (execute : Statement → Action Flow) (line : Nat) (callee : Value)
    (arguments : List Value) : Action Value :=
  match callee with
  | .function callee =>
    if callee.arity = arguments.length then callFunction execute line callee arguments
    else fail line (.arityMismatch callee.arity arguments.length)
  | _ => fail line .notCallable

/-- The value of an expression, in terms of the meanings of what it is made of. -/
def evaluateNode (evaluate : Expr → Action Value) (execute : Statement → Action Flow) :
    Expr → Action Value
  | .literal _ value => return .ofLiteral value
  | .grouping _ inner => evaluate inner
  | .unary line op operand => do
    let operand ← evaluate operand
    ofExcept line (op.apply operand)
  | .binary line op left right => do
    let left ← evaluate left
    let right ← evaluate right
    ofExcept line (op.apply left right)
  | .logical _ op left right => do
    let left ← evaluate left
    if op.decidedBy left then return left
    evaluate right
  | .reference line name => lookup line name
  | .assign line name value => do
    let value ← evaluate value
    assign line name value
    return value
  | .update line op name operand => do
    let operand ← evaluate operand
    let current ← lookup line name
    let result ← ofExcept line (op.apply current operand)
    assign line name result
    return result
  | .call line callee arguments => do
    let callee ← evaluate callee
    let arguments ← collect evaluate arguments
    callValue execute line callee arguments

/-- Executes a body as long as a condition holds, which is checked first. -/
def whileLoop (bound : Nat) (condition : Action Bool) (body : Action Flow) : Action Flow :=
  repeatUntil (do
    if ← condition then return (← body).asReturned?
    return some .normal) bound

/-- Executes a body as long as a condition holds, which is checked last. -/
def doWhileLoop (bound : Nat) (condition : Action Bool) (body : Action Flow) : Action Flow :=
  repeatUntil (do
    match ← body with
    | .returned value => return some (.returned value)
    | .normal =>
      if ← condition then return none
      return some .normal) bound

/-- The value of an expression that may be left out. -/
def evaluateOption (evaluate : Expr → Action Value) : Option Expr → Action Value
  | none => return .nil
  | some expr => evaluate expr

/-- The effect of a statement, in terms of the meanings of what it is made of. -/
def executeNode (bound : Nat) (evaluate : Expr → Action Value)
    (execute : Statement → Action Flow) : Statement → Action Flow
  | .expression line expr => do
    let value ← evaluate expr
    if ← inspect (·.settings.echo) then writeLine line value
    return .normal
  | .print line expr => do
    let value ← evaluate expr
    writeLine line value
    return .normal
  | .declare _ name initial => do
    let value ← evaluateOption evaluate initial
    define name value
    return .normal
  | .block _ body => block execute body
  | .branch _ condition positive negative => do
    if (← evaluate condition).truthy then execute positive
    else
      match negative with
      | some negative => execute negative
      | none => return .normal
  | .choice _ condition positive negative => do
    if (← evaluate condition).truthy then execute positive
    else execute negative
  | .whileLoop _ condition body =>
    whileLoop bound (Value.truthy <$> evaluate condition) (execute body)
  | .doWhileLoop _ body condition =>
    doWhileLoop bound (Value.truthy <$> evaluate condition) (execute body)
  | .function line name parameters body => fun machine =>
    let (value, scopes) := machine.scopes.newFunction ⟨line, name, parameters, body⟩ machine.scope
    (do define name value; return .normal : Action Flow) { machine with scopes }
  | .giveBack _ value => do
    let value ← evaluateOption evaluate value
    return .returned value

end Evaluation

open Evaluation

variable [Host]

mutual

/-- Evaluates an expression. -/
def evaluate (bound : Nat) (expr : Expr) : Action Value :=
  match bound with
  | 0 => .exhausted
  | bound + 1 => evaluateNode (evaluate bound) (execute bound) expr

/-- Executes a statement. -/
def execute (bound : Nat) (statement : Statement) : Action Flow :=
  match bound with
  | 0 => .exhausted
  | bound + 1 => executeNode bound (evaluate bound) (execute bound) statement

end

end Scriptlet
