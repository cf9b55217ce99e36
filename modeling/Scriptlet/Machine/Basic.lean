import Scriptlet.Scope
import Scriptlet.World.Basic

/-!
# The machine

The state in which a program runs, and actions on it. An action finishes with a value or with a
runtime error, and in both cases leaves a state behind; an action whose bound is used up does not
finish.
-/

namespace Scriptlet

/-- What is settled before a program runs: whether the values of expression statements are written
out, and how many calls may be under way. -/
structure Settings where
  echo : Bool
  callLimit : Nat
  deriving Repr, DecidableEq

variable [Host]

/-- The state of a running program: all scopes, the outermost and the current one, the number of
calls under way, and the world around it. -/
structure Machine where
  settings : Settings
  scopes : Scopes
  globals : ScopeId
  scope : ScopeId
  depth : Nat
  world : World
  output : Output

/-- How an action ends. -/
inductive Outcome (α : Type) where
  | done (value : α) (after : Machine)
  | failed (error : RuntimeError) (after : Machine)
  | unfinished

/-- A change of the machine that gives a value. -/
def Action (α : Type) : Type := Machine → Outcome α

namespace Action

variable {α β σ : Type}

/-- An action whose bound is used up. -/
def exhausted : Action α := fun _ => .unfinished

/-- One action after another, which may depend on the value of the first. -/
@[inline] protected def bind (first : Action α) (next : α → Action β) : Action β := fun machine =>
  match first machine with
  | .done value after => next value after
  | .failed error after => .failed error after
  | .unfinished => .unfinished

@[always_inline] instance : Monad Action where
  pure value machine := .done value machine
  bind := Action.bind

theorem bind_apply (first : Action α) (next : α → Action β) (machine : Machine) :
    (first >>= next) machine =
      match first machine with
      | .done value after => next value after
      | .failed error after => .failed error after
      | .unfinished => .unfinished := rfl

@[simp] theorem pure_apply (value : α) (machine : Machine) :
    (pure value : Action α) machine = .done value machine := rfl

instance : LawfulMonad Action := LawfulMonad.mk' Action
  (fun action => by
    funext machine
    change (action >>= pure) machine = action machine
    rw [bind_apply]
    cases action machine <;> rfl)
  (fun _ _ => rfl)
  (fun first second third => by
    funext machine
    simp only [bind_apply]
    cases first machine <;> rfl)

/-- Fails with a fault on a line. -/
def fail (line : Nat) (fault : Fault) : Action α := fun machine =>
  .failed ⟨line, fault⟩ machine

/-- A value, or failure on a line. -/
def ofExcept (line : Nat) (result : Except Fault α) : Action α := fun machine =>
  match result with
  | .ok value => .done value machine
  | .error fault => .failed ⟨line, fault⟩ machine

/-- A value that depends on the machine. -/
@[inline] def inspect (view : Machine → α) : Action α := fun machine =>
  .done (view machine) machine

/-- A change without a value. -/
@[inline] def change (update : Machine → Machine) : Action Unit := fun machine =>
  .done () (update machine)

/-- Repeats an action until it gives a value, at most `bound` times. -/
def repeatUntil (body : Action (Option α)) : (bound : Nat) → Action α
  | 0, _ => .unfinished
  | bound + 1, machine =>
    match body machine with
    | .done (some value) after => .done value after
    | .done none after => repeatUntil body bound after
    | .failed error after => .failed error after
    | .unfinished => .unfinished

/-- The values of an action on each of some items in order. -/
def collect (action : σ → Action α) : List σ → Action (List α)
  | [] => return []
  | item :: rest => do
    let value ← action item
    let values ← collect action rest
    return value :: values

/-- An action on each of some items in order, until it gives a value. -/
def findFirst (action : σ → Action (Option α)) : List σ → Action (Option α)
  | [], machine => .done none machine
  | item :: rest, machine =>
    match action item machine with
    | .done none after => findFirst action rest after
    | other => other

theorem repeatUntil_succ (body : Action (Option α)) (bound : Nat) :
    repeatUntil body (bound + 1) = body >>= fun found =>
      match found with
      | some value => pure value
      | none => repeatUntil body bound := by
  funext machine
  rw [repeatUntil, bind_apply]
  rcases body machine with ⟨_ | value, after⟩ | _ | _ <;> rfl

theorem findFirst_cons (action : σ → Action (Option α)) (item : σ) (rest : List σ) :
    findFirst action (item :: rest) = action item >>= fun found =>
      match found with
      | some value => pure (some value)
      | none => findFirst action rest := by
  funext machine
  rw [findFirst, bind_apply]
  rcases action item machine with ⟨_ | value, after⟩ | _ | _ <;> rfl

/-- An action that ends with `finish`, whether it gives a value or fails. -/
def ending (action : Action α) (finish : Machine → Machine) : Action α := fun machine =>
  match action machine with
  | .done value after => .done value (finish after)
  | .failed error after => .failed error (finish after)
  | .unfinished => .unfinished

end Action

namespace Machine

/-- A machine at rest whose global scope binds the native functions. -/
def fresh (settings : Settings) (world : World) (output : Output) : Machine where
  settings := settings
  scopes := (Scopes.empty.enclose none).register 0
  globals := 0
  scope := 0
  depth := 0
  world := world
  output := output

/-- The value of a name in the current scope. -/
def lookup (line : Nat) (name : String) : Action Value := fun machine =>
  Action.ofExcept line (machine.scopes.get machine.scope name) machine

/-- Binds a name in the current scope. -/
def define (name : String) (value : Value) : Action Unit :=
  Action.change fun machine =>
    { machine with scopes := machine.scopes.define machine.scope name value }

/-- Binds a name anew where it is bound. -/
def assign (line : Nat) (name : String) (value : Value) : Action Unit := fun machine =>
  match machine.scopes.nearest? name machine.scope with
  | some (holder, _) =>
    .done () { machine with scopes := machine.scopes.define holder name value }
  | none => .failed ⟨line, .undefinedVariable name⟩ machine

/-- Writes a value on a line of its own. -/
def writeLine (line : Nat) (value : Value) : Action Unit := fun machine =>
  let (output, result) := machine.output.write (Text.encode (value.display ++ "\n"))
  let machine := { machine with output }
  match result with
  | .ok () => .done () machine
  | .error cause => .failed ⟨line, .outputRefused cause⟩ machine

/-- The next line of the input, after whatever was written has been handed on. -/
def readLine (machine : Machine) : Option String × Machine :=
  let (line, world) := machine.world.readLine
  (line, { machine with world })

end Machine

end Scriptlet
