import Scriptlet.Number.Remainder
import Scriptlet.RuntimeError
import Scriptlet.Value.Basic

/-!
# Operators on values

What the operators give for values, and the faults of operands that they do not take.
-/

namespace Scriptlet

namespace Value

/-- The number that an operand has to be. -/
def numberOperand (operand : Value) : Except Fault Float :=
  match operand.asNumber? with
  | some value => .ok value
  | none => .error .operandNotNumber

/-- The numbers that two operands have to be. -/
def numberOperands : Value → Value → Except Fault (Float × Float)
  | number left, number right => .ok (left, right)
  | _, _ => .error .operandsNotNumbers

/-- The sum of two numbers, or two texts joined. -/
def plus : Value → Value → Except Fault Value
  | number left, number right => .ok (number (left + right))
  | text left, text right => .ok (text (left ++ right))
  | _, _ => .error .operandsNotAddable

/-- What a function of two numbers gives for two operands. -/
def withNumbers (operation : Float → Float → Value) (left right : Value) : Except Fault Value := do
  let (left, right) ← left.numberOperands right
  return operation left right

/-- The quotient of two numbers, or `nil` for a divisor equal to zero. -/
def quotient (left right : Float) : Value :=
  if right == 0 then nil else number (left / right)

end Value

/-- What an operator between two operands gives. -/
def BinaryOp.apply (op : BinaryOp) (left right : Value) : Except Fault Value :=
  match op with
  | add => left.plus right
  | concat => .ok (.text (left.display ++ right.display))
  | subtract => left.withNumbers (fun left right => .number (left - right)) right
  | multiply => left.withNumbers (fun left right => .number (left * right)) right
  | divide => left.withNumbers Value.quotient right
  | remainder => left.withNumbers (fun left right => .number (Number.remainder left right)) right
  | power => left.withNumbers (fun left right => .number (left.pow right)) right
  | less => left.withNumbers (fun left right => .bool (left < right)) right
  | lessEqual => left.withNumbers (fun left right => .bool (left ≤ right)) right
  | greater => left.withNumbers (fun left right => .bool (right < left)) right
  | greaterEqual => left.withNumbers (fun left right => .bool (right ≤ left)) right
  | equal => .ok (.bool (left.same right))
  | notEqual => .ok (.bool !(left.same right))

/-- What an operator in front of an operand gives. -/
def UnaryOp.apply (op : UnaryOp) (operand : Value) : Except Fault Value :=
  match op with
  | negate => do return .number (-(← operand.numberOperand))
  | not => .ok (.bool !operand.truthy)

/-- Whether the left operand decides a logical operator, so that the right one is not needed. -/
def LogicalOp.decidedBy (op : LogicalOp) (left : Value) : Bool :=
  match op with
  | and => !left.truthy
  | or => left.truthy

/-- The number that an updating operator gives for a variable and an operand. -/
def UpdateOp.combine (op : UpdateOp) (current operand : Float) : Float :=
  match op with
  | add | increment | decrement => current + operand
  | subtract => current - operand
  | multiply => current * operand
  | divide => current / operand

/-- The value that an updating operator writes back. -/
def UpdateOp.apply (op : UpdateOp) (current operand : Value) : Except Fault Value := do
  let (current, operand) ← current.numberOperands operand
  return .number (op.combine current operand)

end Scriptlet
