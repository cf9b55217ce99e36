import Scriptlet.Value.Operators

/-!
# Faults of operators

Operators fail because of their operands, and for no other reason.
-/

namespace Scriptlet

variable {left right : Value} {fault : Fault}

/-- Whether a fault is one of the operands of an operator. -/
def Fault.ofOperands : Fault → Bool
  | operandNotNumber | operandsNotNumbers | operandsNotAddable => true
  | _ => false

namespace Value

/-- Operands that are no numbers fail as operands. -/
theorem ofOperands_of_numberOperands (failed : left.numberOperands right = .error fault) :
    fault.ofOperands = true := by
  unfold numberOperands at failed
  split at failed
  · cases failed
  · cases failed
    rfl

/-- An operator that takes numbers fails because of its operands. -/
theorem ofOperands_of_withNumbers {operation : Float → Float → Value}
    (failed : left.withNumbers operation right = .error fault) : fault.ofOperands = true := by
  unfold withNumbers at failed
  cases operands : left.numberOperands right with
  | error reason =>
      rw [operands] at failed
      cases failed
      exact ofOperands_of_numberOperands operands
  | ok pair =>
      rw [operands] at failed
      cases failed

/-- What can neither be added nor joined fails because of the operands. -/
theorem ofOperands_of_plus (failed : left.plus right = .error fault) :
    fault.ofOperands = true := by
  unfold plus at failed
  split at failed
  · cases failed
  · cases failed
  · cases failed
    rfl

end Value

/-- **An operator between operands fails because of them**, if it fails. -/
theorem BinaryOp.ofOperands_of_apply {op : BinaryOp} (failed : op.apply left right = .error fault) :
    fault.ofOperands = true := by
  cases op with
  | add => exact Value.ofOperands_of_plus failed
  | concat | equal | notEqual => cases failed
  | _ =>
      simp only [apply] at failed
      exact Value.ofOperands_of_withNumbers failed

/-- A sign fails because of its operand. -/
theorem UnaryOp.ofOperands_of_apply {op : UnaryOp} {operand : Value}
    (failed : op.apply operand = .error fault) : fault.ofOperands = true := by
  cases op with
  | not => cases failed
  | negate =>
      unfold apply Value.numberOperand at failed
      cases number : operand.asNumber? with
      | some operand =>
          rw [number] at failed
          cases failed
      | none =>
          rw [number] at failed
          cases failed
          rfl

/-- An updating operator fails because of its operands. -/
theorem UpdateOp.ofOperands_of_apply {op : UpdateOp} {current operand : Value}
    (failed : op.apply current operand = .error fault) : fault.ofOperands = true := by
  change current.withNumbers (fun current operand => .number (op.combine current operand)) operand =
    .error fault at failed
  exact Value.ofOperands_of_withNumbers failed

end Scriptlet
