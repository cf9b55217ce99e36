import Scriptlet.Value.Operators
import Scriptlet.World.Basic

/-!
# Values that are no functions

Literals, operators and native functions give no functions: a function comes only from its
declaration and from the scopes.
-/

namespace Scriptlet

/-- Whether a value is no function. -/
def Value.isPlain : Value → Bool
  | .function _ => false
  | _ => true

namespace Value

/-- A literal is no function. -/
theorem isPlain_ofLiteral (literal : Literal) : (ofLiteral literal).isPlain = true := by
  cases literal <;> rfl

/-- A text, or none, is no function. -/
theorem isPlain_ofText? (content : Option String) : (ofText? content).isPlain = true := by
  cases content <;> rfl

/-- What a value is as a number is no function. -/
theorem isPlain_toNumber (value : Value) : value.toNumber.isPlain = true := by
  unfold toNumber
  split <;> rfl

/-- An operator that takes numbers gives what is made of them. -/
theorem isPlain_of_withNumbers {operation : Float → Float → Value} {left right result : Value}
    (plain : ∀ left right, (operation left right).isPlain = true)
    (given : left.withNumbers operation right = .ok result) : result.isPlain = true := by
  unfold withNumbers at given
  cases operands : left.numberOperands right with
  | error fault =>
      rw [operands] at given
      cases given
  | ok pair =>
      rw [operands] at given
      cases given
      exact plain _ _

end Value

/-- An operator between operands gives no function. -/
theorem BinaryOp.isPlain_of_apply {op : BinaryOp} {left right result : Value}
    (given : op.apply left right = .ok result) : result.isPlain = true := by
  cases op with
  | add =>
      simp only [apply, Value.plus] at given
      split at given <;> cases given <;> rfl
  | concat | equal | notEqual =>
      cases given
      rfl
  | divide =>
      refine Value.isPlain_of_withNumbers (fun left right => ?_) given
      unfold Value.quotient
      split <;> rfl
  | _ =>
      simp only [apply] at given
      exact Value.isPlain_of_withNumbers (fun _ _ => rfl) given

/-- A sign gives no function. -/
theorem UnaryOp.isPlain_of_apply {op : UnaryOp} {operand result : Value}
    (given : op.apply operand = .ok result) : result.isPlain = true := by
  cases op with
  | not =>
      cases given
      rfl
  | negate =>
      unfold apply Value.numberOperand at given
      cases number : operand.asNumber? with
      | none =>
          rw [number] at given
          cases given
      | some operand =>
          rw [number] at given
          cases given
          rfl

/-- An updating operator gives no function. -/
theorem UpdateOp.isPlain_of_apply {op : UpdateOp} {current operand result : Value}
    (given : op.apply current operand = .ok result) : result.isPlain = true := by
  change current.withNumbers (fun current operand => .number (op.combine current operand)) operand =
    .ok result at given
  exact Value.isPlain_of_withNumbers (fun _ _ => rfl) given

/-- Whether a wait is possible or not, the answer is a plain one. -/
theorem World.isPlain_wait [Host] (world : World) (seconds : Option Float) :
    (world.wait seconds).1.isPlain = true := by
  unfold wait
  split
  · split <;> rfl
  · rfl

/-- A native function gives no function, whatever the host answers. -/
theorem Native.isPlain_call [Host] (builtin : Native) (arguments : List Value) (world : World) :
    (builtin.call arguments world).1.isPlain = true := by
  unfold call
  split
  · rfl
  · exact Value.isPlain_ofText? _
  · rfl
  · rfl
  · exact Value.isPlain_ofText? _
  · rfl
  · exact world.isPlain_wait _
  · exact Value.isPlain_ofText? _
  · rfl
  · exact Value.isPlain_toNumber _
  · rfl
  · rfl
  · rfl

end Scriptlet
