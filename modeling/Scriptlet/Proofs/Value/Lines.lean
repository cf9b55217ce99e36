import Scriptlet.Proofs.Syntax.Lines
import Scriptlet.Proofs.Value.Plain

/-!
# Lines of values

A function has a body, and so a value has lines. Neither operators nor native functions look at
them.
-/

namespace Scriptlet

variable (change : Nat → Nat)

/-- A declaration with its lines changed. -/
def Declaration.mapLines (declaration : Declaration) : Declaration :=
  { declaration with
    line := change declaration.line
    body := Statement.mapLinesAll change declaration.body }

/-- A function with its lines changed. -/
def Function.mapLines : Function → Function
  | .native identity builtin => .native identity builtin
  | .declared identity declaration scope => .declared identity (declaration.mapLines change) scope

/-- A value with its lines changed. -/
def Value.mapLines : Value → Value
  | .function callee => .function (callee.mapLines change)
  | value => value

namespace Function

variable (callee other : Function)

/-- Other lines leave a function with as many parameters. -/
@[simp] theorem arity_mapLines : (callee.mapLines change).arity = callee.arity := by
  cases callee <;> rfl

@[simp] theorem text_mapLines : (callee.mapLines change).text = callee.text := by
  cases callee <;> rfl

@[simp] theorem same_mapLines :
    (callee.mapLines change).same (other.mapLines change) = callee.same other := by
  cases callee <;> cases other <;> rfl

end Function

namespace Value

variable {value : Value}

/-- What is no function has no lines. -/
theorem mapLines_of_isPlain (plain : value.isPlain = true) : value.mapLines change = value := by
  cases value with
  | function callee => cases plain
  | _ => rfl

variable (value left right : Value)

@[simp] theorem truthy_mapLines : (value.mapLines change).truthy = value.truthy := by
  cases value <;> rfl

@[simp] theorem asNumber?_mapLines : (value.mapLines change).asNumber? = value.asNumber? := by
  cases value <;> rfl

/-- A value is written out the same, whatever its lines. -/
@[simp] theorem display_mapLines : (value.mapLines change).display = value.display := by
  cases value with
  | function callee => exact callee.text_mapLines change
  | _ => rfl

@[simp] theorem typeName_mapLines : (value.mapLines change).typeName = value.typeName := by
  cases value with
  | function callee => exact callee.text_mapLines change
  | _ => rfl

@[simp] theorem toNumber_mapLines : (value.mapLines change).toNumber = value.toNumber := by
  simp only [toNumber, display_mapLines]

@[simp] theorem toBool_mapLines : (value.mapLines change).toBool = value.toBool := by
  simp only [toBool, display_mapLines]

@[simp] theorem same_mapLines :
    (left.mapLines change).same (right.mapLines change) = left.same right := by
  cases left with
  | function callee =>
      cases right with
      | function other => exact callee.same_mapLines change other
      | _ => rfl
  | _ => cases right <;> rfl

@[simp] theorem numberOperand_mapLines :
    (value.mapLines change).numberOperand = value.numberOperand := by
  simp only [numberOperand, asNumber?_mapLines]

@[simp] theorem numberOperands_mapLines :
    (left.mapLines change).numberOperands (right.mapLines change) = left.numberOperands right := by
  cases left <;> cases right <;> rfl

@[simp] theorem plus_mapLines :
    (left.mapLines change).plus (right.mapLines change) = left.plus right := by
  cases left <;> cases right <;> rfl

@[simp] theorem withNumbers_mapLines (operation : Float → Float → Value) :
    (left.mapLines change).withNumbers operation (right.mapLines change) =
      left.withNumbers operation right := by
  simp only [withNumbers, numberOperands_mapLines]

end Value

theorem World.seconds?_mapLines (value : Value) :
    World.seconds? (value.mapLines change) = World.seconds? value := by
  cases value with
  | function callee => exact congrArg Number.ofText? (callee.text_mapLines change)
  | _ => rfl

section Operators

variable (left right operand : Value)

/-- An operator between operands gives the same, or fails alike, whatever their lines. -/
theorem BinaryOp.apply_mapLines (op : BinaryOp) :
    op.apply (left.mapLines change) (right.mapLines change) = op.apply left right := by
  cases op <;> simp only [apply, Value.plus_mapLines, Value.display_mapLines,
    Value.withNumbers_mapLines, Value.same_mapLines]

theorem UnaryOp.apply_mapLines (op : UnaryOp) :
    op.apply (operand.mapLines change) = op.apply operand := by
  cases op <;> simp only [apply, Value.numberOperand_mapLines, Value.truthy_mapLines]

theorem UpdateOp.apply_mapLines (op : UpdateOp) :
    op.apply (left.mapLines change) (right.mapLines change) = op.apply left right := by
  simp only [apply, Value.numberOperands_mapLines]

/-- Whether an operand decides a logical operator does not depend on lines. -/
theorem LogicalOp.decidedBy_mapLines (op : LogicalOp) :
    op.decidedBy (left.mapLines change) = op.decidedBy left := by
  cases op <;> simp only [decidedBy, Value.truthy_mapLines]

end Operators

/-- A native function does not see the lines of its arguments. -/
theorem Native.call_mapLines [Host] (builtin : Native) (arguments : List Value) (world : World) :
    builtin.call (arguments.map (·.mapLines change)) world = builtin.call arguments world := by
  match arguments with
  | [] => cases builtin <;> rfl
  | [first] =>
      cases builtin <;> simp only [call, List.map_cons, List.map_nil, Value.display_mapLines,
        Value.typeName_mapLines, Value.toNumber_mapLines, Value.toBool_mapLines,
        World.seconds?_mapLines]
  | [first, second] =>
      cases builtin <;> simp only [call, List.map_cons, List.map_nil, Value.display_mapLines]
  | _ :: _ :: _ :: _ => cases builtin <;> rfl

end Scriptlet
