import Mathlib.Data.List.Forall2
import Scriptlet.Value.Operators
import Scriptlet.World.Basic

/-!
# Values that only a call tells apart

Operators, native functions and what is written out see which function a value is. They do not see
the scope that it keeps, so that two values that differ in nothing else are alike to all of them.
-/

namespace Scriptlet

/-- Two values are the same, but for the scope that a declared function keeps. -/
inductive Value.Resembles : Value → Value → Prop
  | same {value : Value} : Value.Resembles value value
  | declared {identity : Nat} {declaration : Declaration} {scope other : ScopeId} :
      Value.Resembles (.function (.declared identity declaration scope))
        (.function (.declared identity declaration other))

namespace Value.Resembles

variable {value other left right first second : Value}

/-- What resembles a function is a function that takes as many arguments. -/
theorem function {callee : Function} (resembles : (Value.function callee).Resembles other) :
    ∃ likewise, other = .function likewise ∧ likewise.arity = callee.arity := by
  cases resembles with
  | same => exact ⟨callee, rfl, rfl⟩
  | declared => exact ⟨_, rfl, rfl⟩

/-- Values that resemble each other are alike true or false. -/
theorem truthy (resembles : value.Resembles other) : other.truthy = value.truthy := by
  cases resembles <;> rfl

theorem asNumber? (resembles : value.Resembles other) : other.asNumber? = value.asNumber? := by
  cases resembles <;> rfl

/-- Values that resemble each other are written out the same, as no scope of a function is. -/
theorem display (resembles : value.Resembles other) : other.display = value.display := by
  cases resembles <;> rfl

theorem typeName (resembles : value.Resembles other) : other.typeName = value.typeName := by
  cases resembles <;> rfl

theorem toNumber (resembles : value.Resembles other) : other.toNumber = value.toNumber := by
  rw [Value.toNumber, Value.toNumber, resembles.display]

theorem toBool (resembles : value.Resembles other) : other.toBool = value.toBool := by
  rw [Value.toBool, Value.toBool, resembles.display]

/-- Waiting takes as long for either of two values that resemble each other. -/
theorem seconds? (resembles : value.Resembles other) :
    World.seconds? other = World.seconds? value := by
  cases resembles <;> rfl

/-- Operands that resemble each other are the same numbers, or fail alike. -/
theorem numberOperands (here : left.Resembles first) (there : right.Resembles second) :
    first.numberOperands second = left.numberOperands right := by
  cases here with
  | declared => rfl
  | same =>
      cases there with
      | declared => cases left <;> rfl
      | same => rfl

theorem plus (here : left.Resembles first) (there : right.Resembles second) :
    first.plus second = left.plus right := by
  cases here with
  | declared => rfl
  | same =>
      cases there with
      | declared => cases left <;> rfl
      | same => rfl

/-- Functions are compared by what they are, whatever scopes they keep. -/
theorem compared (here : left.Resembles first) (there : right.Resembles second) :
    first.same second = left.same right := by
  cases here with
  | declared =>
      cases there with
      | declared => rfl
      | same =>
          cases right with
          | function callee => cases callee <;> rfl
          | _ => rfl
  | same =>
      cases there with
      | same => rfl
      | declared =>
          cases left with
          | function callee => cases callee <;> rfl
          | _ => rfl

theorem withNumbers (here : left.Resembles first) (there : right.Resembles second)
    (operation : Float → Float → Value) :
    first.withNumbers operation second = left.withNumbers operation right := by
  rw [Value.withNumbers, Value.withNumbers, here.numberOperands there]

/-- An operator between operands gives the same, or fails alike, for operands that resemble each
other. -/
theorem binary (op : BinaryOp) (here : left.Resembles first) (there : right.Resembles second) :
    op.apply first second = op.apply left right := by
  cases op <;> simp only [BinaryOp.apply, here.plus there, here.display, there.display,
    here.withNumbers there, here.compared there]

theorem unary (op : UnaryOp) (resembles : value.Resembles other) :
    op.apply other = op.apply value := by
  cases op <;> simp only [UnaryOp.apply, Value.numberOperand, resembles.asNumber?,
    resembles.truthy]

theorem update (op : UpdateOp) (here : left.Resembles first)
    (there : right.Resembles second) : op.apply first second = op.apply left right := by
  simp only [UpdateOp.apply, here.numberOperands there]

/-- An operand that resembles another one decides a logical operator as that one does. -/
theorem decidedBy (op : LogicalOp) (resembles : value.Resembles other) :
    op.decidedBy other = op.decidedBy value := by
  cases op <;> simp only [LogicalOp.decidedBy, resembles.truthy]

/-- A native function does not see which scopes its arguments keep. -/
theorem native [Host] (builtin : Native) {arguments others : List Value}
    (resemble : List.Forall₂ Value.Resembles arguments others) (world : World) :
    builtin.call others world = builtin.call arguments world := by
  cases resemble with
  | nil => rfl
  | cons first rest =>
      cases rest with
      | nil =>
          cases builtin <;> simp only [Native.call, first.display, first.typeName, first.toNumber,
            first.toBool, first.seconds?]
      | cons second rest =>
          cases rest with
          | nil => cases builtin <;> simp only [Native.call, first.display, second.display]
          | cons => cases builtin <;> rfl

end Value.Resembles

end Scriptlet
