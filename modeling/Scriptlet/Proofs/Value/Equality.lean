import Scriptlet.Proofs.Number.Doubles
import Scriptlet.Value.Operators

/-!
# Equality of values

Two values are equal if they are of one type and have the same content. Numbers have the same
content if their bits are the same or neither is a number, and functions if they are of one kind and
were made under one number. This is an equivalence, since there is only one double that is not a
number.
-/

namespace Scriptlet

namespace Function

variable {first second third : Function}

/-- The number under which a function was made. -/
def identity : Function → Nat
  | native identity _ | declared identity _ _ => identity

/-- Whether a function is a native one. -/
def isNative : Function → Bool
  | native .. => true
  | declared .. => false

/-- Functions are the same where they are of one kind and were made under one number. -/
theorem same_iff :
    first.same second ↔ first.isNative = second.isNative ∧ first.identity = second.identity := by
  cases first <;> cases second <;> simp [same, isNative, identity]

/-- A function is the same as itself. -/
theorem same_self (callee : Function) : callee.same callee :=
  same_iff.mpr ⟨rfl, rfl⟩

/-- If one function is the same as another one, so is the other one as the first. -/
theorem same_symm (same : first.same second) : second.same first := by
  obtain ⟨kinds, identities⟩ := same_iff.mp same
  exact same_iff.mpr ⟨kinds.symm, identities.symm⟩

/-- Functions that are the same as one in between are the same. -/
theorem same_trans (left : first.same second) (right : second.same third) : first.same third := by
  obtain ⟨kinds, identities⟩ := same_iff.mp left
  obtain ⟨others, numbers⟩ := same_iff.mp right
  exact same_iff.mpr ⟨kinds.trans others, identities.trans numbers⟩

end Function

namespace Value

variable {first second third : Value}

/-- Numbers are equal if their bits are the same, or if neither is a number. -/
theorem same_number_iff (left right : Float) :
    (number left).same (number right) ↔
      left.toBits = right.toBits ∨ (left.isNaN ∧ right.isNaN) := by
  constructor
  · exact fun same => .inl (of_decide_eq_true same)
  · rintro (same | ⟨noNumber, neither⟩)
    · exact decide_eq_true same
    · rw [Number.eq_of_isNaN noNumber, Number.eq_of_isNaN neither]
      simp [same]

/-- What is no function is equal to itself alone. -/
theorem same_iff : first.same second ↔ first = second ∨
    ∃ left right, first = .function left ∧ second = .function right ∧ left.same right := by
  cases first <;> cases second <;> simp [same, Float.toBits_inj]
  next left right =>
    rintro rfl
    exact left.same_self

/-- **Every value is equal to itself**, a number that is none as well. -/
theorem same_self (value : Value) : value.same value :=
  same_iff.mpr (.inl rfl)

/-- If one value is equal to another one, so is the other one to the first. -/
theorem same_symm (same : first.same second) : second.same first := by
  rcases same_iff.mp same with rfl | ⟨left, right, rfl, rfl, same⟩
  · exact same_self first
  · exact same_iff.mpr (.inr ⟨right, left, rfl, rfl, Function.same_symm same⟩)

/-- Whether two values are equal does not depend on their order. -/
theorem same_comm (first second : Value) : first.same second = second.same first :=
  Bool.eq_iff_iff.mpr ⟨same_symm, same_symm⟩

/-- Values that are equal to one in between are equal. -/
theorem same_trans (left : first.same second) (right : second.same third) : first.same third := by
  rcases same_iff.mp left with rfl | ⟨one, other, rfl, rfl, leftSame⟩
  · exact right
  · rcases same_iff.mp right with rfl | ⟨next, last, same, rfl, rightSame⟩
    · exact left
    · cases same
      exact same_iff.mpr (.inr ⟨one, last, rfl, rfl, Function.same_trans leftSame rightSame⟩)

end Value

end Scriptlet
