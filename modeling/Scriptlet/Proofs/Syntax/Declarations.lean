import Scriptlet.Syntax.Basic

/-!
# Statements that declare something

A declaration binds a name in the scope that it stands in. So does a statement that has one for a
branch or for the body of a loop, since these are executed in that scope as well; what stands in a
block is in a scope of its own.
-/

namespace Scriptlet.Statement

/-- Whether a statement is a declaration, which no branch and no body of a loop can be. -/
def isDeclaration : Statement → Bool
  | .declare .. | .function .. => true
  | _ => false

/-- The branches of a statement and the body of a loop: what it executes in the scope that it stands
in. -/
def parts : Statement → List Statement
  | .branch _ _ positive negative => positive :: negative.toList
  | .choice _ _ positive negative => [positive, negative]
  | .whileLoop _ _ body | .doWhileLoop _ body _ => [body]
  | _ => []

/-- Whether a statement declares something in the scope that it stands in: it is a declaration, or
one of its parts declares something. -/
def declares : Statement → Bool
  | .declare .. | .function .. => true
  | .branch _ _ positive none => positive.declares
  | .branch _ _ positive (some negative) => positive.declares || negative.declares
  | .choice _ _ positive negative => positive.declares || negative.declares
  | .whileLoop _ _ body | .doWhileLoop _ body _ => body.declares
  | _ => false

variable {statement part : Statement}

/-- A statement declares something if it is a declaration or one of its parts declares something. -/
theorem declares_eq (statement : Statement) :
    statement.declares = (statement.isDeclaration || statement.parts.any declares) := by
  cases statement with
  | branch line condition positive negative =>
      cases negative <;> simp [declares, isDeclaration, parts]
  | _ => simp [declares, isDeclaration, parts]

/-- What declares nothing is no declaration. -/
theorem isDeclaration_of_declares (quiet : statement.declares = false) :
    statement.isDeclaration = false := by
  rw [declares_eq, Bool.or_eq_false_iff] at quiet
  exact quiet.1

/-- What declares nothing has no part that does. -/
theorem declares_of_mem_parts (quiet : statement.declares = false)
    (isPart : part ∈ statement.parts) : part.declares = false := by
  rw [declares_eq, Bool.or_eq_false_iff, List.any_eq_false] at quiet
  simpa using quiet.2 part isPart

end Scriptlet.Statement
