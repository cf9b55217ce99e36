import Scriptlet.Syntax.Basic

/-!
# Lines of syntax trees

A change of the lines of a tree, at all of its nodes. Trees that are the same up to lines become the
same tree once all lines are erased.
-/

namespace Scriptlet

variable (change : Nat → Nat)

mutual

/-- An expression with its lines changed. -/
def Expr.mapLines : Expr → Expr
  | .literal line value => .literal (change line) value
  | .grouping line inner => .grouping (change line) inner.mapLines
  | .unary line op operand => .unary (change line) op operand.mapLines
  | .binary line op left right => .binary (change line) op left.mapLines right.mapLines
  | .logical line op left right => .logical (change line) op left.mapLines right.mapLines
  | .reference line name => .reference (change line) name
  | .assign line name value => .assign (change line) name value.mapLines
  | .update line op name operand => .update (change line) op name operand.mapLines
  | .call line callee arguments =>
    .call (change line) callee.mapLines (Expr.mapLinesAll arguments)

/-- Expressions with their lines changed. -/
def Expr.mapLinesAll : List Expr → List Expr
  | [] => []
  | expr :: exprs => expr.mapLines :: Expr.mapLinesAll exprs

end

mutual

/-- A statement with its lines changed. -/
def Statement.mapLines : Statement → Statement
  | .expression line expr => .expression (change line) (expr.mapLines change)
  | .print line expr => .print (change line) (expr.mapLines change)
  | .declare line name initial => .declare (change line) name (initial.map (·.mapLines change))
  | .block line body => .block (change line) (Statement.mapLinesAll body)
  | .branch line condition positive negative =>
    .branch (change line) (condition.mapLines change) positive.mapLines
      (Statement.mapLinesOption negative)
  | .choice line condition positive negative =>
    .choice (change line) (condition.mapLines change) positive.mapLines negative.mapLines
  | .whileLoop line condition body =>
    .whileLoop (change line) (condition.mapLines change) body.mapLines
  | .doWhileLoop line body condition =>
    .doWhileLoop (change line) body.mapLines (condition.mapLines change)
  | .function line name parameters body =>
    .function (change line) name parameters (Statement.mapLinesAll body)
  | .giveBack line value => .giveBack (change line) (value.map (·.mapLines change))

/-- Statements with their lines changed. -/
def Statement.mapLinesAll : List Statement → List Statement
  | [] => []
  | statement :: statements => statement.mapLines :: Statement.mapLinesAll statements

/-- A statement, where there is one, with its lines changed. -/
def Statement.mapLinesOption : Option Statement → Option Statement
  | none => none
  | some statement => some statement.mapLines

end

/-- An expression without its lines. -/
abbrev Expr.eraseLines : Expr → Expr := Expr.mapLines fun _ => 0

/-- A statement without its lines. -/
abbrev Statement.eraseLines : Statement → Statement := Statement.mapLines fun _ => 0

/-- The lines of expressions are changed in each of them. -/
theorem Expr.mapLinesAll_eq_map (exprs : List Expr) :
    Expr.mapLinesAll change exprs = exprs.map (·.mapLines change) := by
  induction exprs with
  | nil => rfl
  | cons expr exprs ih => rw [Expr.mapLinesAll, ih, List.map_cons]

/-- The lines of statements are changed in each of them. -/
theorem Statement.mapLinesAll_eq_map (statements : List Statement) :
    Statement.mapLinesAll change statements = statements.map (·.mapLines change) := by
  induction statements with
  | nil => rfl
  | cons statement statements ih => rw [Statement.mapLinesAll, ih, List.map_cons]

/-- An expression is on the line to which its own was changed. -/
@[simp] theorem Expr.line_mapLines (expr : Expr) :
    (expr.mapLines change).line = change expr.line := by
  cases expr <;> rfl

/-- A statement is on the line to which its own was changed. -/
@[simp] theorem Statement.line_mapLines (statement : Statement) :
    (statement.mapLines change).line = change statement.line := by
  cases statement <;> rfl

/-! ## The lines that a tree has -/

mutual

/-- The lines of an expression, at all of its nodes. -/
def Expr.lines : Expr → List Nat
  | .literal line _ | .reference line _ => [line]
  | .grouping line inner => line :: inner.lines
  | .unary line _ operand => line :: operand.lines
  | .binary line _ left right | .logical line _ left right => line :: (left.lines ++ right.lines)
  | .assign line _ value | .update line _ _ value => line :: value.lines
  | .call line callee arguments => line :: (callee.lines ++ Expr.linesAll arguments)

/-- The lines of some expressions. -/
def Expr.linesAll : List Expr → List Nat
  | [] => []
  | expr :: exprs => expr.lines ++ Expr.linesAll exprs

end

/-- The lines of an expression that may be left out. -/
def Expr.linesOption : Option Expr → List Nat
  | none => []
  | some expr => expr.lines

mutual

/-- The lines of a statement, at all of its nodes. -/
def Statement.lines : Statement → List Nat
  | .expression line expr | .print line expr => line :: expr.lines
  | .declare line _ initial => line :: Expr.linesOption initial
  | .block line body | .function line _ _ body => line :: Statement.linesAll body
  | .branch line condition positive negative =>
    line :: (condition.lines ++ positive.lines ++ Statement.linesOption negative)
  | .choice line condition positive negative =>
    line :: (condition.lines ++ positive.lines ++ negative.lines)
  | .whileLoop line condition body => line :: (condition.lines ++ body.lines)
  | .doWhileLoop line body condition => line :: (body.lines ++ condition.lines)
  | .giveBack line value => line :: Expr.linesOption value

/-- The lines of some statements. -/
def Statement.linesAll : List Statement → List Nat
  | [] => []
  | statement :: statements => statement.lines ++ Statement.linesAll statements

/-- The lines of a statement that may be left out. -/
def Statement.linesOption : Option Statement → List Nat
  | none => []
  | some statement => statement.lines

end

/-- An expression is on one of its lines. -/
theorem Expr.line_mem_lines (expr : Expr) : expr.line ∈ expr.lines := by
  cases expr <;> simp [line, lines]

/-- A statement is on one of its lines. -/
theorem Statement.line_mem_lines (statement : Statement) : statement.line ∈ statement.lines := by
  cases statement <;> simp [line, lines]

/-! ## Changes that do nothing, and one change behind another -/

section Unchanged

variable {change : Nat → Nat}

mutual

/-- A change that leaves the lines of an expression as they are does nothing to it. -/
theorem Expr.mapLines_eq_self : (expr : Expr) → (∀ line ∈ expr.lines, change line = line) →
    expr.mapLines change = expr
  | .literal _ _, fixed | .reference _ _, fixed => by
      rw [mapLines, fixed _ List.mem_cons_self]
  | .grouping _ inner, fixed => by
      obtain ⟨here, inside⟩ := List.forall_mem_cons.mp fixed
      rw [mapLines, here, mapLines_eq_self inner inside]
  | .unary _ _ operand, fixed => by
      obtain ⟨here, inside⟩ := List.forall_mem_cons.mp fixed
      rw [mapLines, here, mapLines_eq_self operand inside]
  | .binary _ _ left right, fixed | .logical _ _ left right, fixed => by
      obtain ⟨here, inside⟩ := List.forall_mem_cons.mp fixed
      obtain ⟨first, second⟩ := List.forall_mem_append.mp inside
      rw [mapLines, here, mapLines_eq_self left first, mapLines_eq_self right second]
  | .assign _ _ value, fixed | .update _ _ _ value, fixed => by
      obtain ⟨here, inside⟩ := List.forall_mem_cons.mp fixed
      rw [mapLines, here, mapLines_eq_self value inside]
  | .call _ callee arguments, fixed => by
      obtain ⟨here, inside⟩ := List.forall_mem_cons.mp fixed
      obtain ⟨first, second⟩ := List.forall_mem_append.mp inside
      rw [mapLines, here, mapLines_eq_self callee first, mapLinesAll_eq_self arguments second]

/-- Expressions are left alone by a change that leaves their lines alone. -/
theorem Expr.mapLinesAll_eq_self : (exprs : List Expr) →
    (∀ line ∈ Expr.linesAll exprs, change line = line) → Expr.mapLinesAll change exprs = exprs
  | [], _ => rfl
  | expr :: exprs, fixed => by
      obtain ⟨first, others⟩ := List.forall_mem_append.mp fixed
      rw [mapLinesAll, mapLines_eq_self expr first, mapLinesAll_eq_self exprs others]

end

theorem Expr.mapLinesOption_eq_self {expr : Option Expr}
    (fixed : ∀ line ∈ Expr.linesOption expr, change line = line) :
    expr.map (·.mapLines change) = expr := by
  cases expr with
  | none => rfl
  | some expr => exact congrArg some (expr.mapLines_eq_self fixed)

mutual

/-- A change that leaves the lines of a statement as they are does nothing to it. -/
theorem Statement.mapLines_eq_self : (statement : Statement) →
    (∀ line ∈ statement.lines, change line = line) → statement.mapLines change = statement
  | .expression _ expr, fixed | .print _ expr, fixed => by
      obtain ⟨here, inside⟩ := List.forall_mem_cons.mp fixed
      rw [mapLines, here, expr.mapLines_eq_self inside]
  | .declare _ _ value, fixed | .giveBack _ value, fixed => by
      obtain ⟨here, inside⟩ := List.forall_mem_cons.mp fixed
      rw [mapLines, here, Expr.mapLinesOption_eq_self inside]
  | .block _ body, fixed | .function _ _ _ body, fixed => by
      obtain ⟨here, inside⟩ := List.forall_mem_cons.mp fixed
      rw [mapLines, here, mapLinesAll_eq_self body inside]
  | .branch _ condition positive negative, fixed => by
      obtain ⟨here, inside⟩ := List.forall_mem_cons.mp fixed
      obtain ⟨inner, last⟩ := List.forall_mem_append.mp inside
      obtain ⟨first, second⟩ := List.forall_mem_append.mp inner
      rw [mapLines, here, condition.mapLines_eq_self first, mapLines_eq_self positive second,
        mapLinesOption_eq_self negative last]
  | .choice _ condition positive negative, fixed => by
      obtain ⟨here, inside⟩ := List.forall_mem_cons.mp fixed
      obtain ⟨inner, last⟩ := List.forall_mem_append.mp inside
      obtain ⟨first, second⟩ := List.forall_mem_append.mp inner
      rw [mapLines, here, condition.mapLines_eq_self first, mapLines_eq_self positive second,
        mapLines_eq_self negative last]
  | .whileLoop _ condition body, fixed => by
      obtain ⟨here, inside⟩ := List.forall_mem_cons.mp fixed
      obtain ⟨first, second⟩ := List.forall_mem_append.mp inside
      rw [mapLines, here, condition.mapLines_eq_self first, mapLines_eq_self body second]
  | .doWhileLoop _ body condition, fixed => by
      obtain ⟨here, inside⟩ := List.forall_mem_cons.mp fixed
      obtain ⟨first, second⟩ := List.forall_mem_append.mp inside
      rw [mapLines, here, mapLines_eq_self body first, condition.mapLines_eq_self second]

/-- Statements are left alone by a change that leaves their lines alone. -/
theorem Statement.mapLinesAll_eq_self : (statements : List Statement) →
    (∀ line ∈ Statement.linesAll statements, change line = line) →
    Statement.mapLinesAll change statements = statements
  | [], _ => rfl
  | statement :: statements, fixed => by
      obtain ⟨first, others⟩ := List.forall_mem_append.mp fixed
      rw [mapLinesAll, mapLines_eq_self statement first, mapLinesAll_eq_self statements others]

theorem Statement.mapLinesOption_eq_self : (statement : Option Statement) →
    (∀ line ∈ Statement.linesOption statement, change line = line) →
    Statement.mapLinesOption change statement = statement
  | none, _ => rfl
  | some statement, fixed => by rw [mapLinesOption, mapLines_eq_self statement fixed]

end

end Unchanged

variable (further : Nat → Nat)

mutual

/-- Two changes of the lines of an expression, one after the other, are one. -/
theorem Expr.mapLines_mapLines : (expr : Expr) →
    (expr.mapLines change).mapLines further = expr.mapLines (further ∘ change)
  | .literal _ _ | .reference _ _ => rfl
  | .grouping _ inner => by simp only [mapLines, mapLines_mapLines inner, Function.comp_apply]
  | .unary _ _ operand => by simp only [mapLines, mapLines_mapLines operand, Function.comp_apply]
  | .binary _ _ left right => by
      simp only [mapLines, mapLines_mapLines left, mapLines_mapLines right, Function.comp_apply]
  | .logical _ _ left right => by
      simp only [mapLines, mapLines_mapLines left, mapLines_mapLines right, Function.comp_apply]
  | .assign _ _ value => by simp only [mapLines, mapLines_mapLines value, Function.comp_apply]
  | .update _ _ _ operand => by simp only [mapLines, mapLines_mapLines operand, Function.comp_apply]
  | .call _ callee arguments => by
      simp only [mapLines, mapLines_mapLines callee, mapLinesAll_mapLinesAll arguments,
        Function.comp_apply]

/-- Two changes of the lines of expressions are one. -/
theorem Expr.mapLinesAll_mapLinesAll : (exprs : List Expr) →
    Expr.mapLinesAll further (Expr.mapLinesAll change exprs) =
      Expr.mapLinesAll (further ∘ change) exprs
  | [] => rfl
  | expr :: exprs => by
      simp only [mapLinesAll, mapLines_mapLines expr, mapLinesAll_mapLinesAll exprs]

end

theorem Expr.map_mapLines_mapLines (expr : Option Expr) :
    (expr.map (·.mapLines change)).map (·.mapLines further) =
      expr.map (·.mapLines (further ∘ change)) := by
  simp only [Option.map_map, Function.comp_def, mapLines_mapLines]

mutual

/-- Two changes of the lines of a statement, one after the other, are one. -/
theorem Statement.mapLines_mapLines : (statement : Statement) →
    (statement.mapLines change).mapLines further = statement.mapLines (further ∘ change)
  | .expression _ _ | .print _ _ => by
      simp only [mapLines, Expr.mapLines_mapLines, Function.comp_apply]
  | .declare _ _ _ | .giveBack _ _ => by
      simp only [mapLines, Expr.map_mapLines_mapLines, Function.comp_apply]
  | .block _ body | .function _ _ _ body => by
      simp only [mapLines, mapLinesAll_mapLinesAll body, Function.comp_apply]
  | .branch _ _ positive negative => by
      simp only [mapLines, Expr.mapLines_mapLines, mapLines_mapLines positive,
        mapLinesOption_mapLinesOption negative, Function.comp_apply]
  | .choice _ _ positive negative => by
      simp only [mapLines, Expr.mapLines_mapLines, mapLines_mapLines positive,
        mapLines_mapLines negative, Function.comp_apply]
  | .whileLoop _ _ body | .doWhileLoop _ body _ => by
      simp only [mapLines, Expr.mapLines_mapLines, mapLines_mapLines body, Function.comp_apply]

/-- Two changes of the lines of statements are one. -/
theorem Statement.mapLinesAll_mapLinesAll : (statements : List Statement) →
    Statement.mapLinesAll further (Statement.mapLinesAll change statements) =
      Statement.mapLinesAll (further ∘ change) statements
  | [] => rfl
  | statement :: statements => by
      simp only [mapLinesAll, mapLines_mapLines statement, mapLinesAll_mapLinesAll statements]

theorem Statement.mapLinesOption_mapLinesOption : (statement : Option Statement) →
    Statement.mapLinesOption further (Statement.mapLinesOption change statement) =
      Statement.mapLinesOption (further ∘ change) statement
  | none => rfl
  | some statement => by simp only [mapLinesOption, mapLines_mapLines statement]

end

end Scriptlet
