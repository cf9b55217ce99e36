import Scriptlet.Proofs.Grammar.Origin

/-!
# Where `**` stands

Products list `**` among their operators without ever reading it: a language in which they do not
is the same. Powers therefore bind more tightly than products, group to the left and bind less
tightly than signs, in whatever is read from any tokens.
-/

namespace Scriptlet

/-! ## The nodes of a tree -/

mutual

/-- An expression and all expressions inside it. -/
def Expr.nodes : Expr → List Expr
  | .literal line value => [.literal line value]
  | .reference line name => [.reference line name]
  | .grouping line inner => .grouping line inner :: inner.nodes
  | .unary line op operand => .unary line op operand :: operand.nodes
  | .binary line op left right => .binary line op left right :: (left.nodes ++ right.nodes)
  | .logical line op left right => .logical line op left right :: (left.nodes ++ right.nodes)
  | .assign line name value => .assign line name value :: value.nodes
  | .update line op name operand => .update line op name operand :: operand.nodes
  | .call line callee arguments =>
    .call line callee arguments :: (callee.nodes ++ Expr.nodesAll arguments)

/-- The expressions inside some expressions, with these themselves. -/
def Expr.nodesAll : List Expr → List Expr
  | [] => []
  | expr :: exprs => expr.nodes ++ Expr.nodesAll exprs

end

/-- The expressions inside one that may be left out. -/
def Expr.nodesOption : Option Expr → List Expr
  | none => []
  | some expr => expr.nodes

mutual

/-- All expressions inside a statement. -/
def Statement.nodes : Statement → List Expr
  | .expression _ expr | .print _ expr => expr.nodes
  | .declare _ _ value | .giveBack _ value => Expr.nodesOption value
  | .block _ body | .function _ _ _ body => Statement.nodesAll body
  | .branch _ condition positive negative =>
    condition.nodes ++ (positive.nodes ++ Statement.nodesOption negative)
  | .choice _ condition positive negative => condition.nodes ++ (positive.nodes ++ negative.nodes)
  | .whileLoop _ condition body => condition.nodes ++ body.nodes
  | .doWhileLoop _ body condition => body.nodes ++ condition.nodes

/-- All expressions inside some statements. -/
def Statement.nodesAll : List Statement → List Expr
  | [] => []
  | statement :: statements => statement.nodes ++ Statement.nodesAll statements

/-- All expressions inside a statement that may be left out. -/
def Statement.nodesOption : Option Statement → List Expr
  | none => []
  | some statement => statement.nodes

end

section Everywhere

variable {holds : Expr → Prop}

/-- Something holds of all nodes of expressions where it holds of the nodes of each. -/
theorem Expr.forall_mem_nodesAll_iff {exprs : List Expr} :
    (∀ node ∈ Expr.nodesAll exprs, holds node) ↔
      ∀ expr ∈ exprs, ∀ node ∈ expr.nodes, holds node := by
  induction exprs with
  | nil => simp [Expr.nodesAll]
  | cons expr exprs ih => rw [Expr.nodesAll, List.forall_mem_append, ih, List.forall_mem_cons]

/-- Something holds of all nodes of statements where it holds of the nodes of each. -/
theorem Statement.forall_mem_nodesAll_iff {statements : List Statement} :
    (∀ node ∈ Statement.nodesAll statements, holds node) ↔
      ∀ statement ∈ statements, ∀ node ∈ statement.nodes, holds node := by
  induction statements with
  | nil => simp [Statement.nodesAll]
  | cons statement statements ih =>
      rw [Statement.nodesAll, List.forall_mem_append, ih, List.forall_mem_cons]

/-- The nodes of two operands with an operator between them are the whole and the nodes of the
two. -/
theorem Connective.nodes_node (connective : Connective) (line : Nat) (left right : Expr) :
    (connective.node line left right).nodes =
      connective.node line left right :: (left.nodes ++ right.nodes) := by
  cases connective <;> rfl

end Everywhere

/-! ## Operands at their ranks -/

/-- The operands of an expression bind at least as tightly as its operator asks for, and those on
the right of an operator more tightly than the operator itself. -/
def Expr.OperandsRanked : Expr → Prop
  | .unary _ _ operand => 8 ≤ operand.rank
  | .binary _ op left right =>
    (Connective.binary op).rank ≤ left.rank ∧ (Connective.binary op).rank < right.rank
  | .logical _ op left right =>
    (Connective.logical op).rank ≤ left.rank ∧ (Connective.logical op).rank < right.rank
  | .call _ callee _ => 9 ≤ callee.rank
  | .literal .. | .reference .. | .grouping .. | .assign .. | .update .. => True

/-- An expression is a product, a quotient or a remainder. -/
def Expr.isProduct : Expr → Bool
  | .binary _ .multiply _ _ | .binary _ .divide _ _ | .binary _ .remainder _ _ => true
  | _ => false

/-- An expression is a power. -/
def Expr.isPower : Expr → Bool
  | .binary _ .power _ _ => true
  | _ => false

/-- Only between parentheses is a product an operand of a power, a power the exponent of another
one, or a power the operand of a sign. -/
def Expr.PowerPlaced : Expr → Prop
  | .binary _ .power base exponent =>
    base.isProduct = false ∧ exponent.isProduct = false ∧ exponent.isPower = false
  | .unary _ _ operand => operand.isPower = false
  | _ => True

/-- What binds as tightly as a power is no product. -/
theorem Expr.isProduct_eq_false {expr : Expr} (tight : 7 ≤ expr.rank) : expr.isProduct = false := by
  unfold isProduct
  split
  · exact absurd tight (Nat.not_succ_le_self 6)
  · exact absurd tight (Nat.not_succ_le_self 6)
  · exact absurd tight (Nat.not_succ_le_self 6)
  · rfl

/-- What binds as tightly as a sign is no power. -/
theorem Expr.isPower_eq_false {expr : Expr} (tight : 8 ≤ expr.rank) : expr.isPower = false := by
  unfold isPower
  split
  · exact absurd tight (Nat.not_succ_le_self 7)
  · rfl

/-- Where operands stand at the ranks that their operators take, powers stand where they may. -/
theorem Expr.OperandsRanked.powerPlaced {expr : Expr} (ranked : expr.OperandsRanked) :
    expr.PowerPlaced := by
  unfold PowerPlaced
  split
  · obtain ⟨base, exponent⟩ := ranked
    exact ⟨isProduct_eq_false base, isProduct_eq_false (Nat.le_of_succ_le exponent),
      isPower_eq_false exponent⟩
  · exact isPower_eq_false ranked
  · trivial

variable {source : List Token} {rank : Nat} {expr : Expr}

/-- An operator between operands gives the whole its own rank. -/
theorem Connective.rank_node (connective : Connective) (line : Nat) (left right : Expr) :
    (connective.node line left right).rank = connective.rank := by
  cases connective <;> rfl

/-- An expression made at some rank binds at least as tightly. -/
theorem Expr.MadeOf.rank_le (made : expr.MadeOf source rank) : rank ≤ expr.rank := by
  induction made with
  | tighter _ ih => exact Nat.le_of_succ_le ih
  | connective => exact Nat.le_of_eq (Connective.rank_node ..).symm
  | literal | reference | grouping | call | unary | assign | update => exact Nat.le_refl _

/-- An operator between operands takes a left one of its own rank and a right one that binds more
tightly. -/
theorem Connective.operandsRanked_node (connective : Connective) (line : Nat) {left right : Expr}
    (first : connective.rank ≤ left.rank) (second : connective.rank < right.rank) :
    (connective.node line left right).OperandsRanked := by
  cases connective <;> exact ⟨first, second⟩

/-- In what is made of tokens, all operands stand at their ranks. -/
theorem Expr.MadeOf.operandsRanked (made : expr.MadeOf source rank) :
    ∀ node ∈ expr.nodes, node.OperandsRanked := by
  induction made with
  | tighter _ ih => exact ih
  | literal | reference => exact List.forall_mem_singleton.mpr trivial
  | grouping _ _ ih | assign _ _ ih | update _ _ ih => exact List.forall_mem_cons.mpr ⟨trivial, ih⟩
  | unary _ operand ih => exact List.forall_mem_cons.mpr ⟨operand.rank_le, ih⟩
  | call _ callee _ inCallee inArguments =>
      exact List.forall_mem_cons.mpr ⟨callee.rank_le,
        List.forall_mem_append.mpr ⟨inCallee, forall_mem_nodesAll_iff.mpr inArguments⟩⟩
  | @connective line connective _ _ _ left right inLeft inRight =>
      rw [Connective.nodes_node]
      have here := connective.operandsRanked_node line left.rank_le right.rank_le
      exact List.forall_mem_cons.mpr ⟨here, List.forall_mem_append.mpr ⟨inLeft, inRight⟩⟩

/-- All operands inside of an expression that may be left out are ranked. -/
theorem Expr.OptionMadeOf.operandsRanked {value : Option Expr}
    (made : Expr.OptionMadeOf source value) :
    ∀ node ∈ Expr.nodesOption value, node.OperandsRanked := by
  cases value with
  | none => exact List.forall_mem_nil _
  | some expr => exact (made expr rfl).operandsRanked

/-- All operands inside of a statement made of tokens are ranked. -/
theorem Statement.MadeOf.operandsRanked {statement : Statement} (made : statement.MadeOf source) :
    ∀ node ∈ statement.nodes, node.OperandsRanked := by
  induction made with
  | expression _ expr | print _ expr => exact expr.operandsRanked
  | declare _ value | giveBack _ value => exact value.operandsRanked
  | block _ _ ih | function _ _ ih => exact forall_mem_nodesAll_iff.mpr ih
  | @branch _ _ _ negative _ condition _ _ inPositive inNegative =>
      refine List.forall_mem_append.mpr
        ⟨condition.operandsRanked, List.forall_mem_append.mpr ⟨inPositive, ?_⟩⟩
      cases negative with
      | none => exact List.forall_mem_nil _
      | some negative => exact inNegative negative rfl
  | choice _ condition _ _ inPositive inNegative =>
      exact List.forall_mem_append.mpr
        ⟨condition.operandsRanked, List.forall_mem_append.mpr ⟨inPositive, inNegative⟩⟩
  | whileLoop _ condition _ inBody =>
      exact List.forall_mem_append.mpr ⟨condition.operandsRanked, inBody⟩
  | doWhileLoop _ _ condition inBody =>
      exact List.forall_mem_append.mpr ⟨inBody, condition.operandsRanked⟩

/-! ## Programs -/

namespace Program

/-- Whatever some tokens spell, with faults or without, its operands stand at their ranks. -/
theorem operandsRanked_ofTokens (tokens : List Token) :
    ∀ node ∈ Statement.nodesAll (ofTokens tokens).statements, node.OperandsRanked := by
  have drawn := Grammar.draws_program (nestingBound tokens) (List.Subset.refl tokens)
  obtain ⟨statements, reports, parsed⟩ := Grammar.program_parsed Level.all tokens
  unfold ofTokens ofTokensWith
  rw [parsed] at drawn ⊢
  exact Statement.forall_mem_nodesAll_iff.mpr fun statement member =>
    (drawn.1 statement member).operandsRanked

/-- Without `**` among the operators of products, the same statements and errors are read from all
tokens. So `**` binds more tightly than products, groups to the left, and binds less tightly than
signs, wherever it stands. -/
theorem power_of_ofTokens (tokens : List Token) :
    ofTokensWith Level.separate tokens = ofTokens tokens ∧
      ∀ node ∈ Statement.nodesAll (ofTokens tokens).statements,
        node.OperandsRanked ∧ node.PowerPlaced := by
  constructor
  · rw [ofTokens, ofTokensWith, ofTokensWith, Grammar.program_separate]
  · intro node member
    have ranked := operandsRanked_ofTokens tokens node member
    exact ⟨ranked, ranked.powerPlaced⟩

/-- Without parentheses, `a*-b**c**d` is the product of `a` and of the power of `-b**c` by `d`. -/
example :
    ofTokens (tokensOn 1 [.identifier "a", .symbol .star, .symbol .minus, .identifier "b",
        .symbol .starStar, .identifier "c", .symbol .starStar, .identifier "d",
        .symbol .semicolon]) =
      ⟨[.expression 1 (.binary 1 .multiply (.reference 1 "a")
        (.binary 1 .power
          (.binary 1 .power (.unary 1 .negate (.reference 1 "b")) (.reference 1 "c"))
          (.reference 1 "d")))], []⟩ := by
  rfl

end Program

end Scriptlet
