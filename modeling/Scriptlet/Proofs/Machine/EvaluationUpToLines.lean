import Scriptlet.Proofs.Machine.Lines
import Scriptlet.Proofs.Machine.Simulation

/-!
# Lines do not matter for evaluation

A program with other lines does the same on a machine whose functions have other lines, and only
the lines of the errors differ.
-/

namespace Scriptlet

variable [Host]

variable {change : Nat → Nat} {line : Nat} {name : String} {value : Value} {scope : ScopeId}

/-- Machines and errors correspond to what they are with their lines changed. -/
def Correspondence.upToLines (change : Nat → Nat) : Correspondence where
  machines machine other := other = machine.mapLines change
  errors error other := other = error.mapLines change

/-- A flow with the lines of what is returned changed. -/
def Flow.mapLines (change : Nat → Nat) : Flow → Flow
  | .normal => .normal
  | .returned value => .returned (value.mapLines change)

namespace Action

/-- An action gives values, and another one the same values with their lines changed. -/
def AlikeValue (change : Nat → Nat) (action other : Action Value) : Prop :=
  action.Alike (.upToLines change) (fun value other => other = value.mapLines change) other

/-- A statement ends, and another one in the same way but for lines. -/
def AlikeFlow (change : Nat → Nat) (action other : Action Flow) : Prop :=
  action.Alike (.upToLines change) (fun flow other => other = flow.mapLines change) other

/-- A condition is tested, and another one with the same answer. -/
def AlikeTest (change : Nat → Nat) (condition other : Action Bool) : Prop :=
  condition.Alike (.upToLines change) (fun holds other => other = holds) other

/-- What is no function has no lines. -/
theorem alike_ofExcept {result : Except Fault Value}
    (plain : ∀ value, result = .ok value → value.isPlain = true) :
    (ofExcept line result).AlikeValue change (ofExcept (change line) result) := by
  intro machine final corresponds
  cases result with
  | error fault => exact .failed rfl corresponds
  | ok value => exact .done (value.mapLines_of_isPlain change (plain value rfl)).symm corresponds

theorem alike_normal : (pure Flow.normal : Action Flow).AlikeFlow change (pure .normal) :=
  alike_pure rfl

end Action

namespace Machine

/-- A name is looked up alike: its value has the lines that it was bound with, changed. -/
theorem alike_lookup : (lookup line name).AlikeValue change (lookup (change line) name) := by
  rintro machine _ rfl
  have found : (machine.mapLines change).scopes.nearest? name (machine.mapLines change).scope = _ :=
    machine.scopes.nearest?_mapLines change machine.scope name
  unfold lookup Scopes.get
  rw [found]
  cases machine.scopes.nearest? name machine.scope with
  | none => exact .failed rfl rfl
  | some pair => exact .done rfl rfl

/-- Binding a value and changing lines, in either order, is the same. -/
theorem define_mapLines (machine : Machine) (holder : ScopeId) (name : String) (value : Value) :
    { machine.mapLines change with
      scopes := (machine.scopes.mapLines change).define holder name (value.mapLines change) } =
      mapLines change { machine with scopes := machine.scopes.define holder name value } := by
  rw [mapLines, mapLines, Scopes.define_mapLines]

theorem alike_define : (define name value).Alike (.upToLines change) (fun _ _ => True)
    (define name (value.mapLines change)) := by
  rintro machine _ rfl
  exact .done trivial (machine.define_mapLines machine.scope name value)

theorem alike_assign : (assign line name value).Alike (.upToLines change) (fun _ _ => True)
    (assign (change line) name (value.mapLines change)) := by
  rintro machine _ rfl
  have found : (machine.mapLines change).scopes.nearest? name (machine.mapLines change).scope = _ :=
    machine.scopes.nearest?_mapLines change machine.scope name
  unfold assign
  rw [found]
  cases machine.scopes.nearest? name machine.scope with
  | none => exact .failed rfl rfl
  | some pair => exact .done trivial (machine.define_mapLines pair.1 name value)

/-- A value is written alike, since no line of a function is written. -/
theorem alike_writeLine : (writeLine line value).Alike (.upToLines change) (fun _ _ => True)
    (writeLine (change line) (value.mapLines change)) := by
  rintro machine _ rfl
  have same : (machine.mapLines change).output = machine.output := rfl
  unfold writeLine
  rw [Value.display_mapLines, same]
  rcases machine.output.write (Text.encode (value.display ++ "\n")) with ⟨output, cause | done⟩
  · exact .failed rfl rfl
  · exact .done trivial rfl

end Machine

namespace Evaluation

open Scriptlet.Action Scriptlet.Machine

variable {evaluate : Expr → Action Value} {execute : Statement → Action Flow}

/-- Expressions are evaluated alike, whatever their lines are. -/
def ValuesAlike (change : Nat → Nat) (evaluate : Expr → Action Value) : Prop :=
  ∀ expr, (evaluate expr).AlikeValue change (evaluate (expr.mapLines change))

/-- Statements are executed alike, whatever their lines are. -/
def FlowsAlike (change : Nat → Nat) (execute : Statement → Action Flow) : Prop :=
  ∀ statement, (execute statement).AlikeFlow change (execute (statement.mapLines change))

/-! ## Statements in order, and in other scopes -/

omit [Host] in
theorem asReturned?_mapLines (flow : Flow) :
    Option.Rel (fun flow other => other = Flow.mapLines change flow) flow.asReturned?
      (flow.mapLines change).asReturned? := by
  cases flow with
  | normal => exact .none
  | returned value => exact .some rfl

theorem alike_asReturned? {action other : Action Flow} (alike : action.AlikeFlow change other) :
    (do return (← action).asReturned? : Action (Option Flow)).Alike (.upToLines change)
      (Option.Rel fun flow other => other = Flow.mapLines change flow)
      (do return (← other).asReturned?) := by
  refine alike_bind_view alike fun flow => ?_
  exact alike_pure (asReturned?_mapLines flow)

theorem alike_sequence (alike : FlowsAlike change execute) (statements : List Statement) :
    (sequence execute statements).AlikeFlow change
      (sequence execute (Statement.mapLinesAll change statements)) := by
  rw [Statement.mapLinesAll_eq_map]
  refine alike_bind (alike_findFirst fun statement _ => alike_asReturned? (alike statement)) ?_
  rintro found other same
  cases same with
  | none => exact alike_normal
  | some same => exact alike_pure same

/-- Another scope is current for a while. -/
theorem alike_inScope {action other : Action Flow} (alike : action.AlikeFlow change other)
    (machine : Machine) :
    (inScope scope action machine).Alike (.upToLines change)
      (fun flow other => other = flow.mapLines change)
      (inScope scope other (machine.mapLines change)) := by
  have inside : (action { machine with scope }).Alike (.upToLines change)
      (fun flow other => other = flow.mapLines change)
      (other { machine.mapLines change with scope }) := alike rfl
  refine alike_ending inside ?_
  rintro after _ rfl
  rfl

theorem alike_block (alike : FlowsAlike change execute) (statements : List Statement) :
    (block execute statements).AlikeFlow change
      (block execute (Statement.mapLinesAll change statements)) := by
  rintro machine _ rfl
  have enclosed : { machine.mapLines change with
      scopes := (machine.scopes.mapLines change).enclose machine.scope } =
      Machine.mapLines change { machine with scopes := machine.scopes.enclose machine.scope } := by
    rw [Machine.mapLines, Machine.mapLines, Scopes.enclose_mapLines]
  change Outcome.Alike _ _ _
    (inScope (machine.scopes.mapLines change).next
      (sequence execute (Statement.mapLinesAll change statements))
      { machine.mapLines change with
        scopes := (machine.scopes.mapLines change).enclose machine.scope })
  rw [Scopes.next_mapLines, enclosed]
  exact alike_inScope (alike_sequence alike statements) _

/-! ## Calls -/

/-- A native function does the same: its arguments differ in lines of functions alone. -/
theorem alike_callNative (builtin : Native) (arguments : List Value) :
    (callNative builtin arguments).AlikeValue change
      (callNative builtin (arguments.map (·.mapLines change))) := by
  rintro machine _ rfl
  have plain := builtin.isPlain_call arguments machine.world
  unfold callNative
  rw [builtin.call_mapLines]
  exact .done (Value.mapLines_of_isPlain change plain).symm rfl

/-- A call is alike if the bodies of functions are. Where it is too deep, it fails on the line of
the call, changed. -/
theorem alike_callDeclared (alike : FlowsAlike change execute)
    (declaration : Declaration) (closure : ScopeId) (arguments : List Value) :
    (callDeclared execute line declaration closure arguments).AlikeValue change
      (callDeclared execute (change line) (declaration.mapLines change) closure
        (arguments.map (·.mapLines change))) := by
  rintro machine _ rfl
  have bound : ((machine.scopes.mapLines change).enclose closure).defineAll machine.scopes.next
      (declaration.parameters.zip (arguments.map (·.mapLines change))) =
      ((machine.scopes.enclose closure).defineAll machine.scopes.next
        (declaration.parameters.zip arguments)).mapLines change := by
    rw [Scopes.defineAll_mapLines, Scopes.enclose_mapLines, Bindings.zip_mapLines]
  by_cases tooDeep : machine.settings.callLimit ≤ machine.depth
  · have deepToo : (machine.mapLines change).settings.callLimit ≤ (machine.mapLines change).depth :=
      tooDeep
    unfold callDeclared
    rw [if_pos tooDeep, if_pos deepToo]
    exact .failed rfl rfl
  · have lowToo :
        ¬ (machine.mapLines change).settings.callLimit ≤ (machine.mapLines change).depth :=
      tooDeep
    unfold callDeclared
    rw [if_neg tooDeep, if_neg lowToo]
    change Outcome.Alike _ _ _ ((Flow.callValue <$>
      (inScope (machine.scopes.mapLines change).next
        (sequence execute (Statement.mapLinesAll change declaration.body))).ending
          fun after => { after with depth := after.depth - 1 })
      { machine.mapLines change with
        scopes := ((machine.scopes.mapLines change).enclose closure).defineAll
          (machine.scopes.mapLines change).next
          (declaration.parameters.zip (arguments.map (·.mapLines change)))
        depth := machine.depth + 1 })
    rw [Scopes.next_mapLines, bound]
    refine alike_map (alike_ending (alike_inScope (alike_sequence alike declaration.body) _) ?_) ?_
    · rintro after _ rfl
      rfl
    · rintro flow _ rfl
      cases flow <;> rfl

theorem alike_callValue (alike : FlowsAlike change execute)
    (callee : Value) (arguments : List Value) :
    (callValue execute line callee arguments).AlikeValue change
      (callValue execute (change line) (callee.mapLines change)
        (arguments.map (·.mapLines change))) := by
  cases callee with
  | function callee =>
      simp only [callValue, Value.mapLines, Function.arity_mapLines, List.length_map]
      by_cases fits : callee.arity = arguments.length
      · rw [if_pos fits, if_pos fits]
        cases callee with
        | native identity builtin => exact alike_callNative builtin arguments
        | declared identity declaration closure =>
            exact alike_callDeclared alike declaration closure arguments
      · rw [if_neg fits, if_neg fits]
        exact alike_fail rfl
  | _ => exact alike_fail rfl

/-! ## Expressions and statements -/

/-- An expression is alike if the expressions inside of it and the bodies of functions are. -/
theorem alike_evaluateNode (values : ValuesAlike change evaluate)
    (flows : FlowsAlike change execute) (expr : Expr) :
    (evaluateNode evaluate execute expr).AlikeValue change
      (evaluateNode evaluate execute (expr.mapLines change)) := by
  cases expr with
  | literal line literal =>
      exact alike_pure (Value.mapLines_of_isPlain change (Value.isPlain_ofLiteral literal)).symm
  | grouping line inner => exact values inner
  | unary line op operand =>
      refine alike_bind_view (values operand) fun value => ?_
      rw [UnaryOp.apply_mapLines]
      exact alike_ofExcept fun result given => UnaryOp.isPlain_of_apply given
  | binary line op left right =>
      refine alike_bind_view (values left) fun first => ?_
      refine alike_bind_view (values right) fun second => ?_
      rw [BinaryOp.apply_mapLines]
      exact alike_ofExcept fun result given => BinaryOp.isPlain_of_apply given
  | logical line op left right =>
      refine alike_bind_view (values left) fun first => ?_
      rw [LogicalOp.decidedBy_mapLines]
      split
      · exact alike_pure rfl
      · exact values right
  | reference line name => exact alike_lookup
  | assign line name expr =>
      refine alike_bind_view (values expr) fun value => ?_
      exact alike_bind alike_assign fun _ _ _ => alike_pure rfl
  | update line op name operand =>
      refine alike_bind_view (values operand) fun amount => ?_
      refine alike_bind_view alike_lookup fun current => ?_
      rw [UpdateOp.apply_mapLines]
      have result := @alike_ofExcept _ change line _ fun result given =>
        @UpdateOp.isPlain_of_apply op current amount result given
      refine alike_bind_view result fun result => ?_
      exact alike_bind alike_assign fun _ _ _ => alike_pure rfl
  | call line callee arguments =>
      refine alike_bind_view (values callee) fun called => ?_
      rw [Expr.mapLinesAll_eq_map]
      refine alike_bind_view (alike_collect fun argument _ => values argument) fun given => ?_
      exact alike_callValue flows called given

theorem alike_evaluateOption (values : ValuesAlike change evaluate) (expr : Option Expr) :
    (evaluateOption evaluate expr).AlikeValue change
      (evaluateOption evaluate (expr.map (·.mapLines change))) := by
  cases expr with
  | none => exact alike_pure rfl
  | some expr => exact values expr

theorem alike_truthy {action other : Action Value} (alike : action.AlikeValue change other) :
    (Value.truthy <$> action).AlikeTest change (Value.truthy <$> other) := by
  intro machine final corresponds
  refine alike_map (alike corresponds) ?_
  rintro value _ rfl
  exact value.truthy_mapLines change

theorem alike_whileLoop {condition test : Action Bool} {body other : Action Flow} (bound : Nat)
    (tests : condition.AlikeTest change test) (alike : body.AlikeFlow change other) :
    (whileLoop bound condition body).AlikeFlow change (whileLoop bound test other) := by
  refine alike_repeatUntil (alike_bind_view tests fun holds => ?_) bound
  cases holds with
  | true => exact alike_asReturned? alike
  | false => exact alike_pure (.some rfl)

theorem alike_doWhileLoop {condition test : Action Bool} {body other : Action Flow} (bound : Nat)
    (tests : condition.AlikeTest change test) (alike : body.AlikeFlow change other) :
    (doWhileLoop bound condition body).AlikeFlow change (doWhileLoop bound test other) := by
  refine alike_repeatUntil (alike_bind_view alike fun flow => ?_) bound
  cases flow with
  | returned value => exact alike_pure (.some rfl)
  | normal =>
      refine alike_bind_view tests fun holds => ?_
      cases holds with
      | true => exact alike_pure .none
      | false => exact alike_pure (.some rfl)

/-- A statement is alike if its parts are. -/
theorem alike_executeNode (values : ValuesAlike change evaluate)
    (flows : FlowsAlike change execute) (bound : Nat) (statement : Statement) :
    (executeNode bound evaluate execute statement).AlikeFlow change
      (executeNode bound evaluate execute (statement.mapLines change)) := by
  cases statement with
  | expression line expr =>
      refine alike_bind_view (values expr) fun value => ?_
      have echoes : (inspect (·.settings.echo)).AlikeTest change (inspect (·.settings.echo)) := by
        apply alike_inspect
        rintro machine _ rfl
        rfl
      refine alike_bind_view echoes fun echo => ?_
      cases echo with
      | true => exact alike_bind alike_writeLine fun _ _ _ => alike_normal
      | false => exact alike_normal
  | print line expr =>
      refine alike_bind_view (values expr) fun value => ?_
      exact alike_bind alike_writeLine fun _ _ _ => alike_normal
  | declare line name initial =>
      refine alike_bind_view (alike_evaluateOption values initial) fun value => ?_
      exact alike_bind alike_define fun _ _ _ => alike_normal
  | block line body => exact alike_block flows body
  | branch line condition positive negative =>
      refine alike_bind_view (values condition) fun value => ?_
      rw [Value.truthy_mapLines]
      split
      · exact flows positive
      · cases negative with
        | none => exact alike_normal
        | some negative => exact flows negative
  | choice line condition positive negative =>
      refine alike_bind_view (values condition) fun value => ?_
      rw [Value.truthy_mapLines]
      split
      · exact flows positive
      · exact flows negative
  | whileLoop line condition body =>
      exact alike_whileLoop bound (alike_truthy (values condition)) (flows body)
  | doWhileLoop line body condition =>
      exact alike_doWhileLoop bound (alike_truthy (values condition)) (flows body)
  | function line name parameters body =>
      rintro machine _ rfl
      exact (alike_bind alike_define fun _ _ _ => alike_normal) rfl
  | giveBack line value =>
      refine alike_bind_view (alike_evaluateOption values value) fun result => ?_
      exact alike_pure rfl

end Evaluation

/-- **Lines do not matter**: an expression or a statement with other lines does the same. -/
theorem alike_evaluate_execute (change : Nat → Nat) (bound : Nat) :
    Evaluation.ValuesAlike change (evaluate bound) ∧
      Evaluation.FlowsAlike change (execute bound) := by
  induction bound with
  | zero =>
      constructor
      · intro expr
        rw [evaluate, evaluate]
        exact Action.alike_exhausted
      · intro statement
        rw [execute, execute]
        exact Action.alike_exhausted
  | succ bound ih =>
      constructor
      · intro expr
        rw [evaluate, evaluate]
        exact Evaluation.alike_evaluateNode ih.1 ih.2 expr
      · intro statement
        rw [execute, execute]
        exact Evaluation.alike_executeNode ih.1 ih.2 bound statement

end Scriptlet
