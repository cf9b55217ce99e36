import Scriptlet.Machine.Run

/-!
# Bounds do not matter

A computation that ends under some bound ends in the same way under every greater one. The bound
comes in only where it is used up, so that it is enough to follow one action that ends wherever
another one does, through everything that actions are made of.
-/

namespace Scriptlet

variable [Host]

variable {α β σ : Type}

/-- Where the first outcome is an end, the second one is the same. -/
inductive Outcome.EndsAs : Outcome α → Outcome α → Prop
  | unfinished {other : Outcome α} : Outcome.EndsAs .unfinished other
  | same {outcome : Outcome α} : Outcome.EndsAs outcome outcome

/-- Wherever an action ends, the other one ends in the same way. -/
def Action.EndsAs (action other : Action α) : Prop :=
  ∀ machine, (action machine).EndsAs (other machine)

namespace Action

variable {action other : Action α}

/-- An action ends as it does itself. -/
theorem endsAs_self (action : Action α) : action.EndsAs action :=
  fun _ => .same

/-- An action whose bound is used up ends nowhere, so that any other one ends as it does. -/
theorem endsAs_exhausted (other : Action α) : exhausted.EndsAs other :=
  fun _ => .unfinished

/-- One action after another one ends as its parts do. -/
theorem endsAs_bind {next follow : α → Action β} (first : action.EndsAs other)
    (second : ∀ value, (next value).EndsAs (follow value)) :
    (action >>= next).EndsAs (other >>= follow) := by
  intro machine
  have answer := first machine
  rw [bind_apply, bind_apply]
  generalize action machine = ended, other machine = last at answer ⊢
  cases answer with
  | unfinished => exact .unfinished
  | same =>
      cases ended with
      | done value after => exact second value after
      | failed error after => exact .same
      | unfinished => exact .unfinished

/-- What is made of the value of an action follows the action. -/
theorem endsAs_map {view : α → β} (first : action.EndsAs other) :
    (view <$> action).EndsAs (view <$> other) := by
  rw [← bind_pure_comp, ← bind_pure_comp]
  exact endsAs_bind first fun value => endsAs_self _

/-- What is done to the machine behind an action follows the action, also where that fails. -/
theorem endsAs_ending {finish : Machine → Machine} (first : action.EndsAs other) :
    (action.ending finish).EndsAs (other.ending finish) := by
  intro machine
  have answer := first machine
  unfold ending
  generalize action machine = ended, other machine = last at answer ⊢
  cases answer with
  | unfinished => exact .unfinished
  | same => exact .same

theorem endsAs_findFirst {search quest : σ → Action (Option α)}
    (each : ∀ item, (search item).EndsAs (quest item)) (items : List σ) :
    (findFirst search items).EndsAs (findFirst quest items) := by
  induction items with
  | nil => exact endsAs_self _
  | cons item rest ih =>
      rw [findFirst_cons, findFirst_cons]
      refine endsAs_bind (each item) fun found => ?_
      cases found with
      | some value => exact endsAs_self _
      | none => exact ih

/-- More rounds are enough where fewer were. -/
theorem endsAs_repeatUntil {body round : Action (Option α)} (each : body.EndsAs round)
    {bound larger : Nat} (fewer : bound ≤ larger) :
    (repeatUntil body bound).EndsAs (repeatUntil round larger) := by
  induction bound generalizing larger with
  | zero => exact fun _ => .unfinished
  | succ bound ih =>
      obtain ⟨larger, rfl⟩ := Nat.exists_eq_add_of_lt fewer
      rw [repeatUntil_succ, repeatUntil_succ]
      refine endsAs_bind each fun found => ?_
      cases found with
      | some value => exact endsAs_self _
      | none => exact ih (Nat.le_add_right bound larger)

theorem endsAs_collect {each every : σ → Action α}
    (alike : ∀ item, (each item).EndsAs (every item)) (items : List σ) :
    (collect each items).EndsAs (collect every items) := by
  induction items with
  | nil => exact endsAs_self _
  | cons item rest ih =>
      refine endsAs_bind (alike item) fun value => ?_
      exact endsAs_bind ih fun values => endsAs_self _

end Action

namespace Evaluation

open Scriptlet.Action

variable {evaluate estimate : Expr → Action Value} {execute perform : Statement → Action Flow}

/-- Wherever an expression has a value for the first evaluator, it has the same for the second. -/
def ValuesEnd (evaluate estimate : Expr → Action Value) : Prop :=
  ∀ expr, (evaluate expr).EndsAs (estimate expr)

/-- Wherever a statement ends for the first executor, it ends in the same way for the second. -/
def FlowsEnd (execute perform : Statement → Action Flow) : Prop :=
  ∀ statement, (execute statement).EndsAs (perform statement)

/-! ## Calls and blocks -/

theorem endsAs_sequence (flows : FlowsEnd execute perform) (statements : List Statement) :
    (sequence execute statements).EndsAs (sequence perform statements) := by
  have each : ∀ statement,
      (do return (← execute statement).asReturned? : Action (Option Flow)).EndsAs
        (do return (← perform statement).asReturned?) :=
    fun statement => endsAs_bind (flows statement) fun flow => endsAs_self _
  exact endsAs_bind (endsAs_findFirst each statements) fun returned => endsAs_self _

theorem endsAs_inScope {action other : Action Flow} (scope : ScopeId)
    (first : action.EndsAs other) : (inScope scope action).EndsAs (inScope scope other) :=
  fun machine => endsAs_ending first { machine with scope }

theorem endsAs_block (flows : FlowsEnd execute perform) (statements : List Statement) :
    (block execute statements).EndsAs (block perform statements) :=
  fun machine => endsAs_inScope machine.scopes.next (endsAs_sequence flows statements) _

theorem endsAs_callDeclared (flows : FlowsEnd execute perform) (line : Nat)
    (declaration : Declaration) (closure : ScopeId) (arguments : List Value) :
    (callDeclared execute line declaration closure arguments).EndsAs
      (callDeclared perform line declaration closure arguments) := by
  intro machine
  unfold callDeclared
  by_cases tooDeep : machine.settings.callLimit ≤ machine.depth
  · rw [if_pos tooDeep, if_pos tooDeep]
    exact .same
  · rw [if_neg tooDeep, if_neg tooDeep]
    have body := endsAs_sequence flows declaration.body
    exact endsAs_map (endsAs_ending (endsAs_inScope machine.scopes.next body)) _

/-- A call of any value ends as bodies of functions do: native functions and faults do not depend on
bounds. -/
theorem endsAs_callValue (flows : FlowsEnd execute perform) (line : Nat) (callee : Value)
    (arguments : List Value) :
    (callValue execute line callee arguments).EndsAs
      (callValue perform line callee arguments) := by
  cases callee with
  | function callee =>
      unfold callValue
      by_cases fits : callee.arity = arguments.length
      · simp only [if_pos fits]
        cases callee with
        | native identity builtin => exact endsAs_self _
        | declared identity declaration closure =>
            exact endsAs_callDeclared flows line declaration closure arguments
      · simp only [if_neg fits]
        exact endsAs_self _
  | _ => exact endsAs_self _

/-! ## Expressions and statements -/

/-- An expression ends as its parts and the bodies of functions do. -/
theorem endsAs_evaluateNode (values : ValuesEnd evaluate estimate)
    (flows : FlowsEnd execute perform) (expr : Expr) :
    (evaluateNode evaluate execute expr).EndsAs (evaluateNode estimate perform expr) := by
  cases expr with
  | literal line literal => exact endsAs_self _
  | grouping line inner => exact values inner
  | unary line op operand => exact endsAs_bind (values operand) fun value => endsAs_self _
  | binary line op left right =>
      refine endsAs_bind (values left) fun first => ?_
      exact endsAs_bind (values right) fun second => endsAs_self _
  | logical line op left right =>
      refine endsAs_bind (values left) fun first => ?_
      split
      · exact endsAs_self _
      · exact values right
  | reference line name => exact endsAs_self _
  | assign line name expr => exact endsAs_bind (values expr) fun value => endsAs_self _
  | update line op name operand => exact endsAs_bind (values operand) fun amount => endsAs_self _
  | call line callee arguments =>
      refine endsAs_bind (values callee) fun called => ?_
      refine endsAs_bind (endsAs_collect values arguments) fun given => ?_
      exact endsAs_callValue flows line called given

theorem endsAs_evaluateOption (values : ValuesEnd evaluate estimate)
    (expr : Option Expr) :
    (evaluateOption evaluate expr).EndsAs (evaluateOption estimate expr) := by
  cases expr with
  | none => exact endsAs_self _
  | some expr => exact values expr

/-- A loop with fewer rounds ends as one with more, if its condition and its body do. -/
theorem endsAs_whileLoop {condition test : Action Bool} {body other : Action Flow}
    {bound larger : Nat} (fewer : bound ≤ larger) (tests : condition.EndsAs test)
    (flows : body.EndsAs other) :
    (whileLoop bound condition body).EndsAs (whileLoop larger test other) := by
  refine endsAs_repeatUntil (endsAs_bind tests fun holds => ?_) fewer
  cases holds with
  | true => exact endsAs_bind flows fun flow => endsAs_self _
  | false => exact endsAs_self _

theorem endsAs_doWhileLoop {condition test : Action Bool} {body other : Action Flow}
    {bound larger : Nat} (fewer : bound ≤ larger) (tests : condition.EndsAs test)
    (flows : body.EndsAs other) :
    (doWhileLoop bound condition body).EndsAs (doWhileLoop larger test other) := by
  refine endsAs_repeatUntil (endsAs_bind flows fun flow => ?_) fewer
  cases flow with
  | returned value => exact endsAs_self _
  | normal => exact endsAs_bind tests fun holds => endsAs_self _

/-- A statement ends as its parts do, with rounds of loops to spare. -/
theorem endsAs_executeNode (values : ValuesEnd evaluate estimate)
    (flows : FlowsEnd execute perform) {bound larger : Nat}
    (fewer : bound ≤ larger) (statement : Statement) :
    (executeNode bound evaluate execute statement).EndsAs
      (executeNode larger estimate perform statement) := by
  cases statement with
  | expression line expr => exact endsAs_bind (values expr) fun value => endsAs_self _
  | print line expr => exact endsAs_bind (values expr) fun value => endsAs_self _
  | declare line name initial =>
      exact endsAs_bind (endsAs_evaluateOption values initial) fun value => endsAs_self _
  | block line body => exact endsAs_block flows body
  | branch line condition positive negative =>
      refine endsAs_bind (values condition) fun value => ?_
      split
      · exact flows positive
      · cases negative with
        | none => exact endsAs_self _
        | some negative => exact flows negative
  | choice line condition positive negative =>
      refine endsAs_bind (values condition) fun value => ?_
      split
      · exact flows positive
      · exact flows negative
  | whileLoop line condition body =>
      exact endsAs_whileLoop fewer (endsAs_map (values condition)) (flows body)
  | doWhileLoop line body condition =>
      exact endsAs_doWhileLoop fewer (endsAs_map (values condition)) (flows body)
  | function line name parameters body => exact endsAs_self _
  | giveBack line value =>
      exact endsAs_bind (endsAs_evaluateOption values value) fun result => endsAs_self _

end Evaluation

/-- Where an expression or a statement ends under some bound, it ends in the same way under a
greater one. -/
theorem endsAs_evaluate_execute {bound larger : Nat} (fewer : bound ≤ larger) :
    Evaluation.ValuesEnd (evaluate bound) (evaluate larger) ∧
      Evaluation.FlowsEnd (execute bound) (execute larger) := by
  induction bound generalizing larger with
  | zero =>
      constructor
      · intro expr
        rw [evaluate]
        exact Action.endsAs_exhausted _
      · intro statement
        rw [execute]
        exact Action.endsAs_exhausted _
  | succ bound ih =>
      obtain ⟨more, rfl⟩ := Nat.exists_eq_add_of_lt fewer
      have fewer : bound ≤ bound + more := Nat.le_add_right bound more
      obtain ⟨values, flows⟩ := ih fewer
      constructor
      · intro expr
        rw [evaluate, evaluate]
        exact Evaluation.endsAs_evaluateNode values flows expr
      · intro statement
        rw [execute, execute]
        exact Evaluation.endsAs_executeNode values flows fewer statement

namespace Machine

open Scriptlet.Action

variable {bound larger : Nat}

/-- **Statements in order end under every greater bound** as they do under this one. -/
theorem endsAs_executeAll (fewer : bound ≤ larger) (statements : List Statement) :
    (executeAll bound statements).EndsAs (executeAll larger statements) := by
  have each : ∀ statement,
      (do let _ ← execute bound statement; return none : Action (Option Unit)).EndsAs
        (do let _ ← execute larger statement; return none) :=
    fun statement =>
      endsAs_bind ((endsAs_evaluate_execute fewer).2 statement) fun _ => endsAs_self _
  exact endsAs_bind (endsAs_findFirst each statements) fun _ => endsAs_self _

/-- **A run of a program ends under every greater bound** as it does under this one. -/
theorem endsAs_interpret (fewer : bound ≤ larger) (statements : List Statement) :
    (interpret bound statements).EndsAs (interpret larger statements) := by
  intro machine
  have answer := endsAs_executeAll fewer statements machine
  unfold interpret
  generalize executeAll bound statements machine = ended,
    executeAll larger statements machine = last at answer ⊢
  cases answer with
  | unfinished => exact .unfinished
  | same => exact .same

/-- **Bounds do not matter**: a run that ends is the same under every greater bound. -/
theorem runWithin_of_le (fewer : bound ≤ larger) {source : String} {machine : Machine}
    (ends : runWithin bound source machine ≠ .unfinished) :
    runWithin larger source machine = runWithin bound source machine := by
  have answer := endsAs_interpret fewer (Program.ofSource source).statements machine
  unfold runWithin at ends ⊢
  by_cases clean : (Program.ofSource source).errors.isEmpty = true
  · simp only [if_pos clean] at ends ⊢
    generalize interpret bound (Program.ofSource source).statements machine = ended,
      interpret larger (Program.ofSource source).statements machine = last at answer ends ⊢
    cases answer with
    | unfinished => exact absurd rfl ends
    | same => rfl
  · simp only [if_neg clean]

end Machine

end Scriptlet
