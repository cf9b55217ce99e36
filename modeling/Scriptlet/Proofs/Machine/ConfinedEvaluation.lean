import Scriptlet.Proofs.Machine.Confinement
import Scriptlet.Proofs.Value.Plain
import Scriptlet.Surroundings

/-!
# What evaluation writes to

Every expression and every statement keeps the machine within the scopes that the current one
reaches and those made on the way. So the others have in the end what they had at the beginning, and
a function that comes out was declared in a scope that was reached or is new.
-/

namespace Scriptlet

variable {within : ScopeId → Prop} {old : Scopes} {since next : ScopeId} {line : Nat}
  {name : String} {value : Value}

/-- What is no function keeps no scope at all. -/
theorem Value.keepsWithin_of_isPlain (plain : value.isPlain = true) :
    value.KeepsWithin within next := by
  rintro scope ⟨_, _, rfl⟩
  cases plain

section

variable [Host]

/-! ## Names, bindings and output -/

namespace Machine

theorem confines_lookup : (lookup line name).Confines within old since fun next value =>
    value.KeepsWithin within next := by
  intro machine confined _
  unfold lookup
  cases found : machine.scopes.get machine.scope name with
  | error fault => exact ⟨confined, Nat.le_refl _⟩
  | ok value =>
      exact ⟨confined, Nat.le_refl _, confined.scopes.keepsWithin_of_get confined.member found⟩

/-- A binding in a scope of the set. -/
theorem Confined.define {machine : Machine} {holder : ScopeId}
    (confined : machine.Confined within old) (member : within holder)
    (keeps : value.KeepsWithin within machine.scopes.next) :
    Confined within old { machine with scopes := machine.scopes.define holder name value } where
  scopes := confined.scopes.define member keeps
  member := confined.member
  older := by
    rw [Scopes.next_define]
    exact confined.older

theorem confines_define (keeps : value.KeepsWithin within since) :
    (define name value).Confines within old since fun _ _ => True :=
  fun _ confined enough => ⟨confined.define confined.member (keeps.mono enough),
    Nat.le_of_eq (Scopes.next_define ..).symm, trivial⟩

/-- An assignment binds in the scope where the name is found, which is in the set. -/
theorem confines_assign (keeps : value.KeepsWithin within since) :
    (assign line name value).Confines within old since fun _ _ => True := by
  intro machine confined enough
  unfold assign
  split
  · next holder bound found =>
    have inside := confined.scopes.member_of_nearest? confined.member found
    exact ⟨confined.define inside (keeps.mono enough),
      Nat.le_of_eq (Scopes.next_define ..).symm, trivial⟩
  · exact ⟨confined, Nat.le_refl _⟩

theorem confines_writeLine :
    (writeLine line value).Confines within old since fun _ _ => True := by
  intro machine confined _
  have same : Confined within old { machine with
      output := (machine.output.write (Text.encode (value.display ++ "\n"))).1 } :=
    ⟨confined.scopes, confined.member, confined.older⟩
  unfold writeLine
  dsimp only
  split
  · exact ⟨same, Nat.le_refl _, trivial⟩
  · exact ⟨same, Nat.le_refl _⟩

end Machine

/-! ## Statements in order, and in other scopes -/

/-- What is returned keeps only scopes of a set that exist. -/
def Flow.KeepsWithin (within : ScopeId → Prop) (next : ScopeId) (flow : Flow) : Prop :=
  ∀ value, flow = .returned value → value.KeepsWithin within next

omit [Host] in
/-- Nothing is returned that could keep a scope. -/
theorem Flow.keepsWithin_normal : Flow.normal.KeepsWithin within next :=
  fun _ same => by cases same

/-- An action keeps the machine confined and returns only what keeps scopes of the set. -/
def Action.ConfinesFlow (within : ScopeId → Prop) (old : Scopes) (action : Action Flow) : Prop :=
  action.Confines within old 0 fun next flow => flow.KeepsWithin within next

/-- An action keeps the machine confined and gives only values that keep scopes of the set. -/
def Action.ConfinesValue (within : ScopeId → Prop) (old : Scopes) (action : Action Value) : Prop :=
  action.Confines within old 0 fun next value => value.KeepsWithin within next

namespace Evaluation

open Scriptlet.Action Scriptlet.Machine

variable {evaluate : Expr → Action Value} {execute : Statement → Action Flow}
  {statements : List Statement} {scope : ScopeId}

/-- What a body may do inside of a loop or of a list of statements: return, or go on. -/
def ReturnsWithin (within : ScopeId → Prop) (next : ScopeId) (returned : Option Flow) : Prop :=
  ∀ flow ∈ returned, flow.KeepsWithin within next

omit [Host] in
/-- What is returned out of a loop or of statements in order keeps scopes of the set. -/
theorem returnsWithin_asReturned? {flow : Flow} (keeps : flow.KeepsWithin within next) :
    ReturnsWithin within next flow.asReturned? := by
  cases flow with
  | normal => exact fun _ none => by cases none
  | returned value =>
      rintro _ ⟨⟩
      exact keeps

theorem confines_asReturned? {action : Action Flow} (confines : action.ConfinesFlow within old) :
    (do return (← action).asReturned? : Action (Option Flow)).Confines within old 0
      (ReturnsWithin within) := by
  rw [bind_pure_comp]
  exact confines_map confines fun _ _ keeps => returnsWithin_asReturned? keeps

theorem confines_sequence (confines : ∀ statement, (execute statement).ConfinesFlow within old) :
    (sequence execute statements).ConfinesFlow within old := by
  unfold sequence ConfinesFlow
  rw [bind_pure_comp]
  refine confines_map (confines_findFirst (fun _ _ none => by cases none)
    fun statement _ => confines_asReturned? (confines statement)) fun returned next keeps => ?_
  cases returned with
  | none => exact Flow.keepsWithin_normal
  | some flow => exact keeps flow rfl

/-- Another scope of the set is current for a while. -/
theorem confined_inScope {action : Action Flow} {machine : Machine}
    (confines : action.ConfinesFlow within old) (scopes : machine.scopes.Confined within old)
    (previous : within machine.scope) (earlier : machine.scope < machine.scopes.next)
    (member : within scope) (older : scope < machine.scopes.next) :
    (inScope scope action machine).Confined within old machine.scopes.next fun next flow =>
      flow.KeepsWithin within next := by
  have inside : Confined within old { machine with scope } := ⟨scopes, member, older⟩
  refine confined_ending (confines inside (Nat.zero_le _)) fun after confined grown => ⟨?_, rfl⟩
  exact ⟨confined.scopes, previous, Nat.lt_of_lt_of_le earlier grown⟩

/-- A block is confined: its new scope is in the set, inside of the current one. -/
theorem confines_block (confines : ∀ statement, (execute statement).ConfinesFlow within old) :
    (block execute statements).ConfinesFlow within old := by
  intro machine confined _
  have scopes := confined.scopes.enclose confined.member confined.older
  have isNew : within machine.scopes.next := confined.scopes.fresh confined.scopes.grown
  have grown : machine.scopes.next ≤ (machine.scopes.enclose machine.scope).next := by
    rw [Scopes.next_enclose]
    exact Nat.le_succ _
  change (inScope machine.scopes.next (sequence execute statements)
    { machine with scopes := machine.scopes.enclose machine.scope }).Confined within old
      machine.scopes.next _
  refine Outcome.Confined.sooner (confined_inScope (confines_sequence confines) scopes
    confined.member ?_ isNew ?_) grown
  · exact Nat.lt_of_lt_of_le confined.older grown
  · simp

/-! ## Calls -/

/-- A native function is confined, and gives a value that keeps no scope. -/
theorem confines_callNative {builtin : Native} {arguments : List Value} :
    (callNative builtin arguments).ConfinesValue within old :=
  fun machine confined _ => ⟨⟨confined.scopes, confined.member, confined.older⟩, Nat.le_refl _,
    Value.keepsWithin_of_isPlain (builtin.isPlain_call arguments machine.world)⟩

/-- A call of a declared function runs in a new scope inside of the one that the function keeps. -/
theorem confines_callDeclared {declaration : Declaration} {closure : ScopeId}
    {arguments : List Value} (confines : ∀ statement, (execute statement).ConfinesFlow within old)
    (member : within closure) (older : closure < since)
    (keeps : ∀ argument ∈ arguments, argument.KeepsWithin within since) :
    (callDeclared execute line declaration closure arguments).Confines within old since
      fun next value => value.KeepsWithin within next := by
  intro machine confined enough
  unfold callDeclared
  split
  · exact confines_fail confined enough
  · have isOlder : closure < machine.scopes.next := Nat.lt_of_lt_of_le older enough
    have isNew : within machine.scopes.next := confined.scopes.fresh confined.scopes.grown
    have scopes : ((machine.scopes.enclose closure).defineAll machine.scopes.next
        (declaration.parameters.zip arguments)).Confined within old := by
      refine (confined.scopes.enclose member isOlder).defineAll isNew fun binding inside => ?_
      have argument := keeps binding.2 (List.of_mem_zip inside).2
      rw [Scopes.next_enclose]
      exact argument.mono (Nat.le_succ_of_le enough)
    have grown : machine.scopes.next < ((machine.scopes.enclose closure).defineAll
        machine.scopes.next (declaration.parameters.zip arguments)).next := by
      rw [Scopes.next_defineAll, Scopes.next_enclose]
      exact Nat.lt_succ_self _
    dsimp only
    generalize (machine.scopes.enclose closure).defineAll machine.scopes.next
      (declaration.parameters.zip arguments) = bound at scopes grown ⊢
    have inner : (inScope machine.scopes.next (sequence execute declaration.body)
        { machine with scopes := bound, depth := machine.depth + 1 }).Confined within old bound.next
        fun next flow => flow.KeepsWithin within next :=
      confined_inScope (confines_sequence confines) scopes confined.member
        (Nat.lt_trans confined.older grown) isNew grown
    refine Outcome.Confined.sooner (confined_map (confined_ending inner ?_) ?_) (Nat.le_of_lt grown)
    · exact fun after confined _ => ⟨⟨confined.scopes, confined.member, confined.older⟩, rfl⟩
    · intro flow next keeps
      cases flow with
      | normal => exact Value.keepsWithin_of_isPlain rfl
      | returned value => exact keeps value rfl

/-- A call is confined: the body is executed in a new scope inside of the one that the function
keeps, which is in the set. -/
theorem confines_callValue {callee : Value} {arguments : List Value}
    (confines : ∀ statement, (execute statement).ConfinesFlow within old)
    (callable : callee.KeepsWithin within since)
    (keeps : ∀ argument ∈ arguments, argument.KeepsWithin within since) :
    (callValue execute line callee arguments).Confines within old since
      fun next value => value.KeepsWithin within next := by
  unfold callValue
  split
  · next callee =>
    split
    · cases callee with
      | native identity builtin => exact confines_callNative.later (Nat.zero_le since)
      | declared identity declaration closure =>
          obtain ⟨member, older⟩ := callable ⟨identity, declaration, rfl⟩
          exact confines_callDeclared confines member older keeps
    · exact confines_fail
  · exact confines_fail

/-! ## Expressions and statements -/

/-- An expression is confined if the expressions inside of it and the bodies of functions are. -/
theorem confines_evaluateNode (values : ∀ expr, (evaluate expr).ConfinesValue within old)
    (flows : ∀ statement, (execute statement).ConfinesFlow within old) (expr : Expr) :
    (evaluateNode evaluate execute expr).ConfinesValue within old := by
  have value (expr : Expr) (since : ScopeId) : (evaluate expr).Confines within old since
      fun next value => value.KeepsWithin within next :=
    (values expr).later (Nat.zero_le since)
  cases expr with
  | literal line literal =>
      exact confines_pure fun _ _ => Value.keepsWithin_of_isPlain (Value.isPlain_ofLiteral literal)
  | grouping line inner => exact values inner
  | unary line op operand =>
      refine confines_bind (values operand) fun operand _ _ _ => confines_ofExcept ?_
      exact fun result given _ _ => Value.keepsWithin_of_isPlain (UnaryOp.isPlain_of_apply given)
  | binary line op left right =>
      refine confines_bind (values left) fun left later _ _ => ?_
      refine confines_bind (value right later) fun right _ _ _ => confines_ofExcept ?_
      exact fun result given _ _ => Value.keepsWithin_of_isPlain (BinaryOp.isPlain_of_apply given)
  | logical line op left right =>
      refine confines_bind (values left) fun left later _ keeps => ?_
      split
      · exact confines_pure fun _ grown => keeps.mono grown
      · exact value right later
  | reference line name => exact confines_lookup
  | assign line name expr =>
      refine confines_bind (values expr) fun result later _ keeps => ?_
      refine confines_bind (confines_assign keeps) fun _ last grown _ => ?_
      exact confines_pure fun _ more => keeps.mono (Nat.le_trans grown more)
  | update line op name operand =>
      refine confines_bind (values operand) fun operand later _ _ => ?_
      refine confines_bind confines_lookup fun current later _ _ => ?_
      have plain : (ofExcept line (op.apply current operand)).Confines within old later
          fun _ value => value.isPlain = true :=
        confines_ofExcept fun result given _ _ => UpdateOp.isPlain_of_apply given
      refine confines_bind plain fun result later _ plain => ?_
      refine confines_bind (confines_assign (Value.keepsWithin_of_isPlain plain)) fun _ _ _ _ => ?_
      exact confines_pure fun _ _ => Value.keepsWithin_of_isPlain plain
  | call line callee arguments =>
      refine confines_bind (values callee) fun callee later _ callable => ?_
      have all : (collect evaluate arguments).Confines within old 0 fun next values =>
          ∀ value ∈ values, value.KeepsWithin within next :=
        confines_collect (fun keeps grown => keeps.mono grown) fun argument _ => values argument
      refine confines_bind (all.later (Nat.zero_le later)) fun arguments last grown keeps => ?_
      exact confines_callValue flows (callable.mono grown) keeps

theorem confines_evaluateOption (values : ∀ expr, (evaluate expr).ConfinesValue within old)
    (expr : Option Expr) : (evaluateOption evaluate expr).ConfinesValue within old := by
  cases expr with
  | none => exact confines_pure fun _ _ => Value.keepsWithin_of_isPlain rfl
  | some expr => exact values expr

theorem confines_condition (values : ∀ expr, (evaluate expr).ConfinesValue within old)
    (condition : Expr) :
    (Value.truthy <$> evaluate condition).Confines within old 0 fun _ _ => True :=
  confines_map (values condition) fun _ _ _ => trivial

theorem confines_whileLoop {bound : Nat} {condition : Action Bool} {body : Action Flow}
    (tests : condition.Confines within old 0 fun _ _ => True)
    (flows : body.ConfinesFlow within old) :
    (whileLoop bound condition body).ConfinesFlow within old := by
  refine (@confines_repeatUntil _ _ _ _ _ (ReturnsWithin within) ?_ bound).imp
    fun flow next keeps => keeps flow rfl
  refine confines_bind tests fun holds later _ _ => ?_
  cases holds with
  | true => exact (confines_asReturned? flows).later (Nat.zero_le later)
  | false =>
      refine confines_pure fun next _ flow same => ?_
      cases same
      exact Flow.keepsWithin_normal

theorem confines_doWhileLoop {bound : Nat} {condition : Action Bool} {body : Action Flow}
    (tests : condition.Confines within old 0 fun _ _ => True)
    (flows : body.ConfinesFlow within old) :
    (doWhileLoop bound condition body).ConfinesFlow within old := by
  refine (@confines_repeatUntil _ _ _ _ _ (ReturnsWithin within) ?_ bound).imp
    fun flow next keeps => keeps flow rfl
  refine confines_bind flows fun flow later _ keeps => ?_
  cases flow with
  | returned value =>
      refine confines_pure fun next grown flow same => ?_
      cases same
      rintro _ ⟨⟩
      exact (keeps value rfl).mono grown
  | normal =>
      refine confines_bind (tests.later (Nat.zero_le later)) fun holds last _ _ => ?_
      cases holds with
      | true => exact confines_pure fun _ _ _ none => by cases none
      | false =>
          refine confines_pure fun next _ flow same => ?_
          cases same
          exact Flow.keepsWithin_normal

theorem confines_normal : (pure Flow.normal : Action Flow).Confines within old since
    fun next flow => flow.KeepsWithin within next :=
  confines_pure fun _ _ => Flow.keepsWithin_normal

/-- A statement is confined if its parts are. -/
theorem confines_executeNode {bound : Nat}
    (values : ∀ expr, (evaluate expr).ConfinesValue within old)
    (flows : ∀ statement, (execute statement).ConfinesFlow within old) (statement : Statement) :
    (executeNode bound evaluate execute statement).ConfinesFlow within old := by
  have flow (statement : Statement) (since : ScopeId) :
      (execute statement).Confines within old since fun next flow => flow.KeepsWithin within next :=
    (flows statement).later (Nat.zero_le since)
  cases statement with
  | expression line expr =>
      refine confines_bind (values expr) fun value later _ _ => ?_
      refine confines_bind confines_inspect fun echo later _ _ => ?_
      cases echo with
      | true => exact confines_bind confines_writeLine fun _ _ _ _ => confines_normal
      | false => exact confines_normal
  | print line expr =>
      refine confines_bind (values expr) fun value later _ _ => ?_
      exact confines_bind confines_writeLine fun _ _ _ _ => confines_normal
  | declare line name initial =>
      refine confines_bind (confines_evaluateOption values initial) fun value later _ keeps => ?_
      exact confines_bind (confines_define keeps) fun _ _ _ _ => confines_normal
  | block line body => exact confines_block flows
  | branch line condition positive negative =>
      refine confines_bind (values condition) fun value later _ _ => ?_
      split
      · exact flow positive later
      · cases negative with
        | none => exact confines_normal
        | some negative => exact flow negative later
  | choice line condition positive negative =>
      refine confines_bind (values condition) fun value later _ _ => ?_
      split
      · exact flow positive later
      · exact flow negative later
  | whileLoop line condition body =>
      exact confines_whileLoop (confines_condition values condition) (flows body)
  | doWhileLoop line body condition =>
      exact confines_doWhileLoop (confines_condition values condition) (flows body)
  | function line name parameters body =>
      intro machine confined _
      have inside : Confined within old { machine with
          scopes := { machine.scopes with functions := machine.scopes.functions + 1 } } :=
        ⟨confined.scopes.withFunctions _, confined.member, confined.older⟩
      have keeps : (Value.function (.declared machine.scopes.functions
            ⟨line, name, parameters, body⟩ machine.scope)).KeepsWithin within
          machine.scopes.next := by
        rintro scope ⟨_, _, same⟩
        cases same
        exact ⟨confined.member, confined.older⟩
      exact (confines_bind (confines_define keeps) fun _ _ _ _ => confines_normal) inside
        (Nat.le_refl _)
  | giveBack line value =>
      refine confines_bind (confines_evaluateOption values value) fun value later _ keeps => ?_
      refine confines_pure fun next grown other same => ?_
      cases same
      exact keeps.mono grown

end Evaluation

/-- **Every expression and every statement stays within** any set that the links from the current
scope do not leave. -/
theorem confines_evaluate_execute (bound : Nat) :
    (∀ expr, (evaluate bound expr).ConfinesValue within old) ∧
      ∀ statement, (execute bound statement).ConfinesFlow within old := by
  induction bound with
  | zero =>
      constructor
      · intro expr
        rw [evaluate]
        exact Action.confines_exhausted
      · intro statement
        rw [execute]
        exact Action.confines_exhausted
  | succ bound ih =>
      constructor
      · intro expr
        rw [evaluate]
        exact Evaluation.confines_evaluateNode ih.1 ih.2 expr
      · intro statement
        rw [execute]
        exact Evaluation.confines_executeNode ih.1 ih.2 statement

/-- However an expression or a statement ends, the machine is confined as before, and so is a value
that it ends with. -/
theorem confined_of_ended {machine after : Machine} (confined : machine.Confined within old)
    (bound : Nat) :
    (∀ expr value, evaluate bound expr machine = .done value after →
      after.Confined within old ∧ value.KeepsWithin within after.scopes.next) ∧
    (∀ expr error, evaluate bound expr machine = .failed error after →
      after.Confined within old) ∧
    (∀ statement flow, execute bound statement machine = .done flow after →
      after.Confined within old ∧ flow.KeepsWithin within after.scopes.next) ∧
    (∀ statement error, execute bound statement machine = .failed error after →
      after.Confined within old) := by
  obtain ⟨values, flows⟩ := confines_evaluate_execute bound
  refine ⟨?_, ?_, ?_, ?_⟩
  · intro expr value ended
    have answer := values expr confined (Nat.zero_le _)
    rw [ended] at answer
    exact ⟨answer.1, answer.2.2⟩
  · intro expr error ended
    have answer := values expr confined (Nat.zero_le _)
    rw [ended] at answer
    exact answer.1
  · intro statement flow ended
    have answer := flows statement confined (Nat.zero_le _)
    rw [ended] at answer
    exact ⟨answer.1, answer.2.2⟩
  · intro statement error ended
    have answer := flows statement confined (Nat.zero_le _)
    rw [ended] at answer
    exact answer.1

/-! ## Machines stay well-formed -/

namespace Machine

/-- A well-formed machine is confined to all scopes. -/
theorem WellFormed.confined_all {machine : Machine} (formed : machine.WellFormed) :
    machine.Confined (fun _ => True) machine.scopes where
  scopes :=
    { fresh := fun _ => trivial
      grown := Nat.le_refl _
      closed := fun _ present links => ⟨trivial, formed.scopes present links⟩
      kept := fun _ => rfl }
  member := trivial
  older := formed.current

/-- Where the set holds all scopes, a machine that is confined is well-formed. -/
theorem Confined.wellFormed {machine : Machine} (confined : machine.Confined (fun _ => True) old) :
    machine.WellFormed :=
  ⟨fun _ _ _ present links => (confined.scopes.closed trivial present links).2, confined.older⟩

end Machine

/-- However an expression or a statement ends, it leaves a well-formed machine behind. -/
theorem wellFormed_of_ended {machine after : Machine} (formed : machine.WellFormed) (bound : Nat) :
    (∀ expr value, evaluate bound expr machine = .done value after → after.WellFormed) ∧
    (∀ expr error, evaluate bound expr machine = .failed error after → after.WellFormed) ∧
    (∀ statement flow, execute bound statement machine = .done flow after → after.WellFormed) ∧
    (∀ statement error, execute bound statement machine = .failed error after →
      after.WellFormed) := by
  obtain ⟨value, valueError, flow, flowError⟩ :=
    @confined_of_ended _ _ _ machine after formed.confined_all bound
  refine ⟨?_, ?_, ?_, ?_⟩
  · exact fun expr result ended => (value expr result ended).1.wellFormed
  · exact fun expr error ended => (valueError expr error ended).wellFormed
  · exact fun statement result ended => (flow statement result ended).1.wellFormed
  · exact fun statement error ended => (flowError statement error ended).wellFormed

/-! ## The scopes that are reached -/

/-- The scopes that the current one reaches, and all that do not exist yet. -/
def Machine.Within (machine : Machine) (scope : ScopeId) : Prop :=
  machine.scopes.Reaches machine.scope scope ∨ machine.scopes.next ≤ scope

/-- A well-formed machine is confined to the scopes that the current one reaches and to new ones. -/
theorem Machine.WellFormed.confined {machine : Machine} (formed : machine.WellFormed) :
    machine.Confined machine.Within machine.scopes where
  scopes :=
    { fresh := .inr
      grown := Nat.le_refl _
      closed := fun inside present links => by
        have exists_ := formed.scopes present links
        rcases inside with reached | new
        · exact ⟨.inl (.step reached present links), exists_⟩
        · exact absurd (Scopes.lt_next_of_frame present) (Nat.not_lt_of_le new)
      kept := fun _ => rfl }
  member := .inl .self
  older := formed.current

/-- All scopes but those that the current one reached are as they were. -/
def Machine.KeepsUnreached (before after : Machine) : Prop :=
  ∀ scope, scope < before.scopes.next → ¬ before.scopes.Reaches before.scope scope →
    after.scopes.frames[scope]? = before.scopes.frames[scope]?

/-- A value keeps only scopes that the current one reached, or that are new. -/
def Machine.ReachedOrNew (before after : Machine) (value : Value) : Prop :=
  ∀ scope, value.Keeps scope → before.scopes.Reaches before.scope scope ∨
    (before.scopes.next ≤ scope ∧ scope < after.scopes.next)

/-- A machine that is confined to what was reached and what is new keeps all that was not
reached. -/
theorem Machine.Confined.keepsUnreached {before after : Machine}
    (confined : after.Confined before.Within before.scopes) : before.KeepsUnreached after := by
  intro scope isOld unreached
  refine confined.scopes.kept ?_
  rintro (reached | new)
  · exact unreached reached
  · exact absurd isOld (Nat.not_lt_of_le new)

/-- A value that keeps scopes within those that were reached or are new keeps none but these. -/
theorem Value.KeepsWithin.reachedOrNew {before after : Machine}
    (keeps : value.KeepsWithin before.Within after.scopes.next) :
    before.ReachedOrNew after value := by
  intro scope kept
  obtain ⟨reached | new, exists_⟩ := keeps kept
  · exact .inl reached
  · exact .inr ⟨new, exists_⟩

/-- **Writes stay inside of the scopes that are reached.** However an expression or a statement
ends, scopes that the current one did not reach are as they were; and a function that an expression
gives or a statement returns was declared in a scope that was reached, or in a new one. -/
theorem keepsUnreached_of_ended (machine : Machine) (formed : machine.WellFormed) (bound : Nat) :
    (∀ expr value after, evaluate bound expr machine = .done value after →
      machine.KeepsUnreached after ∧ machine.ReachedOrNew after value) ∧
    (∀ expr error after, evaluate bound expr machine = .failed error after →
      machine.KeepsUnreached after) ∧
    (∀ statement flow after, execute bound statement machine = .done flow after →
      machine.KeepsUnreached after ∧
        ∀ value, flow = .returned value → machine.ReachedOrNew after value) ∧
    (∀ statement error after, execute bound statement machine = .failed error after →
      machine.KeepsUnreached after) := by
  have confined := formed.confined
  refine ⟨?_, ?_, ?_, ?_⟩
  · intro expr value after ended
    obtain ⟨still, keeps⟩ := (confined_of_ended confined bound).1 expr value ended
    exact ⟨still.keepsUnreached, keeps.reachedOrNew⟩
  · intro expr error after ended
    exact ((confined_of_ended confined bound).2.1 expr error ended).keepsUnreached
  · intro statement flow after ended
    obtain ⟨still, keeps⟩ := (confined_of_ended confined bound).2.2.1 statement flow ended
    exact ⟨still.keepsUnreached, fun value returned => (keeps value returned).reachedOrNew⟩
  · intro statement error after ended
    exact ((confined_of_ended confined bound).2.2.2 statement error ended).keepsUnreached

end

/-- A function that binds `x` anew and returns itself, and that was declared in the second scope. -/
def Value.clearing : Value :=
  .function (.declared 0 ⟨1, "f", [],
    [.expression 1 (.assign 1 "x" (.literal 1 .nil)), .giveBack 1 (some (.reference 1 "f"))]⟩ 1)

/-- A machine with two scopes inside of the current one that bind `x`. A function leads to the first
of them, and nothing to the second. -/
def Machine.holding (x : Value) (made : List Frame) : Machine where
  settings := ⟨false, 10⟩
  scopes :=
    { frames := ⟨[⟨[("f", Value.clearing)], none⟩, ⟨[("x", x)], some 0⟩,
        ⟨[("x", .bool true)], some 0⟩] ++ made⟩
      functions := 1 }
  globals := 0
  scope := 0
  depth := 0
  world := .bare []
  output := .unlimited

/-- A frame with one binding leads to its outer scope and to what its value keeps. -/
theorem Frame.links_of_single {outer : Option ScopeId} {next : ScopeId}
    (links : Frame.LinksTo ⟨[(name, value)], outer⟩ next) :
    outer = some next ∨ value.Keeps next := by
  rcases links with stands | ⟨other, bound, found, keeps⟩
  · exact .inl stands
  · by_cases same : other = name
    · rw [same, Bindings.find?, List.lookup_cons_self] at found
      cases found
      exact .inr keeps
    · have different : (other == name) = false := by simpa using same
      rw [Bindings.find?, List.lookup_cons, different] at found
      cases found

/-- In the machine of the example no frame leads to the third scope. -/
theorem Machine.linksTo_holding {frame : Frame} {scope next : ScopeId}
    (present : (holding (.bool true) []).scopes.frames[scope]? = some frame)
    (links : frame.LinksTo next) : next < 2 := by
  match scope, present with
  | 0, rfl =>
      rcases Frame.links_of_single links with stands | ⟨_, _, keeps⟩
      · cases stands
      · cases keeps
        decide
  | 1, rfl | 2, rfl =>
      rcases Frame.links_of_single links with stands | ⟨_, _, keeps⟩
      · cases stands
        decide
      · cases keeps
  | _ + 3, present => cases present

/-- The theorem at a call that binds `x` anew in one scope and leaves the one beside it alone. -/
theorem keepsUnreached_of_call :
    (Machine.holding (.bool true) []).WellFormed ∧
      evaluate 6 (.call 1 (.reference 1 "f") []) (.holding (.bool true) []) =
        .done .clearing (.holding .nil [⟨[], some 1⟩]) ∧
      ¬ (Machine.holding (.bool true) []).scopes.Reaches 0 2 ∧
      (Machine.holding (.bool true) []).KeepsUnreached (.holding .nil [⟨[], some 1⟩]) ∧
      (Machine.holding (.bool true) []).ReachedOrNew (.holding .nil [⟨[], some 1⟩]) .clearing := by
  have formed : (Machine.holding (.bool true) []).WellFormed :=
    { scopes := fun _ _ _ present links =>
        Nat.lt_trans (Machine.linksTo_holding present links) (by decide)
      current := by decide }
  have evaluated : evaluate 6 (.call 1 (.reference 1 "f") []) (.holding (.bool true) []) =
      .done .clearing (.holding .nil [⟨[], some 1⟩]) := by
    with_unfolding_all rfl
  refine ⟨formed, evaluated, ?_, (keepsUnreached_of_ended _ formed 6).1 _ _ _ evaluated⟩
  intro reached
  cases reached with
  | step _ present links => exact absurd (Machine.linksTo_holding present links) (by decide)

end Scriptlet
