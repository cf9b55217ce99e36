import Scriptlet.Machine.Run
import Scriptlet.Proofs.Machine.Comparison
import Scriptlet.Proofs.Syntax.Declarations

/-!
# Expressions and statements under a comparison

A comparison that is sound for what single steps do to a machine is sound for expressions,
statements, calls and programs: each does the same in both runs. What a step does is a new binding,
a binding anew, a new function, something written, a change of the world, and the beginning and the
end of a block or of the body of a function. A comparison that is sound for all but the first and
the third, but within blocks and bodies gives way to one that is sound, is sound for what declares
nothing.
-/

namespace Scriptlet

variable [Host]

variable {Stage Phase : Type} {line : Nat} {machine final : Machine} {declaration : Declaration}
  {closure : ScopeId} {arguments : List Value}

/-! ## Blocks and bodies of functions -/

namespace Machine

/-- The machine at the beginning of a block: in a new scope inside of the current one. -/
def enterBlock (machine : Machine) : Machine :=
  { machine with
    scopes := machine.scopes.enclose machine.scope
    scope := machine.scopes.next }

/-- The machine at the end of a block: back where it was before. -/
def leaveBlock (before after : Machine) : Machine :=
  { after with scope := before.scope }

/-- The machine at the beginning of the body of a function: in a new scope, inside of the one that
the function keeps, in which the parameters are bound. -/
def enterBody (machine : Machine) (declaration : Declaration) (closure : ScopeId)
    (arguments : List Value) : Machine :=
  { machine with
    scopes := (machine.scopes.enclose closure).defineAll machine.scopes.next
      (declaration.parameters.zip arguments)
    scope := machine.scopes.next
    depth := machine.depth + 1 }

/-- The machine at the end of the body of a function: back where it was before the call. -/
def leaveBody (before after : Machine) : Machine :=
  { after with scope := before.scope, depth := after.depth - 1 }

end Machine

namespace Evaluation

open Scriptlet.Action Scriptlet.Machine

variable {evaluate : Expr → Action Value} {execute : Statement → Action Flow}
  {statements : List Statement}

/-- A block is its statements in order, from a new scope on and with the old one put back behind
them. -/
theorem block_apply : block execute statements machine =
    (sequence execute statements).ending machine.leaveBlock machine.enterBlock := rfl

/-- A call that is too deep fails before its arguments are bound. -/
theorem callDeclared_of_deep (deep : machine.settings.callLimit ≤ machine.depth) :
    callDeclared execute line declaration closure arguments machine =
      fail line (.callsTooDeep machine.settings.callLimit) machine :=
  if_pos deep

/-- Where a call is possible, it is what the body does, in a scope of its own. -/
theorem callDeclared_of_shallow (shallow : ¬ machine.settings.callLimit ≤ machine.depth) :
    callDeclared execute line declaration closure arguments machine =
      (Flow.callValue <$> (sequence execute declaration.body).ending machine.leaveBody)
        (machine.enterBody declaration closure arguments) := by
  have body : (inScope machine.scopes.next (sequence execute declaration.body)).ending
        (fun after => { after with depth := after.depth - 1 })
        { machine with
          scopes := (machine.scopes.enclose closure).defineAll machine.scopes.next
            (declaration.parameters.zip arguments)
          depth := machine.depth + 1 } =
      (sequence execute declaration.body).ending machine.leaveBody
        (machine.enterBody declaration closure arguments) := by
    unfold inScope ending enterBody leaveBody
    dsimp only
    cases sequence execute declaration.body _ <;> rfl
  rw [callDeclared, if_neg shallow]
  dsimp only
  rw [← bind_pure_comp, ← bind_pure_comp, bind_apply, bind_apply, body]

/-- Writes the value of an expression statement out, if that is wanted. -/
def echoLine (line : Nat) (value : Value) : Action Unit := do
  if ← inspect (·.settings.echo) then writeLine line value

/-- Where values are written alike, they are echoed alike. -/
theorem matches_echoLine {comparison : Comparison Stage} {stage : Stage} {value other : Value}
    (same : ∀ ⦃machine final⦄, comparison.machines stage machine final →
      final.settings.echo = machine.settings.echo)
    (writes : ∀ ⦃later⦄, comparison.leads stage later →
      (writeLine line value).Matches comparison later (fun _ _ _ => True) (writeLine line other)) :
    (echoLine line value).Matches comparison stage (fun _ _ _ => True) (echoLine line other) := by
  have echoes : (inspect (·.settings.echo)).Matches comparison stage (fun _ => Eq)
      (inspect (·.settings.echo)) :=
    matches_inspect fun _ _ corresponds => (same corresponds).symm
  refine matches_bind echoes ?_
  rintro later echo _ leads rfl
  cases echo with
  | true => exact writes leads
  | false => exact matches_pure trivial

/-- A statement that is an expression echoes its value. -/
theorem executeNode_expression {bound : Nat} {expr : Expr} :
    executeNode bound evaluate execute (.expression line expr) = (do
      let value ← evaluate expr
      echoLine line value
      return .normal) := by
  simp only [executeNode, echoLine, bind_assoc]
  congr 1
  funext value
  congr 1
  funext echo
  cases echo <;> rfl

end Evaluation

/-! ## What has to be known of single steps -/

/-- Two statements end in the same way, with values that correspond where they return. -/
inductive Flow.Matches (comparison : Comparison Stage) (stage : Stage) : Flow → Flow → Prop
  | normal : Flow.Matches comparison stage .normal .normal
  | returned {value other : Value} : comparison.values stage value other →
      Flow.Matches comparison stage (.returned value) (.returned other)

/-- Statements that end alike under one comparison do so under another one that knows of the values
they return. -/
theorem Flow.Matches.imp {inner : Comparison Phase} {outer : Comparison Stage}
    {phase : Phase} {stage : Stage} {flow other : Flow} (same : flow.Matches inner phase other)
    (keeps : ∀ ⦃value other⦄, inner.values phase value other → outer.values stage value other) :
    flow.Matches outer stage other := by
  cases same with
  | normal => exact .normal
  | returned value => exact .returned (keeps value)

/-- What single steps do to machines that correspond leads to machines that do, but for
declarations. Within blocks and the bodies of functions another comparison takes over. -/
structure Comparison.SoundAround (inner : Comparison Phase) (comparison : Comparison Stage) :
    Prop where
  limit {stage : Stage} {machine final : Machine} :
    comparison.machines stage machine final →
    final.settings.callLimit = machine.settings.callLimit ∧ final.depth = machine.depth
  nearest {stage : Stage} {machine final : Machine} (name : String) :
    comparison.machines stage machine final →
    Option.Rel (fun here there => comparison.values stage here.2 there.2)
      (machine.scopes.nearest? name machine.scope) (final.scopes.nearest? name final.scope)
  assign {stage : Stage} {machine final : Machine} {value other old past : Value}
    {holder keeper : ScopeId} {name : String} :
    comparison.machines stage machine final →
    machine.scopes.nearest? name machine.scope = some (holder, old) →
    final.scopes.nearest? name final.scope = some (keeper, past) →
    comparison.values stage value other →
    comparison.GoesTo stage { machine with scopes := machine.scopes.define holder name value }
      { final with scopes := final.scopes.define keeper name other }
  write {stage : Stage} {value other : Value} (line : Nat) : comparison.values stage value other →
    (Machine.writeLine line value).Matches comparison stage (fun _ _ _ => True)
      (Machine.writeLine line other)
  echo {stage : Stage} {value other : Value} (line : Nat) : comparison.values stage value other →
    (Evaluation.echoLine line value).Matches comparison stage (fun _ _ _ => True)
      (Evaluation.echoLine line other)
  world {stage : Stage} {machine final : Machine} : comparison.machines stage machine final →
    final.world = machine.world ∧
      ∀ world, comparison.GoesTo stage { machine with world } { final with world }
  block {stage : Stage} {machine final : Machine} : comparison.machines stage machine final →
    inner.Enters comparison stage machine.enterBlock final.enterBlock machine.leaveBlock
      final.leaveBlock
  body {stage : Stage} {machine final : Machine} {identity : Nat} {declaration : Declaration}
    {closure other : ScopeId} {arguments others : List Value} :
    comparison.machines stage machine final →
    comparison.values stage (.function (.declared identity declaration closure))
      (.function (.declared identity declaration other)) →
    List.Forall₂ (comparison.values stage) arguments others →
    inner.Enters comparison stage (machine.enterBody declaration closure arguments)
      (final.enterBody declaration other others) machine.leaveBody final.leaveBody

/-- What single steps do to machines that correspond leads to machines that do. -/
structure Comparison.Sound (comparison : Comparison Stage) : Prop
    extends Comparison.SoundAround comparison comparison where
  define {stage : Stage} {machine final : Machine} {value other : Value} (name : String) :
    comparison.machines stage machine final → comparison.values stage value other →
    comparison.GoesTo stage
      { machine with scopes := machine.scopes.define machine.scope name value }
      { final with scopes := final.scopes.define final.scope name other }
  function {stage : Stage} {machine final : Machine} (declaration : Declaration) :
    comparison.machines stage machine final →
    ∃ later, comparison.leads stage later ∧
      comparison.machines later
        { machine with scopes := (machine.scopes.newFunction declaration machine.scope).2 }
        { final with scopes := (final.scopes.newFunction declaration final.scope).2 } ∧
      comparison.values later (machine.scopes.newFunction declaration machine.scope).1
        (final.scopes.newFunction declaration final.scope).1

/-- Expressions have values that correspond, at every stage. -/
def Comparison.MatchesValues (comparison : Comparison Stage) (evaluate : Expr → Action Value) :
    Prop :=
  ∀ stage expr, (evaluate expr).Matches comparison stage comparison.values (evaluate expr)

/-- A statement ends in the same way, at every stage. -/
def Comparison.MatchesFlow (comparison : Comparison Stage) (execute : Statement → Action Flow)
    (statement : Statement) : Prop :=
  ∀ stage,
    (execute statement).Matches comparison stage (Flow.Matches comparison) (execute statement)

/-- Statements end in the same way, at every stage. -/
def Comparison.MatchesFlows (comparison : Comparison Stage) (execute : Statement → Action Flow) :
    Prop :=
  ∀ stage statement,
    (execute statement).Matches comparison stage (Flow.Matches comparison) (execute statement)

namespace Evaluation

open Scriptlet.Action Scriptlet.Machine

variable {comparison : Comparison Stage} {inner : Comparison Phase} {stage : Stage}
  {evaluate : Expr → Action Value} {execute : Statement → Action Flow}

theorem matches_normal : (pure Flow.normal : Action Flow).Matches comparison stage
    (Flow.Matches comparison) (pure Flow.normal) :=
  matches_pure .normal

/-! ## Statements in order -/

/-- Statements that end alike return alike, or go on alike. -/
theorem asReturned?_matches {flow other : Flow} (same : flow.Matches comparison stage other) :
    Option.Rel (Flow.Matches comparison stage) flow.asReturned? other.asReturned? := by
  cases same with
  | normal => exact .none
  | returned value => exact .some (.returned value)

theorem matches_asReturned? {action other : Action Flow}
    (same : action.Matches comparison stage (Flow.Matches comparison) other) :
    (do return (← action).asReturned? : Action (Option Flow)).Matches comparison stage
      (fun later => Option.Rel (Flow.Matches comparison later))
      (do return (← other).asReturned?) :=
  matches_bind same fun _ _ _ _ flows => matches_pure (asReturned?_matches flows)

/-- Statements in order match if each of them does. -/
theorem matches_sequence (flows : comparison.MatchesFlows execute) (stage : Stage)
    (statements : List Statement) :
    (sequence execute statements).Matches comparison stage (Flow.Matches comparison)
      (sequence execute statements) := by
  refine matches_bind (matches_findFirst (fun stage statement =>
    matches_asReturned? (flows stage statement)) stage statements) ?_
  rintro later found other - same
  cases same with
  | none => exact matches_normal
  | some same => exact matches_pure same

/-- A block matches under a comparison if its statements match under the one that takes over within
it. -/
theorem matches_block (sound : inner.SoundAround comparison) (flows : inner.MatchesFlows execute)
    (stage : Stage) (statements : List Statement) :
    (block execute statements).Matches comparison stage (Flow.Matches comparison)
      (block execute statements) := by
  intro machine final same
  obtain ⟨first, begun, leaves⟩ := sound.block same
  rw [block_apply, block_apply]
  refine matches_ending (matches_sequence flows first statements begun) ?_
  intro last after behind leads ended
  obtain ⟨later, follows, left, keeps⟩ := leaves leads ended
  exact ⟨later, follows, left, fun _ _ flows => flows.imp keeps⟩

/-! ## Calls -/

/-- A call of a declared function, whatever comparison holds for the callers. -/
theorem matches_callDeclared (flows : inner.MatchesFlows execute) {other : ScopeId}
    {others : List Value}
    (limit : final.settings.callLimit = machine.settings.callLimit ∧ final.depth = machine.depth)
    (same : comparison.machines stage machine final)
    (enters : inner.Enters comparison stage (machine.enterBody declaration closure arguments)
      (final.enterBody declaration other others) machine.leaveBody final.leaveBody) :
    (callDeclared execute line declaration closure arguments machine).Matches comparison stage
      comparison.values (callDeclared execute line declaration other others final) := by
  -- Both calls are refused or neither is, since as many are under way and may be.
  by_cases deep : machine.settings.callLimit ≤ machine.depth
  · have deepToo : final.settings.callLimit ≤ final.depth := by rwa [limit.1, limit.2]
    rw [callDeclared_of_deep deep, callDeclared_of_deep deepToo, limit.1]
    exact matches_fail same
  · have shallowToo : ¬ final.settings.callLimit ≤ final.depth := by rwa [limit.1, limit.2]
    obtain ⟨first, begun, leaves⟩ := enters
    rw [callDeclared_of_shallow deep, callDeclared_of_shallow shallowToo]
    have body : ((sequence execute declaration.body).ending machine.leaveBody
        (machine.enterBody declaration closure arguments)).Matches comparison stage
        (Flow.Matches comparison) ((sequence execute declaration.body).ending final.leaveBody
          (final.enterBody declaration other others)) := by
      refine matches_ending (matches_sequence flows first declaration.body begun) ?_
      intro last after behind leads ended
      obtain ⟨later, follows, left, keeps⟩ := leaves leads ended
      exact ⟨later, follows, left, fun _ _ flows => flows.imp keeps⟩
    refine matches_map body ?_
    rintro later _ _ (_ | value)
    · exact comparison.plain later rfl
    · exact value

/-- A native function matches, as it takes no function and gives none: its arguments are the same
but for functions, and the world is the same. -/
theorem matches_callNative (sound : inner.SoundAround comparison) (builtin : Native)
    {others : List Value} (same : List.Forall₂ (comparison.values stage) arguments others) :
    (callNative builtin arguments).Matches comparison stage comparison.values
      (callNative builtin others) := by
  intro machine final corresponds
  obtain ⟨worlds, changes⟩ := sound.world corresponds
  have answers := Value.Resembles.native builtin (same.imp fun _ _ => comparison.resembles)
    machine.world
  obtain ⟨later, leads, after⟩ := changes (builtin.call arguments machine.world).2
  unfold callNative
  rw [worlds, answers]
  exact .done leads after (comparison.plain later (builtin.isPlain_call arguments machine.world))

/-- A call of a function matches if the functions and the arguments correspond. -/
theorem matches_callFunction (sound : inner.SoundAround comparison)
    (flows : inner.MatchesFlows execute)
    {callee other : Function} {others : List Value}
    (callees : comparison.values stage (.function callee) (.function other))
    (same : List.Forall₂ (comparison.values stage) arguments others) :
    (callFunction execute line callee arguments).Matches comparison stage comparison.values
      (callFunction execute line other others) := by
  have declared {identity : Nat} {declaration : Declaration} {closure keeper : ScopeId}
      (callees : comparison.values stage (.function (.declared identity declaration closure))
        (.function (.declared identity declaration keeper))) :
      (callDeclared execute line declaration closure arguments).Matches comparison stage
        comparison.values (callDeclared execute line declaration keeper others) :=
    fun machine final corresponds => matches_callDeclared flows (sound.limit corresponds)
      corresponds (sound.body corresponds callees same)
  cases comparison.resembles callees with
  | declared => exact declared callees
  | same =>
      cases callee with
      | native identity builtin => exact matches_callNative sound builtin same
      | declared identity declaration closure => exact declared callees

/-- A call of any value matches: functions correspond to functions alone, and all else cannot be
called. -/
theorem matches_callValue (sound : inner.SoundAround comparison)
    (flows : inner.MatchesFlows execute)
    {callee other : Value} {others : List Value} (callees : comparison.values stage callee other)
    (same : List.Forall₂ (comparison.values stage) arguments others) :
    (callValue execute line callee arguments).Matches comparison stage comparison.values
      (callValue execute line other others) := by
  cases callee with
  | function callee =>
      obtain ⟨likewise, rfl, arity⟩ := (comparison.resembles callees).function
      simp only [callValue, arity, ← same.length_eq]
      split
      · exact matches_callFunction sound flows callees same
      · exact matches_fail
  | _ =>
      cases comparison.resembles callees
      exact matches_fail

/-! ## Expressions -/

/-- A name that is looked up has values that correspond, or is not bound in both runs. -/
theorem matches_lookup (sound : inner.SoundAround comparison) (name : String) :
    (lookup line name).Matches comparison stage comparison.values (lookup line name) := by
  intro machine final corresponds
  have found := sound.nearest name corresponds
  unfold lookup Scopes.get
  generalize machine.scopes.nearest? name machine.scope = here,
    final.scopes.nearest? name final.scope = there at found ⊢
  cases found with
  | none => exact matches_fail corresponds
  | some same => exact matches_pure same corresponds

theorem matches_assign (sound : inner.SoundAround comparison) {name : String} {value other : Value}
    (same : comparison.values stage value other) :
    (assign line name value).Matches comparison stage (fun _ _ _ => True)
      (assign line name other) := by
  intro machine final corresponds
  have found := sound.nearest name corresponds
  unfold assign
  cases here : machine.scopes.nearest? name machine.scope with
  | none =>
      cases there : final.scopes.nearest? name final.scope with
      | none => exact matches_fail corresponds
      | some pair =>
          rw [here, there] at found
          cases found
  | some pair =>
      cases there : final.scopes.nearest? name final.scope with
      | none =>
          rw [here, there] at found
          cases found
      | some place =>
          obtain ⟨later, leads, after⟩ := sound.assign corresponds here there same
          exact .done leads after trivial

/-- A declaration binds in both runs, if the comparison is sound for declarations too. -/
theorem matches_define (sound : comparison.Sound) {name : String} {value other : Value}
    (same : comparison.values stage value other) :
    (define name value).Matches comparison stage (fun _ _ _ => True) (define name other) := by
  intro machine final corresponds
  obtain ⟨later, leads, after⟩ := sound.define name corresponds same
  exact .done leads after trivial

/-- **An expression matches** if the expressions inside of it do and bodies of functions match
within. -/
theorem matches_evaluateNode (sound : inner.SoundAround comparison)
    (values : comparison.MatchesValues evaluate) (flows : inner.MatchesFlows execute)
    (stage : Stage) (expr : Expr) :
    (evaluateNode evaluate execute expr).Matches comparison stage comparison.values
      (evaluateNode evaluate execute expr) := by
  cases expr with
  | literal line literal =>
      exact matches_pure (comparison.plain stage (Value.isPlain_ofLiteral literal))
  | grouping line inner => exact values stage inner
  | unary line op operand =>
      refine matches_bind (values stage operand) fun later value other _ same => ?_
      rw [(comparison.resembles same).unary op]
      exact matches_ofExcept fun result given => UnaryOp.isPlain_of_apply given
  | binary line op left right =>
      refine matches_bind (values stage left) fun later first other _ same => ?_
      refine matches_bind (values later right) fun last second another leads match_ => ?_
      rw [(comparison.resembles (comparison.values_later leads same)).binary op
        (comparison.resembles match_)]
      exact matches_ofExcept fun result given => BinaryOp.isPlain_of_apply given
  | logical line op left right =>
      refine matches_bind (values stage left) fun later first other _ same => ?_
      rw [(comparison.resembles same).decidedBy op]
      split
      · exact matches_pure same
      · exact values later right
  | reference line name => exact matches_lookup sound name
  | assign line name expr =>
      refine matches_bind (values stage expr) fun later value other _ same => ?_
      refine matches_bind (matches_assign sound same) fun last _ _ leads _ => ?_
      exact matches_pure (comparison.values_later leads same)
  | update line op name operand =>
      -- The operand comes first, so that what it gives has to last until the name is looked up.
      refine matches_bind (values stage operand) fun later amount other _ same => ?_
      refine matches_bind (matches_lookup sound name) fun last current past leads found => ?_
      rw [(comparison.resembles found).update op
        (comparison.resembles (comparison.values_later leads same))]
      refine matches_bind (matches_ofExcept fun result given => UpdateOp.isPlain_of_apply given)
        fun next result answer _ given => ?_
      refine matches_bind (matches_assign sound given) fun end_ _ _ more _ => ?_
      exact matches_pure (comparison.values_later more given)
  | call line callee arguments =>
      refine matches_bind (values stage callee) fun later called other _ same => ?_
      refine matches_bind (matches_collect values later arguments) fun last _ _ leads given => ?_
      exact matches_callValue sound flows (comparison.values_later leads same) given

/-! ## Statements -/

theorem matches_evaluateOption (values : comparison.MatchesValues evaluate) (stage : Stage)
    (expr : Option Expr) :
    (evaluateOption evaluate expr).Matches comparison stage comparison.values
      (evaluateOption evaluate expr) := by
  cases expr with
  | none => exact matches_pure (comparison.plain stage rfl)
  | some expr => exact values stage expr

/-- A condition matches with the same answer in both runs, since values that correspond are alike
true or false. -/
theorem matches_condition (values : comparison.MatchesValues evaluate) (stage : Stage)
    (condition : Expr) :
    (Value.truthy <$> evaluate condition).Matches comparison stage (fun _ => Eq)
      (Value.truthy <$> evaluate condition) :=
  fun _ _ corresponds => matches_map (values stage condition corresponds)
    fun _ _ _ same => (comparison.resembles same).truthy.symm

/-- A loop matches if its condition and its body do, in as many rounds in both runs. -/
theorem matches_whileLoop {condition : Action Bool} {body : Action Flow}
    (tests : ∀ stage, condition.Matches comparison stage (fun _ => Eq) condition)
    (flows : ∀ stage, body.Matches comparison stage (Flow.Matches comparison) body)
    (stage : Stage) (bound : Nat) :
    (whileLoop bound condition body).Matches comparison stage (Flow.Matches comparison)
      (whileLoop bound condition body) := by
  refine matches_repeatUntil (fun stage => matches_bind (tests stage) ?_) stage bound
  rintro later holds _ - rfl
  cases holds with
  | true => exact matches_asReturned? (flows later)
  | false => exact matches_pure (.some .normal)

theorem matches_doWhileLoop {condition : Action Bool} {body : Action Flow}
    (tests : ∀ stage, condition.Matches comparison stage (fun _ => Eq) condition)
    (flows : ∀ stage, body.Matches comparison stage (Flow.Matches comparison) body)
    (stage : Stage) (bound : Nat) :
    (doWhileLoop bound condition body).Matches comparison stage (Flow.Matches comparison)
      (doWhileLoop bound condition body) := by
  refine matches_repeatUntil (fun stage => matches_bind (flows stage) ?_) stage bound
  intro later flow other _ same
  cases same with
  | returned value => exact matches_pure (.some (.returned value))
  | normal =>
      refine matches_bind (tests later) ?_
      rintro last holds _ - rfl
      cases holds with
      | true => exact matches_pure .none
      | false => exact matches_pure (.some .normal)

/-- A statement that is no declaration, if its parts end in the same way. -/
theorem matches_executeNode_of_parts (sound : inner.SoundAround comparison)
    (values : comparison.MatchesValues evaluate) (flows : inner.MatchesFlows execute)
    {statement : Statement} (quiet : statement.isDeclaration = false)
    (parts : ∀ part ∈ statement.parts, comparison.MatchesFlow execute part) (bound : Nat)
    (stage : Stage) :
    (executeNode bound evaluate execute statement).Matches comparison stage
      (Flow.Matches comparison) (executeNode bound evaluate execute statement) := by
  cases statement with
  | declare | function => cases quiet
  | expression line expr =>
      rw [executeNode_expression]
      refine matches_bind (values stage expr) fun later value other _ same => ?_
      exact matches_bind (sound.echo line same) fun _ _ _ _ _ => matches_normal
  | print line expr =>
      refine matches_bind (values stage expr) fun later value other _ same => ?_
      exact matches_bind (sound.write line same) fun _ _ _ _ _ => matches_normal
  | block line body => exact matches_block sound flows stage body
  | branch line condition positive negative =>
      refine matches_bind (values stage condition) fun later value other _ same => ?_
      rw [(comparison.resembles same).truthy]
      split
      · exact parts positive List.mem_cons_self later
      · cases negative with
        | none => exact matches_normal
        | some negative => exact parts negative (.tail _ List.mem_cons_self) later
  | choice line condition positive negative =>
      refine matches_bind (values stage condition) fun later value other _ same => ?_
      rw [(comparison.resembles same).truthy]
      split
      · exact parts positive List.mem_cons_self later
      · exact parts negative (.tail _ List.mem_cons_self) later
  | whileLoop line condition body =>
      exact matches_whileLoop (fun stage => matches_condition values stage condition)
        (parts body List.mem_cons_self) stage bound
  | doWhileLoop line body condition =>
      exact matches_doWhileLoop (fun stage => matches_condition values stage condition)
        (parts body List.mem_cons_self) stage bound
  | giveBack line value =>
      refine matches_bind (matches_evaluateOption values stage value)
        fun later result other _ same => ?_
      exact matches_pure (.returned same)

/-- **A statement matches** if its parts do and the comparison is sound, declarations included. -/
theorem matches_executeNode (sound : comparison.Sound)
    (values : comparison.MatchesValues evaluate) (flows : comparison.MatchesFlows execute)
    (bound : Nat) (stage : Stage) (statement : Statement) :
    (executeNode bound evaluate execute statement).Matches comparison stage
      (Flow.Matches comparison) (executeNode bound evaluate execute statement) := by
  have quiet (plain : statement.isDeclaration = false) :=
    matches_executeNode_of_parts sound.toSoundAround values flows plain
      (fun part _ stage => flows stage part) bound stage
  cases statement with
  | declare line name initial =>
      refine matches_bind (matches_evaluateOption values stage initial)
        fun later value other _ same => ?_
      exact matches_bind (matches_define sound same) fun _ _ _ _ _ => matches_normal
  | function line name parameters body =>
      intro machine final corresponds
      obtain ⟨later, leads, made, same⟩ := sound.function ⟨line, name, parameters, body⟩ corresponds
      exact Outcome.Matches.sooner ((matches_bind (matches_define sound same)
        fun _ _ _ _ _ => matches_normal) made) leads
  | _ => exact quiet rfl

end Evaluation

/-- **A comparison that is sound for single steps is sound** for all expressions and statements. -/
theorem Comparison.Sound.matches_evaluate_execute {comparison : Comparison Stage}
    (sound : comparison.Sound) (bound : Nat) :
    comparison.MatchesValues (evaluate bound) ∧ comparison.MatchesFlows (execute bound) := by
  induction bound with
  | zero =>
      constructor
      · intro stage expr
        rw [evaluate]
        exact Action.matches_exhausted
      · intro stage statement
        rw [execute]
        exact Action.matches_exhausted
  | succ bound ih =>
      constructor
      · intro stage expr
        rw [evaluate]
        exact Evaluation.matches_evaluateNode sound.toSoundAround ih.1 ih.2 stage expr
      · intro stage statement
        rw [execute]
        exact Evaluation.matches_executeNode sound ih.1 ih.2 bound stage statement

/-- **Around a sound comparison** another may be sound for all but declarations. It is sound for
expressions then, and for the statements that declare nothing where they stand. -/
theorem Comparison.SoundAround.matches_evaluate_execute {inner : Comparison Phase}
    {comparison : Comparison Stage} (around : inner.SoundAround comparison) (sound : inner.Sound)
    (bound : Nat) :
    comparison.MatchesValues (evaluate bound) ∧ ∀ statement : Statement,
      statement.declares = false → comparison.MatchesFlow (execute bound) statement := by
  induction bound with
  | zero =>
      constructor
      · intro stage expr
        rw [evaluate]
        exact Action.matches_exhausted
      · intro statement _ stage
        rw [execute]
        exact Action.matches_exhausted
  | succ bound ih =>
      have flows := (sound.matches_evaluate_execute bound).2
      constructor
      · intro stage expr
        rw [evaluate]
        exact Evaluation.matches_evaluateNode around ih.1 flows stage expr
      · intro statement quiet stage
        rw [execute]
        exact Evaluation.matches_executeNode_of_parts around ih.1 flows
          (Statement.isDeclaration_of_declares quiet)
          (fun part isPart => ih.2 part (Statement.declares_of_mem_parts quiet isPart)) bound stage

/-- The statements of a program, executed in order, do the same as well. -/
theorem Comparison.Sound.matches_executeAll {comparison : Comparison Stage}
    (sound : comparison.Sound) (bound : Nat) (stage : Stage) (statements : List Statement) :
    (Machine.executeAll bound statements).Matches comparison stage (fun _ _ _ => True)
      (Machine.executeAll bound statements) := by
  have each (stage : Stage) (statement : Statement) :
      (do let _ ← execute bound statement; return none : Action (Option Unit)).Matches comparison
        stage (fun _ => Option.Rel fun (_ _ : Unit) => True)
        (do let _ ← execute bound statement; return none) :=
    Action.matches_bind ((sound.matches_evaluate_execute bound).2 stage statement)
      fun _ _ _ _ _ => Action.matches_pure .none
  exact Action.matches_bind (Action.matches_findFirst each stage statements)
    fun _ _ _ _ _ => Action.matches_pure trivial

end Scriptlet
