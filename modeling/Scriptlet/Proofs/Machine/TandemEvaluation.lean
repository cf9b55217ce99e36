import Scriptlet.Proofs.Machine.Reporting
import Scriptlet.Proofs.Machine.Tandem
import Scriptlet.Proofs.Value.Faults

/-!
# Evaluation side by side

Only the limit on calls and the reporter have to do with the settings and with the stream. Where two
runs go side by side in these, they do so in all expressions, statements and programs.
-/

namespace Scriptlet

variable [Host]

/-- What has to be known of two runs: faults other than that of too many calls stop both, a report
is made side by side, and a call that is refused to the first run is refused to the second one as
well, unless the first one drops out there. -/
structure Tandem.Sound (tandem : Tandem) (report notify : Reporter) : Prop where
  shares {fault : Fault} : (∀ limit, fault ≠ .callsTooDeep limit) → tandem.shares fault
  reports (origin : Origin) (line : Nat) (value : Value) :
    (report origin line value).InTandem tandem (notify origin line value)
  limit {settings other : Settings} {output stream : Output} :
    tandem.together settings output other stream →
    (other.callLimit = settings.callLimit ∧ tandem.shares (.callsTooDeep settings.callLimit)) ∨
    (settings.callLimit ≤ other.callLimit ∧
      ∀ line, tandem.alone ⟨line, .callsTooDeep settings.callLimit⟩ output stream)

/-- What has to be known of two runs that write the same: the streams take it alike, unless the
first one refuses something at which the first run then drops out. -/
structure Tandem.Writes (tandem : Tandem) : Prop where
  shares (cause : StreamError) : tandem.shares (.outputRefused cause)
  echoes {settings other : Settings} {output stream : Output} :
    tandem.together settings output other stream → other.echo = settings.echo
  beside {settings other : Settings} {output stream : Output} (bytes : List UInt8) :
    tandem.together settings output other stream →
    (tandem.together settings (output.write bytes).1 other (stream.write bytes).1 ∧
      (stream.write bytes).2 = (output.write bytes).2) ∨
    ∃ cause, (output.write bytes).2 = .error cause ∧ ∀ line,
      tandem.alone ⟨line, .outputRefused cause⟩ (output.write bytes).1 (stream.write bytes).1
  alone {error : RuntimeError} {stopped stream : Output} (bytes : List UInt8) :
    tandem.alone error stopped stream → tandem.alone error stopped (stream.write bytes).1

variable {tandem : Tandem} {report notify : Reporter} {line bound : Nat} {name : String}
  {value : Value}

/-- Faults of operands stop both runs. -/
theorem Tandem.Sound.sharesOperands (sound : tandem.Sound report notify) {fault : Fault}
    (ofOperands : fault.ofOperands = true) : tandem.shares fault := by
  apply sound.shares
  intro limit same
  rw [same] at ofOperands
  cases ofOperands

namespace Machine

/-! ## Steps that look at scopes and the world only -/

/-- Looking a name up is blind: it looks at scopes alone. -/
theorem blind_lookup : (lookup line name).Blind := by
  intro machine settings output
  unfold lookup Action.ofExcept refit
  dsimp only
  cases machine.scopes.get machine.scope name <;> rfl

/-- Declaring is blind. -/
theorem blind_define : (define name value).Blind :=
  fun _ _ _ => rfl

/-- Assigning is blind. -/
theorem blind_assign : (assign line name value).Blind := by
  intro machine settings output
  unfold assign refit
  dsimp only
  cases machine.scopes.nearest? name machine.scope <;> rfl

/-- A name is looked up side by side, and where it is not bound both runs stop. -/
theorem inTandem_lookup (sound : tandem.Sound report notify) :
    (lookup line name).InTandem tandem (lookup line name) := by
  apply blind_lookup.inTandem
  intro machine error after failed
  unfold lookup Scopes.get at failed
  cases found : machine.scopes.nearest? name machine.scope with
  | some pair =>
      rw [found] at failed
      cases failed
  | none =>
      rw [found] at failed
      cases failed
      exact sound.shares fun _ same => by cases same

theorem inTandem_define : (define name value).InTandem tandem (define name value) := by
  apply blind_define.inTandem
  intro machine error after failed
  cases failed

/-- A name is assigned to side by side, and where it is not bound both runs stop. -/
theorem inTandem_assign (sound : tandem.Sound report notify) :
    (assign line name value).InTandem tandem (assign line name value) := by
  apply blind_assign.inTandem
  intro machine error after failed
  unfold assign at failed
  cases found : machine.scopes.nearest? name machine.scope with
  | some pair =>
      rw [found] at failed
      cases failed
  | none =>
      rw [found] at failed
      cases failed
      exact sound.shares fun _ same => by cases same

end Machine

/-! ## What is written -/

namespace Machine

/-- The bytes of the line that a value is written on. -/
def lineBytes (value : Value) : List UInt8 :=
  Text.encode (value.display ++ "\n")

/-- Writing a value writes its line to the stream, and fails where the stream refuses that. -/
theorem writeLine_apply (machine : Machine) :
    writeLine line value machine =
      match (machine.output.write (lineBytes value)).2 with
      | .ok () =>
        .done () (machine.refit machine.settings (machine.output.write (lineBytes value)).1)
      | .error cause =>
        .failed ⟨line, .outputRefused cause⟩
          (machine.refit machine.settings (machine.output.write (lineBytes value)).1) :=
  rfl

/-- What holds of a stream whatever is written to it holds of it behind a line. -/
theorem maintains_writeLine {property : Output → Prop}
    (kept : ∀ stream bytes, property stream → property (stream.write bytes).1) :
    (writeLine line value).Maintains property := by
  intro machine holds
  have behind := kept machine.output (lineBytes value) holds
  rw [writeLine_apply]
  cases (machine.output.write (lineBytes value)).2 with
  | ok _ => exact behind
  | error cause => exact behind

/-- A value is written side by side, unless the first stream refuses what the second one takes. -/
theorem inTandem_writeLine (writes : tandem.Writes) :
    (writeLine line value).InTandem tandem (writeLine line value) where
  together := by
    intro machine settings output beside
    have written := writes.beside (lineBytes value) beside
    rw [writeLine_apply, writeLine_apply]
    rcases written with ⟨beside, same⟩ | ⟨cause, refused, alone⟩
    · change Outcome.InTandem tandem _ (match (output.write (lineBytes value)).2 with
        | .ok () => .done () (machine.refit settings (output.write (lineBytes value)).1)
        | .error cause => .failed ⟨line, .outputRefused cause⟩
            (machine.refit settings (output.write (lineBytes value)).1))
      rw [same]
      cases (machine.output.write (lineBytes value)).2 with
      | ok _ => exact .done beside
      | error cause => exact .failed (writes.shares cause) beside
    · rw [refused]
      have kept := alone line
      apply Outcome.InTandem.alone ⟨_, kept⟩
      cases ((machine.refit settings output).output.write (lineBytes value)).2 with
      | ok _ => exact kept
      | error cause => exact kept
  alone _ _ := maintains_writeLine fun _ bytes => writes.alone bytes

end Machine

/-- An echo is a line where it is wanted, and nothing else. -/
theorem Evaluation.echoLine_apply (machine : Machine) :
    echoLine line value machine =
      if machine.settings.echo then Machine.writeLine line value machine else .done () machine := by
  unfold echoLine
  rw [Action.bind_apply]
  dsimp only [Action.inspect]
  cases machine.settings.echo <;> rfl

/-- The standard reporter writes and echoes side by side. -/
theorem Reporter.inTandem_standard (writes : tandem.Writes) (origin : Origin) (line : Nat)
    (value : Value) :
    (standard origin line value).InTandem tandem (standard origin line value) := by
  have written : (Machine.writeLine line value).InTandem tandem (Machine.writeLine line value) :=
    Machine.inTandem_writeLine writes
  cases origin with
  | printed => exact written
  | echoed =>
      change (Evaluation.echoLine line value).InTandem tandem (Evaluation.echoLine line value)
      constructor
      · intro machine settings output beside
        rw [Evaluation.echoLine_apply, Evaluation.echoLine_apply]
        change Outcome.InTandem tandem _ (if settings.echo then _ else _)
        rw [writes.echoes beside]
        cases machine.settings.echo with
        | false => exact .done beside
        | true => exact written.together machine beside
      · intro error stopped machine holds
        rw [Evaluation.echoLine_apply]
        cases machine.settings.echo with
        | false => exact holds
        | true => exact written.alone error stopped holds

namespace Evaluation

open Scriptlet.Action Scriptlet.Machine

variable {evaluate estimate : Expr → Action Value} {execute perform : Statement → Action Flow}

/-- Two evaluators go side by side. -/
def ValuesInTandem (tandem : Tandem) (evaluate estimate : Expr → Action Value) : Prop :=
  ∀ expr, (evaluate expr).InTandem tandem (estimate expr)

/-- Two executors go side by side. -/
def FlowsInTandem (tandem : Tandem) (execute perform : Statement → Action Flow) : Prop :=
  ∀ statement, (execute statement).InTandem tandem (perform statement)

/-! ## Blocks and calls -/

theorem inTandem_sequence (flows : FlowsInTandem tandem execute perform)
    (statements : List Statement) :
    (sequence execute statements).InTandem tandem (sequence perform statements) := by
  refine inTandem_bind (inTandem_findFirst (fun statement => ?_) statements) fun returned =>
    inTandem_pure
  exact inTandem_bind (flows statement) fun flow => inTandem_pure

theorem inTandem_block (flows : FlowsInTandem tandem execute perform)
    (statements : List Statement) :
    (block execute statements).InTandem tandem (block perform statements) := by
  have body (machine : Machine) :
      ((sequence execute statements).ending machine.leaveBlock).InTandem tandem
        ((sequence perform statements).ending machine.leaveBlock) :=
    inTandem_ending (fun _ _ _ => rfl) (inTandem_sequence flows statements)
  constructor
  · intro machine settings output beside
    rw [block_apply, block_apply]
    exact (body machine).together machine.enterBlock beside
  · intro error stopped machine holds
    rw [block_apply]
    exact (body machine).alone error stopped holds

/-- A call goes side by side if bodies of functions do, but for a call that only the lower limit
refuses. -/
theorem inTandem_callDeclared (sound : tandem.Sound report notify)
    (flows : FlowsInTandem tandem execute perform) (declaration : Declaration) (closure : ScopeId)
    (arguments : List Value) :
    (callDeclared execute line declaration closure arguments).InTandem tandem
      (callDeclared perform line declaration closure arguments) := by
  have body (machine : Machine) :
      (Flow.callValue <$> (sequence execute declaration.body).ending machine.leaveBody).InTandem
        tandem
        (Flow.callValue <$> (sequence perform declaration.body).ending machine.leaveBody) :=
    inTandem_map (inTandem_ending (fun _ _ _ => rfl) (inTandem_sequence flows declaration.body))
  have goesOn (error : RuntimeError) (stopped : Output) :
      (callDeclared perform line declaration closure arguments).Maintains
        (tandem.alone error stopped) := by
    intro machine holds
    by_cases deep : machine.settings.callLimit ≤ machine.depth
    · rw [callDeclared_of_deep deep]
      exact holds
    · rw [callDeclared_of_shallow deep]
      exact (body machine).alone error stopped holds
  refine ⟨?_, goesOn⟩
  intro machine settings output beside
  have within := sound.limit beside
  by_cases deep : machine.settings.callLimit ≤ machine.depth
  · rw [callDeclared_of_deep deep]
    rcases within with ⟨same, shared⟩ | ⟨-, alone⟩
    · have deepToo : (machine.refit settings output).settings.callLimit ≤
          (machine.refit settings output).depth := Nat.le_trans (Nat.le_of_eq same) deep
      rw [callDeclared_of_deep deepToo]
      change Outcome.InTandem tandem _ (.failed ⟨line, .callsTooDeep settings.callLimit⟩ _)
      rw [same]
      exact .failed shared beside
    · exact .alone ⟨_, alone line⟩ (goesOn _ _ (alone line))
  · have shallowToo : ¬ (machine.refit settings output).settings.callLimit ≤
        (machine.refit settings output).depth := by
      intro deepToo
      have higher : machine.settings.callLimit ≤ settings.callLimit := by
        rcases within with ⟨same, -⟩ | ⟨higher, -⟩
        · exact Nat.le_of_eq same.symm
        · exact higher
      exact deep (Nat.le_trans higher deepToo)
    rw [callDeclared_of_shallow deep, callDeclared_of_shallow shallowToo]
    exact (body machine).together (machine.enterBody declaration closure arguments) beside

/-- A call of any value goes side by side. Native functions are blind, and the world is the same in
both runs. -/
theorem inTandem_callValue (sound : tandem.Sound report notify)
    (flows : FlowsInTandem tandem execute perform) (callee : Value) (arguments : List Value) :
    (callValue execute line callee arguments).InTandem tandem
      (callValue perform line callee arguments) := by
  cases callee with
  | function callee =>
      unfold callValue
      by_cases fits : callee.arity = arguments.length
      · simp only [if_pos fits]
        cases callee with
        | native identity builtin =>
            have blind : (callNative builtin arguments).Blind := fun _ _ _ => rfl
            exact blind.inTandem fun _ _ _ failed => by cases failed
        | declared identity declaration closure =>
            exact inTandem_callDeclared sound flows declaration closure arguments
      · simp only [if_neg fits]
        exact inTandem_fail (sound.shares fun _ same => by cases same)
  | _ => exact inTandem_fail (sound.shares fun _ same => by cases same)

/-! ## Expressions -/

/-- **An expression goes side by side** if the expressions inside of it and bodies of functions
do. -/
theorem inTandem_evaluateNode (sound : tandem.Sound report notify)
    (values : ValuesInTandem tandem evaluate estimate)
    (flows : FlowsInTandem tandem execute perform) (expr : Expr) :
    (evaluateNode evaluate execute expr).InTandem tandem (evaluateNode estimate perform expr) := by
  cases expr with
  | literal line literal => exact inTandem_pure
  | grouping line inner => exact values inner
  | unary line op operand =>
      refine inTandem_bind (values operand) fun value => ?_
      exact inTandem_ofExcept fun _ failed =>
        sound.sharesOperands (UnaryOp.ofOperands_of_apply failed)
  | binary line op left right =>
      refine inTandem_bind (values left) fun first => ?_
      refine inTandem_bind (values right) fun second => ?_
      exact inTandem_ofExcept fun _ failed =>
        sound.sharesOperands (BinaryOp.ofOperands_of_apply failed)
  | logical line op left right =>
      refine inTandem_bind (values left) fun first => ?_
      split
      · exact inTandem_pure
      · exact values right
  | reference line name => exact inTandem_lookup sound
  | assign line name expr =>
      refine inTandem_bind (values expr) fun value => ?_
      exact inTandem_bind (inTandem_assign sound) fun _ => inTandem_pure
  | update line op name operand =>
      refine inTandem_bind (values operand) fun amount => ?_
      refine inTandem_bind (inTandem_lookup sound) fun current => ?_
      refine inTandem_bind ?_ fun result => ?_
      · exact inTandem_ofExcept fun _ failed =>
          sound.sharesOperands (UpdateOp.ofOperands_of_apply failed)
      · exact inTandem_bind (inTandem_assign sound) fun _ => inTandem_pure
  | call line callee arguments =>
      refine inTandem_bind (values callee) fun called => ?_
      refine inTandem_bind (inTandem_collect values arguments) fun given => ?_
      exact inTandem_callValue sound flows called given

/-! ## Statements -/

theorem inTandem_evaluateOption (values : ValuesInTandem tandem evaluate estimate)
    (expr : Option Expr) :
    (evaluateOption evaluate expr).InTandem tandem (evaluateOption estimate expr) := by
  cases expr with
  | none => exact inTandem_pure
  | some expr => exact values expr

theorem inTandem_whileLoop {condition test : Action Bool} {body round : Action Flow}
    (tests : condition.InTandem tandem test) (flows : body.InTandem tandem round) :
    (whileLoop bound condition body).InTandem tandem (whileLoop bound test round) := by
  refine inTandem_repeatUntil (inTandem_bind tests fun holds => ?_) bound
  cases holds with
  | true => exact inTandem_bind flows fun flow => inTandem_pure
  | false => exact inTandem_pure

theorem inTandem_doWhileLoop {condition test : Action Bool} {body round : Action Flow}
    (tests : condition.InTandem tandem test) (flows : body.InTandem tandem round) :
    (doWhileLoop bound condition body).InTandem tandem (doWhileLoop bound test round) := by
  refine inTandem_repeatUntil (inTandem_bind flows fun flow => ?_) bound
  cases flow with
  | returned value => exact inTandem_pure
  | normal =>
      refine inTandem_bind tests fun holds => ?_
      cases holds with
      | true => exact inTandem_pure
      | false => exact inTandem_pure

/-- **A statement goes side by side** if its parts do, whatever the reporters make of the values
that it gives. -/
theorem inTandem_executeNode (sound : tandem.Sound report notify)
    (values : ValuesInTandem tandem evaluate estimate)
    (flows : FlowsInTandem tandem execute perform) (statement : Statement) :
    (executeNodeReporting report bound evaluate execute statement).InTandem tandem
      (executeNodeReporting notify bound estimate perform statement) := by
  cases statement with
  | expression line expr =>
      refine inTandem_bind (values expr) fun value => ?_
      exact inTandem_bind (sound.reports .echoed line value) fun _ => inTandem_pure
  | print line expr =>
      refine inTandem_bind (values expr) fun value => ?_
      exact inTandem_bind (sound.reports .printed line value) fun _ => inTandem_pure
  | declare line name initial =>
      refine inTandem_bind (inTandem_evaluateOption values initial) fun value => ?_
      exact inTandem_bind inTandem_define fun _ => inTandem_pure
  | block line body => exact inTandem_block flows body
  | branch line condition positive negative =>
      refine inTandem_bind (values condition) fun value => ?_
      split
      · exact flows positive
      · cases negative with
        | none => exact inTandem_pure
        | some negative => exact flows negative
  | choice line condition positive negative =>
      refine inTandem_bind (values condition) fun value => ?_
      split
      · exact flows positive
      · exact flows negative
  | whileLoop line condition body =>
      exact inTandem_whileLoop (inTandem_map (values condition)) (flows body)
  | doWhileLoop line body condition =>
      exact inTandem_doWhileLoop (inTandem_map (values condition)) (flows body)
  | function line name parameters body =>
      have blind : (executeNodeReporting report bound evaluate execute
          (.function line name parameters body)).Blind := fun _ _ _ => rfl
      exact blind.inTandem fun _ _ _ failed => by cases failed
  | giveBack line value =>
      exact inTandem_bind (inTandem_evaluateOption values value) fun result => inTandem_pure

end Evaluation

/-- Expressions and statements go side by side. -/
theorem Tandem.Sound.evaluate_execute (sound : tandem.Sound report notify) (bound : Nat) :
    Evaluation.ValuesInTandem tandem (evaluateReporting report bound)
        (evaluateReporting notify bound) ∧
      Evaluation.FlowsInTandem tandem (executeReporting report bound)
        (executeReporting notify bound) := by
  induction bound with
  | zero =>
      constructor
      · intro expr
        rw [evaluateReporting, evaluateReporting]
        exact Action.inTandem_exhausted
      · intro statement
        rw [executeReporting, executeReporting]
        exact Action.inTandem_exhausted
  | succ bound ih =>
      obtain ⟨values, flows⟩ := ih
      constructor
      · intro expr
        rw [evaluateReporting, evaluateReporting]
        exact Evaluation.inTandem_evaluateNode sound values flows expr
      · intro statement
        rw [executeReporting, executeReporting]
        exact Evaluation.inTandem_executeNode sound values flows statement

namespace Machine

open Scriptlet.Action

/-- The statements of a program go side by side. -/
theorem inTandem_executeAll (sound : tandem.Sound report notify) (bound : Nat)
    (statements : List Statement) :
    (executeAllReporting report bound statements).InTandem tandem
      (executeAllReporting notify bound statements) := by
  have flows := (sound.evaluate_execute bound).2
  refine inTandem_bind (inTandem_findFirst (fun statement => ?_) statements) fun _ => inTandem_pure
  exact inTandem_bind (flows statement) fun flow => inTandem_pure

/-- Handing on the output writes nothing to it. -/
theorem output_flushAfter {line : Nat} {failure : Option RuntimeError} {property : Output → Prop}
    {machine : Machine} (holds : property machine.output) :
    (flushAfter line failure machine).Leaves fun after => property after.output := by
  unfold flushAfter
  cases failure with
  | some error => exact holds
  | none => cases machine.output.flush <;> exact holds

/-- Where streams side by side are handed on alike, programs go side by side to their end. -/
theorem inTandem_interpret (sound : tandem.Sound report notify)
    (flushes : ∀ {settings other output stream}, tandem.together settings output other stream →
      stream.flush = output.flush)
    (bound : Nat) (statements : List Statement) {machine : Machine} {settings : Settings}
    {output : Output} (beside : tandem.together machine.settings machine.output settings output) :
    (interpretReporting report bound statements machine).InTandem tandem
      (interpretReporting notify bound statements (machine.refit settings output)) := by
  have answer := (inTandem_executeAll sound bound statements).together machine beside
  unfold interpretReporting conclude
  generalize executeAllReporting report bound statements machine = ended,
    executeAllReporting notify bound statements (machine.refit settings output) = last at answer ⊢
  cases answer with
  | unfinished => exact .unfinished
  | @done _ after later stream beside =>
      have same : (after.refit later stream).output.flush = after.output.flush := flushes beside
      dsimp only [flushAfter]
      rw [same]
      cases after.output.flush with
      | ok _ => exact .done beside
      | error cause => exact .failed (sound.shares fun _ same => by cases same) beside
  | failed shared beside => exact .failed shared beside
  | @alone error after last dropped kept =>
      have resting : ∃ stream, tandem.alone error after.rest.output stream := dropped
      apply Outcome.InTandem.alone resting
      cases last with
      | unfinished => trivial
      | done _ final => exact output_flushAfter kept
      | failed reason final =>
          have handed : tandem.alone error after.output final.rest.output := kept
          exact output_flushAfter handed

end Machine

end Scriptlet
