import Scriptlet.Proofs.Machine.Rest
import Scriptlet.Proofs.World.InputLines

/-!
# What is read while something runs

Beside what an action does stands a record of what it reads: the answers that the input gave while
it ran, in order, also where it fails or is cut off by its bound. A recording belongs to one action,
and for what is made of several actions it is made of theirs, so that expressions, statements and
programs have one. Nothing is read but what a recording holds: the input moves on by these answers
and in no other way.
-/

namespace Scriptlet

variable [Host]

variable {α β σ : Type}

/-- What an action reads, from each machine: the input gives these answers, and where the action
ends, what it leaves of the input is what is left behind them. -/
structure Recording (action : Action α) where
  log : Machine → List (Option String)
  gives (machine : Machine) : ∃ rest, machine.world.input.Gives (log machine) rest ∧
    (action machine).Leaves fun after => after.world.input = rest

/-- An action leaves the input alone. -/
def Action.KeepsInput (action : Action α) : Prop :=
  ∀ machine, (action machine).Leaves fun after => after.world.input = machine.world.input

/-- What is made of the value of an action leaves what the action leaves. -/
theorem Action.leaves_map {action : Action α} {view : α → β} {machine : Machine}
    {property : Machine → Prop} (leaves : (action machine).Leaves property) :
    ((view <$> action) machine).Leaves property := by
  rw [← bind_pure_comp, bind_apply]
  cases ended : action machine with
  | unfinished => trivial
  | done value after =>
      rw [ended] at leaves
      exact leaves
  | failed error after =>
      rw [ended] at leaves
      exact leaves

namespace Recording

open Scriptlet.Action

variable {action other : Action α}

/-- What leaves the input alone reads nothing. -/
def quiet (keeps : action.KeepsInput) : Recording action where
  log _ := []
  gives machine := ⟨_, .nothing, keeps machine⟩

/-- Equal actions read the same. -/
def congr (same : action = other) (recording : Recording action) : Recording other where
  log := recording.log
  gives := same ▸ recording.gives

/-- An action that gives a value reads nothing. -/
def pure (value : α) : Recording (Pure.pure value : Action α) :=
  quiet fun _ => rfl

/-- An action whose bound is used up reads nothing. -/
def exhausted : Recording (exhausted : Action α) :=
  quiet fun _ => trivial

/-- A failure reads nothing. -/
def fail (line : Nat) (fault : Fault) : Recording (fail line fault : Action α) :=
  quiet fun _ => rfl

/-- Looking at the machine reads nothing. -/
def inspect (view : Machine → α) : Recording (inspect view) :=
  quiet fun _ => rfl

/-- A fault in a value, or the value, reads nothing. -/
def ofExcept (line : Nat) (result : Except Fault α) : Recording (ofExcept line result) :=
  quiet fun _ => by cases result <;> rfl

/-- One action after another: the second one reads on where the first one has ended. -/
def bind {next : α → Action β} (first : Recording action)
    (second : ∀ value, Recording (next value)) : Recording (action >>= next) where
  log machine := first.log machine ++
    match action machine with
    | .done value after => (second value).log after
    | .failed _ _ | .unfinished => []
  gives machine := by
    obtain ⟨middle, before, left⟩ := first.gives machine
    rw [bind_apply]
    cases ended : action machine with
    | unfinished => exact ⟨middle, by simpa using before, trivial⟩
    | failed error after =>
        rw [ended] at left
        exact ⟨middle, by simpa using before, left⟩
    | done value after =>
        rw [ended] at left
        obtain rfl : after.world.input = middle := left
        obtain ⟨rest, later, last⟩ := (second value).gives after
        exact ⟨rest, before.append later, last⟩

/-- What is made of a value reads what the action does. -/
def map (view : α → β) (recording : Recording action) : Recording (view <$> action) :=
  .congr (bind_pure_comp view action) (recording.bind fun value => .pure (view value))

/-- One of two actions. -/
def choose (condition : Prop) [Decidable condition] (first : Recording action)
    (second : Recording other) : Recording (if condition then action else other) where
  log machine := if condition then first.log machine else second.log machine
  gives machine := by
    split
    · exact first.gives machine
    · exact second.gives machine

/-- What is done in between, after a machine has been made ready and before it is put in order
again, neither of which reads anything. -/
def between (enter : Machine → Machine) (leave : Machine → Machine → Machine)
    (enters : ∀ machine, (enter machine).world = machine.world)
    (leaves : ∀ machine after, (leave machine after).world = after.world)
    (recording : Recording action) :
    Recording fun machine => action.ending (leave machine) (enter machine) where
  log machine := recording.log (enter machine)
  gives machine := by
    obtain ⟨rest, given, left⟩ := recording.gives (enter machine)
    rw [enters] at given
    refine ⟨rest, given, leaves_ending left fun after behind => ?_⟩
    rwa [leaves]

/-- All rounds of a loop. -/
def repeatUntil {body : Action (Option α)} (recording : Recording body) :
    (bound : Nat) → Recording (repeatUntil body bound)
  | 0 => quiet fun _ => trivial
  | bound + 1 => .congr (repeatUntil_succ body bound).symm <| recording.bind fun
    | some value => .pure value
    | none => recording.repeatUntil bound

/-- An action on one item after the other. -/
def findFirst {search : σ → Action (Option α)} (recordings : ∀ item, Recording (search item)) :
    (items : List σ) → Recording (findFirst search items)
  | [] => .pure none
  | item :: rest => .congr (findFirst_cons search item rest).symm <| (recordings item).bind fun
    | some value => .pure (some value)
    | none => findFirst recordings rest

/-- All of some items read what each of them does, in order, up to a failure. -/
def collect {each : σ → Action α} (recordings : ∀ item, Recording (each item)) :
    (items : List σ) → Recording (collect each items)
  | [] => .pure []
  | item :: rest => (recordings item).bind fun value =>
    (collect recordings rest).bind fun values => .pure (value :: values)

end Recording

/-! ## Single steps -/

namespace Machine

theorem keepsInput_lookup (line : Nat) (name : String) : (lookup line name).KeepsInput := by
  intro machine
  unfold lookup Action.ofExcept
  cases machine.scopes.get machine.scope name <;> rfl

theorem keepsInput_assign (line : Nat) (name : String) (value : Value) :
    (assign line name value).KeepsInput := by
  intro machine
  unfold assign
  cases machine.scopes.nearest? name machine.scope <;> rfl

theorem keepsInput_define (name : String) (value : Value) : (define name value).KeepsInput :=
  fun _ => rfl

theorem keepsInput_writeLine (line : Nat) (value : Value) :
    (writeLine line value).KeepsInput := by
  intro machine
  unfold writeLine
  dsimp only
  split <;> rfl

end Machine

namespace World

/-- Waiting keeps the input. -/
theorem input_wait (world : World) (seconds : Option Float) :
    (world.wait seconds).2.input = world.input := by
  unfold wait
  split
  · split <;> rfl
  · rfl

end World

/-- No native function but `input` reads anything. -/
theorem Native.input_call {builtin : Native} {arguments : List Value} {world : World}
    (other : ¬ (builtin = .input ∧ arguments = [])) :
    (builtin.call arguments world).2.input = world.input := by
  unfold Native.call
  cases builtin with
  | input =>
      cases arguments with
      | nil => exact absurd ⟨rfl, rfl⟩ other
      | cons => rfl
  | sleep =>
      rcases arguments with _ | ⟨seconds, _ | _⟩
      · rfl
      · exact World.input_wait world _
      · rfl
  | _ => rcases arguments with _ | ⟨_, _ | ⟨_, _ | _⟩⟩ <;> rfl

/-! ## Expressions and statements -/

namespace Evaluation

open Scriptlet.Machine

variable {evaluate : Expr → Action Value} {execute : Statement → Action Flow}
  (values : ∀ expr, Recording (evaluate expr))
  (flows : ∀ statement, Recording (execute statement))

/-- What statements in order read, up to a return or a failure. -/
def recordSequence (statements : List Statement) : Recording (sequence execute statements) :=
  (Recording.findFirst (fun statement => (flows statement).bind fun flow => .pure flow.asReturned?)
    statements).bind fun returned => .pure (returned.getD .normal)

/-- What a block reads. -/
def recordBlock (statements : List Statement) : Recording (block execute statements) :=
  .between enterBlock leaveBlock (fun _ => rfl) (fun _ _ => rfl) (recordSequence flows statements)

/-- What the body of a function reads, unless the call is too deep. -/
def recordCallDeclared (line : Nat) (declaration : Declaration) (closure : ScopeId)
    (arguments : List Value) :
    Recording (callDeclared execute line declaration closure arguments) where
  log machine :=
    if machine.settings.callLimit ≤ machine.depth then []
    else (recordSequence flows declaration.body).log
      (machine.enterBody declaration closure arguments)
  gives machine := by
    split
    · next deep =>
      rw [callDeclared_of_deep deep]
      exact ⟨_, .nothing, rfl⟩
    · next shallow =>
      rw [callDeclared_of_shallow shallow]
      obtain ⟨rest, given, left⟩ := (recordSequence flows declaration.body).gives
        (machine.enterBody declaration closure arguments)
      exact ⟨rest, given, Action.leaves_map (Action.leaves_ending left fun _ behind => behind)⟩

/-- A call of a native function: only `input` reads, and what it reads is what it gives. -/
def recordCallNative (builtin : Native) (arguments : List Value) :
    Recording (callNative builtin arguments) where
  log machine :=
    match builtin, arguments with
    | .input, [] => [machine.readLine.1]
    | _, _ => []
  gives machine := by
    by_cases reads : builtin = .input ∧ arguments = []
    · obtain ⟨rfl, rfl⟩ := reads
      exact ⟨_, .one, rfl⟩
    · refine ⟨machine.world.input, ?_, Native.input_call reads⟩
      split
      · exact absurd ⟨rfl, rfl⟩ reads
      · exact .nothing

/-- Where `input` is called, the value is the answer that is recorded. -/
theorem callNative_input (machine : Machine) :
    callNative .input [] machine = .done (.ofText? machine.readLine.1) machine.readLine.2 ∧
      (recordCallNative .input []).log machine = [machine.readLine.1] :=
  ⟨rfl, rfl⟩

/-- What a call of a function reads. -/
def recordCallFunction (line : Nat) (callee : Function) (arguments : List Value) :
    Recording (callFunction execute line callee arguments) :=
  match callee with
  | .native _ builtin => recordCallNative builtin arguments
  | .declared _ declaration closure => recordCallDeclared flows line declaration closure arguments

/-- What a call of any value reads. -/
def recordCallValue (line : Nat) (callee : Value) (arguments : List Value) :
    Recording (callValue execute line callee arguments) :=
  match callee with
  | .function callee =>
    .choose _ (recordCallFunction flows line callee arguments) (.fail line _)
  | .nil | .bool _ | .number _ | .text _ => .fail line _

/-- What an expression reads: what its parts read, in the order in which they are evaluated. -/
def recordEvaluateNode : (expr : Expr) → Recording (evaluateNode evaluate execute expr)
  | .literal _ value => .pure (Value.ofLiteral value)
  | .grouping _ inner => values inner
  | .unary line op operand => (values operand).bind fun operand =>
    .ofExcept line (op.apply operand)
  | .binary line op left right => (values left).bind fun left => (values right).bind fun right =>
    .ofExcept line (op.apply left right)
  | .logical _ _ left right => (values left).bind fun left =>
    .choose _ (.pure left) (values right)
  | .reference line name => .quiet (keepsInput_lookup line name)
  | .assign line name value => (values value).bind fun value =>
    (Recording.quiet (keepsInput_assign line name value)).bind fun _ => .pure value
  | .update line op name operand => (values operand).bind fun operand =>
    (Recording.quiet (keepsInput_lookup line name)).bind fun current =>
    (Recording.ofExcept line (op.apply current operand)).bind fun result =>
    (Recording.quiet (keepsInput_assign line name result)).bind fun _ => .pure result
  | .call line callee arguments => (values callee).bind fun callee =>
    (Recording.collect values arguments).bind fun arguments =>
    recordCallValue flows line callee arguments

/-- What a loop reads, round by round. -/
def recordWhileLoop {condition : Action Bool} {body : Action Flow} (bound : Nat)
    (tests : Recording condition) (round : Recording body) :
    Recording (whileLoop bound condition body) :=
  Recording.repeatUntil (tests.bind fun holds => .choose (holds = true)
    (round.bind fun flow => .pure flow.asReturned?) (.pure (some Flow.normal))) bound

/-- What a loop that is tested at its end reads. -/
def recordDoWhileLoop {condition : Action Bool} {body : Action Flow} (bound : Nat)
    (tests : Recording condition) (round : Recording body) :
    Recording (doWhileLoop bound condition body) :=
  Recording.repeatUntil (round.bind fun
    | .returned value => .pure (some (Flow.returned value))
    | .normal => tests.bind fun holds => .choose (holds = true) (.pure none)
      (.pure (some Flow.normal))) bound

/-- What an expression that may be left out reads. -/
def recordOption : (expr : Option Expr) → Recording (evaluateOption evaluate expr)
  | none => .pure Value.nil
  | some expr => values expr

/-- Echoing a value reads nothing. -/
def recordEcho (line : Nat) (value : Value) : Recording (echoLine line value) :=
  (Recording.inspect _).bind fun _ =>
    .choose _ (.quiet (keepsInput_writeLine line value)) (.pure ())

/-- What a statement reads. -/
def recordExecuteNode (bound : Nat) :
    (statement : Statement) → Recording (executeNode bound evaluate execute statement)
  | .expression line expr => .congr executeNode_expression.symm <|
    (values expr).bind fun value => (recordEcho line value).bind fun _ => .pure Flow.normal
  | .print line expr => (values expr).bind fun value =>
    (Recording.quiet (keepsInput_writeLine line value)).bind fun _ => .pure Flow.normal
  | .declare _ name initial => (recordOption values initial).bind fun value =>
    (Recording.quiet (keepsInput_define name value)).bind fun _ => .pure Flow.normal
  | .block _ body => recordBlock flows body
  | .branch _ condition positive none => (values condition).bind fun _ =>
    .choose _ (flows positive) (.pure Flow.normal)
  | .branch _ condition positive (some negative) => (values condition).bind fun _ =>
    .choose _ (flows positive) (flows negative)
  | .choice _ condition positive negative => (values condition).bind fun _ =>
    .choose _ (flows positive) (flows negative)
  | .whileLoop _ condition body =>
    recordWhileLoop bound ((values condition).map Value.truthy) (flows body)
  | .doWhileLoop _ body condition =>
    recordDoWhileLoop bound ((values condition).map Value.truthy) (flows body)
  | .function .. => .quiet fun _ => rfl
  | .giveBack _ value => (recordOption values value).bind fun value => .pure (Flow.returned value)

end Evaluation

open Evaluation

mutual

/-- What an expression reads. -/
def recordEvaluate (bound : Nat) (expr : Expr) : Recording (evaluate bound expr) :=
  match bound with
  | 0 => .congr (by rw [evaluate]) .exhausted
  | bound + 1 => .congr (by rw [evaluate])
    (recordEvaluateNode (recordEvaluate bound) (recordExecute bound) expr)

/-- What a statement reads. -/
def recordExecute (bound : Nat) (statement : Statement) : Recording (execute bound statement) :=
  match bound with
  | 0 => .congr (by rw [execute]) .exhausted
  | bound + 1 => .congr (by rw [execute])
    (recordExecuteNode (recordEvaluate bound) (recordExecute bound) bound statement)

end

namespace Machine

/-- What statements in order read. -/
def recordExecuteAll (bound : Nat) (statements : List Statement) :
    Recording (executeAll bound statements) :=
  (Recording.findFirst (fun statement => (recordExecute bound statement).bind fun _ =>
    .pure (none : Option Unit)) statements).bind fun _ => .pure ()

/-- What a program reads. Handing on its output reads nothing. -/
def recordInterpret (bound : Nat) (statements : List Statement) :
    Recording (interpret bound statements) where
  log := (recordExecuteAll bound statements).log
  gives machine := by
    obtain ⟨rest, given, left⟩ := (recordExecuteAll bound statements).gives machine
    exact ⟨rest, given, leaves_interpret (fun _ behind => behind) left⟩

/-- The answers that a run gets from the input, in order, whether it ends or not. -/
def answers (bound : Nat) (source : String) (machine : Machine) : List (Option String) :=
  if (Program.ofSource source).errors.isEmpty then
    (recordInterpret bound (Program.ofSource source).statements).log machine
  else []

/-- A run moves the input on by what it reads, and nothing else does. -/
theorem gives_answers (bound : Nat) (source : String) (machine : Machine) :
    ∃ rest, machine.world.input.Gives (machine.answers bound source) rest ∧
      ∀ after, (runWithin bound source machine).after? = some after →
        after.world.input = rest := by
  unfold answers runWithin
  dsimp only
  split
  · obtain ⟨rest, given, left⟩ :=
      (recordInterpret bound (Program.ofSource source).statements).gives machine
    refine ⟨rest, given, fun after ran => ?_⟩
    cases ended : interpret bound (Program.ofSource source).statements machine with
    | unfinished =>
        rw [ended] at ran
        cases ran
    | done _ last =>
        rw [ended] at ran left
        cases ran
        exact left
    | failed error last =>
        rw [ended] at ran left
        cases ran
        exact left
  · refine ⟨_, .nothing, fun after ran => ?_⟩
    cases ran
    rfl

end Machine

end Scriptlet
