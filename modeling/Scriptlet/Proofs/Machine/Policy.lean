import Scriptlet.Proofs.Machine.ComparedEvaluation

/-!
# What a run keeps

A policy says which machines it admits, which machine may come of which, and which values may turn
up. Where single steps keep to it, all expressions, statements and programs do: this is the run
compared with itself. A policy may give way to another one within blocks and the bodies of
functions; what declares nothing keeps to it then.
-/

namespace Scriptlet

variable [Host]

variable {α : Type}

/-- What a run keeps to: the machines that are admitted, what may come of a machine, and the values
that may turn up in it. A value that may turn up may go on to, and so may one that is no
function. -/
structure Policy where
  admits : Machine → Prop
  leads : Machine → Machine → Prop
  takes : Machine → Value → Prop
  leads_refl (machine : Machine) : leads machine machine
  leads_trans {machine after last : Machine} :
    leads machine after → leads after last → leads machine last
  takes_later {machine after : Machine} {value : Value} :
    leads machine after → takes machine value → takes after value
  takes_plain (machine : Machine) {value : Value} : value.isPlain = true → takes machine value

namespace Policy

/-- A machine that is admitted may come of another one. -/
def GoesTo (policy : Policy) (machine after : Machine) : Prop :=
  policy.admits after ∧ policy.leads machine after

/-- Something begins with a machine that a policy of its own admits, and what comes of it, left by
`leave`, may come of the machine before. -/
def Enters (inner policy : Policy) (machine entered : Machine) (leave : Machine → Machine) : Prop :=
  inner.admits entered ∧
    ∀ ⦃after⦄, inner.GoesTo entered after →
      policy.GoesTo machine (leave after) ∧
        ∀ ⦃value⦄, inner.takes after value → policy.takes (leave after) value

/-- Single steps keep to the policy, but for declarations. Within blocks and the bodies of functions
another policy takes over. -/
structure SoundAround (inner policy : Policy) : Prop where
  found {machine : Machine} {holder : ScopeId} {name : String} {value : Value} :
    policy.admits machine → machine.scopes.nearest? name machine.scope = some (holder, value) →
    policy.takes machine value
  assign {machine : Machine} {value old : Value} {holder : ScopeId} {name : String} :
    policy.admits machine → machine.scopes.nearest? name machine.scope = some (holder, old) →
    policy.takes machine value →
    policy.GoesTo machine { machine with scopes := machine.scopes.define holder name value }
  output {machine : Machine} (output : Output) :
    policy.admits machine → policy.GoesTo machine { machine with output }
  world {machine : Machine} (world : World) :
    policy.admits machine → policy.GoesTo machine { machine with world }
  block {machine : Machine} :
    policy.admits machine → inner.Enters policy machine machine.enterBlock machine.leaveBlock
  body {machine : Machine} {identity : Nat} {declaration : Declaration} {closure : ScopeId}
    {arguments : List Value} :
    policy.admits machine →
    policy.takes machine (.function (.declared identity declaration closure)) →
    (∀ argument ∈ arguments, policy.takes machine argument) →
    inner.Enters policy machine (machine.enterBody declaration closure arguments) machine.leaveBody

/-- Single steps keep to the policy. -/
structure Sound (policy : Policy) : Prop extends policy.SoundAround policy where
  define {machine : Machine} {value : Value} (name : String) :
    policy.admits machine → policy.takes machine value →
    policy.GoesTo machine
      { machine with scopes := machine.scopes.define machine.scope name value }
  function {machine : Machine} (declaration : Declaration) : policy.admits machine →
    policy.GoesTo machine
        { machine with scopes := (machine.scopes.newFunction declaration machine.scope).2 } ∧
      policy.takes
        { machine with scopes := (machine.scopes.newFunction declaration machine.scope).2 }
        (machine.scopes.newFunction declaration machine.scope).1

end Policy

/-- However an action ended, the machine that it left may come of the one before, and a value is as
`result` says. -/
def Outcome.Keeps (policy : Policy) (before : Machine) (result : Machine → α → Prop) :
    Outcome α → Prop
  | .done value after => policy.GoesTo before after ∧ result after value
  | .failed _ after => policy.GoesTo before after
  | .unfinished => True

namespace Policy

variable {inner policy : Policy} {machine : Machine}

/-- A run under a policy, compared with itself. A stage is the machine that it has come to. -/
def comparison (policy : Policy) : Comparison Machine where
  leads := policy.leads
  machines stage machine final := machine = stage ∧ final = stage ∧ policy.admits stage
  values stage value other := policy.takes stage value ∧ value = other
  leads_refl := policy.leads_refl
  leads_trans := policy.leads_trans
  values_later leads same := ⟨policy.takes_later leads same.1, same.2⟩
  resembles := by
    rintro stage value _ ⟨-, rfl⟩
    exact .same
  plain stage _ plain := ⟨policy.takes_plain stage plain, rfl⟩

/-- What a policy lets come of a machine corresponds to itself at a later stage. -/
theorem GoesTo.compared {after : Machine} (goes : policy.GoesTo machine after) :
    policy.comparison.GoesTo machine after after :=
  ⟨after, goes.2, rfl, rfl, goes.1⟩

/-- What a policy begins with, its comparison begins with in both runs. -/
theorem Enters.compared {entered : Machine} {leave : Machine → Machine}
    (enters : inner.Enters policy machine entered leave) :
    inner.comparison.Enters policy.comparison machine entered entered leave leave := by
  refine ⟨entered, ⟨rfl, rfl, enters.1⟩, ?_⟩
  rintro _ _ after leads ⟨rfl, rfl, admits⟩
  obtain ⟨goes, keeps⟩ := enters.2 ⟨admits, leads⟩
  refine ⟨leave after, goes.2, ⟨rfl, rfl, goes.1⟩, ?_⟩
  rintro value _ ⟨takes, rfl⟩
  exact ⟨keeps takes, rfl⟩

/-- A value is written in both runs, as a policy admits any output. -/
theorem SoundAround.matches_writeLine (sound : inner.SoundAround policy) (line : Nat)
    (value : Value) :
    (Machine.writeLine line value).Matches policy.comparison machine (fun _ _ _ => True)
      (Machine.writeLine line value) := by
  rintro _ _ ⟨rfl, rfl, admits⟩
  rename_i machine
  obtain ⟨later, leads, same⟩ := (sound.output
    (machine.output.write (Text.encode (value.display ++ "\n"))).1 admits).compared
  unfold Machine.writeLine
  dsimp only
  split
  · exact .done leads same trivial
  · exact .failed leads same

/-- A policy that single steps keep to makes a comparison that is sound, but for declarations. -/
theorem SoundAround.compared (sound : inner.SoundAround policy) :
    inner.comparison.SoundAround policy.comparison where
  limit := by
    rintro _ _ machine ⟨rfl, rfl, -⟩
    exact ⟨rfl, rfl⟩
  nearest := by
    rintro _ _ machine name ⟨rfl, rfl, admits⟩
    cases found : machine.scopes.nearest? name machine.scope with
    | none => exact .none
    | some pair => exact .some ⟨sound.found admits found, rfl⟩
  assign := by
    rintro _ _ machine value _ _ _ _ _ _ ⟨rfl, rfl, admits⟩ found same ⟨takes, rfl⟩
    cases found.symm.trans same
    exact (sound.assign admits found takes).compared
  write := by
    rintro _ value _ line ⟨-, rfl⟩
    exact sound.matches_writeLine line value
  echo := by
    rintro _ value _ line ⟨-, rfl⟩
    refine Evaluation.matches_echoLine ?_ fun _ _ => sound.matches_writeLine line value
    rintro _ _ ⟨rfl, rfl, -⟩
    rfl
  world := by
    rintro _ _ machine ⟨rfl, rfl, admits⟩
    exact ⟨rfl, fun world => (sound.world world admits).compared⟩
  block := by
    rintro _ _ machine ⟨rfl, rfl, admits⟩
    exact (sound.block admits).compared
  body := by
    rintro _ _ machine identity declaration closure _ arguments others ⟨rfl, rfl, admits⟩
      ⟨takes, same⟩ all
    cases same
    obtain ⟨each, equal⟩ := (List.forall₂_and_left arguments others).mp all
    rw [List.forall₂_eq_eq_eq] at equal
    subst equal
    exact (sound.body admits takes each).compared

/-- **A sound policy is a sound comparison** of a run with itself. -/
theorem Sound.compared (sound : policy.Sound) : policy.comparison.Sound where
  toSoundAround := sound.toSoundAround.compared
  define := by
    rintro _ _ machine value _ name ⟨rfl, rfl, admits⟩ ⟨takes, rfl⟩
    exact (sound.define name admits takes).compared
  function := by
    rintro _ _ machine declaration ⟨rfl, rfl, admits⟩
    obtain ⟨goes, takes⟩ := sound.function declaration admits
    exact ⟨_, goes.2, ⟨rfl, rfl, goes.1⟩, takes, rfl⟩

/-! ## What has come of a machine -/

variable {results : Machine → α → α → Prop} {result : Machine → α → Prop}

/-- A run that matches itself keeps to the policy. -/
theorem keeps_of_matches {outcome : Outcome α}
    (agree : outcome.Matches policy.comparison machine results outcome)
    (holds : ∀ ⦃after value⦄, results after value value → result after value) :
    outcome.Keeps policy machine result := by
  cases outcome with
  | unfinished => trivial
  | failed error after =>
      obtain ⟨⟩ | ⟨leads, rfl, -, admits⟩ := agree
      exact ⟨admits, leads⟩
  | done value after =>
      obtain ⟨leads, ⟨rfl, -, admits⟩, given⟩ := agree
      exact ⟨⟨admits, leads⟩, holds given⟩

/-- What is returned may turn up. -/
def TakesFlow (policy : Policy) (machine : Machine) (flow : Flow) : Prop :=
  ∀ value, flow = .returned value → policy.takes machine value

/-- What is returned by a run that matches itself may turn up. -/
theorem takesFlow_of_matches {flow other : Flow}
    (same : flow.Matches policy.comparison machine other) :
    policy.TakesFlow machine flow := by
  rintro value rfl
  cases same with
  | returned given => exact given.1

section Around

variable (around : inner.SoundAround policy) (sound : inner.Sound)
  (admits : policy.admits machine) (bound : Nat)
include around sound admits

/-- An expression keeps to a policy under which only blocks and bodies of functions may declare. -/
theorem SoundAround.keeps_evaluate (expr : Expr) :
    (evaluate bound expr machine).Keeps policy machine policy.takes :=
  keeps_of_matches ((around.compared.matches_evaluate_execute sound.compared bound).1 machine expr
    ⟨rfl, rfl, admits⟩) fun _ _ same => same.1

/-- A statement that declares nothing where it stands. -/
theorem SoundAround.keeps_execute {statement : Statement} (quiet : statement.declares = false) :
    (execute bound statement machine).Keeps policy machine policy.TakesFlow :=
  keeps_of_matches ((around.compared.matches_evaluate_execute sound.compared bound).2 statement
    quiet machine ⟨rfl, rfl, admits⟩) fun _ _ same => takesFlow_of_matches same

/-- A call of a function that may turn up, with arguments that may. -/
theorem SoundAround.keeps_callDeclared (line identity : Nat) {declaration : Declaration}
    {closure : ScopeId} {arguments : List Value}
    (takes : policy.takes machine (.function (.declared identity declaration closure)))
    (all : ∀ argument ∈ arguments, policy.takes machine argument) :
    (Evaluation.callDeclared (execute bound) line declaration closure arguments machine).Keeps
      policy machine policy.takes := by
  have agree : (Evaluation.callDeclared (execute bound) line declaration closure arguments
      machine).Matches policy.comparison machine policy.comparison.values
      (Evaluation.callDeclared (execute bound) line declaration closure arguments machine) :=
    Evaluation.matches_callDeclared (sound.compared.matches_evaluate_execute bound).2 ⟨rfl, rfl⟩
      ⟨rfl, rfl, admits⟩ (around.body admits takes all).compared
  exact keeps_of_matches agree fun _ _ same => same.1

end Around

variable (sound : policy.Sound) (admits : policy.admits machine) (bound : Nat)
include sound admits

/-- An expression keeps to a sound policy. -/
theorem Sound.keeps_evaluate (expr : Expr) :
    (evaluate bound expr machine).Keeps policy machine policy.takes :=
  keeps_of_matches ((sound.compared.matches_evaluate_execute bound).1 machine expr
    ⟨rfl, rfl, admits⟩) fun _ _ same => same.1

/-- A statement keeps to a sound policy. -/
theorem Sound.keeps_execute (statement : Statement) :
    (execute bound statement machine).Keeps policy machine policy.TakesFlow :=
  keeps_of_matches ((sound.compared.matches_evaluate_execute bound).2 machine statement
    ⟨rfl, rfl, admits⟩) fun _ _ same => takesFlow_of_matches same

/-- Statements in order keep to a sound policy. -/
theorem Sound.keeps_sequence (statements : List Statement) :
    (Evaluation.sequence (execute bound) statements machine).Keeps policy machine
      policy.TakesFlow :=
  keeps_of_matches (Evaluation.matches_sequence (sound.compared.matches_evaluate_execute bound).2
    machine statements ⟨rfl, rfl, admits⟩) fun _ _ same => takesFlow_of_matches same

/-- The statements of a program keep to a sound policy. -/
theorem Sound.keeps_executeAll (statements : List Statement) :
    (Machine.executeAll bound statements machine).Keeps policy machine fun _ _ => True :=
  keeps_of_matches (sound.compared.matches_executeAll bound machine statements
    ⟨rfl, rfl, admits⟩) fun _ _ _ => trivial

/-- A call keeps to a sound policy if the function and the arguments may turn up. -/
theorem Sound.keeps_callDeclared (line identity : Nat) {declaration : Declaration}
    {closure : ScopeId} {arguments : List Value}
    (takes : policy.takes machine (.function (.declared identity declaration closure)))
    (all : ∀ argument ∈ arguments, policy.takes machine argument) :
    (Evaluation.callDeclared (execute bound) line declaration closure arguments machine).Keeps
      policy machine policy.takes :=
  sound.toSoundAround.keeps_callDeclared sound admits bound line identity takes all

end Policy

end Scriptlet
