import Scriptlet.Proofs.Machine.Policy
import Scriptlet.Surroundings

/-!
# The machine comes back to rest

Whatever ends, and however it does, leaves the current scope and the number of calls under way as
they were. So a machine at rest is at rest after every run, and a failed run has nothing to do to
bring it there.
-/

namespace Scriptlet

section

variable [Host]

variable {α : Type}

/-- The machine is where it was: in the same scope, under the same number of calls, with the same
global scope. -/
structure Machine.Resumes (before after : Machine) : Prop where
  scope : after.scope = before.scope
  depth : after.depth = before.depth
  globals : after.globals = before.globals

/-- However an action ended, the machine that it left has a property. -/
def Outcome.Leaves (property : Machine → Prop) : Outcome α → Prop
  | .done _ after | .failed _ after => property after
  | .unfinished => True

namespace Machine

/-- The machine is in its global scope, and no call is under way. -/
structure AtRest (machine : Machine) : Prop where
  scope : machine.scope = machine.globals
  depth : machine.depth = 0

/-- The machine that a run left, if the run ended. -/
def RunResult.after? : RunResult → Option Machine
  | .finished after | .refused _ after => some after
  | .unfinished => none

/-- Runs, one after the other and however they ended, lead from one machine to another. -/
inductive RunsTo (machine : Machine) : Machine → Prop
  | refl : RunsTo machine machine
  | run {after last : Machine} {bound : Nat} {source : String} :
      RunsTo machine after → (runWithin bound source after).after? = some last →
      RunsTo machine last

end Machine

/-- What holds of the machine that an action leaves may be weakened. -/
theorem Outcome.Leaves.imp {property weaker : Machine → Prop} {outcome : Outcome α}
    (leaves : outcome.Leaves property) (weakens : ∀ after, property after → weaker after) :
    outcome.Leaves weaker := by
  cases outcome with
  | done value after => exact weakens after leaves
  | failed error after => exact weakens after leaves
  | unfinished => trivial

/-- Two properties of the machine that an action leaves are one. -/
theorem Outcome.Leaves.and {property other : Machine → Prop} {outcome : Outcome α}
    (first : outcome.Leaves property) (second : outcome.Leaves other) :
    outcome.Leaves fun after => property after ∧ other after := by
  cases outcome with
  | done value after => exact ⟨first, second⟩
  | failed error after => exact ⟨first, second⟩
  | unfinished => trivial

/-- A run that keeps to a policy leaves a machine that may come of the one before. -/
theorem Outcome.Keeps.leaves {policy : Policy} {before : Machine} {result : Machine → α → Prop}
    {outcome : Outcome α} (keeps : outcome.Keeps policy before result) :
    outcome.Leaves (policy.GoesTo before) := by
  cases outcome with
  | done value after => exact keeps.1
  | failed error after => exact keeps
  | unfinished => trivial

/-- What is done to the machine behind an action is done to whatever it leaves. -/
theorem Action.leaves_ending {property result : Machine → Prop} {action : Action α}
    {finish : Machine → Machine} {machine : Machine} (leaves : (action machine).Leaves property)
    (finishes : ∀ after, property after → result (finish after)) :
    (action.ending finish machine).Leaves result := by
  unfold ending
  cases ended : action machine with
  | unfinished => trivial
  | done value after =>
      rw [ended] at leaves
      exact finishes after leaves
  | failed error after =>
      rw [ended] at leaves
      exact finishes after leaves

/-! ## Whatever ends -/

namespace Policy

/-- The policy that asks for nothing but that the machine resumes. -/
def resuming : Policy where
  admits _ := True
  leads := Machine.Resumes
  takes _ _ := True
  leads_refl _ := ⟨rfl, rfl, rfl⟩
  leads_trans first second := ⟨second.scope.trans first.scope, second.depth.trans first.depth,
    second.globals.trans first.globals⟩
  takes_later _ _ := trivial
  takes_plain _ _ _ := trivial

/-- **Single steps resume**: blocks and calls put back what they changed on the way. -/
theorem sound_resuming : resuming.Sound where
  found _ _ := trivial
  define _ _ _ := ⟨trivial, rfl, rfl, rfl⟩
  assign _ _ _ := ⟨trivial, rfl, rfl, rfl⟩
  function _ _ := ⟨⟨trivial, rfl, rfl, rfl⟩, trivial⟩
  output _ _ := ⟨trivial, rfl, rfl, rfl⟩
  world _ _ := ⟨trivial, rfl, rfl, rfl⟩
  block _ := ⟨trivial, fun _ inside => ⟨⟨trivial, rfl, inside.2.depth, inside.2.globals⟩,
    fun _ _ => trivial⟩⟩
  body _ _ _ := ⟨trivial, fun _ inside => ⟨⟨trivial, rfl, congrArg (· - 1) inside.2.depth,
    inside.2.globals⟩, fun _ _ => trivial⟩⟩

end Policy

namespace Machine

open Policy

variable {bound : Nat} {machine after : Machine} {statements : List Statement}
  {error : RuntimeError}

/-- A machine that resumes one at rest is at rest. -/
theorem Resumes.atRest (resumes : machine.Resumes after) (atRest : machine.AtRest) :
    after.AtRest :=
  ⟨resumes.scope.trans (atRest.scope.trans resumes.globals.symm),
    resumes.depth.trans atRest.depth⟩

/-- A machine at rest has nothing to be brought to. -/
theorem AtRest.rest_eq (atRest : machine.AtRest) : machine.rest = machine := by
  obtain ⟨scope, depth⟩ := atRest
  cases machine
  cases scope
  cases depth
  rfl

/-- A fresh machine is at rest. -/
theorem atRest_fresh (settings : Settings) (world : World) (output : Output) :
    (fresh settings world output).AtRest :=
  ⟨rfl, rfl⟩

/-- The statements of a program resume the machine that they are executed on. -/
theorem resumes_executeAll (bound : Nat) (statements : List Statement) (machine : Machine) :
    (executeAll bound statements machine).Leaves machine.Resumes :=
  (sound_resuming.keeps_executeAll trivial bound statements).leaves.imp fun _ goes => goes.2

/-- Where statements fail, the machine is at rest if it was before. -/
theorem AtRest.rest_of_failed (atRest : machine.AtRest)
    (failed : executeAll bound statements machine = .failed error after) : after.rest = after := by
  have resumes := resumes_executeAll bound statements machine
  rw [failed] at resumes
  exact (Resumes.atRest resumes atRest).rest_eq

end Machine

/-! ## What runs keep -/

namespace Machine

variable {bound : Nat} {machine after : Machine} {property : Machine → Prop}

/-- A program leaves what its statements leave, if it is left by coming to rest as well. -/
theorem leaves_interpret (rests : ∀ after, property after → property after.rest)
    {statements : List Statement} (leaves : (executeAll bound statements machine).Leaves property) :
    (interpret bound statements machine).Leaves property := by
  unfold interpret
  cases ended : executeAll bound statements machine with
  | unfinished => trivial
  | done _ after =>
      rw [ended] at leaves
      dsimp only [flushAfter]
      cases after.output.flush <;> exact leaves
  | failed error after =>
      rw [ended] at leaves
      exact rests after leaves

/-- A property that the statements of a program keep, and that a machine keeps where it is brought
to rest, is kept by a run. -/
theorem leaves_runWithin (rests : ∀ after, property after → property after.rest)
    (leaves : ∀ statements, (executeAll bound statements machine).Leaves property)
    (here : property machine) {source : String}
    (ran : (runWithin bound source machine).after? = some after) : property after := by
  have left := leaves_interpret rests (leaves (Program.ofSource source).statements)
  unfold runWithin at ran
  dsimp only at ran
  split at ran
  · cases ended : interpret bound (Program.ofSource source).statements machine with
    | unfinished =>
        rw [ended] at ran
        cases ran
    | done _ last =>
        rw [ended] at ran left
        cases ran
        exact left
    | failed error last =>
        rw [ended] at ran left
        cases ran
        exact left
  · cases ran
    exact here

end Machine

/-- What single steps keep to, a run keeps to, from a machine at rest. -/
theorem Policy.Sound.keeps_runWithin {policy : Policy} (sound : policy.Sound)
    {machine after : Machine} (admits : policy.admits machine) (atRest : machine.AtRest)
    {bound : Nat} {source : String}
    (ran : (Machine.runWithin bound source machine).after? = some after) :
    policy.GoesTo machine after := by
  -- A failure leaves the machine at rest, so that bringing it there changes nothing.
  have rests (after : Machine) (left : policy.GoesTo machine after ∧ machine.Resumes after) :
      policy.GoesTo machine after.rest ∧ machine.Resumes after.rest := by
    rwa [(Machine.Resumes.atRest left.2 atRest).rest_eq]
  have leaves (statements : List Statement) :
      (Machine.executeAll bound statements machine).Leaves fun after =>
        policy.GoesTo machine after ∧ machine.Resumes after :=
    (sound.keeps_executeAll admits bound statements).leaves.and
      (Machine.resumes_executeAll bound statements machine)
  exact (Machine.leaves_runWithin rests leaves ⟨⟨admits, policy.leads_refl machine⟩, rfl, rfl, rfl⟩
    ran).1

/-- Runs, one after the other, resume a machine at rest. -/
theorem Machine.resumes_of_runsTo {machine after : Machine} (atRest : machine.AtRest)
    (runs : machine.RunsTo after) : machine.Resumes after := by
  induction runs with
  | refl => exact ⟨rfl, rfl, rfl⟩
  | run earlier ran ih =>
      have resumes := Policy.sound_resuming.keeps_runWithin trivial (ih.atRest atRest) ran
      exact Policy.resuming.leads_trans ih resumes.2

/-- A sound policy that admits a machine at rest is kept to by all runs on it, one after the
other. -/
theorem Policy.Sound.keeps_runsTo {policy : Policy} (sound : policy.Sound) {machine after : Machine}
    (admits : policy.admits machine) (atRest : machine.AtRest) (runs : machine.RunsTo after) :
    policy.GoesTo machine after := by
  induction runs with
  | refl => exact ⟨admits, policy.leads_refl machine⟩
  | run earlier ran ih =>
      have resting := (Machine.resumes_of_runsTo atRest earlier).atRest atRest
      have keeps := sound.keeps_runWithin ih.1 resting ran
      exact ⟨keeps.1, policy.leads_trans ih.2 keeps.2⟩

namespace Machine

open Evaluation Policy

/-- **The machine comes back to where it was.** However an expression, a statement, a list of
statements in any scope or a call ends, the scope and the number of calls are as before. So a
machine that has run any programs is at rest, it is so after one more, and where that one fails it
is at rest already. -/
theorem resumes_of_ended :
    (∀ (bound : Nat) (machine : Machine),
      (∀ expr, (evaluate bound expr machine).Leaves machine.Resumes) ∧
      (∀ statement, (execute bound statement machine).Leaves machine.Resumes) ∧
      (∀ scope statements,
        (inScope scope (sequence (execute bound) statements) machine).Leaves machine.Resumes) ∧
      ∀ line declaration closure arguments,
        (callDeclared (execute bound) line declaration closure arguments machine).Leaves
          machine.Resumes) ∧
    ∀ (settings : Settings) (world : World) (output : Output) (machine : Machine),
      (fresh settings world output).RunsTo machine → machine.AtRest ∧
        (∀ bound source after, (runWithin bound source machine).after? = some after →
          after.AtRest) ∧
        ∀ bound statements error after, executeAll bound statements machine = .failed error after →
          after.rest = after := by
  constructor
  · intro bound machine
    have resumes {α : Type} {outcome : Outcome α} {result : Machine → α → Prop}
        (keeps : outcome.Keeps resuming machine result) : outcome.Leaves machine.Resumes :=
      keeps.leaves.imp fun _ goes => goes.2
    refine ⟨fun expr => ?_, fun statement => ?_, fun scope statements => ?_, ?_⟩
    · exact resumes (sound_resuming.keeps_evaluate trivial bound expr)
    · exact resumes (sound_resuming.keeps_execute trivial bound statement)
    · have inside : (sequence (execute bound) statements { machine with scope }).Keeps resuming
          { machine with scope } resuming.TakesFlow :=
        sound_resuming.keeps_sequence trivial bound statements
      exact Action.leaves_ending inside.leaves fun _ goes => ⟨rfl, goes.2.depth, goes.2.globals⟩
    · intro line declaration closure arguments
      exact resumes (sound_resuming.keeps_callDeclared trivial bound line 0 trivial
        fun _ _ => trivial)
  · intro settings world output machine runs
    have first := atRest_fresh settings world output
    have atRest := (resumes_of_runsTo first runs).atRest first
    refine ⟨atRest, fun bound source after ran => ?_, fun bound statements error after failed => ?_⟩
    · exact (resumes_of_runsTo first (runs.run ran)).atRest first
    · exact atRest.rest_of_failed failed

end Machine

end

namespace Machine

/-- A machine that nothing was run on, whose calls may nest nine deep. -/
def untouched : Machine :=
  fresh ⟨false, 9⟩ (.bare []) .unlimited

/-- The same machine after a call inside of a block failed: the scopes of both are left. -/
def interrupted : Machine :=
  { untouched with
    scopes :=
      { frames := untouched.scopes.frames ++
          #[⟨[("f", .function (.declared 12 ⟨1, "f", [],
              [.giveBack 1 (some (.reference 1 "x"))]⟩ 1))], some 0⟩, ⟨[], some 1⟩]
        functions := 13 } }

/-- A call inside of a block fails for a name that is not bound, and leaves this machine. -/
theorem after?_runWithin_untouched :
    (runWithin 9 "{ fun f() { return x; } f(); }" untouched).after? = some interrupted := by
  have pieces : Piece.split "{ fun f() { return x; } f(); }".toList =
      [.token (.symbol .leftBrace) ['{'], .layout [' '], .token (.keyword .funWord) ['f', 'u', 'n'],
        .layout [' '], .token (.identifier "f") ['f'], .token (.symbol .leftParen) ['('],
        .token (.symbol .rightParen) [')'], .layout [' '], .token (.symbol .leftBrace) ['{'],
        .layout [' '], .token (.keyword .returnWord) ['r', 'e', 't', 'u', 'r', 'n'], .layout [' '],
        .token (.identifier "x") ['x'], .token (.symbol .semicolon) [';'], .layout [' '],
        .token (.symbol .rightBrace) ['}'], .layout [' '], .token (.identifier "f") ['f'],
        .token (.symbol .leftParen) ['('], .token (.symbol .rightParen) [')'],
        .token (.symbol .semicolon) [';'], .layout [' '], .token (.symbol .rightBrace) ['}']] := by
    with_unfolding_all rfl
  have program : Program.ofSource "{ fun f() { return x; } f(); }" =
      ⟨[.block 1 [.function 1 "f" [] [.giveBack 1 (some (.reference 1 "x"))],
        .expression 1 (.call 1 (.reference 1 "f") [])]], []⟩ := by
    rw [Program.ofSource, Scan.ofSource, pieces]
    rfl
  unfold runWithin
  rw [program]
  with_unfolding_all rfl

/-- The theorem at this machine: it is at rest behind the failure, and behind another one. -/
theorem resumes_of_ended_failing :
    (runWithin 9 "{ fun f() { return x; } f(); }" untouched).after? = some interrupted ∧
      interrupted.AtRest ∧
      executeAll 9 [.expression 1 (.reference 1 "x")] interrupted =
        .failed ⟨1, .undefinedVariable "x"⟩ interrupted ∧
      interrupted.rest = interrupted := by
  have failed : executeAll 9 [.expression 1 (.reference 1 "x")] interrupted =
      .failed ⟨1, .undefinedVariable "x"⟩ interrupted := by
    with_unfolding_all rfl
  have atRest := (resumes_of_ended.2 ⟨false, 9⟩ (.bare []) .unlimited untouched .refl).2.1 _ _ _
    after?_runWithin_untouched
  have resting := (resumes_of_ended.2 ⟨false, 9⟩ (.bare []) .unlimited interrupted
    (.run .refl after?_runWithin_untouched)).2.2
  exact ⟨after?_runWithin_untouched, atRest, failed, resting _ _ _ _ failed⟩

end Machine

end Scriptlet
