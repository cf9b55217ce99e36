import Scriptlet.Proofs.Machine.ComparedEvaluation
import Scriptlet.Proofs.Machine.ConfinedEvaluation
import Scriptlet.Proofs.Machine.Simulation

/-!
# Scopes that cannot be reached do not matter

Two machines that agree on the scopes that links lead to from the current one do the same, whatever
stands in other scopes. A call does the same wherever it is made: what matters are the scopes that
the function and the arguments lead to, not those of the caller.
-/

namespace Scriptlet

/-! ## Scopes that agree -/

namespace Scopes

variable {within : ScopeId → Prop} {scopes others : Scopes} {scope holder : ScopeId}
  {name : String} {value : Value}

/-- Links lead to a scope from the one that a function keeps or from one that an argument keeps. -/
def ReachedByCall (scopes : Scopes) (closure : ScopeId) (arguments : List Value)
    (scope : ScopeId) : Prop :=
  ∃ root, (root = closure ∨ ∃ argument ∈ arguments, argument.Keeps root) ∧
    scopes.Reaches root scope

/-- Equally many scopes and functions were made, and the same stands in the scopes of a set. -/
structure Agree (within : ScopeId → Prop) (scopes others : Scopes) : Prop where
  next : others.next = scopes.next
  functions : others.functions = scopes.functions
  frames : ∀ {scope : ScopeId}, within scope → others.frames[scope]? = scopes.frames[scope]?

/-- New scopes leave scopes in agreement. -/
theorem Agree.enclose (agree : Agree within scopes others) (enclosing : Option ScopeId) :
    Agree within (scopes.enclose enclosing) (others.enclose enclosing) where
  next := by rw [next_enclose, next_enclose, agree.next]
  functions := agree.functions
  frames {scope} inside := by
    have sizes : others.frames.size = scopes.frames.size := agree.next
    simp only [Scopes.enclose, Array.getElem?_push, sizes, agree.frames inside]

/-- A binding made in both leaves scopes in agreement, in whatever scope it is made. -/
theorem Agree.define (agree : Agree within scopes others) (holder : ScopeId) (name : String)
    (value : Value) :
    Agree within (scopes.define holder name value) (others.define holder name value) where
  next := by rw [next_define, next_define, agree.next]
  functions := agree.functions
  frames {scope} inside := by
    by_cases same : scope = holder
    · subst same
      rw [frame_define_self, frame_define_self, agree.frames inside]
    · rw [frame_define_of_ne same, frame_define_of_ne same, agree.frames inside]

theorem Agree.defineAll (agree : Agree within scopes others) (holder : ScopeId)
    (bindings : List (String × Value)) :
    Agree within (scopes.defineAll holder bindings) (others.defineAll holder bindings) := by
  induction bindings generalizing scopes others with
  | nil => exact agree
  | cons binding rest ih => exact ih (agree.define ..)

/-- Names mean the same where no link leaves the set. -/
theorem Agree.nearest? (agree : Agree within scopes others) (closed : scopes.Closed within)
    (name : String) (member : within scope) :
    others.nearest? name scope = scopes.nearest? name scope := by
  induction scope using Nat.strongRecOn with
  | ind scope ih =>
      rw [Scopes.nearest?, Scopes.nearest?, agree.frames member]
      cases present : scopes.frames[scope]? with
      | none => rfl
      | some frame =>
          dsimp only
          cases frame.bindings.find? name with
          | some value => rfl
          | none =>
              cases stands : frame.enclosing with
              | none => rfl
              | some outer =>
                  dsimp only
                  split
                  · next isOlder => exact ih outer isOlder (closed member present (.inl stands))
                  · rfl

/-- Scopes that are still to be made agree. -/
theorem Agree.withNew (agree : Agree within scopes others) :
    Agree (fun scope => within scope ∨ scopes.next ≤ scope) scopes others where
  next := agree.next
  functions := agree.functions
  frames {scope} inside := by
    rcases inside with inside | isNew
    · exact agree.frames inside
    · have isNewToo : others.frames.size ≤ scope := Nat.le_trans (Nat.le_of_eq agree.next) isNew
      rw [Array.getElem?_eq_none isNew, Array.getElem?_eq_none isNewToo]

/-- Scopes that are still to be made have no links. -/
theorem Closed.withNew (closed : scopes.Closed within) :
    scopes.Closed fun scope => within scope ∨ scopes.next ≤ scope := by
  rintro scope next frame (inside | isNew) present links
  · exact .inl (closed inside present links)
  · exact absurd (lt_next_of_frame present) (Nat.not_lt_of_le isNew)

/-- No link leaves the scopes that are reached from a scope. -/
theorem closed_reaches (scopes : Scopes) (start : ScopeId) :
    scopes.Closed (scopes.Reaches start) :=
  fun _ _ _ reached present links => reached.step present links

/-- No link leaves the scopes that are reached by a call. -/
theorem closed_reachedByCall (scopes : Scopes) (closure : ScopeId) (arguments : List Value) :
    scopes.Closed (scopes.ReachedByCall closure arguments) :=
  fun _ _ _ ⟨root, isRoot, reached⟩ present links => ⟨root, isRoot, reached.step present links⟩

end Scopes

/-! ## Machines that agree -/

section

variable [Host]

/-- Two machines are the same, but for the current scope, what stands in scopes outside of a set,
and what was written before. -/
structure Machine.Agrees (within : ScopeId → Prop) (machine other : Machine) : Prop where
  settings : other.settings = machine.settings
  depth : other.depth = machine.depth
  world : other.world = machine.world
  capacity : other.output.capacity = machine.output.capacity
  scopes : machine.scopes.Agree within other.scopes

/-- Two streams were written the same since they had been written other things. -/
def Output.WroteSame (past history : List (List UInt8)) (output other : Output) : Prop :=
  ∃ written, output.writes = written ++ past ∧ other.writes = written ++ history

omit [Host] in
/-- What fits in one of two streams of the same capacity fits in the other. -/
theorem Output.WroteSame.write {past history : List (List UInt8)} {output other : Output}
    (same : output.WroteSame past history other) (capacity : other.capacity = output.capacity)
    (bytes : List UInt8) :
    (output.write bytes).1.WroteSame past history (other.write bytes).1 ∧
      (other.write bytes).1.capacity = (output.write bytes).1.capacity ∧
      (other.write bytes).2 = (output.write bytes).2 := by
  obtain ⟨written, here, there⟩ := same
  unfold Output.write
  rw [capacity]
  cases output.capacity with
  | none => exact ⟨⟨bytes :: written, by simp [here], by simp [there]⟩, rfl, rfl⟩
  | some limit =>
      exact ⟨⟨bytes.take limit :: written, by simp [here], by simp [there]⟩, rfl, rfl⟩

/-- What two runs are compared by: the scopes that they come to, and what had been written before
in the one and in the other. New scopes belong to them. -/
structure View where
  within : ScopeId → Prop
  since : ScopeId
  past : List (List UInt8)
  history : List (List UInt8)
  fresh {scope : ScopeId} : since ≤ scope → within scope

namespace View

variable {view : View} {places : ScopeId → ScopeId → Prop} {machine other : Machine}

/-- Two machines look the same from their scopes, which are as `places` says. -/
structure Sees (view : View) (places : ScopeId → ScopeId → Prop) (machine other : Machine) :
    Prop where
  agrees : machine.Agrees view.within other
  placed : places machine.scope other.scope
  grown : view.since ≤ machine.scopes.next
  closed : machine.scopes.Closed view.within
  wrote : machine.output.WroteSame view.past view.history other.output

/-- The two machines are in the same scope, which is one that they come to. -/
def Together (view : View) (scope other : ScopeId) : Prop :=
  view.within scope ∧ other = scope

/-- Machines that look the same, and equal values that keep only scopes that the runs come to. -/
def comparison (view : View) (places : ScopeId → ScopeId → Prop) : Comparison Unit where
  leads _ _ := True
  machines _ := view.Sees places
  values _ value other := (∀ kept, value.Keeps kept → view.within kept) ∧ value = other
  leads_refl _ := trivial
  leads_trans _ _ := trivial
  values_later _ same := same
  resembles := by
    rintro _ value _ ⟨-, rfl⟩
    exact .same
  plain _ value plain := by
    refine ⟨?_, rfl⟩
    rintro kept ⟨_, _, rfl⟩
    cases plain

/-! ## Single steps -/

open Scriptlet.Machine

variable {holder closure : ScopeId} {name : String} {value : Value} {declaration : Declaration}
  {arguments : List Value}

/-- The same binding in the same scope. -/
theorem Sees.define {keeper : ScopeId} (sees : view.Sees places machine other) (name : String)
    (same : keeper = holder) (keeps : ∀ kept, value.Keeps kept → view.within kept) :
    view.Sees places { machine with scopes := machine.scopes.define holder name value }
      { other with scopes := other.scopes.define keeper name value } := by
  subst same
  exact
    { agrees := { sees.agrees with scopes := sees.agrees.scopes.define keeper name value }
      placed := sees.placed
      grown := by simpa using sees.grown
      closed := sees.closed.define keeps
      wrote := sees.wrote }

/-- A name is found in the same scope with the same value, as all scopes along the way are in the
set. -/
theorem Sees.nearest? (sees : view.Sees view.Together machine other) (name : String) :
    other.scopes.nearest? name other.scope = machine.scopes.nearest? name machine.scope := by
  rw [sees.placed.2]
  exact sees.agrees.scopes.nearest? sees.closed name sees.placed.1

/-- What is found keeps only scopes that the runs come to. -/
theorem Sees.keeps_of_nearest? (sees : view.Sees view.Together machine other)
    (found : machine.scopes.nearest? name machine.scope = some (holder, value)) :
    ∀ kept, value.Keeps kept → view.within kept := by
  intro kept keeps
  obtain ⟨inside, frame, present, isBound⟩ := Scopes.nearest?_spec sees.placed.1
    (fun inside present stands => sees.closed inside present (.inl stands)) found
  exact sees.closed inside present (.inr ⟨name, value, isBound, keeps⟩)

/-- A value is written as the same line in both runs. -/
theorem matches_writeLine (line : Nat) (value : Value) :
    (writeLine line value).Matches (view.comparison places) () (fun _ _ _ => True)
      (writeLine line value) := by
  intro machine other sees
  obtain ⟨wrote, capacity, result⟩ :=
    sees.wrote.write sees.agrees.capacity (Text.encode (value.display ++ "\n"))
  have written : view.Sees places
      { machine with output := (machine.output.write (Text.encode (value.display ++ "\n"))).1 }
      { other with output := (other.output.write (Text.encode (value.display ++ "\n"))).1 } :=
    { sees with agrees := { sees.agrees with capacity }, wrote }
  have leads : (view.comparison places).leads () () := trivial
  unfold writeLine
  dsimp only
  rw [result]
  split
  · exact .done leads written trivial
  · exact .failed leads written

/-- From a block or the body of a function, machines come back to where they were. -/
theorem Sees.comesBack {after final : Machine} {here there : ScopeId} {depth rest : Nat}
    (sees : view.Sees view.Together after final) (placed : places here there)
    (same : rest = depth) :
    view.Sees places { after with scope := here, depth := depth }
      { final with scope := there, depth := rest } where
  agrees := { sees.agrees with depth := same }
  placed := placed
  grown := sees.grown
  closed := sees.closed
  wrote := sees.wrote

/-- A block begins with the same new scope in both runs, and is left for the scopes before. -/
theorem enters_block (sees : view.Sees view.Together machine other) :
    (view.comparison view.Together).Enters (view.comparison view.Together) () machine.enterBlock
      other.enterBlock machine.leaveBlock other.leaveBlock := by
  have begun : view.Sees view.Together machine.enterBlock other.enterBlock :=
    { agrees :=
        { sees.agrees with
          scopes := by
            rw [enterBlock, enterBlock, sees.placed.2]
            exact sees.agrees.scopes.enclose _ }
      placed := ⟨view.fresh sees.grown, sees.agrees.scopes.next⟩
      grown := by simpa [enterBlock] using Nat.le_succ_of_le sees.grown
      closed := sees.closed.enclose sees.placed.1
      wrote := sees.wrote }
  refine ⟨(), begun, fun _ after final _ inside => ⟨(), trivial, ?_, fun _ _ same => same⟩⟩
  exact Sees.comesBack inside sees.placed inside.agrees.depth

/-- A call begins in a new scope, wherever it is made. -/
theorem enters_body (declaration : Declaration) (sees : view.Sees places machine other)
    (member : view.within closure)
    (keep : ∀ argument ∈ arguments, ∀ kept, argument.Keeps kept → view.within kept) :
    (view.comparison view.Together).Enters (view.comparison places) ()
      (machine.enterBody declaration closure arguments)
      (other.enterBody declaration closure arguments) machine.leaveBody other.leaveBody := by
  have begun : view.Sees view.Together (machine.enterBody declaration closure arguments)
      (other.enterBody declaration closure arguments) :=
    { agrees :=
        { sees.agrees with
          depth := congrArg (· + 1) sees.agrees.depth
          scopes := by
            rw [enterBody, enterBody, sees.agrees.scopes.next]
            exact (sees.agrees.scopes.enclose _).defineAll _ _ }
      placed := ⟨view.fresh sees.grown, sees.agrees.scopes.next⟩
      grown := by
        simpa [enterBody, Scopes.next_defineAll] using Nat.le_succ_of_le sees.grown
      closed := (sees.closed.enclose member).defineAll fun binding inside =>
        keep _ (List.of_mem_zip inside).2
      wrote := sees.wrote }
  refine ⟨(), begun, fun _ after final _ inside => ⟨(), trivial, ?_, fun _ _ same => same⟩⟩
  exact Sees.comesBack inside sees.placed (congrArg (· - 1) inside.agrees.depth)

/-- **Single steps do the same in both runs**, and keep to the scopes that the runs come to. -/
theorem sound_comparison (view : View) : (view.comparison view.Together).Sound where
  limit sees := ⟨congrArg Settings.callLimit sees.agrees.settings, sees.agrees.depth⟩
  nearest {_ machine other} name sees := by
    rw [View.Sees.nearest? sees name]
    cases found : machine.scopes.nearest? name machine.scope with
    | none => exact .none
    | some pair => exact .some ⟨View.Sees.keeps_of_nearest? sees found, rfl⟩
  define {_ machine other _ _} name sees same := by
    obtain ⟨keeps, rfl⟩ := same
    exact ⟨(), trivial, View.Sees.define sees name sees.placed.2 keeps⟩
  assign {_ machine other _ _ _ _ _ _ _} sees here there same := by
    obtain ⟨keeps, rfl⟩ := same
    -- Both runs find the name in the same scope, and bind it anew there.
    rw [View.Sees.nearest? sees, here] at there
    cases there
    exact ⟨(), trivial, View.Sees.define sees _ rfl keeps⟩
  function {_ machine other} declaration sees := by
    have functions : other.scopes.functions = machine.scopes.functions :=
      sees.agrees.scopes.functions
    have made : view.Sees view.Together
        { machine with scopes := (machine.scopes.newFunction declaration machine.scope).2 }
        { other with scopes := (other.scopes.newFunction declaration other.scope).2 } :=
      { agrees :=
          { sees.agrees with
            scopes :=
              { sees.agrees.scopes with functions := congrArg (· + 1) functions } }
        placed := sees.placed
        grown := sees.grown
        closed := sees.closed
        wrote := sees.wrote }
    refine ⟨(), trivial, made, ?_, ?_⟩
    · rintro kept ⟨_, _, same⟩
      cases same
      exact sees.placed.1
    · rw [Scopes.newFunction, Scopes.newFunction, functions, sees.placed.2]
  write {_ value _} line same := by
    obtain ⟨-, rfl⟩ := same
    exact matches_writeLine line value
  echo {_ value _} line same := by
    obtain ⟨-, rfl⟩ := same
    refine Evaluation.matches_echoLine (fun _ _ sees => ?_) fun _ _ => matches_writeLine line value
    exact congrArg Settings.echo sees.agrees.settings
  world {_ machine other} sees := by
    refine ⟨sees.agrees.world, fun world => ⟨(), trivial, ?_⟩⟩
    exact ⟨{ sees.agrees with world := rfl }, sees.placed, sees.grown, sees.closed, sees.wrote⟩
  block sees := enters_block sees
  body {_ machine other identity declaration closure _ arguments others} sees same all := by
    obtain ⟨keeps, equal⟩ := same
    cases equal
    obtain ⟨keep, equal⟩ := (List.forall₂_and_left arguments others).mp all
    rw [List.forall₂_eq_eq_eq] at equal
    subst equal
    exact enters_body declaration sees (keeps closure ⟨identity, declaration, rfl⟩) keep

end View

/-! ## Whole runs -/

/-- The runs of two machines come to the scopes of a set and to new ones. -/
def View.between (within : ScopeId → Prop) (machine other : Machine) : View where
  within scope := within scope ∨ machine.scopes.next ≤ scope
  since := machine.scopes.next
  past := machine.output.writes
  history := other.output.writes
  fresh := .inr

/-- Two machines that came of two others agree on a set of scopes and on all new ones, and the same
was written in both. Errors are the same. -/
def Correspondence.between (within : ScopeId → Prop) (machine other : Machine) :
    Correspondence where
  machines after final :=
    after.Agrees (fun scope => within scope ∨ machine.scopes.next ≤ scope) final ∧
      after.output.WroteSame machine.output.writes other.output.writes final.output
  errors := Eq

namespace Machine

open Scriptlet.Evaluation

variable {within : ScopeId → Prop} {places : ScopeId → ScopeId → Prop} {machine other : Machine}
  {α : Type}

/-- Machines that agree on a set of scopes that no link leaves look the same from there. -/
theorem Agrees.sees (agrees : machine.Agrees within other) (closed : machine.scopes.Closed within)
    (placed : places machine.scope other.scope) :
    (View.between within machine other).Sees places machine other where
  agrees := { agrees with scopes := agrees.scopes.withNew }
  placed := placed
  grown := Nat.le_refl _
  closed := closed.withNew
  wrote := ⟨[], rfl, rfl⟩

/-- Runs that match, with results that are equal, are alike as far as the two machines agreed. -/
theorem alike_of_matches {results : Unit → α → α → Prop} {outcome answer : Outcome α}
    (agree : outcome.Matches ((View.between within machine other).comparison places) () results
      answer)
    (same : ∀ value result, results () value result → value = result) :
    outcome.Alike (.between within machine other) Eq answer :=
  agree.alike (fun _ _ _ sees => ⟨sees.agrees, sees.wrote⟩) (fun _ => rfl)
    fun _ value result holds => same value result holds

/-- **What cannot be reached does not matter.** Machines in the same scope that agree on all scopes
that links lead to from there do the same: expressions and statements end in the same way, the same
is written, and the machines agree on these scopes and on all new ones again. And a call of a
declared function does the same in whatever scope it is made, if the machines agree on what links
lead to from the scope that the function keeps and from those that the arguments keep. Machines that
agree find the host, whatever it is, in one state, so that it answers both runs alike. -/
theorem alike_of_agrees (bound : Nat) (machine other : Machine) :
    (other.scope = machine.scope → machine.Agrees (machine.scopes.Reaches machine.scope) other →
      (∀ expr, (evaluate bound expr machine).Alike
        (.between (machine.scopes.Reaches machine.scope) machine other) Eq
        (evaluate bound expr other)) ∧
      ∀ statement, (execute bound statement machine).Alike
        (.between (machine.scopes.Reaches machine.scope) machine other) Eq
        (execute bound statement other)) ∧
    ∀ line declaration closure arguments,
      machine.Agrees (machine.scopes.ReachedByCall closure arguments) other →
        (callDeclared (execute bound) line declaration closure arguments machine).Alike
          (.between (machine.scopes.ReachedByCall closure arguments) machine other) Eq
          (callDeclared (execute bound) line declaration closure arguments other) := by
  constructor
  · intro same agrees
    let view := View.between (machine.scopes.Reaches machine.scope) machine other
    have sees : view.Sees view.Together machine other :=
      agrees.sees (Scopes.closed_reaches _ _) ⟨.inl .self, same⟩
    have sound := view.sound_comparison.matches_evaluate_execute bound
    refine ⟨fun expr => ?_, fun statement => ?_⟩
    · exact alike_of_matches (sound.1 () expr sees) fun _ _ holds => holds.2
    · refine alike_of_matches (sound.2 () statement sees) ?_
      rintro _ _ (_ | ⟨_, rfl⟩) <;> rfl
  · intro line declaration closure arguments agrees
    -- Callers may be anywhere: it is only in the body that both runs are in the same scope.
    let view := View.between (machine.scopes.ReachedByCall closure arguments) machine other
    have sees : view.Sees (fun _ _ => True) machine other :=
      agrees.sees (Scopes.closed_reachedByCall _ _ _) trivial
    have member : view.within closure := .inl ⟨closure, .inl rfl, .self⟩
    have keep (argument : Value) (given : argument ∈ arguments) (kept : ScopeId)
        (keeps : argument.Keeps kept) : view.within kept :=
      .inl ⟨kept, .inr ⟨argument, given, keeps⟩, .self⟩
    have limit : other.settings.callLimit = machine.settings.callLimit ∧
        other.depth = machine.depth :=
      ⟨congrArg Settings.callLimit agrees.settings, agrees.depth⟩
    have flows := (view.sound_comparison.matches_evaluate_execute bound).2
    have enters := View.enters_body declaration sees member keep
    exact alike_of_matches (matches_callDeclared flows limit sees enters) fun _ _ same => same.2

end Machine

end

namespace Machine

open Scriptlet.Evaluation

/-- A function that returns itself, by the name that it has in the outermost scope. -/
def naming : Value :=
  .function (.declared 0 ⟨1, "f", [], [.giveBack 1 (some (.reference 1 "f"))]⟩ 0)

/-- A machine whose outermost scope binds that function to `f`, and a scope inside of it something
else. -/
def shadowing (shadow : Value) (scope : ScopeId) : Machine where
  settings := ⟨false, 10⟩
  scopes := ⟨#[⟨[("f", naming)], none⟩, ⟨[("f", shadow)], some 0⟩], 1⟩
  globals := 0
  scope := scope
  depth := 0
  world := .bare []
  output := .unlimited

/-- In the machine of the example the outermost scope reaches itself alone. -/
theorem eq_of_reaches_shadowing {shadow : Value} {current scope : ScopeId}
    (reached : (shadowing shadow current).scopes.Reaches 0 scope) : scope = 0 := by
  induction reached with
  | self => rfl
  | step _ present links ih =>
      subst ih
      cases present
      rcases Frame.links_of_single links with stands | ⟨_, _, keeps⟩
      · cases stands
      · cases keeps
        rfl

/-- Whatever the inner scope binds, the machines of the example agree on the outermost one. -/
theorem agrees_shadowing {within : ScopeId → Prop} (outermost : ∀ scope, within scope → scope = 0)
    (shadow other : Value) (here there : ScopeId) :
    (shadowing shadow here).Agrees within (shadowing other there) where
  settings := rfl
  depth := rfl
  world := rfl
  capacity := rfl
  scopes :=
    { next := rfl
      functions := rfl
      frames := fun inside => by
        cases outermost _ inside
        rfl }

/-- The theorem at a call of a function in the outermost scope, while the inner scopes differ in
what its name is bound to. -/
theorem alike_of_agrees_shadowing :
    (shadowing (.bool true) 0).scopes.frames[1]? ≠ (shadowing .nil 0).scopes.frames[1]? ∧
      (execute 9 (.print 1 (.call 1 (.reference 1 "f") [])) (shadowing (.bool true) 0)).Alike
        (.between ((shadowing (.bool true) 0).scopes.Reaches 0) (shadowing (.bool true) 0)
          (shadowing .nil 0)) Eq
        (execute 9 (.print 1 (.call 1 (.reference 1 "f") [])) (shadowing .nil 0)) ∧
      (evaluate 9 (.reference 1 "f") (shadowing (.bool true) 1) =
        .done (.bool true) (shadowing (.bool true) 1)) ∧
      (callDeclared (execute 9) 1 ⟨1, "f", [], [.giveBack 1 (some (.reference 1 "f"))]⟩ 0 []
          (shadowing (.bool true) 1)).Alike
        (.between ((shadowing (.bool true) 1).scopes.ReachedByCall 0 []) (shadowing (.bool true) 1)
          (shadowing .nil 0)) Eq
        (callDeclared (execute 9) 1 ⟨1, "f", [], [.giveBack 1 (some (.reference 1 "f"))]⟩ 0 []
          (shadowing .nil 0)) := by
  have reached : (shadowing (.bool true) 0).Agrees
      ((shadowing (.bool true) 0).scopes.Reaches 0) (shadowing .nil 0) :=
    agrees_shadowing (fun _ => eq_of_reaches_shadowing) ..
  have called : (shadowing (.bool true) 1).Agrees
      ((shadowing (.bool true) 1).scopes.ReachedByCall 0 []) (shadowing .nil 0) := by
    refine agrees_shadowing ?_ ..
    rintro scope ⟨root, rfl | ⟨_, none, _⟩, reached⟩
    · exact eq_of_reaches_shadowing reached
    · cases none
  have statements :=
    ((alike_of_agrees 9 (shadowing (.bool true) 0) (shadowing .nil 0)).1 rfl reached).2
  have calls := (alike_of_agrees 9 (shadowing (.bool true) 1) (shadowing .nil 0)).2 1
    ⟨1, "f", [], [.giveBack 1 (some (.reference 1 "f"))]⟩ 0 [] called
  refine ⟨?_, statements _, ?_, calls⟩
  · intro same
    cases same
  · with_unfolding_all rfl

end Machine

end Scriptlet
