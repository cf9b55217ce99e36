import Mathlib.Data.Set.Basic
import Scriptlet.Proofs.Machine.Reachability
import Scriptlet.Proofs.Machine.Rest

/-!
# Which names a scope binds

A declaration binds a name in the current scope, and nothing else binds a name that was not bound
before. Blocks and the bodies of functions are executed in scopes of their own, so that whatever
they declare is bound in scopes made meanwhile. What is evaluated or called therefore leaves each
scope that there was with the names that it had.
-/

namespace Scriptlet

variable {name : String} {value : Value} {bindings : Bindings}

namespace Bindings

/-- A name that is bound keeps its place among the names when it is bound anew. -/
theorem map_fst_set (bound : bindings.find? name = some value) (changed : Value) :
    (bindings.set name changed).map (·.1) = bindings.map (·.1) := by
  induction bindings with
  | nil => cases bound
  | cons binding rest ih =>
      obtain ⟨first, kept⟩ := binding
      by_cases same : first = name
      · simp [set, same]
      · have different : (name == first) = false := by simpa using Ne.symm same
        rw [find?, List.lookup_cons, different] at bound
        simpa [set, same] using ih bound

/-- Binding a name anew binds no other one. -/
theorem names_set (bound : bindings.find? name = some value) (changed : Value) :
    (bindings.set name changed).names = bindings.names := by
  rw [names, map_fst_set bound, names]

/-- What can be found is what is among the names. -/
theorem find?_isSome_iff : (bindings.find? name).isSome ↔ name ∈ bindings.names := by
  rw [names, List.mem_mergeSort]
  induction bindings with
  | nil => simp [find?]
  | cons binding rest ih =>
      rw [find?, List.lookup_cons, List.map_cons, List.mem_cons, ← ih]
      by_cases same : name = binding.1
      · simp [same]
      · have different : (name == binding.1) = false := by simpa using same
        simp [different, same, find?]

end Bindings

namespace Scopes

variable {scopes after last : Scopes} {scope holder : ScopeId} {spared : Set ScopeId}

/-- All scopes are still there. Those that are not spared bind the names that they bound. -/
structure KeepsNames (scopes after : Scopes) (spared : Set ScopeId) : Prop where
  older : scopes.next ≤ after.next
  names : ∀ scope < scopes.next, scope ∉ spared → after.localNames scope = scopes.localNames scope

/-- A scope binds the names that are listed for it. -/
theorem containsLocal_iff : scopes.containsLocal scope name ↔ name ∈ scopes.localNames scope := by
  unfold containsLocal localNames
  cases scopes.frames[scope]? with
  | none => simp
  | some frame => exact Bindings.find?_isSome_iff

/-! ## Scopes keep their names -/

namespace KeepsNames

/-- Scopes keep the names that they have. -/
theorem refl (scopes : Scopes) (spared : Set ScopeId) : scopes.KeepsNames scopes spared :=
  ⟨Nat.le_refl _, fun _ _ _ => rfl⟩

/-- Names that are kept twice are kept, and those that are spared are the same both times. -/
theorem trans (first : scopes.KeepsNames after spared) (second : after.KeepsNames last spared) :
    scopes.KeepsNames last spared where
  older := Nat.le_trans first.older second.older
  names scope exists_ kept :=
    (second.names scope (Nat.lt_of_lt_of_le exists_ first.older) kept).trans
      (first.names scope exists_ kept)

/-- A scope that was not there before need not be spared. -/
theorem of_new (keeps : scopes.KeepsNames after {scopes.next}) (spared : Set ScopeId) :
    scopes.KeepsNames after spared :=
  ⟨keeps.older, fun scope exists_ _ => keeps.names scope exists_ (Nat.ne_of_lt exists_)⟩

/-- A name that a scope newly binds is bound in a scope that is new. -/
theorem made (keeps : scopes.KeepsNames after ∅) (binds : after.containsLocal scope name)
    (unbound : ¬ scopes.containsLocal scope name) : scopes.next ≤ scope := by
  refine Nat.le_of_not_lt fun exists_ => unbound ?_
  rw [containsLocal_iff] at binds ⊢
  rwa [← keeps.names scope exists_ (Set.notMem_empty scope)]

end KeepsNames

/-- A new scope takes no name from the others, and gives them none. -/
theorem keepsNames_enclose (scopes : Scopes) (enclosing : Option ScopeId) (spared : Set ScopeId) :
    scopes.KeepsNames (scopes.enclose enclosing) spared := by
  refine ⟨by rw [next_enclose]; exact Nat.le_succ _, fun scope exists_ _ => ?_⟩
  rw [localNames, frame_enclose exists_, localNames]

/-- Binding a name in a scope changes the names of that scope alone. -/
theorem keepsNames_define (scopes : Scopes) (holder : ScopeId) (name : String) (value : Value) :
    scopes.KeepsNames (scopes.define holder name value) {holder} := by
  refine ⟨Nat.le_of_eq (next_define ..).symm, fun scope _ different => ?_⟩
  rw [localNames, frame_define_of_ne different, localNames]

/-- Binding the parameters of a function changes the names of its scope alone. -/
theorem keepsNames_defineAll (scopes : Scopes) (holder : ScopeId)
    (bindings : List (String × Value)) :
    scopes.KeepsNames (scopes.defineAll holder bindings) {holder} := by
  induction bindings generalizing scopes with
  | nil => exact .refl ..
  | cons binding rest ih => exact (keepsNames_define ..).trans (ih _)

/-- As many scopes as before, and each with the names that it had. -/
structure SameNames (scopes after : Scopes) : Prop where
  next : after.next = scopes.next
  names : ∀ scope, after.localNames scope = scopes.localNames scope

/-- Scopes have the names that they have. -/
theorem SameNames.refl (scopes : Scopes) : scopes.SameNames scopes :=
  ⟨rfl, fun _ => rfl⟩

/-- Names that are the same twice are the same. -/
theorem SameNames.trans (first : scopes.SameNames after) (second : after.SameNames last) :
    scopes.SameNames last :=
  ⟨second.next.trans first.next, fun scope => (second.names scope).trans (first.names scope)⟩

/-- Where names are the same, they are kept, whatever is spared. -/
theorem SameNames.keepsNames (same : scopes.SameNames after) (spared : Set ScopeId) :
    scopes.KeepsNames after spared :=
  ⟨Nat.le_of_eq same.next.symm, fun scope _ _ => same.names scope⟩

/-- To bind a name anew where it is bound is to change its value. -/
theorem sameNames_define (found : scopes.nearest? name scope = some (holder, value))
    (changed : Value) : scopes.SameNames (scopes.define holder name changed) := by
  refine ⟨next_define .., fun other => ?_⟩
  by_cases same : other = holder
  · subst same
    obtain ⟨frame, present, bound⟩ := exists_frame_of_nearest? found
    rw [localNames, frame_define_self, present, localNames, present]
    exact Bindings.names_set bound changed
  · rw [localNames, frame_define_of_ne same, localNames]

end Scopes

/-! ## What ends leaves names as they were -/

section

variable [Host]

namespace Policy

/-- The policy that scopes keep their names, but for some that depend on the current scope. -/
def keepingNames (spared : ScopeId → Set ScopeId) : Policy where
  admits _ := True
  leads before after :=
    after.scope = before.scope ∧ before.scopes.KeepsNames after.scopes (spared before.scope)
  takes _ _ := True
  leads_refl machine := ⟨rfl, .refl machine.scopes _⟩
  leads_trans first second :=
    ⟨second.1.trans first.1, first.2.trans (first.1 ▸ second.2)⟩
  takes_later _ _ := trivial
  takes_plain _ _ _ := trivial

/-- Within blocks and bodies only the new scope need be spared, and then outside none. -/
theorem soundAround_keepingNames (spared : ScopeId → Set ScopeId) :
    (keepingNames ({·})).SoundAround (keepingNames spared) where
  found _ _ := trivial
  assign _ found _ := ⟨trivial, rfl, (Scopes.sameNames_define found _).keepsNames _⟩
  output _ _ := ⟨trivial, rfl, .refl _ _⟩
  world _ _ := ⟨trivial, rfl, .refl _ _⟩
  block {machine} _ := by
    refine ⟨trivial, fun after inside => ⟨⟨trivial, rfl, ?_⟩, fun _ _ => trivial⟩⟩
    exact ((Scopes.keepsNames_enclose machine.scopes _ _).trans inside.2.2).of_new _
  body {machine} {identity declaration closure arguments} _ _ _ := by
    refine ⟨trivial, fun after inside => ⟨⟨trivial, rfl, ?_⟩, fun _ _ => trivial⟩⟩
    exact (((Scopes.keepsNames_enclose machine.scopes _ _).trans
      (Scopes.keepsNames_defineAll ..)).trans inside.2.2).of_new _

/-- Scopes other than the current one keep their names in every step of a run. -/
theorem sound_keepingNames : (keepingNames ({·})).Sound where
  toSoundAround := soundAround_keepingNames _
  define _ _ _ := ⟨trivial, rfl, Scopes.keepsNames_define ..⟩
  function _ _ := ⟨⟨trivial, rfl, Nat.le_refl _, fun _ _ _ => rfl⟩, trivial⟩

end Policy

namespace Action

variable {α β : Type} {property : Machine → Prop} {action : Action α} {next : α → Action β}
  {machine : Machine}

/-- What holds however two actions end is shown for the first one and for the second one behind
it. -/
theorem leaves_bind (first : (action machine).Leaves property)
    (second : ∀ value after, property after → (next value after).Leaves property) :
    ((action >>= next) machine).Leaves property := by
  rw [bind_apply]
  cases ended : action machine with
  | unfinished => trivial
  | failed error after =>
      rw [ended] at first
      exact first
  | done value after =>
      rw [ended] at first
      exact second value after first

/-- A fault in a value leaves the machine as it is. -/
theorem leaves_ofExcept {line : Nat} {outcome : Except Fault α} (here : property machine) :
    (ofExcept line outcome machine).Leaves property := by
  cases outcome <;> exact here

end Action

namespace Machine

open Scriptlet.Action Evaluation Policy

/-- The scopes that there were bind the names that they bound, and names that are bound since then
are bound in scopes that there were not. -/
structure LeaksNothing (machine after : Machine) : Prop where
  kept : machine.scopes.KeepsNames after.scopes ∅
  made : ∀ scope name, after.scopes.containsLocal scope name →
    ¬ machine.scopes.containsLocal scope name → machine.scopes.next ≤ scope

/-- An assignment binds no name that was not bound, whether it succeeds or not. -/
theorem sameNames_assign (line : Nat) (name : String) (value : Value) (machine : Machine) :
    (assign line name value machine).Leaves fun after => machine.scopes.SameNames after.scopes := by
  unfold assign
  split
  · next found => exact Scopes.sameNames_define found value
  · exact .refl machine.scopes

variable {bound line : Nat} {name : String} {expr : Expr} {value : Value} {machine middle : Machine}

/-- Behind its value, an assignment leaves each scope with the names that it had. -/
theorem sameNames_evaluate_assign (given : evaluate bound expr machine = .done value middle) :
    (evaluate (bound + 1) (.assign line name expr) machine).Leaves fun after =>
      middle.scopes.SameNames after.scopes := by
  rw [evaluate, evaluateNode, Action.bind_apply, given]
  dsimp only
  exact leaves_bind (sameNames_assign line name value middle) fun _ _ same => same

/-- Behind its operand, an update leaves each scope with the names that it had. -/
theorem sameNames_evaluate_update (given : evaluate bound expr machine = .done value middle)
    (op : UpdateOp) :
    (evaluate (bound + 1) (.update line op name expr) machine).Leaves fun after =>
      middle.scopes.SameNames after.scopes := by
  rw [evaluate, evaluateNode, Action.bind_apply, given]
  dsimp only
  have looks : (lookup line name middle).Leaves (middle.scopes.SameNames ·.scopes) :=
    leaves_ofExcept (.refl middle.scopes)
  refine leaves_bind looks fun current after same => ?_
  refine leaves_bind (leaves_ofExcept same) fun result after same => ?_
  have assigns : (assign line name result after).Leaves (middle.scopes.SameNames ·.scopes) :=
    (sameNames_assign line name result after).imp fun _ => same.trans
  exact leaves_bind assigns fun _ _ same => same

/-- **Declarations never leak.** Whatever an expression, a block or a call of a declared function
does to a machine, and however it ends, every scope that there was binds the names that it bound
before; names that are newly bound are bound in scopes made meanwhile. Any other statement may
bind names in the current scope besides. Assignments and updates make no scope and bind no name,
but for what the expression does whose value they take. -/
theorem keepsNames_of_ended :
    (∀ (bound : Nat) (machine : Machine),
      (∀ expr, (evaluate bound expr machine).Leaves machine.LeaksNothing) ∧
      (∀ line body, (execute bound (.block line body) machine).Leaves machine.LeaksNothing) ∧
      (∀ line declaration closure arguments,
        (callDeclared (execute bound) line declaration closure arguments machine).Leaves
          machine.LeaksNothing) ∧
      ∀ statement, (execute bound statement machine).Leaves fun after =>
        machine.scopes.KeepsNames after.scopes {machine.scope}) ∧
    ∀ (bound line : Nat) (name : String) (expr : Expr) (value : Value) (machine middle : Machine),
      evaluate bound expr machine = .done value middle →
      (evaluate (bound + 1) (.assign line name expr) machine).Leaves
          (middle.scopes.SameNames ·.scopes) ∧
        ∀ op, (evaluate (bound + 1) (.update line op name expr) machine).Leaves
          (middle.scopes.SameNames ·.scopes) := by
  constructor
  · intro bound machine
    have around := soundAround_keepingNames fun _ => ∅
    have quiet {α : Type} {outcome : Outcome α} {result : Machine → α → Prop}
        (keeps : outcome.Keeps (keepingNames fun _ => ∅) machine result) :
        outcome.Leaves machine.LeaksNothing :=
      keeps.leaves.imp fun _ goes => ⟨goes.2.2, fun _ _ => goes.2.2.made⟩
    refine ⟨fun expr => ?_, fun line body => ?_, fun line declaration closure arguments => ?_,
      fun statement => ?_⟩
    · exact quiet (around.keeps_evaluate sound_keepingNames trivial bound expr)
    · exact quiet (around.keeps_execute sound_keepingNames trivial bound rfl)
    · exact quiet (around.keeps_callDeclared sound_keepingNames trivial bound line 0 trivial
        fun _ _ => trivial)
    · exact (sound_keepingNames.keeps_execute trivial bound statement).leaves.imp
        fun _ goes => goes.2.2
  · intro bound line name expr value machine middle given
    exact ⟨sameNames_evaluate_assign given, sameNames_evaluate_update given⟩

end Machine

end

namespace Machine

open Evaluation

/-- A block that binds the name of a native function in its own scope and fails then. -/
def failingBlock : Statement :=
  .block 1 [.declare 1 "time" none, .expression 1 (.assign 1 "time" (.reference 1 "x"))]

/-- The theorem at a block that binds `time` in its own scope and fails then, and at an assignment
to the native function of this name. -/
theorem keepsNames_of_ended_shadowing :
    (execute 4 failingBlock untouched).Leaves untouched.LeaksNothing ∧
    execute 4 failingBlock untouched = .failed ⟨1, .undefinedVariable "x"⟩
      { untouched with scopes := (untouched.scopes.enclose (some 0)).define 1 "time" .nil } ∧
    evaluate 1 (.literal 1 .nil) untouched = .done .nil untouched ∧
    (evaluate 2 (.assign 1 "time" (.literal 1 .nil)) untouched).Leaves
      (untouched.scopes.SameNames ·.scopes) := by
  have given : evaluate 1 (.literal 1 .nil) untouched = .done .nil untouched := by
    with_unfolding_all rfl
  have fails : execute 4 failingBlock untouched = .failed ⟨1, .undefinedVariable "x"⟩
      { untouched with scopes := (untouched.scopes.enclose (some 0)).define 1 "time" .nil } := by
    with_unfolding_all rfl
  obtain ⟨-, blocks, -, -⟩ := keepsNames_of_ended.1 4 untouched
  obtain ⟨assigns, -⟩ := keepsNames_of_ended.2 1 1 "time" (.literal 1 .nil) .nil untouched
    untouched given
  exact ⟨blocks 1 _, fails, given, assigns⟩

end Machine

end Scriptlet
