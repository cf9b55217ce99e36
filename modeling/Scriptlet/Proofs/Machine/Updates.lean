import Scriptlet.Proofs.Machine.BoundNames
import Scriptlet.Proofs.Machine.Lookups
import Scriptlet.Proofs.Value.Faults

/-!
# Updates are made as a whole or not at all

An update looks its name up behind its operand, and writes back along the same scopes. Nothing comes
in between, so that what was found is still there: an update that fails leaves everything as the
operand left it, and one that does not changes a single binding.
-/

namespace Scriptlet

namespace UpdateOp

variable {op : UpdateOp} {current operand : Value} {left right : Float}

/-- An update of a number by a number gives the number that its operator makes of them. -/
theorem apply_of_numbers (isLeft : current.asNumber? = some left)
    (isRight : operand.asNumber? = some right) :
    op.apply current operand = .ok (.number (op.combine left right)) := by
  cases current with
  | number value =>
      cases operand with
      | number amount =>
          cases isLeft
          cases isRight
          rfl
      | _ => cases isRight
  | _ => cases isLeft

/-- An update of or by what is no number fails. -/
theorem apply_of_mismatch (other : current.asNumber? = none ∨ operand.asNumber? = none) :
    op.apply current operand = .error .operandsNotNumbers := by
  cases current with
  | number value =>
      cases operand with
      | number amount => exact other.elim nofun nofun
      | _ => rfl
  | _ => rfl

end UpdateOp

namespace Scopes

variable {scopes : Scopes} {scope holder : ScopeId} {name : String} {value : Value}

/-- All is the same but for what one name is bound to in one scope, where it was bound before. -/
structure DiffersAt (scopes after : Scopes) (holder : ScopeId) (name : String) : Prop where
  functions : after.functions = scopes.functions
  same : scopes.SameNames after
  places : scopes.KeepsPlaces after
  others : ∀ scope ≠ holder, after.frames[scope]? = scopes.frames[scope]?
  bindings : ∀ other ≠ name, ∀ scope, after.boundIn? other scope = scopes.boundIn? other scope

/-- Binding a name changes what no other one is bound to, in any scope. -/
theorem boundIn?_define_of_ne {other : String} (different : other ≠ name) (scopes : Scopes)
    (holder : ScopeId) (value : Value) (scope : ScopeId) :
    (scopes.define holder name value).boundIn? other scope = scopes.boundIn? other scope := by
  unfold boundIn?
  cases present : scopes.frames[scope]? with
  | none => rw [missing_define present]
  | some frame =>
      obtain ⟨later, still, -, kept⟩ := exists_frame_define present holder name value
      rw [still, Option.bind_some, Option.bind_some, kept other (.inr different)]

/-- Binding a name anew where it was found makes one difference. -/
theorem differsAt_define (found : scopes.nearest? name scope = some (holder, value))
    (changed : Value) : scopes.DiffersAt (scopes.define holder name changed) holder name where
  functions := rfl
  same := sameNames_define found changed
  places := keepsPlaces_define ..
  others _ different := frame_define_of_ne different ..
  bindings _ different scope := boundIn?_define_of_ne different scopes holder changed scope

end Scopes

section

variable [Host]

namespace Machine

open Evaluation

/-- How an update ends on a machine that its operand has left with the value `amount`, where names
are looked up along a chain of scopes. It fails where no scope of the chain binds the name, and
where what the nearest one binds it to, or what the operand gave, is no number; and then it leaves
the machine as it is. Otherwise the number that it gives is what the name is bound to, in the scope
in which it was found, and nothing else is different. -/
structure UpdatesOrKeeps (middle : Machine) (line : Nat) (op : UpdateOp) (name : String)
    (amount : Value) (chain : List ScopeId) (ended : Outcome Value) : Prop where
  unbound : (∃ error after, ended = .failed error after ∧ error.fault = .undefinedVariable name) ↔
    ∀ scope ∈ chain, middle.scopes.boundIn? name scope = none
  mismatched : (∃ error after, ended = .failed error after ∧ error.fault.ofOperands = true) ↔
    ∃ holder current, chain.findSome? (middle.scopes.boundIn? name) = some (holder, current) ∧
      (current.asNumber? = none ∨ amount.asNumber? = none)
  kept : ∀ error after, ended = .failed error after → after = middle ∧
    (error = ⟨line, .undefinedVariable name⟩ ∨ error = ⟨line, .operandsNotNumbers⟩)
  updated : ∀ holder current left right,
    chain.findSome? (middle.scopes.boundIn? name) = some (holder, current) →
    current.asNumber? = some left → amount.asNumber? = some right →
    ∃ after, ended = .done (.number (op.combine left right)) after ∧
      after = { middle with scopes := after.scopes } ∧
      middle.scopes.DiffersAt after.scopes holder name ∧
      ∀ other, lookup other name after = .done (.number (op.combine left right)) after

variable {bound line : Nat} {op : UpdateOp} {name : String} {operand : Expr} {amount : Value}
  {machine middle : Machine} {chain : List ScopeId}

/-- Behind its operand, an update depends on where the name is found and what it is bound to. -/
theorem evaluate_update (given : evaluate bound operand machine = .done amount middle) :
    evaluate (bound + 1) (.update line op name operand) machine =
      match middle.scopes.nearest? name middle.scope with
      | none => .failed ⟨line, .undefinedVariable name⟩ middle
      | some (holder, current) =>
        match op.apply current amount with
        | .error fault => .failed ⟨line, fault⟩ middle
        | .ok result =>
          .done result { middle with scopes := middle.scopes.define holder name result } := by
  rw [evaluate, evaluateNode, Action.bind_apply, given]
  dsimp only
  rw [Action.bind_apply, lookup, Scopes.get]
  cases found : middle.scopes.nearest? name middle.scope with
  | none => rfl
  | some pair =>
      obtain ⟨holder, current⟩ := pair
      dsimp only [Action.ofExcept]
      rw [Action.bind_apply]
      cases applied : op.apply current amount with
      | error fault => rfl
      | ok result =>
          dsimp only [Action.ofExcept]
          rw [Action.bind_apply, assign, found]
          rfl

/-- An update of a name that no scope binds fails, and keeps all as it is. -/
theorem updatesOrKeeps_of_unbound
    (unbound : chain.findSome? (middle.scopes.boundIn? name) = none) :
    middle.UpdatesOrKeeps line op name amount chain
      (.failed ⟨line, .undefinedVariable name⟩ middle) where
  unbound := ⟨fun _ => List.findSome?_eq_none_iff.mp unbound, fun _ => ⟨_, _, rfl, rfl⟩⟩
  mismatched := by
    constructor
    · rintro ⟨_, _, ⟨⟩, ⟨⟩⟩
    · rintro ⟨holder, current, bound, -⟩
      rw [unbound] at bound
      cases bound
  kept := by
    rintro _ _ ⟨⟩
    exact ⟨rfl, .inl rfl⟩
  updated := by
    intro holder current left right bound
    rw [unbound] at bound
    cases bound

/-- An update of or by what is no number fails, and keeps all as it is. -/
theorem updatesOrKeeps_of_mismatch {holder : ScopeId} {current : Value}
    (found : chain.findSome? (middle.scopes.boundIn? name) = some (holder, current))
    (other : current.asNumber? = none ∨ amount.asNumber? = none) :
    middle.UpdatesOrKeeps line op name amount chain
      (.failed ⟨line, .operandsNotNumbers⟩ middle) where
  unbound := by
    rw [← List.findSome?_eq_none_iff, found]
    exact ⟨by rintro ⟨_, _, ⟨⟩, ⟨⟩⟩, nofun⟩
  mismatched := ⟨fun _ => ⟨holder, current, found, other⟩, fun _ => ⟨_, _, rfl, rfl⟩⟩
  kept := by
    rintro _ _ ⟨⟩
    exact ⟨rfl, .inr rfl⟩
  updated := by
    intro _ _ left right bound isLeft isRight
    cases found.symm.trans bound
    rw [isLeft, isRight] at other
    exact other.elim nofun nofun

/-- An update of a number by a number binds the result where the name was found. -/
theorem updatesOrKeeps_of_numbers {holder : ScopeId} {current : Value} {left right : Float}
    (nested : middle.Nested) (leads : middle.scopes.Chain middle.scope chain)
    (found : chain.findSome? (middle.scopes.boundIn? name) = some (holder, current))
    (isLeft : current.asNumber? = some left) (isRight : amount.asNumber? = some right) :
    middle.UpdatesOrKeeps line op name amount chain
      (.done (.number (op.combine left right)) { middle with
        scopes := middle.scopes.define holder name (.number (op.combine left right)) }) where
  unbound := by
    rw [← List.findSome?_eq_none_iff, found]
    exact ⟨nofun, nofun⟩
  mismatched := by
    constructor
    · rintro ⟨_, _, ⟨⟩, _⟩
    · rintro ⟨_, _, bound, other⟩
      cases found.symm.trans bound
      rw [isLeft, isRight] at other
      exact other.elim nofun nofun
  kept := by
    rintro _ _ ⟨⟩
  updated := by
    intro _ _ _ _ bound isFirst isSecond
    cases found.symm.trans bound
    cases isLeft.symm.trans isFirst
    cases isRight.symm.trans isSecond
    have nearest : middle.scopes.nearest? name middle.scope = some (holder, current) :=
      (nested.scopes.nearest?_eq leads name).trans found
    refine ⟨_, rfl, rfl, Scopes.differsAt_define nearest _, fun other => ?_⟩
    -- The scope in which the name was found is where it is found again.
    have acyclic := nested.scopes.acyclic
    exact lookup_of_nearest?
      (acyclic.nearest?_define_of_outwards (acyclic.nearest_of_nearest? nearest).outwards)

/-- **An update ends in one of these ways**, once its operand has given a value. -/
theorem updatesOrKeeps_of_chain (nested : middle.Nested)
    (leads : middle.scopes.Chain middle.scope chain)
    (given : evaluate bound operand machine = .done amount middle) :
    middle.UpdatesOrKeeps line op name amount chain
      (evaluate (bound + 1) (.update line op name operand) machine) := by
  rw [evaluate_update given, nested.scopes.nearest?_eq leads name]
  cases found : chain.findSome? (middle.scopes.boundIn? name) with
  | none => exact updatesOrKeeps_of_unbound found
  | some pair =>
      obtain ⟨holder, current⟩ := pair
      dsimp only
      by_cases other : current.asNumber? = none ∨ amount.asNumber? = none
      · rw [UpdateOp.apply_of_mismatch other]
        exact updatesOrKeeps_of_mismatch found other
      · obtain ⟨left, isLeft⟩ := Option.ne_none_iff_exists'.mp fun no => other (.inl no)
        obtain ⟨right, isRight⟩ := Option.ne_none_iff_exists'.mp fun no => other (.inr no)
        rw [UpdateOp.apply_of_numbers isLeft isRight]
        exact updatesOrKeeps_of_numbers nested leads found isLeft isRight

/-- **An update is made as a whole or not at all.** Where its operand fails, it fails in the same
way. Otherwise it fails on the machine that the operand left, without any change, or changes nothing
but what the name is bound to, in the nearest scope that binds it; and that is what it gives. -/
theorem updatesOrKeeps_of_operand (machine : Machine) (nested : machine.Nested) (bound line : Nat)
    (op : UpdateOp) (name : String) (operand : Expr) :
    (∀ error after, evaluate bound operand machine = .failed error after →
      evaluate (bound + 1) (.update line op name operand) machine = .failed error after) ∧
    ∀ amount middle, evaluate bound operand machine = .done amount middle →
      middle.scope = machine.scope ∧ (∃ chain, middle.scopes.Chain middle.scope chain) ∧
        ∀ chain, middle.scopes.Chain middle.scope chain →
          middle.UpdatesOrKeeps line op name amount chain
            (evaluate (bound + 1) (.update line op name operand) machine) := by
  constructor
  · intro error after failed
    rw [evaluate, evaluateNode, Action.bind_apply, failed]
  · intro amount middle given
    have kept := Policy.sound_nesting.keeps_evaluate nested bound operand
    have resumes := @Policy.Sound.keeps_evaluate _ _ machine Policy.sound_resuming trivial bound
      operand
    rw [given] at kept resumes
    obtain ⟨⟨after, -⟩, -⟩ := kept
    obtain ⟨⟨-, place⟩, -⟩ := resumes
    obtain ⟨chain, leads, -⟩ := after.scopes.exists_chain after.current
    exact ⟨place.scope, ⟨chain, leads⟩, fun chain leads =>
      updatesOrKeeps_of_chain after leads given⟩

end Machine

end

namespace Machine

/-- A function that assigns to `x` and gives a number. -/
def meddling : Declaration :=
  ⟨1, "f", [], [.expression 1 (.assign 1 "x" (.literal 1 (.number 2))),
    .giveBack 1 (some (.literal 1 (.number 1)))]⟩

/-- A machine that binds the function and the variable that it assigns to. -/
def meddled : Machine :=
  { untouched with
    scopes := ((untouched.scopes.newFunction meddling 0).2.define 0 "f"
      (.function (.declared 12 meddling 0))).define 0 "x" (.number 1) }

/-- A call of the function. -/
def meddlingCall : Expr :=
  .call 1 (.reference 1 "f") []

/-- The machine behind the call. -/
def behindMeddling : Machine :=
  { meddled with scopes := (meddled.scopes.enclose (some 0)).define 0 "x" (.number 2) }

/-- The scopes of the machine of the example are nested. -/
theorem nested_meddled : meddled.Nested := by
  have fresh := nested_fresh ⟨false, 9⟩ (.bare []) .unlimited
  have keeps (kept : ScopeId) :
      (Value.function (.declared 12 meddling 0)).Keeps kept → kept < untouched.scopes.next := by
    rintro ⟨_, _, ⟨⟩⟩
    exact fresh.current
  have keepsNone (kept : ScopeId) (keeps : (Value.number 1).Keeps kept) : kept < 1 := by
    obtain ⟨_, _, ⟨⟩⟩ := keeps
  exact ⟨((fresh.scopes.withFunctions 13).define keeps).define keepsNone, by decide⟩

/-- The theorem at an operand that assigns to the name itself: the update begins with what it was
assigned, and fails where the name is bound to a function. -/
theorem updatesOrKeeps_of_operand_meddling :
    meddled.Nested ∧ evaluate 5 meddlingCall meddled = .done (.number 1) behindMeddling ∧
      behindMeddling.scopes.Chain 0 [0] ∧
      (∃ after, evaluate 6 (.update 1 .add "x" meddlingCall) meddled =
          .done (.number (UpdateOp.add.combine 2 1)) after ∧
        behindMeddling.scopes.DiffersAt after.scopes 0 "x") ∧
      ∃ error, evaluate 6 (.update 1 .add "f" meddlingCall) meddled =
        .failed error behindMeddling ∧ error.fault.ofOperands = true := by
  have given : evaluate 5 meddlingCall meddled = .done (.number 1) behindMeddling := by
    with_unfolding_all rfl
  have leads : behindMeddling.scopes.Chain 0 [0] := .outermost rfl rfl
  have told (name : String) :=
    ((updatesOrKeeps_of_operand meddled nested_meddled 5 1 .add name meddlingCall).2
      _ _ given).2.2 [0] leads
  refine ⟨nested_meddled, given, leads, ?_, ?_⟩
  · obtain ⟨after, done, -, differs, -⟩ := (told "x").updated 0 (.number 2) 2 1 rfl rfl rfl
    exact ⟨after, done, differs⟩
  · obtain ⟨error, after, failed, operands⟩ := (told "f").mismatched.mpr ⟨0, _, rfl, .inl rfl⟩
    obtain ⟨rfl, -⟩ := (told "f").kept error after failed
    exact ⟨error, failed, operands⟩

end Machine

end Scriptlet
