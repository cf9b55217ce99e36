import Scriptlet.Proofs.Machine.HollowScope
import Scriptlet.Proofs.Machine.Simulation
import Scriptlet.Surroundings

/-!
# Braces around a statement

A statement that declares nothing where it stands does the same in a block of its own as without
one. The scope of the block is empty then and stays so, also when functions that were declared
inside of it are called long after. The two runs leave machines that differ by that scope alone, and
go on to do the same.
-/

namespace Scriptlet

section

variable [Host]

open Scriptlet.Action Scriptlet.Evaluation Scriptlet.Machine

variable {machine : Machine}

/-- How a statement ends, with other numbers of scopes. -/
def Flow.mapScope (place : ScopeId → ScopeId) : Flow → Flow
  | .normal => .normal
  | .returned value => .returned (value.mapScope place)

/-- Two machines came of two others of which the first alone has an empty scope, and stand in scopes
that the second has too. Errors are the same. -/
def Correspondence.without (hollow : Hollow) : Correspondence where
  machines := hollow.Corresponds hollow.Besides
  errors := Eq

namespace Hollow

variable {hollow : Hollow} {after final : Machine}

/-- The scope that a block makes for itself. -/
def ofBlock (formed : machine.WellFormed) : Hollow where
  scope := machine.scopes.next
  outer := machine.scope
  older := formed.current

/-- The new scope of a block is one that may be left out. -/
theorem leftOut_ofBlock (formed : machine.WellFormed) :
    (ofBlock formed).LeftOut (machine.scopes.enclose machine.scope) machine.scopes where
  next := Scopes.next_enclose ..
  functions := rfl
  empty := by simp only [ofBlock, Scopes.enclose, Scopes.next, Array.getElem?_push_size]
  frames {scope} besides := by
    rcases Nat.lt_or_gt_of_ne besides with isOlder | isNewer
    · rw [Scopes.frame_enclose isOlder, skip_of_lt isOlder]
      cases present : machine.scopes.frames[scope]? with
      | none => exact .none
      | some frame =>
          exact .some (.of_links fun outer links => skip_of_lt (formed.scopes present links))
    · -- There are no such scopes yet.
      obtain ⟨before, rfl⟩ := Nat.exists_eq_succ_of_ne_zero (Nat.ne_zero_of_lt isNewer)
      have atLeast : machine.scopes.next ≤ before := Nat.le_of_lt_succ isNewer
      have made : (machine.scopes.enclose machine.scope).next ≤ before + 1 := by
        rw [Scopes.next_enclose]
        exact Nat.succ_le_succ atLeast
      rw [skip_succ atLeast, Array.getElem?_eq_none made, Array.getElem?_eq_none atLeast]
      exact .none
  inside {scope outer frame} isOlder present stands := by
    rw [Scopes.frame_enclose isOlder] at present
    exact formed.scopes present (.inl stands)

end Hollow

/-- An action that ends with nothing more. -/
theorem Action.ending_id {α : Type} (action : Action α) : action.ending id = action := by
  funext machine
  unfold ending
  cases action machine <;> rfl

/-- A single statement in order is that statement. -/
theorem Evaluation.sequence_singleton (execute : Statement → Action Flow) (statement : Statement) :
    sequence execute [statement] = execute statement := by
  funext machine
  rw [sequence, findFirst_cons]
  simp only [bind_apply]
  rcases execute statement machine with ⟨_ | value, after⟩ | _ | _ <;> rfl

namespace Hollow

variable {hollow : Hollow} {stands : ScopeId → Prop} {after final : Machine}

/-- How statements end in machines that differ by an empty scope. -/
theorem eq_of_matches_flow {flow other : Flow}
    (same : flow.Matches (hollow.comparison stands) () other) :
    other = flow.mapScope hollow.skip := by
  cases same with
  | normal => rfl
  | returned given => exact congrArg Flow.returned given

/-- Wherever the first machine stands, a statement that declares nothing there does the same in the
second. -/
theorem matches_execute (bound : Nat) {statement : Statement} (quiet : statement.declares = false)
    (same : hollow.Corresponds stands after final) :
    (execute bound statement after).Matches (hollow.comparison stands) ()
      (Flow.Matches (hollow.comparison stands)) (execute bound statement final) :=
  ((hollow.soundAround_comparison stands).matches_evaluate_execute hollow.sound_comparison
    bound).2 statement quiet () same

/-- Machines that differ by an empty scope, in which neither stands, go on to do the same. -/
theorem alike_evaluate_execute (bound : Nat)
    (same : hollow.Corresponds hollow.Besides after final) :
    (∀ expr, (evaluate bound expr after).Alike (.without hollow)
        (fun value other => other = value.mapScope hollow.skip) (evaluate bound expr final)) ∧
      ∀ statement, (execute bound statement after).Alike (.without hollow)
        (fun flow other => other = flow.mapScope hollow.skip) (execute bound statement final) := by
  have sound := hollow.sound_comparison.matches_evaluate_execute bound
  constructor
  · intro expr
    exact (sound.1 () expr same).alike (fun _ _ _ same => same) (fun _ => rfl)
      fun _ _ _ given => given
  · intro statement
    exact (sound.2 () statement same).alike (fun _ _ _ same => same) (fun _ => rfl)
      fun _ _ _ given => eq_of_matches_flow given

end Hollow

namespace Machine

/-- A block begins with a machine that differs by the empty scope alone, and stands in it. -/
theorem corresponds_enterBlock (formed : machine.WellFormed) :
    (Hollow.ofBlock formed).Corresponds (· = machine.scopes.next) machine.enterBlock machine where
  settings := rfl
  globals := rfl
  depth := rfl
  world := rfl
  output := rfl
  scopes := Hollow.leftOut_ofBlock formed
  scope := (@Hollow.skip_self (.ofBlock formed)).symm
  stands := rfl

/-- At the end of the block, the machine is back in a scope that the other one has too. -/
theorem corresponds_leaveBlock (formed : machine.WellFormed) {after final : Machine}
    (same : (Hollow.ofBlock formed).Corresponds (· = machine.scopes.next) after final) :
    (Hollow.ofBlock formed).Corresponds (Hollow.ofBlock formed).Besides (machine.leaveBlock after)
      final :=
  { same with
    scope := by
      rw [same.scope, same.stands]
      exact Hollow.skip_self.trans (Hollow.skip_of_lt formed.current).symm
    stands := Nat.ne_of_lt formed.current }

/-- **Braces around a statement that declares nothing** change nothing. The statement ends in the
same way in a block of its own, with the same value or error, and writes the same. It leaves
machines that differ by the scope of the block alone. From any two machines that do, that scope is
empty, names have the same values in corresponding scopes, and whatever is done next leads to two
such machines again. -/
theorem alike_of_braces (bound line : Nat) {statement : Statement}
    (quiet : statement.declares = false) (formed : machine.WellFormed) :
    let hollow := Hollow.ofBlock formed
    (execute (bound + 1) (.block line [statement]) machine).Alike (.without hollow)
        (fun flow other => other = flow.mapScope hollow.skip) (execute bound statement machine) ∧
      ∀ after final, hollow.Corresponds hollow.Besides after final →
        after.scopes.frames[machine.scopes.next]? = some ⟨[], some machine.scope⟩ ∧
        (∀ scope name, final.scopes.get (hollow.skip scope) name =
          (after.scopes.get scope name).map (·.mapScope hollow.skip)) ∧
        ∀ bound, (∀ expr, (evaluate bound expr after).Alike (.without hollow)
            (fun value other => other = value.mapScope hollow.skip) (evaluate bound expr final)) ∧
          ∀ later, (execute bound later after).Alike (.without hollow)
            (fun flow other => other = flow.mapScope hollow.skip) (execute bound later final) := by
  intro hollow
  constructor
  · have within := Hollow.matches_execute bound quiet (corresponds_enterBlock formed)
    have whole : ((execute bound statement).ending machine.leaveBlock machine.enterBlock).Matches
        (hollow.comparison hollow.Besides) () (Flow.Matches (hollow.comparison hollow.Besides))
        ((execute bound statement).ending id machine) :=
      matches_ending within fun _ after final _ same =>
        ⟨(), trivial, corresponds_leaveBlock formed same,
          fun _ _ flows => flows.imp fun _ _ given => given⟩
    rw [ending_id] at whole
    rw [execute, executeNode, block_apply, sequence_singleton]
    exact whole.alike (fun _ _ _ same => same) (fun _ => rfl)
      fun _ _ _ given => Hollow.eq_of_matches_flow given
  · intro after final same
    exact ⟨same.scopes.empty, same.scopes.get,
      fun bound => Hollow.alike_evaluate_execute bound same⟩

end Machine

end

namespace Machine

open Scriptlet.Evaluation

/-- A statement that declares a function in a block of its own and keeps it under the name of
another. -/
def keeping : Statement :=
  .branch 1 (.literal 1 (.bool true))
    (.block 1 [.function 1 "f" [] [.giveBack 1 (some (.reference 1 "f"))],
      .expression 1 (.assign 1 "time" (.reference 1 "f"))]) none

/-- The function that is kept, declared in a scope. -/
def kept (scope : ScopeId) : Value :=
  .function (.declared 12 ⟨1, "f", [], [.giveBack 1 (some (.reference 1 "f"))]⟩ scope)

/-- The function keeps the third scope in one run and the second in the other, and what is done
later is alike. -/
theorem alike_of_braces_keeping : keeping.declares = false ∧
    ∃ formed : (fresh ⟨false, 10⟩ (.bare []) .unlimited).WellFormed, ∃ after final,
      execute 9 (.block 1 [keeping]) (fresh ⟨false, 10⟩ (.bare []) .unlimited) =
        .done .normal after ∧
      execute 8 keeping (fresh ⟨false, 10⟩ (.bare []) .unlimited) = .done .normal final ∧
      after.scopes.get 0 "time" = .ok (kept 2) ∧ final.scopes.get 0 "time" = .ok (kept 1) ∧
      (Hollow.ofBlock formed).Corresponds (Hollow.ofBlock formed).Besides after final ∧
      ∀ bound later, (execute bound later after).Alike (.without (.ofBlock formed))
        (fun flow other => other = flow.mapScope (Hollow.ofBlock formed).skip)
        (execute bound later final) := by
  have formed : (fresh ⟨false, 10⟩ (.bare []) .unlimited).WellFormed := wellFormed_fresh ..
  obtain ⟨ends, goesOn⟩ := alike_of_braces 8 1 (rfl : keeping.declares = false) formed
  obtain ⟨after, braced, here⟩ : ∃ after,
      execute 9 (.block 1 [keeping]) (fresh ⟨false, 10⟩ (.bare []) .unlimited) =
        .done .normal after ∧ after.scopes.get 0 "time" = .ok (kept 2) :=
    ⟨_, by with_unfolding_all rfl, by with_unfolding_all rfl⟩
  obtain ⟨final, plain, there⟩ : ∃ final,
      execute 8 keeping (fresh ⟨false, 10⟩ (.bare []) .unlimited) = .done .normal final ∧
        final.scopes.get 0 "time" = .ok (kept 1) :=
    ⟨_, by with_unfolding_all rfl, by with_unfolding_all rfl⟩
  rw [braced, plain] at ends
  cases ends with
  | done _ same =>
      exact ⟨rfl, formed, after, final, braced, plain, here, there, same,
        fun bound => ((goesOn after final same).2.2 bound).2⟩

end Machine

end Scriptlet
