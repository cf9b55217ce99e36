import Scriptlet.Proofs.Machine.Nesting

/-!
# What a binding does to lookups

Scopes form a tree, and a name means what the first scope outwards says that binds it. So a binding
is seen from the scopes from which no other scope that binds the name stands in between, and an
assignment from those that share the scope in which the name is found. From everywhere else, and for
every other name, lookups give what they gave.
-/

namespace Scriptlet

namespace Scopes

variable {scopes after : Scopes} {scope outer far holder target : ScopeId} {name other : String}
  {value old : Value}

/-- Links do not run in circles: each leads to a scope that is older, since a scope has its link
from when it was made. -/
def Acyclic (scopes : Scopes) : Prop :=
  ∀ ⦃scope outer : ScopeId⦄ ⦃frame : Frame⦄, scopes.frames[scope]? = some frame →
    frame.enclosing = some outer → outer < scope

/-- From one scope outwards one comes to another, past scopes that do not bind the name. -/
inductive Outwards (scopes : Scopes) (name : String) : ScopeId → ScopeId → Prop
  | here {scope : ScopeId} {frame : Frame} : scopes.frames[scope]? = some frame →
      Outwards scopes name scope scope
  | outward {scope outer far : ScopeId} {frame : Frame} : scopes.frames[scope]? = some frame →
      frame.bindings.find? name = none → frame.enclosing = some outer →
      Outwards scopes name outer far → Outwards scopes name scope far

/-- The nearest scope that binds a name, from another one outwards. -/
structure Nearest (scopes : Scopes) (name : String) (scope holder : ScopeId) : Prop where
  outwards : scopes.Outwards name scope holder
  binds : scopes.containsLocal holder name

/-- A name is found in the same scope from two scopes. -/
def SharesHolder (scopes : Scopes) (name : String) (scope other : ScopeId) : Prop :=
  ∃ holder, scopes.Nearest name scope holder ∧ scopes.Nearest name other holder

/-- Lookups that `meets` tells give a value, and all others give what they gave. -/
def Rebinds (scopes after : Scopes) (value : Value) (meets : ScopeId → String → Prop) : Prop :=
  ∀ scope name, (meets scope name → after.get scope name = .ok value) ∧
    (¬ meets scope name → after.get scope name = scopes.get scope name)

/-- Where scopes are nested, links do not run in circles. -/
theorem Nested.acyclic {globals : ScopeId} (nested : scopes.Nested globals) : scopes.Acyclic :=
  fun _ _ _ => nested.older

/-- A scope binds the names that its frame binds. -/
theorem containsLocal_of_frame {frame : Frame} (present : scopes.frames[scope]? = some frame)
    (bound : frame.bindings.find? name = some value) : scopes.containsLocal scope name := by
  rw [containsLocal, present, Option.bind_some, bound]
  rfl

/-! ## Searches -/

/-- What is shown along the search for a name is shown of every scope. -/
theorem Acyclic.search_induction (acyclic : scopes.Acyclic) (name : String)
    {holds : ScopeId → Prop}
    (missing : ∀ scope, scopes.frames[scope]? = none → holds scope)
    (bound : ∀ scope frame value, scopes.frames[scope]? = some frame →
      frame.bindings.find? name = some value → holds scope)
    (outmost : ∀ scope frame, scopes.frames[scope]? = some frame →
      frame.bindings.find? name = none → frame.enclosing = none → holds scope)
    (inside : ∀ scope frame outer, scopes.frames[scope]? = some frame →
      frame.bindings.find? name = none → frame.enclosing = some outer → holds outer → holds scope)
    (scope : ScopeId) : holds scope := by
  induction scope using Nat.strongRecOn with
  | ind scope ih =>
      cases present : scopes.frames[scope]? with
      | none => exact missing scope present
      | some frame =>
          cases binds : frame.bindings.find? name with
          | some value => exact bound scope frame value present binds
          | none =>
              cases stands : frame.enclosing with
              | none => exact outmost scope frame present binds stands
              | some outer =>
                  exact inside scope frame outer present binds stands
                    (ih outer (acyclic present stands))

/-- Where a name is found is the nearest scope that binds it. -/
theorem Acyclic.nearest_of_nearest? (acyclic : scopes.Acyclic)
    (found : scopes.nearest? name scope = some (holder, value)) :
    scopes.Nearest name scope holder := by
  induction scope using acyclic.search_induction name with
  | missing scope missing =>
      rw [nearest?_of_missing missing] at found
      cases found
  | outmost scope frame present unbound stands =>
      rw [nearest?_of_outmost present unbound stands] at found
      cases found
  | bound scope frame kept present bound =>
      rw [nearest?_of_bound present bound] at found
      cases found
      exact ⟨.here present, containsLocal_of_frame present bound⟩
  | inside scope frame outer present unbound stands ih =>
      rw [nearest?_of_inside present unbound stands (acyclic present stands)] at found
      obtain ⟨outwards, binds⟩ := ih found
      exact ⟨.outward present unbound stands outwards, binds⟩

/-- Past scopes that do not bind a name, it is found where it would be from further out. -/
theorem Acyclic.nearest?_of_outwards (acyclic : scopes.Acyclic)
    (outwards : scopes.Outwards name scope far) :
    scopes.nearest? name scope = scopes.nearest? name far := by
  induction outwards with
  | here => rfl
  | outward present unbound stands _ ih =>
      exact (nearest?_of_inside present unbound stands (acyclic present stands)).trans ih

/-- A search ends in the nearest scope that binds the name. -/
theorem Acyclic.exists_nearest?_iff (acyclic : scopes.Acyclic) :
    (∃ value, scopes.nearest? name scope = some (holder, value)) ↔
      scopes.Nearest name scope holder := by
  constructor
  · rintro ⟨value, found⟩
    exact acyclic.nearest_of_nearest? found
  · rintro ⟨outwards, binds⟩
    obtain ⟨frame, present, bound⟩ := Option.bind_eq_some_iff.mp (Option.some_get binds).symm
    exact ⟨_, (acyclic.nearest?_of_outwards outwards).trans (nearest?_of_bound present bound)⟩

/-! ## Searches behind a binding -/

/-- No binding makes a scope. -/
theorem missing_define (missing : scopes.frames[scope]? = none) :
    (scopes.define target name value).frames[scope]? = none := by
  by_cases same : scope = target
  · subst same
    rw [frame_define_self, missing, Option.map_none]
  · rwa [frame_define_of_ne same]

/-- A binding of another name, or in a scope that the search does not come to, is not found. -/
theorem Acyclic.nearest?_define_of_not (acyclic : scopes.Acyclic)
    (unseen : ¬ (other = name ∧ scopes.Outwards name scope target)) :
    (scopes.define target name value).nearest? other scope = scopes.nearest? other scope := by
  -- Wherever the search comes to, either the name is another one or the scope is.
  have elsewhere {scope : ScopeId} {frame : Frame} (present : scopes.frames[scope]? = some frame)
      (unseen : ¬ (other = name ∧ scopes.Outwards name scope target)) :
      scope ≠ target ∨ other ≠ name := by
    by_cases same : other = name
    · exact .inl fun isTarget => unseen ⟨same, isTarget ▸ .here present⟩
    · exact .inr same
  induction scope using acyclic.search_induction other with
  | missing scope missing =>
      rw [nearest?_of_missing missing, nearest?_of_missing (missing_define missing)]
  | bound scope frame kept present bound =>
      obtain ⟨later, still, -, same⟩ := exists_frame_define present target name value
      have boundStill := (same other (elsewhere present unseen)).trans bound
      rw [nearest?_of_bound present bound, nearest?_of_bound still boundStill]
  | outmost scope frame present unbound stands =>
      obtain ⟨later, still, place, same⟩ := exists_frame_define present target name value
      have unboundStill := (same other (elsewhere present unseen)).trans unbound
      rw [nearest?_of_outmost present unbound stands,
        nearest?_of_outmost still unboundStill (place.trans stands)]
  | inside scope frame outer present unbound stands ih =>
      obtain ⟨later, still, place, same⟩ := exists_frame_define present target name value
      have unboundStill := (same other (elsewhere present unseen)).trans unbound
      have isOlder := acyclic present stands
      rw [nearest?_of_inside present unbound stands isOlder,
        nearest?_of_inside still unboundStill (place.trans stands) isOlder]
      refine ih fun ⟨sameName, outwards⟩ => unseen ⟨sameName, ?_⟩
      exact .outward present (sameName ▸ unbound) stands outwards

/-- A binding is found from wherever the search comes to its scope. -/
theorem Acyclic.nearest?_define_of_outwards (acyclic : scopes.Acyclic)
    (outwards : scopes.Outwards name scope target) :
    (scopes.define target name value).nearest? name scope = some (target, value) := by
  have found {target : ScopeId} {frame : Frame} (present : scopes.frames[target]? = some frame) :
      (scopes.define target name value).nearest? name target = some (target, value) :=
    nearest?_of_bound ((frame_define_self ..).trans (congrArg _ present))
      (Bindings.find?_set_self ..)
  induction outwards with
  | here present => exact found present
  | @outward scope outer target frame present unbound stands _ ih =>
      by_cases same : scope = target
      · subst same
        exact found present
      · obtain ⟨later, still, place, kept⟩ := exists_frame_define present target name value
        have unboundStill := (kept name (.inl same)).trans unbound
        rw [nearest?_of_inside still unboundStill (place.trans stands) (acyclic present stands), ih]

/-- What is found is what a lookup gives. -/
theorem get_eq_of_nearest? (found : scopes.nearest? name scope = some (holder, value)) :
    scopes.get scope name = .ok value := by
  rw [get, found]

/-- A binding in a scope is what is found from where the search comes to it. -/
theorem Acyclic.rebinds_define (acyclic : scopes.Acyclic) (target : ScopeId) (name : String)
    (value : Value) :
    scopes.Rebinds (scopes.define target name value) value
      fun scope other => other = name ∧ scopes.Outwards name scope target := by
  intro scope other
  constructor
  · rintro ⟨rfl, outwards⟩
    exact get_eq_of_nearest? (acyclic.nearest?_define_of_outwards outwards)
  · intro unseen
    rw [get, acyclic.nearest?_define_of_not unseen, get]

/-- A binding in place of another one is what is found from where that one was found. -/
theorem Acyclic.rebinds_assign (acyclic : scopes.Acyclic)
    (found : scopes.nearest? name scope = some (holder, old)) (value : Value) :
    scopes.Rebinds (scopes.define holder name value) value
      fun other key => key = name ∧ scopes.SharesHolder name scope other := by
  have nearest := acyclic.nearest_of_nearest? found
  intro other key
  obtain ⟨seen, unseen⟩ := acyclic.rebinds_define holder name value other key
  constructor
  · rintro ⟨sameName, keeper, here, there⟩
    obtain ⟨kept, again⟩ := acyclic.exists_nearest?_iff.mpr here
    cases found.symm.trans again
    exact seen ⟨sameName, there.outwards⟩
  · intro apart
    exact unseen fun ⟨sameName, outwards⟩ =>
      apart ⟨sameName, holder, nearest, outwards, nearest.binds⟩

end Scopes

section

variable [Host]

namespace Machine

open Scopes

/-- Where a name is found, its lookup gives the value and changes nothing. -/
theorem lookup_of_nearest? {machine : Machine} {line : Nat} {name : String} {holder : ScopeId}
    {value : Value}
    (found : machine.scopes.nearest? name machine.scope = some (holder, value)) :
    lookup line name machine = .done value machine := by
  rw [lookup, get_eq_of_nearest? found]
  rfl

/-- **What bindings do to lookups.** On a machine whose scopes stand in older ones, an assignment in
the current scope succeeds exactly where a lookup does. Where they fail, they do with the same error
and leave the machine as it was. Behind an assignment that succeeds, the name has the new value from
every scope from which it was found in the same place, and behind a declaration from every scope
from which no other one in between binds it. All other lookups give what they gave. -/
theorem rebinds_of_bindings (machine : Machine) (acyclic : machine.scopes.Acyclic) (line : Nat)
    (name : String) (value : Value) :
    ((∃ after, assign line name value machine = .done () after) ↔
      ∃ found, lookup line name machine = .done found machine) ∧
    ((∀ found, lookup line name machine ≠ .done found machine) →
      lookup line name machine = .failed ⟨line, .undefinedVariable name⟩ machine ∧
        assign line name value machine = .failed ⟨line, .undefinedVariable name⟩ machine) ∧
    (∀ after, assign line name value machine = .done () after →
      machine.scopes.Rebinds after.scopes value fun scope other =>
        other = name ∧ machine.scopes.SharesHolder name machine.scope scope) ∧
    ∀ after, define name value machine = .done () after →
      machine.scopes.Rebinds after.scopes value fun scope other =>
        other = name ∧ machine.scopes.Outwards name scope machine.scope := by
  have declares (after : Machine) (done : define name value machine = .done () after) :
      machine.scopes.Rebinds after.scopes value fun scope other =>
        other = name ∧ machine.scopes.Outwards name scope machine.scope := by
    cases done
    exact acyclic.rebinds_define machine.scope name value
  cases found : machine.scopes.nearest? name machine.scope with
  | none =>
      have reads : lookup line name machine =
          .failed ⟨line, .undefinedVariable name⟩ machine := by
        rw [lookup, Scopes.get, found]
        rfl
      have assigns : assign line name value machine =
          .failed ⟨line, .undefinedVariable name⟩ machine := by
        rw [assign, found]
      rw [reads, assigns]
      refine ⟨⟨?_, ?_⟩, fun _ => ⟨rfl, rfl⟩, fun _ => nofun, declares⟩
      · rintro ⟨_, ⟨⟩⟩
      · rintro ⟨_, ⟨⟩⟩
  | some pair =>
      have reads : lookup line name machine = .done pair.2 machine := lookup_of_nearest? found
      have assigns : assign line name value machine =
          .done () { machine with scopes := machine.scopes.define pair.1 name value } := by
        rw [assign, found]
      rw [reads, assigns]
      refine ⟨⟨fun _ => ⟨_, rfl⟩, fun _ => ⟨_, rfl⟩⟩, fun missing => absurd rfl (missing _), ?_,
        declares⟩
      rintro _ ⟨⟩
      exact acyclic.rebinds_assign found value

/-- Scopes stand in older ones however many programs were run. -/
theorem acyclic_of_runsTo {settings : Settings} {world : World} {output : Output}
    {machine : Machine} (runs : (fresh settings world output).RunsTo machine) :
    machine.scopes.Acyclic :=
  (Policy.sound_nesting.keeps_runsTo (nested_fresh settings world output)
    (atRest_fresh settings world output) runs).1.scopes.acyclic

end Machine

end

namespace Machine

open Scopes

/-- In the scope inside of the one that binds a function. -/
def inward : Machine :=
  { interrupted with scope := 2 }

/-- The theorem inside of a scope that binds a function: an assignment reaches it there, and a
declaration hides it. -/
theorem rebinds_of_bindings_inward :
    inward.scopes.Acyclic ∧
    (∃ after, assign 1 "f" .nil inward = .done () after ∧ after.scopes.get 1 "f" = .ok .nil ∧
      after.scopes.get 0 "f" = inward.scopes.get 0 "f") ∧
    ∃ after, define "f" .nil inward = .done () after ∧ after.scopes.get 2 "f" = .ok .nil ∧
      after.scopes.get 1 "f" = inward.scopes.get 1 "f" := by
  have runs : untouched.RunsTo interrupted := .run .refl after?_runWithin_untouched
  have resting : interrupted.scopes.Acyclic := acyclic_of_runsTo runs
  have acyclic : inward.scopes.Acyclic := resting
  obtain ⟨succeeds, -, assigned, declared⟩ := rebinds_of_bindings inward acyclic 1 "f" .nil
  have binds : inward.scopes.containsLocal 1 "f" := rfl
  have fromInside : inward.scopes.Nearest "f" 2 1 := ⟨.outward rfl rfl rfl (.here rfl), binds⟩
  have fromThere : inward.scopes.Nearest "f" 1 1 := ⟨.here rfl, binds⟩
  have outside : inward.scopes.nearest? "f" 0 = none := nearest?_of_outmost rfl rfl rfl
  have notShared : ¬ inward.scopes.SharesHolder "f" 2 0 := by
    rintro ⟨holder, -, nearest⟩
    obtain ⟨value, found⟩ := acyclic.exists_nearest?_iff.mpr nearest
    rw [outside] at found
    cases found
  have notSeen : ¬ inward.scopes.Outwards "f" 1 2 := by
    intro outwards
    cases outwards with
    | outward present unbound =>
        cases present
        cases unbound
  refine ⟨acyclic, ?_, _, rfl, ?_, ?_⟩
  · obtain ⟨value, found⟩ := acyclic.exists_nearest?_iff.mpr fromInside
    obtain ⟨after, done⟩ := succeeds.mpr ⟨value, lookup_of_nearest? found⟩
    exact ⟨after, done, (assigned after done 1 "f").1 ⟨rfl, 1, fromInside, fromThere⟩,
      (assigned after done 0 "f").2 fun shared => notShared shared.2⟩
  · exact (declared _ rfl 2 "f").1 ⟨rfl, .here rfl⟩
  · exact (declared _ rfl 1 "f").2 fun seen => notSeen seen.2

end Machine

end Scriptlet
