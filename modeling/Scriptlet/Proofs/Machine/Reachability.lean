import Scriptlet.Machine.Basic

/-!
# Scopes that can be reached

From a scope lead links to the scope that it stands in and to the scopes in which the functions that
it binds were declared. A name is looked up along links of the first kind, and a call follows one of
the second kind.
-/

namespace Scriptlet

/-- A value keeps a scope: it is a function that was declared there. -/
def Value.Keeps (value : Value) (scope : ScopeId) : Prop :=
  ∃ identity declaration, value = .function (.declared identity declaration scope)

/-- A frame has a link to a scope. -/
def Frame.LinksTo (frame : Frame) (scope : ScopeId) : Prop :=
  frame.enclosing = some scope ∨
    ∃ name value, frame.bindings.find? name = some value ∧ value.Keeps scope

namespace Scopes

variable {scopes : Scopes} {name : String} {value : Value} {scope outer other holder : ScopeId}

/-- Links lead from `start` to a scope. -/
inductive Reaches (scopes : Scopes) (start : ScopeId) : ScopeId → Prop
  | self : Reaches scopes start start
  | step {scope next : ScopeId} {frame : Frame} :
      Reaches scopes start scope → scopes.frames[scope]? = some frame → frame.LinksTo next →
      Reaches scopes start next

/-- All links lead to scopes that exist. -/
def WellFormed (scopes : Scopes) : Prop :=
  ∀ ⦃scope next : ScopeId⦄ ⦃frame : Frame⦄, scopes.frames[scope]? = some frame →
    frame.LinksTo next → next < scopes.next

/-- No link leaves a set of scopes. -/
def Closed (scopes : Scopes) (within : ScopeId → Prop) : Prop :=
  ∀ ⦃scope next : ScopeId⦄ ⦃frame : Frame⦄, within scope → scopes.frames[scope]? = some frame →
    frame.LinksTo next → within next

/-- A name is found where it is bound, and in any set of scopes that holds the first one and with a
scope the one outside of it. -/
theorem nearest?_spec {within : ScopeId → Prop} (member : within scope)
    (closed : ∀ {scope outer : ScopeId} {frame : Frame}, within scope →
      scopes.frames[scope]? = some frame → frame.enclosing = some outer → within outer)
    (found : scopes.nearest? name scope = some (holder, value)) :
    within holder ∧
      ∃ frame, scopes.frames[holder]? = some frame ∧ frame.bindings.find? name = some value := by
  induction scope using Nat.strongRecOn with
  | ind scope ih =>
      unfold nearest? at found
      split at found
      · cases found
      · next frame present =>
        split at found
        · next bound =>
          cases found
          exact ⟨member, frame, present, bound⟩
        · split at found
          · cases found
          · next outer stands =>
            split at found
            · next isOlder => exact ih outer isOlder (closed member present stands) found
            · cases found

/-- What a name is found to be is bound in the frame of the scope where it is found. -/
theorem exists_frame_of_nearest? (found : scopes.nearest? name scope = some (holder, value)) :
    ∃ frame, scopes.frames[holder]? = some frame ∧ frame.bindings.find? name = some value :=
  (@nearest?_spec _ _ _ _ _ (fun _ => True) trivial (fun _ _ _ => trivial) found).2

/-- Scopes with a frame are those that were made. -/
theorem lt_next_of_frame {frame : Frame} (present : scopes.frames[scope]? = some frame) :
    scope < scopes.next :=
  (Array.getElem?_eq_some_iff.mp present).1

/-! ## Scopes behind a change -/

/-- Behind a binding, a scope stands where it stood, and other names mean in it what they meant. -/
theorem exists_frame_define {frame : Frame} (present : scopes.frames[scope]? = some frame)
    (target : ScopeId) (name : String) (value : Value) :
    ∃ later, (scopes.define target name value).frames[scope]? = some later ∧
      later.enclosing = frame.enclosing ∧
      ∀ other, scope ≠ target ∨ other ≠ name →
        later.bindings.find? other = frame.bindings.find? other := by
  by_cases same : scope = target
  · subst same
    refine ⟨_, (frame_define_self ..).trans (congrArg _ present), rfl, fun other different => ?_⟩
    exact Bindings.find?_set_of_ne (different.resolve_left (absurd rfl)) ..
  · exact ⟨frame, (frame_define_of_ne same ..).trans present, rfl, fun _ _ => rfl⟩

/-! ## Steps of a search -/

/-- Nothing is found from a scope that does not exist. -/
theorem nearest?_of_missing (missing : scopes.frames[scope]? = none) :
    scopes.nearest? name scope = none := by
  rw [nearest?, missing]

/-- A name that a scope binds itself is found there. -/
theorem nearest?_of_bound {frame : Frame} (present : scopes.frames[scope]? = some frame)
    (bound : frame.bindings.find? name = some value) :
    scopes.nearest? name scope = some (scope, value) := by
  rw [nearest?, present]
  dsimp only
  rw [bound]

/-- Nothing is found in an outermost scope that does not bind the name. -/
theorem nearest?_of_outmost {frame : Frame} (present : scopes.frames[scope]? = some frame)
    (unbound : frame.bindings.find? name = none) (stands : frame.enclosing = none) :
    scopes.nearest? name scope = none := by
  rw [nearest?, present]
  dsimp only
  rw [unbound]
  dsimp only
  rw [stands]

/-- A search goes on outwards, if the scope there is older. -/
theorem nearest?_of_inside {frame : Frame} (present : scopes.frames[scope]? = some frame)
    (unbound : frame.bindings.find? name = none) (stands : frame.enclosing = some outer)
    (isOlder : outer < scope) : scopes.nearest? name scope = scopes.nearest? name outer := by
  rw [nearest?, present]
  dsimp only
  rw [unbound]
  dsimp only
  rw [stands]
  exact if_pos isOlder

/-! ## Links behind a change -/

/-- A binding makes no links but those of the value that is bound. -/
theorem linksTo_of_define {frame : Frame}
    (present : (scopes.define holder name value).frames[scope]? = some frame)
    (links : frame.LinksTo other) :
    (∃ before, scopes.frames[scope]? = some before ∧ before.LinksTo other) ∨
      (scope = holder ∧ value.Keeps other) := by
  by_cases same : scope = holder
  · subst same
    rw [frame_define_self] at present
    obtain ⟨before, was, rfl⟩ := Option.map_eq_some_iff.mp present
    rcases links with stands | ⟨key, bound, isBound, kept⟩
    · exact .inl ⟨before, was, .inl stands⟩
    · by_cases sameName : key = name
      · subst sameName
        rw [Bindings.find?_set_self] at isBound
        cases isBound
        exact .inr ⟨rfl, kept⟩
      · rw [Bindings.find?_set_of_ne sameName] at isBound
        exact .inl ⟨before, was, .inr ⟨key, bound, isBound, kept⟩⟩
  · rw [frame_define_of_ne same] at present
    exact .inl ⟨frame, present, links⟩

/-- What stands in a scope that there is after a new one was made. -/
theorem frame_enclose_eq {enclosing : Option ScopeId} {frame : Frame}
    (present : (scopes.enclose enclosing).frames[scope]? = some frame) :
    scopes.frames[scope]? = some frame ∨ (scope = scopes.next ∧ frame = ⟨[], enclosing⟩) := by
  simp only [enclose, Array.getElem?_push] at present
  split at present
  · next isNew => exact .inr ⟨isNew, (Option.some.inj present).symm⟩
  · exact .inl present

/-- Binding parameters makes no scope. -/
theorem next_defineAll (scopes : Scopes) (scope : ScopeId) (bindings : List (String × Value)) :
    (scopes.defineAll scope bindings).next = scopes.next := by
  induction bindings generalizing scopes with
  | nil => rfl
  | cons binding rest ih => exact (ih _).trans (next_define ..)

/-- Binding a value that keeps scopes that exist keeps all links inside. -/
theorem WellFormed.define (formed : scopes.WellFormed)
    (keeps : ∀ kept, value.Keeps kept → kept < scopes.next) :
    (scopes.define holder name value).WellFormed := by
  intro scope next frame present links
  rw [next_define]
  rcases linksTo_of_define present links with ⟨before, was, linked⟩ | ⟨-, kept⟩
  · exact formed was linked
  · exact keeps _ kept

section Closed

variable {within : ScopeId → Prop}

/-- A new scope inside of one in the set. -/
theorem Closed.enclose (closed : scopes.Closed within) (member : within other) :
    (scopes.enclose (some other)).Closed within := by
  intro scope next frame inside present links
  rcases frame_enclose_eq present with was | ⟨-, rfl⟩
  · exact closed inside was links
  · rcases links with stands | ⟨_, _, bound, -⟩
    · cases stands
      exact member
    · cases bound

/-- A binding of a value that keeps only scopes of the set. -/
theorem Closed.define (closed : scopes.Closed within)
    (keeps : ∀ kept, value.Keeps kept → within kept) :
    (scopes.define holder name value).Closed within := by
  intro scope next frame inside present links
  rcases linksTo_of_define present links with ⟨before, was, linked⟩ | ⟨-, kept⟩
  · exact closed inside was linked
  · exact keeps _ kept

/-- Binding values that keep scopes of a set in which links stay lets them stay there. -/
theorem Closed.defineAll {bindings : List (String × Value)} (closed : scopes.Closed within)
    (keep : ∀ binding ∈ bindings, ∀ kept, binding.2.Keeps kept → within kept) :
    (scopes.defineAll holder bindings).Closed within := by
  induction bindings generalizing scopes with
  | nil => exact closed
  | cons binding rest ih =>
      exact ih (closed.define (keep binding List.mem_cons_self))
        fun other inside => keep other (List.mem_cons_of_mem _ inside)

/-- No link leaves the scopes that there are, whatever others are counted with them. -/
theorem WellFormed.closed (formed : scopes.WellFormed) {limit : ScopeId}
    (atMost : scopes.next ≤ limit) : scopes.Closed (· < limit) :=
  fun _ _ _ _ present links => Nat.lt_of_lt_of_le (formed present links) atMost

/-- Where links stay among the scopes that were made, these are well-formed. -/
theorem Closed.wellFormed (closed : scopes.Closed (· < scopes.next)) : scopes.WellFormed :=
  fun _ _ _ present links => closed (lt_next_of_frame present) present links

end Closed

/-- A scope that stands in no other. -/
theorem wellFormed_outermost : (empty.enclose none).WellFormed := by
  intro scope next frame present links
  have isEmpty : frame = ⟨[], none⟩ := by
    simp only [enclose, empty, Array.getElem?_push] at present
    split at present
    · exact (Option.some.inj present).symm
    · simp at present
  subst isEmpty
  rcases links with stands | ⟨_, _, bound, -⟩
  · cases stands
  · cases bound

/-- Native functions keep no scope. -/
theorem WellFormed.register (formed : scopes.WellFormed) (holder : ScopeId) :
    (scopes.register holder).WellFormed ∧ (scopes.register holder).next = scopes.next := by
  unfold Scopes.register
  induction Native.all generalizing scopes with
  | nil => exact ⟨formed, rfl⟩
  | cons builtin rest ih =>
      have counted : Scopes.WellFormed { scopes with functions := scopes.functions + 1 } := formed
      have keepsNone : ∀ kept, (Value.function (.native scopes.functions builtin)).Keeps kept →
          kept < scopes.next := by
        rintro kept ⟨_, _, same⟩
        cases same
      obtain ⟨inside, same⟩ := ih (@WellFormed.define _ builtin.name _ holder counted keepsNone)
      exact ⟨inside, same.trans (next_define ..)⟩

end Scopes

namespace Machine

variable [Host]

/-- All links lead to scopes that exist, and so does the number of the current scope. -/
structure WellFormed (machine : Machine) : Prop where
  scopes : machine.scopes.WellFormed
  current : machine.scope < machine.scopes.next

/-- A fresh machine is well-formed. -/
theorem wellFormed_fresh (settings : Settings) (world : World) (output : Output) :
    (fresh settings world output).WellFormed := by
  obtain ⟨formed, same⟩ := Scopes.wellFormed_outermost.register 0
  refine ⟨formed, ?_⟩
  change 0 < ((Scopes.empty.enclose none).register 0).next
  rw [same]
  exact Nat.one_pos

end Machine

end Scriptlet
