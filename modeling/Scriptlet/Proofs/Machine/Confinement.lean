import Scriptlet.Machine.Evaluation
import Scriptlet.Proofs.Machine.Reachability

/-!
# Evaluation stays within the scopes that it can reach

The scopes that the current one reached at the beginning, together with all that are made later, are
a set that no link leaves, whatever is evaluated: a name is looked up and bound within it, a new
scope stands inside of one in it, and a function that is called was bound in one of them or declared
in one. So no scope outside of the set is ever written to.
-/

namespace Scriptlet

/-- A value keeps only scopes of a set that exist already, where `next` is the next to be made. -/
def Value.KeepsWithin (within : ScopeId → Prop) (next : ScopeId) (value : Value) : Prop :=
  ∀ ⦃scope⦄, value.Keeps scope → within scope ∧ scope < next

/-- Links lead from the scopes of a set only to scopes of the set that exist. All scopes made since
`old` belong to the set, and all others are as they were. -/
structure Scopes.Confined (within : ScopeId → Prop) (scopes old : Scopes) : Prop where
  fresh : ∀ {scope : ScopeId}, old.next ≤ scope → within scope
  grown : old.next ≤ scopes.next
  closed : ∀ {scope next : ScopeId} {frame : Frame}, within scope →
    scopes.frames[scope]? = some frame → frame.LinksTo next → within next ∧ next < scopes.next
  kept : ∀ {scope : ScopeId}, ¬ within scope → scopes.frames[scope]? = old.frames[scope]?

variable {within : ScopeId → Prop} {old scopes : Scopes} {scope : ScopeId} {name : String}
  {value : Value}

namespace Value

/-- A value keeps scopes that exist, and goes on to do so. -/
theorem KeepsWithin.mono {before after : ScopeId} (keeps : value.KeepsWithin within before)
    (grown : before ≤ after) : value.KeepsWithin within after :=
  fun _ kept => ⟨(keeps kept).1, Nat.lt_of_lt_of_le (keeps kept).2 grown⟩

end Value

namespace Scopes.Confined

/-- The value of a name is bound where links lead from the current scope. -/
theorem keepsWithin_of_get (confined : scopes.Confined within old) (member : within scope)
    (found : scopes.get scope name = .ok value) : value.KeepsWithin within scopes.next := by
  unfold Scopes.get at found
  split at found
  · next holder bound nearest =>
    cases found
    obtain ⟨inside, frame, present, isBound⟩ := nearest?_spec member
      (fun inside present stands => (confined.closed inside present (.inl stands)).1) nearest
    exact fun kept keeps => confined.closed inside present (.inr ⟨name, _, isBound, keeps⟩)
  · cases found

/-- What is found from a scope of the set on is in a scope of the set. -/
theorem member_of_nearest? {holder : ScopeId} (confined : scopes.Confined within old)
    (member : within scope) (found : scopes.nearest? name scope = some (holder, value)) :
    within holder :=
  (nearest?_spec member
    (fun inside present stands => (confined.closed inside present (.inl stands)).1) found).1

/-- A new scope inside of one in the set. -/
theorem enclose (confined : scopes.Confined within old) (member : within scope)
    (older : scope < scopes.next) : (scopes.enclose (some scope)).Confined within old where
  fresh := confined.fresh
  grown := by
    rw [next_enclose]
    exact Nat.le_succ_of_le confined.grown
  closed {id next frame} inside present links := by
    rw [next_enclose]
    by_cases isNew : id < scopes.next
    · rw [frame_enclose isNew] at present
      obtain ⟨reached, exists_⟩ := confined.closed inside present links
      exact ⟨reached, Nat.lt_succ_of_lt exists_⟩
    · have isFrame : frame = ⟨[], some scope⟩ := by
        simp only [Scopes.enclose, Array.getElem?_push] at present
        split at present
        · exact (Option.some.inj present).symm
        · exact absurd (Array.getElem?_eq_some_iff.mp present).1 isNew
      subst isFrame
      rcases links with stands | ⟨_, _, bound, -⟩
      · cases stands
        exact ⟨member, Nat.lt_succ_of_lt older⟩
      · cases bound
  kept {id} outside := by
    have isOld : id < old.next := Nat.lt_of_not_le fun new => outside (confined.fresh new)
    rw [frame_enclose (Nat.lt_of_lt_of_le isOld confined.grown), confined.kept outside]

/-- A binding of a value that keeps only scopes of the set. -/
theorem define (confined : scopes.Confined within old) (member : within scope)
    (keeps : value.KeepsWithin within scopes.next) :
    (scopes.define scope name value).Confined within old where
  fresh := confined.fresh
  grown := by
    rw [next_define]
    exact confined.grown
  closed inside present links := by
    rw [next_define]
    rcases linksTo_of_define present links with ⟨before, was, linked⟩ | ⟨rfl, kept⟩
    · exact confined.closed inside was linked
    · exact keeps kept
  kept {id} outside := by
    have different : id ≠ scope := fun same => outside (same ▸ member)
    rw [frame_define_of_ne different, confined.kept outside]

/-- Parameters are bound in a scope of the set with values that keep scopes of the set. -/
theorem defineAll {bindings : List (String × Value)} (confined : scopes.Confined within old)
    (member : within scope)
    (keeps : ∀ binding ∈ bindings, binding.2.KeepsWithin within scopes.next) :
    (scopes.defineAll scope bindings).Confined within old := by
  induction bindings generalizing scopes with
  | nil => exact confined
  | cons binding rest ih =>
      refine ih (confined.define member (keeps binding List.mem_cons_self)) fun other inside => ?_
      rw [next_define]
      exact keeps other (List.mem_cons_of_mem _ inside)

/-- The number of functions is no part of any scope. -/
theorem withFunctions (confined : scopes.Confined within old) (functions : Nat) :
    Confined within { scopes with functions } old :=
  ⟨confined.fresh, confined.grown, confined.closed, confined.kept⟩

end Scopes.Confined

/-! ## Actions that stay within -/

variable [Host]

/-- The scopes of a machine are confined to a set, to which the current one belongs. -/
structure Machine.Confined (within : ScopeId → Prop) (old : Scopes) (machine : Machine) : Prop where
  scopes : machine.scopes.Confined within old
  member : within machine.scope
  older : machine.scope < machine.scopes.next

/-- However an action ended, the machine is confined and has no fewer scopes than `start`; a value
is as `result` says for the number of scopes. -/
def Outcome.Confined {α : Type} (within : ScopeId → Prop) (old : Scopes) (start : ScopeId)
    (result : ScopeId → α → Prop) : Outcome α → Prop
  | .done value after =>
    after.Confined within old ∧ start ≤ after.scopes.next ∧ result after.scopes.next value
  | .failed _ after => after.Confined within old ∧ start ≤ after.scopes.next
  | .unfinished => True

/-- An action keeps a machine confined that has at least `since` scopes. -/
def Action.Confines {α : Type} (within : ScopeId → Prop) (old : Scopes) (since : ScopeId)
    (action : Action α) (result : ScopeId → α → Prop) : Prop :=
  ∀ ⦃machine : Machine⦄, machine.Confined within old → since ≤ machine.scopes.next →
    (action machine).Confined within old machine.scopes.next result

/-- What is confined with more scopes is so with fewer. -/
theorem Outcome.Confined.sooner {α : Type} {start sooner : ScopeId} {result : ScopeId → α → Prop}
    {outcome : Outcome α} (confined : outcome.Confined within old start result)
    (fewer : sooner ≤ start) : outcome.Confined within old sooner result := by
  cases outcome with
  | done value after => exact ⟨confined.1, Nat.le_trans fewer confined.2.1, confined.2.2⟩
  | failed error after => exact ⟨confined.1, Nat.le_trans fewer confined.2⟩
  | unfinished => trivial

namespace Action

variable {α β σ : Type} {since : ScopeId} {result : ScopeId → α → Prop} {action : Action α}
  {other : ScopeId → β → Prop}

/-- What is confined from some number of scopes on is so from a greater one on. -/
theorem Confines.later (confines : action.Confines within old since result) {later : ScopeId}
    (grown : since ≤ later) : action.Confines within old later result :=
  fun _ confined enough => confines confined (Nat.le_trans grown enough)

/-- What is known of the result may be weakened. -/
theorem Confines.imp {weaker : ScopeId → α → Prop}
    (confines : action.Confines within old since result)
    (weakens : ∀ value next, result next value → weaker next value) :
    action.Confines within old since weaker := by
  intro machine confined enough
  have answer := confines confined enough
  cases ended : action machine with
  | unfinished => trivial
  | failed error after =>
      rw [ended] at answer
      exact answer
  | done value after =>
      rw [ended] at answer
      exact ⟨answer.1, answer.2.1, weakens value _ answer.2.2⟩

/-- A result that needs no step is confined if it is as asked for every number of scopes that may
follow. -/
theorem confines_pure {value : α} (holds : ∀ next, since ≤ next → result next value) :
    (pure value : Action α).Confines within old since result :=
  fun _ confined enough => ⟨confined, Nat.le_refl _, holds _ enough⟩

/-- One action after another one: the second one may count on the scopes made meanwhile and on what
the first result keeps. -/
theorem confines_bind {next : α → Action β} (first : action.Confines within old since result)
    (second : ∀ value later, since ≤ later → result later value →
      (next value).Confines within old later other) :
    (action >>= next).Confines within old since other := by
  intro machine confined enough
  have answer := first confined enough
  rw [bind_apply]
  cases ended : action machine with
  | unfinished => trivial
  | failed error after =>
      rw [ended] at answer
      exact answer
  | done value after =>
      rw [ended] at answer
      obtain ⟨inside, grown, holds⟩ := answer
      have later := Nat.le_trans enough grown
      exact (second value _ later holds inside (Nat.le_refl _)).sooner grown

/-- What is made of a result is confined at this machine. -/
theorem confined_map {f : α → β} {machine : Machine} {start : ScopeId}
    (confined : (action machine).Confined within old start result)
    (holds : ∀ value next, result next value → other next (f value)) :
    ((f <$> action) machine).Confined within old start other := by
  rw [← bind_pure_comp, bind_apply]
  cases ended : action machine with
  | unfinished => trivial
  | failed error after =>
      rw [ended] at confined
      exact confined
  | done value after =>
      rw [ended] at confined
      exact ⟨confined.1, confined.2.1, holds value _ confined.2.2⟩

/-- What is made of a result is confined. -/
theorem confines_map {f : α → β} (confines : action.Confines within old since result)
    (holds : ∀ value next, result next value → other next (f value)) :
    (f <$> action).Confines within old since other :=
  fun _ confined enough => confined_map (confines confined enough) holds

/-- A change at the end that leaves the scopes as they are and the machine confined. -/
theorem confined_ending {finish : Machine → Machine} {machine : Machine} {start : ScopeId}
    (confined : (action machine).Confined within old start result)
    (keeps : ∀ after : Machine, after.Confined within old → start ≤ after.scopes.next →
      (finish after).Confined within old ∧ (finish after).scopes = after.scopes) :
    (action.ending finish machine).Confined within old start result := by
  unfold ending
  cases ended : action machine with
  | unfinished => trivial
  | failed error after =>
      rw [ended] at confined
      obtain ⟨inside, same⟩ := keeps after confined.1 confined.2
      exact ⟨inside, same ▸ confined.2⟩
  | done value after =>
      rw [ended] at confined
      obtain ⟨inside, same⟩ := keeps after confined.1 confined.2.1
      exact ⟨inside, same ▸ confined.2.1, same ▸ confined.2.2⟩

/-- An action whose bound is used up is confined. -/
theorem confines_exhausted : (exhausted : Action α).Confines within old since result :=
  fun _ _ _ => trivial

/-- A failure leaves the machine as it is. -/
theorem confines_fail {line : Nat} {fault : Fault} :
    (fail line fault : Action α).Confines within old since result :=
  fun _ confined _ => ⟨confined, Nat.le_refl _⟩

/-- A fault in a value leaves the machine as it is, and a value without a fault is as asked. -/
theorem confines_ofExcept {line : Nat} {outcome : Except Fault α}
    (holds : ∀ value, outcome = .ok value → ∀ next, since ≤ next → result next value) :
    (ofExcept line outcome).Confines within old since result := by
  intro machine confined enough
  cases outcome with
  | ok value => exact ⟨confined, Nat.le_refl _, holds value rfl _ enough⟩
  | error fault => exact ⟨confined, Nat.le_refl _⟩

/-- Looking at the machine changes nothing. -/
theorem confines_inspect {view : Machine → α} :
    (inspect view).Confines within old since fun _ _ => True :=
  fun _ confined _ => ⟨confined, Nat.le_refl _, trivial⟩

/-- A search is confined if the search in each item is. -/
theorem confines_findFirst {search : σ → Action (Option α)} {result : ScopeId → Option α → Prop}
    {items : List σ} (missing : ∀ next, result next none)
    (confines : ∀ item ∈ items, (search item).Confines within old 0 result) :
    (findFirst search items).Confines within old 0 result := by
  induction items with
  | nil => exact fun _ confined _ => ⟨confined, Nat.le_refl _, missing _⟩
  | cons item rest ih =>
      intro machine confined enough
      have answer := confines item List.mem_cons_self confined enough
      rw [findFirst]
      cases ended : search item machine with
      | unfinished => trivial
      | failed error after =>
          rw [ended] at answer
          exact answer
      | done found after =>
          rw [ended] at answer
          cases found with
          | some value => exact answer
          | none =>
              have later := ih fun item inside => confines item (List.mem_cons_of_mem _ inside)
              exact (later answer.1 (Nat.zero_le _)).sooner answer.2.1

/-- A loop is confined if its body is, whatever its bound. -/
theorem confines_repeatUntil {body : Action (Option α)} {result : ScopeId → Option α → Prop}
    (confines : body.Confines within old 0 result) (bound : Nat) :
    (repeatUntil body bound).Confines within old 0 fun next value => result next (some value) := by
  induction bound with
  | zero => exact fun _ _ _ => trivial
  | succ bound ih =>
      intro machine confined enough
      have answer := confines confined enough
      rw [repeatUntil]
      cases ended : body machine with
      | unfinished => trivial
      | failed error after =>
          rw [ended] at answer
          exact answer
      | done found after =>
          rw [ended] at answer
          cases found with
          | some value => exact answer
          | none => exact (ih answer.1 (Nat.zero_le _)).sooner answer.2.1

/-- The values of an action on some items, each of which goes on to be as `result` says. -/
theorem confines_collect {each : σ → Action α} {items : List σ}
    (lasts : ∀ {value before after}, result before value → before ≤ after → result after value)
    (confines : ∀ item ∈ items, (each item).Confines within old 0 result) :
    (collect each items).Confines within old 0 fun next values =>
      ∀ value ∈ values, result next value := by
  induction items with
  | nil => exact confines_pure fun _ _ _ none => absurd none List.not_mem_nil
  | cons item rest ih =>
      refine confines_bind (confines item List.mem_cons_self) fun value later _ holds => ?_
      have others := ih fun item inside => confines item (List.mem_cons_of_mem _ inside)
      refine confines_bind (others.later (Nat.zero_le later)) fun values last grown all => ?_
      refine confines_pure fun next more other inside => ?_
      rcases List.mem_cons.mp inside with rfl | inside
      · exact lasts holds (Nat.le_trans grown more)
      · exact lasts (all other inside) more

end Action

end Scriptlet
