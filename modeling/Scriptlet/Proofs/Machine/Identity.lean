import Scriptlet.Proofs.Machine.Reachability
import Scriptlet.Proofs.Machine.Rest
import Scriptlet.Proofs.Value.Equality

/-!
# Functions are made once

Every function is made under a number of its own, which nothing made before has. A registry lists
the functions of a session in the order in which they were made; a run only adds to it, and whatever
functions a machine binds or hands on are those of the registry. So functions that are equal are one
function, with one declaration and one scope, and a declaration that is executed once more makes
another one.
-/

namespace Scriptlet

/-- The functions of a session in the order in which they were made. -/
abbrev Registry : Type := List Function

variable {registry later : Registry}

/-- A value is no function, or the one that the registry lists under its number. -/
def Value.RegisteredIn (registry : Registry) (value : Value) : Prop :=
  ∀ callee, value = .function callee → registry[callee.identity]? = some callee

namespace Value

variable {value first second : Value}

/-- A value that is no function need not be listed. -/
theorem registeredIn_of_isPlain (plain : value.isPlain = true) : value.RegisteredIn registry := by
  rintro callee rfl
  cases plain

/-- What is listed stays listed when functions are added. -/
theorem RegisteredIn.added (registered : value.RegisteredIn registry) (adds : registry <+: later) :
    value.RegisteredIn later := by
  intro callee same
  obtain ⟨inside, listed⟩ := List.getElem?_eq_some_iff.mp (registered callee same)
  rw [List.prefix_iff_getElem?.mp adds _ inside, listed]

/-- A function with the next number is listed where it is added. -/
theorem registeredIn_append (callee : Function) (isNext : callee.identity = registry.length) :
    (function callee).RegisteredIn (registry ++ [callee]) := by
  rintro _ ⟨⟩
  rw [isNext, List.getElem?_concat_length]

/-- Registered functions that are the same are one function. -/
theorem RegisteredIn.eq_of_same {left right : Function}
    (first : (function left).RegisteredIn registry)
    (second : (function right).RegisteredIn registry) (same : left.same right) : left = right := by
  have listed := first left rfl
  rw [(Function.same_iff.mp same).2, second right rfl] at listed
  exact (Option.some.inj listed).symm

/-- What is made next is equal to nothing that is registered. -/
theorem RegisteredIn.same_next (registered : value.RegisteredIn registry) {made : Function}
    (isNext : made.identity = registry.length) : (function made).same value = false := by
  by_contra equal
  rw [Bool.not_eq_false] at equal
  cases value with
  | function callee =>
      have listed := registered callee rfl
      rw [← (Function.same_iff.mp equal).2, isNext, List.getElem?_eq_none (Nat.le_refl _)] at listed
      cases listed
  | _ => cases equal

end Value

/-! ## Scopes under a registry -/

namespace Bindings

variable {bindings : Bindings} {name other : String} {value kept : Value}

/-- What is found under a name is bound to it. -/
theorem mem_of_find? (found : bindings.find? name = some value) : (name, value) ∈ bindings := by
  obtain ⟨before, behind, rfl, -⟩ := List.lookup_eq_some_iff.mp found
  exact List.mem_append_right _ List.mem_cons_self

/-- What is bound after a name has been bound anew is its new value, or was bound before. -/
theorem mem_of_mem_set (member : (other, kept) ∈ bindings.set name value) :
    kept = value ∨ (other, kept) ∈ bindings := by
  induction bindings with
  | nil =>
      cases List.mem_singleton.mp member
      exact .inl rfl
  | cons binding rest ih =>
      obtain ⟨first, old⟩ := binding
      rw [set] at member
      split at member
      · rcases List.mem_cons.mp member with same | behind
        · cases same
          exact .inl rfl
        · exact .inr (.tail _ behind)
      · rcases List.mem_cons.mp member with same | behind
        · exact .inr (same ▸ List.mem_cons_self)
        · exact (ih behind).imp_right (.tail _)

end Bindings

namespace Scopes

variable {scopes : Scopes} {scope : ScopeId} {name : String} {value : Value}

/-- As many functions were made as the registry lists, and those that are bound are listed. -/
structure Registers (scopes : Scopes) (registry : Registry) : Prop where
  count : registry.length = scopes.functions
  bound : ∀ {scope : ScopeId} {frame : Frame} {name : String} {value : Value},
    scopes.frames[scope]? = some frame → (name, value) ∈ frame.bindings →
    value.RegisteredIn registry

namespace Registers

/-- A new scope binds nothing that the registry would have to list. -/
theorem enclose (registers : scopes.Registers registry) (enclosing : Option ScopeId) :
    (scopes.enclose enclosing).Registers registry := by
  refine ⟨registers.count, fun present member => ?_⟩
  rcases frame_enclose_eq present with was | ⟨-, rfl⟩
  · exact registers.bound was member
  · cases member

/-- Binding a listed value keeps all that is bound listed. -/
theorem define (registers : scopes.Registers registry) (registered : value.RegisteredIn registry)
    (target : ScopeId) (name : String) :
    (scopes.define target name value).Registers registry := by
  refine ⟨registers.count, fun {scope _ _ _} present member => ?_⟩
  by_cases same : scope = target
  · subst same
    rw [frame_define_self] at present
    obtain ⟨before, was, rfl⟩ := Option.map_eq_some_iff.mp present
    rcases Bindings.mem_of_mem_set member with rfl | earlier
    · exact registered
    · exact registers.bound was earlier
  · rw [frame_define_of_ne same] at present
    exact registers.bound present member

theorem defineAll (registers : scopes.Registers registry) (target : ScopeId)
    {bindings : List (String × Value)}
    (registered : ∀ binding ∈ bindings, binding.2.RegisteredIn registry) :
    (scopes.defineAll target bindings).Registers registry := by
  induction bindings generalizing scopes with
  | nil => exact registers
  | cons binding rest ih =>
      obtain ⟨here, others⟩ := List.forall_mem_cons.mp registered
      exact ih (registers.define here target binding.1) others

/-- What is made next is registered behind what was made before. -/
theorem make (registers : scopes.Registers registry) {made : Function}
    (isNext : made.identity = scopes.functions) :
    Registers { scopes with functions := scopes.functions + 1 } (registry ++ [made]) ∧
      (Value.function made).RegisteredIn (registry ++ [made]) := by
  have adds : registry <+: registry ++ [made] := List.prefix_append ..
  refine ⟨⟨?_, fun present member => (registers.bound present member).added adds⟩, ?_⟩
  · rw [List.length_append, registers.count]
    rfl
  · exact Value.registeredIn_append made (isNext.trans registers.count.symm)

/-- What is made and bound is registered behind what was made before. -/
theorem makeAndDefine (registers : scopes.Registers registry) {made : Function}
    (isNext : made.identity = scopes.functions) (target : ScopeId) (name : String) :
    (Scopes.define { scopes with functions := scopes.functions + 1 } target name
      (.function made)).Registers (registry ++ [made]) :=
  let ⟨counted, registered⟩ := registers.make isNext
  counted.define registered target name

/-- The native functions are added to the registry one after the other as they are bound. -/
theorem register (registers : scopes.Registers registry) (target : ScopeId) :
    ∃ later, (scopes.register target).Registers later := by
  unfold Scopes.register
  induction Native.all generalizing scopes registry with
  | nil => exact ⟨registry, registers⟩
  | cons builtin rest ih => exact ih (registers.makeAndDefine rfl target builtin.name)

/-- What a name is bound to is listed. -/
theorem of_nearest? (registers : scopes.Registers registry) {holder : ScopeId}
    (found : scopes.nearest? name scope = some (holder, value)) : value.RegisteredIn registry := by
  obtain ⟨frame, present, bound⟩ := exists_frame_of_nearest? found
  exact registers.bound present (Bindings.mem_of_find? bound)

end Registers

/-- Before the native functions are bound, there are no functions. -/
theorem registers_outermost : (empty.enclose none).Registers [] := by
  have nothing : empty.Registers [] := ⟨rfl, fun present => nomatch present⟩
  exact nothing.enclose none

end Scopes

/-! ## Runs under a registry -/

section

variable [Host]

/-- A run compared with itself, while a registry is kept. -/
def Comparison.registering : Comparison Registry where
  leads := (· <+: ·)
  machines registry machine final := machine = final ∧ machine.scopes.Registers registry
  values registry value other := value.RegisteredIn registry ∧ value = other
  leads_refl := List.prefix_refl
  leads_trans := List.IsPrefix.trans
  values_later adds same := ⟨same.1.added adds, same.2⟩
  resembles := by
    rintro registry value _ ⟨-, rfl⟩
    exact .same
  plain _ _ plain := ⟨Value.registeredIn_of_isPlain plain, rfl⟩

namespace Machine

open Comparison Scopes

/-- In the scope of a body, the parameters are bound to the arguments. -/
theorem registers_enterBody {machine : Machine} (registers : machine.scopes.Registers registry)
    (declaration : Declaration) (closure : ScopeId) {arguments : List Value}
    (registered : ∀ argument ∈ arguments, argument.RegisteredIn registry) :
    (machine.enterBody declaration closure arguments).scopes.Registers registry :=
  (registers.enclose closure).defineAll machine.scopes.next fun _ member =>
    registered _ (List.of_mem_zip member).2

/-- What is written adds no function. -/
theorem registering_writeLine (line : Nat) (value : Value) :
    (writeLine line value).Matches registering registry (fun _ _ _ => True)
      (writeLine line value) := by
  rintro machine _ ⟨rfl, registers⟩
  unfold writeLine
  dsimp only
  split
  · exact .done (List.prefix_refl registry) ⟨rfl, registers⟩ trivial
  · exact .failed (List.prefix_refl registry) ⟨rfl, registers⟩

end Machine

/-- **Single steps keep a registry**, and add to it where a declaration is executed. -/
theorem Comparison.sound_registering : registering.Sound where
  limit := by
    rintro registry machine _ ⟨rfl, -⟩
    exact ⟨rfl, rfl⟩
  nearest := by
    rintro registry machine _ name ⟨rfl, registers⟩
    cases found : machine.scopes.nearest? name machine.scope with
    | none => exact .none
    | some pair => exact .some ⟨registers.of_nearest? found, rfl⟩
  define := by
    rintro registry machine _ value _ name ⟨rfl, registers⟩ ⟨registered, rfl⟩
    exact ⟨registry, List.prefix_refl _, rfl, registers.define registered machine.scope name⟩
  assign := by
    rintro registry machine _ value _ holder keeper name old past ⟨rfl, registers⟩ found same
      ⟨registered, rfl⟩
    cases found.symm.trans same
    exact ⟨registry, List.prefix_refl _, rfl, registers.define registered _ _⟩
  function := by
    rintro registry machine _ declaration ⟨rfl, registers⟩
    obtain ⟨counted, registered⟩ := registers.make
      (show (Function.declared machine.scopes.functions declaration machine.scope).identity =
        machine.scopes.functions from rfl)
    exact ⟨_, List.prefix_append .., ⟨rfl, counted⟩, registered, rfl⟩
  write := by
    rintro registry value _ line ⟨-, rfl⟩
    exact Machine.registering_writeLine line value
  echo := by
    rintro registry value _ line ⟨-, rfl⟩
    refine Evaluation.matches_echoLine ?_ fun _ _ => Machine.registering_writeLine line value
    rintro machine _ ⟨rfl, -⟩
    rfl
  world := by
    rintro registry machine _ ⟨rfl, registers⟩
    exact ⟨rfl, fun world => ⟨registry, List.prefix_refl _, rfl, registers⟩⟩
  block := by
    rintro registry machine _ ⟨rfl, registers⟩
    refine ⟨registry, ⟨rfl, registers.enclose _⟩, ?_⟩
    rintro later after _ adds ⟨rfl, still⟩
    exact ⟨later, adds, ⟨rfl, still⟩, fun _ _ same => same⟩
  body := by
    rintro registry machine _ identity declaration closure _ arguments others ⟨rfl, registers⟩
      ⟨-, same⟩ all
    cases same
    obtain ⟨each, equal⟩ := (List.forall₂_and_left arguments others).mp all
    rw [List.forall₂_eq_eq_eq] at equal
    subst equal
    have begun := Machine.registers_enterBody registers declaration closure each
    refine ⟨registry, ⟨rfl, begun⟩, ?_⟩
    rintro later after _ adds ⟨rfl, still⟩
    exact ⟨later, adds, ⟨rfl, still⟩, fun _ _ same => same⟩

/-! ## Sessions -/

/-- What there is at the end of an action: a machine and values. -/
inductive Outcome.Ends (values : α → List Value) (after : Machine) : List Value → Outcome α → Prop
  | done {value : α} : Outcome.Ends values after (values value) (.done value after)
  | failed {error : RuntimeError} : Outcome.Ends values after [] (.failed error after)

/-- The value that is returned, if one is. -/
def Flow.values : Flow → List Value
  | .normal => []
  | .returned value => [value]

namespace Machine

open Evaluation

/-- The moments of a session: machines as they are between any two steps of its runs, with the
values that have turned up until then. Programs are run on the machine; while one runs, expressions
are evaluated and statements are executed, blocks and bodies of functions are entered, and the
machine comes back to other scopes. -/
inductive Moment : Machine → List Value → Prop
  | fresh (settings : Settings) (world : World) (output : Output) :
      Moment (fresh settings world output) []
  | run {machine after : Machine} {held : List Value} {bound : Nat} {source : String} :
      Moment machine held → (runWithin bound source machine).after? = some after →
      Moment after held
  | evaluate {machine after : Machine} {held given : List Value} {bound : Nat} {expr : Expr} :
      Moment machine held →
      (evaluate bound expr machine).Ends (fun value => [value]) after given →
      Moment after (given ++ held)
  | execute {machine after : Machine} {held given : List Value} {bound : Nat}
      {statement : Statement} :
      Moment machine held → (execute bound statement machine).Ends Flow.values after given →
      Moment after (given ++ held)
  | enterBlock {machine : Machine} {held : List Value} :
      Moment machine held → Moment machine.enterBlock held
  | enterBody {machine : Machine} {held : List Value} {declaration : Declaration}
      {closure : ScopeId} {arguments : List Value} :
      Moment machine held → (∀ argument ∈ arguments, argument ∈ held) →
      Moment (machine.enterBody declaration closure arguments) held
  | leave {machine : Machine} {held : List Value} (scope : ScopeId) (depth : Nat) :
      Moment machine held → Moment { machine with scope, depth } held

/-- A value is bound in some scope of the machine, or has turned up otherwise. -/
def Holds (machine : Machine) (held : List Value) (value : Value) : Prop :=
  value ∈ held ∨ ∃ (scope : ScopeId) (frame : Frame) (name : String),
    machine.scopes.frames[scope]? = some frame ∧ (name, value) ∈ frame.bindings

/-- The scopes of a machine bind functions of a registry that only adds to another one. -/
def Adds (registry : Registry) (machine : Machine) : Prop :=
  ∃ later, registry <+: later ∧ machine.scopes.Registers later

end Machine

section Ends

open Comparison

variable {α : Type} {results : Registry → α → α → Prop} {outcome : Outcome α} {after : Machine}
  {given : List Value}

/-- A run that matches itself under a registry leaves a machine with this registry or a longer
one. -/
theorem Outcome.Matches.adds (agree : outcome.Matches registering registry results outcome) :
    outcome.Leaves (Machine.Adds registry) := by
  cases outcome with
  | unfinished => trivial
  | failed error after =>
      obtain ⟨⟩ | ⟨adds, same⟩ := agree
      exact ⟨_, adds, same.2⟩
  | done value after =>
      obtain ⟨adds, same, -⟩ := agree
      exact ⟨_, adds, same.2⟩

/-- What there is at the end of an action is registered. -/
theorem Outcome.Ends.registered {values : α → List Value}
    (ends : outcome.Ends values after given)
    (agree : outcome.Matches registering registry results outcome)
    (holds : ∀ ⦃later value⦄, results later value value →
      ∀ result ∈ values value, result.RegisteredIn later) :
    ∃ later, registry <+: later ∧ after.scopes.Registers later ∧
      ∀ value ∈ given, value.RegisteredIn later := by
  cases ends with
  | failed =>
      obtain ⟨⟩ | ⟨adds, same⟩ := agree
      exact ⟨_, adds, same.2, List.forall_mem_nil _⟩
  | done =>
      obtain ⟨adds, same, result⟩ := agree
      exact ⟨_, adds, same.2, holds result⟩

/-- What a statement returns is listed. -/
theorem Flow.Matches.registered {flow other : Flow}
    (same : flow.Matches registering registry other) :
    ∀ value ∈ flow.values, value.RegisteredIn registry := by
  cases same with
  | normal => exact List.forall_mem_nil _
  | returned result => exact List.forall_mem_singleton.mpr result.1

end Ends

namespace Machine

open Comparison Evaluation

variable {machine after : Machine} {held : List Value} {value : Value}

/-- A machine that programs were run on is a moment of a session. -/
theorem moment_of_runsTo {settings : Settings} {world : World} {output : Output}
    (runs : (fresh settings world output).RunsTo machine) : Moment machine [] := by
  induction runs with
  | refl => exact .fresh settings world output
  | run _ ran ih => exact .run ih ran

/-- At each moment of a session, there is a registry of all functions that were made. -/
theorem Moment.registered (moment : Moment machine held) :
    ∃ registry, machine.scopes.Registers registry ∧
      ∀ value ∈ held, value.RegisteredIn registry := by
  induction moment with
  | fresh settings world output =>
      obtain ⟨registry, registers⟩ := Scopes.registers_outermost.register 0
      exact ⟨registry, registers, List.forall_mem_nil _⟩
  | @run machine after held bound source _ ran ih =>
      obtain ⟨registry, registers, listed⟩ := ih
      have leaves (statements : List Statement) :
          (executeAll bound statements machine).Leaves (Adds registry) :=
        (sound_registering.matches_executeAll bound registry statements ⟨rfl, registers⟩).adds
      obtain ⟨later, adds, still⟩ := leaves_runWithin (fun _ left => left) leaves
        ⟨registry, List.prefix_refl registry, registers⟩ ran
      exact ⟨later, still, fun value member => (listed value member).added adds⟩
  | @evaluate machine after held given bound expr _ ends ih =>
      obtain ⟨registry, registers, listed⟩ := ih
      obtain ⟨later, adds, still, results⟩ := ends.registered
        ((sound_registering.matches_evaluate_execute bound).1 registry expr ⟨rfl, registers⟩)
        fun _ _ result => List.forall_mem_singleton.mpr result.1
      exact ⟨later, still, List.forall_mem_append.mpr
        ⟨results, fun value member => (listed value member).added adds⟩⟩
  | @execute machine after held given bound statement _ ends ih =>
      obtain ⟨registry, registers, listed⟩ := ih
      obtain ⟨later, adds, still, results⟩ := ends.registered
        ((sound_registering.matches_evaluate_execute bound).2 registry statement ⟨rfl, registers⟩)
        fun _ _ result => result.registered
      exact ⟨later, still, List.forall_mem_append.mpr
        ⟨results, fun value member => (listed value member).added adds⟩⟩
  | enterBlock _ ih =>
      obtain ⟨registry, registers, listed⟩ := ih
      exact ⟨registry, registers.enclose _, listed⟩
  | enterBody _ arguments ih =>
      obtain ⟨registry, registers, listed⟩ := ih
      exact ⟨registry, registers_enterBody registers _ _ fun argument member =>
        listed argument (arguments argument member), listed⟩
  | leave scope depth _ ih => exact ih

/-- What is bound or has turned up is listed. -/
theorem Holds.registered (holds : machine.Holds held value)
    (registers : machine.scopes.Registers registry)
    (listed : ∀ value ∈ held, value.RegisteredIn registry) : value.RegisteredIn registry := by
  rcases holds with member | ⟨scope, frame, name, present, bound⟩
  · exact listed value member
  · exact registers.bound present bound

/-- The function that a declaration makes in the current scope. -/
def made (machine : Machine) (declaration : Declaration) : Function :=
  .declared machine.scopes.functions declaration machine.scope

/-- **Equality is an equivalence, and functions are known by it.** Every value is equal to itself, a
number that is none as well; `!=` is the opposite of `==`. At each moment of a session, functions
that are equal are one function, with one declaration and one scope, or one native function.
Whenever a declaration is executed, it binds a function in the current scope that is equal to
nothing that there was before. -/
theorem same_of_session :
    ((∀ value : Value, value.same value) ∧
      (∀ first second : Value, first.same second = second.same first) ∧
      (∀ first second third : Value, first.same second → second.same third → first.same third) ∧
      (∀ left right : Float, (Value.number left).same (.number right) ↔
        left.toBits = right.toBits ∨ (left.isNaN ∧ right.isNaN)) ∧
      ∀ left right, BinaryOp.equal.apply left right = .ok (.bool (left.same right)) ∧
        BinaryOp.notEqual.apply left right = .ok (.bool !(left.same right))) ∧
    ∀ (machine : Machine) (held : List Value), Moment machine held →
      (∀ left right, machine.Holds held (.function left) → machine.Holds held (.function right) →
        (Value.function left).same (.function right) → left = right) ∧
      ∀ bound line name parameters body,
        let value := Value.function (machine.made ⟨line, name, parameters, body⟩)
        execute (bound + 1) (.function line name parameters body) machine = .done .normal
          { machine with
            scopes := (machine.scopes.newFunction ⟨line, name, parameters, body⟩
              machine.scope).2.define machine.scope name value } ∧
        ∀ other, machine.Holds held other → value.same other = false := by
  refine ⟨⟨Value.same_self, Value.same_comm, fun _ _ _ => Value.same_trans,
    Value.same_number_iff, fun _ _ => ⟨rfl, rfl⟩⟩, fun machine held moment => ?_⟩
  obtain ⟨registry, registers, listed⟩ := moment.registered
  refine ⟨fun left right first second same => ?_, fun bound line name parameters body => ?_⟩
  · exact (first.registered registers listed).eq_of_same (second.registered registers listed) same
  · refine ⟨by rw [execute]; rfl, fun other holds => ?_⟩
    exact (holds.registered registers listed).same_next registers.count.symm

end Machine

end

namespace Machine

open Evaluation

/-- Back in the scope of a block that declared a function and is left. -/
def revisited : Machine :=
  { interrupted with scope := 1 }

/-- The declaration of that function. -/
def returning : Declaration :=
  ⟨1, "f", [], [.giveBack 1 (some (.reference 1 "x"))]⟩

/-- The theorem at a session that comes back to a declaration: the function that it would make again
is another one. -/
theorem same_of_session_revisited :
    Moment revisited [] ∧
    revisited.Holds [] (.function (.declared 12 returning 1)) ∧
    revisited.made returning = .declared 13 returning 1 ∧
    (Value.function (revisited.made returning)).same
      (.function (.declared 12 returning 1)) = false ∧
    (∀ other, revisited.Holds [] (.function other) →
      (Value.function (.declared 12 returning 1)).same (.function other) →
      .declared 12 returning 1 = other) := by
  have runs : untouched.RunsTo interrupted := .run .refl after?_runWithin_untouched
  have moment : Moment revisited [] := .leave 1 0 (moment_of_runsTo runs)
  have holds : revisited.Holds [] (.function (.declared 12 returning 1)) :=
    .inr ⟨1, _, "f", rfl, List.mem_singleton.mpr rfl⟩
  obtain ⟨one, another⟩ := same_of_session.2 revisited [] moment
  obtain ⟨-, differs⟩ := another 0 1 "f" [] returning.body
  exact ⟨moment, holds, rfl, differs _ holds, fun other => one _ other holds⟩

end Machine

end Scriptlet
