import Scriptlet.Machine.Run
import Scriptlet.Proofs.Value.Lines

/-!
# Lines of scopes and machines

The scopes of a machine hold functions, and so a machine has lines. What is done with scopes is done
to their values, whatever the lines are.
-/

namespace Scriptlet

variable (change : Nat → Nat)

/-- Bindings with the lines of their values changed. -/
def Bindings.mapLines (bindings : Bindings) : Bindings :=
  bindings.map fun (name, value) => (name, value.mapLines change)

/-- A frame with the lines of its values changed. -/
def Frame.mapLines (frame : Frame) : Frame :=
  { frame with bindings := frame.bindings.mapLines change }

/-- Scopes with the lines of their values changed. -/
def Scopes.mapLines (scopes : Scopes) : Scopes :=
  { scopes with frames := scopes.frames.map (·.mapLines change) }

/-- A machine with the lines of its values changed. -/
def Machine.mapLines [Host] (machine : Machine) : Machine :=
  { machine with scopes := machine.scopes.mapLines change }

/-- A runtime error with its line changed. -/
def RuntimeError.mapLines (error : RuntimeError) : RuntimeError :=
  { error with line := change error.line }

namespace Bindings

theorem find?_mapLines (bindings : Bindings) (name : String) :
    (bindings.mapLines change).find? name = (bindings.find? name).map (·.mapLines change) := by
  induction bindings with
  | nil => rfl
  | cons binding rest ih =>
      obtain ⟨bound, value⟩ := binding
      simp only [mapLines, find?, List.map_cons] at ih ⊢
      rw [List.lookup_cons, List.lookup_cons]
      cases name == bound with
      | true => rfl
      | false => exact ih

theorem set_mapLines (bindings : Bindings) (name : String) (value : Value) :
    (bindings.set name value).mapLines change =
      (bindings.mapLines change).set name (value.mapLines change) := by
  induction bindings with
  | nil => rfl
  | cons binding rest ih =>
      by_cases same : binding.1 = name
      · simp only [mapLines, set, same, ↓reduceIte, List.map_cons]
      · simp only [mapLines, set, same, ↓reduceIte, List.map_cons] at ih ⊢
        rw [ih]

end Bindings

namespace Scopes

variable (scopes : Scopes) (scope : ScopeId) (name : String) (value : Value)

theorem getElem?_frames_mapLines :
    (scopes.mapLines change).frames[scope]? = (scopes.frames[scope]?).map (·.mapLines change) := by
  simp only [mapLines, Array.getElem?_map]

/-- There are as many scopes as before. -/
theorem next_mapLines : (scopes.mapLines change).next = scopes.next := by
  simp only [next, mapLines, Array.size_map]

/-- A new scope has no lines yet. -/
theorem enclose_mapLines (enclosing : Option ScopeId) :
    (scopes.enclose enclosing).mapLines change = (scopes.mapLines change).enclose enclosing := by
  simp only [enclose, mapLines, Array.map_push]
  rfl

/-- Binding a name in a scope and changing lines, in either order, is the same. -/
theorem define_mapLines :
    (scopes.define scope name value).mapLines change =
      (scopes.mapLines change).define scope name (value.mapLines change) := by
  have frames : (scopes.frames.modify scope fun frame =>
        { frame with bindings := frame.bindings.set name value }).map (·.mapLines change) =
      (scopes.frames.map (·.mapLines change)).modify scope fun frame =>
        { frame with bindings := frame.bindings.set name (value.mapLines change) } := by
    apply Array.ext_getElem?
    intro other
    simp only [Array.getElem?_map, Array.getElem?_modify]
    by_cases same : scope = other
    · simp only [same, ↓reduceIte, Option.map_map]
      congr 1
      funext frame
      simp only [Function.comp_apply, Frame.mapLines, Bindings.set_mapLines]
    · simp only [same, ↓reduceIte]
  exact congrArg (Scopes.mk · scopes.functions) frames

theorem defineAll_mapLines (bindings : List (String × Value)) :
    (scopes.defineAll scope bindings).mapLines change =
      (scopes.mapLines change).defineAll scope (Bindings.mapLines change bindings) := by
  induction bindings generalizing scopes with
  | nil => rfl
  | cons binding rest ih =>
      refine (ih (scopes.define scope binding.1 binding.2)).trans ?_
      rw [define_mapLines]
      rfl

/-- Native functions have no lines. -/
theorem register_mapLines :
    (scopes.register scope).mapLines change = (scopes.mapLines change).register scope := by
  unfold register
  induction Native.all generalizing scopes with
  | nil => rfl
  | cons builtin rest ih =>
      rw [List.foldl_cons, List.foldl_cons, ih]
      dsimp only [newNative]
      rw [define_mapLines]
      rfl

/-- A name is found in the same scope, whatever the lines. -/
theorem nearest?_mapLines :
    (scopes.mapLines change).nearest? name scope =
      (scopes.nearest? name scope).map fun (holder, value) => (holder, value.mapLines change) := by
  induction scope using Nat.strongRecOn with
  | ind scope ih =>
      rw [nearest?, nearest?.eq_def scopes, getElem?_frames_mapLines]
      cases scopes.frames[scope]? with
      | none => rfl
      | some frame =>
          simp only [Option.map_some, Frame.mapLines, Bindings.find?_mapLines]
          cases frame.bindings.find? name with
          | some bound => rfl
          | none =>
              simp only [Option.map_none]
              cases frame.enclosing with
              | none => rfl
              | some outer =>
                  by_cases isOlder : outer < scope
                  · simp only [isOlder, ↓reduceIte, ih outer isOlder]
                  · simp only [isOlder, ↓reduceIte, Option.map_none]

end Scopes

/-- Arguments are bound to parameters whatever their lines are. -/
theorem Bindings.zip_mapLines (names : List String) (values : List Value) :
    Bindings.mapLines change (names.zip values) = names.zip (values.map (·.mapLines change)) := by
  rw [List.zip_map_right]
  rfl

end Scriptlet
